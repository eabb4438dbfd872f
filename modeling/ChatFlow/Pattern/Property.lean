import ChatFlow.Pattern.Property.BinaryTable
import ChatFlow.Pattern.Property.CategoryTable
import ChatFlow.Pattern.Property.CaseTable
import ChatFlow.Pattern.Property.Names
import ChatFlow.Pattern.Property.ScriptTable
import ChatFlow.Text.Blank
import ChatFlow.Text.Digits

/-!
# Properties of characters

Sets of characters given by Unicode properties, looked up by name.  Names are compared without
regard to case, blanks, underscores and hyphens, and an `is` in front does not count.
-/

set_option autoImplicit false

namespace ChatFlow.Pattern

/-- The characters from `first` to `last`, every `step`-th. -/
structure CharRange where
  first : Nat
  last : Nat
  step : Nat

/-- Whether a character lies in a range. -/
def CharRange.contains (range : CharRange) (n : Nat) : Bool :=
  range.first ≤ n && n ≤ range.last && (n - range.first) % range.step == 0

abbrev CharSet := List CharRange

/-- Whether a character belongs to a set. -/
def CharSet.contains (set : CharSet) (n : Nat) : Bool := set.any (·.contains n)

def hexNumber (digits : List Char) : Nat :=
  Text.ofDigits 16 (digits.filterMap Text.hexDigit?)

/-- Splits a list at a character, without keeping the character. -/
def splitAtChar (mark : Char) (text : List Char) : List Char × Option (List Char) :=
  match text.dropWhile (· ≠ mark) with
  | [] => (text, none)
  | _ :: rest => (text.takeWhile (· ≠ mark), some rest)

def readRange (token : String) : CharRange :=
  let text := token.toList
  match splitAtChar '-' text with
  | (first, some last) => ⟨hexNumber first, hexNumber last, 1⟩
  | (_, none) =>
    match splitAtChar '+' text with
    | (first, some last) => ⟨hexNumber first, hexNumber last, 2⟩
    | (only, none) => ⟨hexNumber only, hexNumber only, 1⟩

/-- The set that some lines of a table list. -/
def readSet (lines : List String) : CharSet :=
  lines.flatMap fun line => (line.splitOn " ").map readRange

/-- Whether a name starts with `is` in any case. -/
def startsWithIs : List Char → Bool
  | first :: second :: _ => first.toLower = 'i' && second.toLower = 's'
  | _ => false

/-- A name as it is compared.  `isc` is the short name of a property of its own and keeps its
start. -/
def comparedName (name : String) : String :=
  let characters := name.toList
  let skipsIs := startsWithIs characters
  let kept := (if skipsIs then characters.drop 2 else characters).filter
    (fun c => c.toNat < 128 && c ≠ ' ' && c ≠ '_' && c ≠ '-')
  let lowered := kept.map Char.toLower
  String.ofList (if skipsIs && lowered == ['c'] then ['i', 's', 'c'] else lowered)

def categorySet (short : String) : CharSet :=
  match categoryTable.find? (fun line => line.1 == short) with
  | some line => readSet line.2
  | none => []

/-- Every character that a general category of the table covers. -/
def assignedSet : CharSet := categoryTable.flatMap (fun line => readSet line.2)

/-- A set, or what is left without it. -/
structure PropertySet where
  set : CharSet
  complement : Bool

/-- The characters of a general category, or of a group of them. -/
def generalCategory? (name : String) : Option PropertySet :=
  match name with
  | "any" => some ⟨[], true⟩
  | "ascii" => some ⟨[⟨0, 127, 1⟩], false⟩
  | "assigned" => some ⟨assignedSet, false⟩
  | "cn" | "unassigned" => some ⟨assignedSet, true⟩
  | "c" | "other" =>
    some ⟨(categoryTable.filter (fun line => !line.1.startsWith "C")).flatMap
      (fun line => readSet line.2), true⟩
  | name =>
    (categoryNames.find? (fun entry => entry.1.contains name)).map fun entry =>
      ⟨entry.2.flatMap categorySet, false⟩

/-- The full spelling of a name that may be a short one. -/
def fullName (names : List (String × String)) (name : String) : String :=
  match names.find? (fun entry => entry.1 == name) with
  | some entry => entry.2
  | none => name

def script? (name : String) : Option PropertySet :=
  let full := fullName scriptNames name
  (scriptTable.find? (fun line => line.1 == full)).map fun line => ⟨readSet line.2, false⟩

def blankSet : CharSet :=
  [⟨9, 13, 1⟩, ⟨0x20, 0x20, 1⟩, ⟨0x85, 0x85, 1⟩, ⟨0xA0, 0xA0, 1⟩, ⟨0x1680, 0x1680, 1⟩,
    ⟨0x2000, 0x200A, 1⟩, ⟨0x2028, 0x2029, 1⟩, ⟨0x202F, 0x202F, 1⟩, ⟨0x205F, 0x205F, 1⟩,
    ⟨0x3000, 0x3000, 1⟩]

def binary? (name : String) : Option PropertySet :=
  match name with
  | "whitespace" | "wspace" | "space" => some ⟨blankSet, false⟩
  | name =>
    let full := fullName binaryNames name
    (binaryTable.find? (fun line => line.1 == full)).map fun line => ⟨readSet line.2, false⟩

/-- The set that a name alone stands for: a binary property, a general category or a script, in
this order.  `cf`, `sc` and `lc` are general categories. -/
def namedSet? (name : String) : Option PropertySet :=
  let name := comparedName name
  let general := generalCategory? name <|> script? name
  if name = "cf" ∨ name = "sc" ∨ name = "lc" then general else binary? name <|> general

/-- The set that a property and one of its values stand for. -/
def valuedSet? (property value : String) : Option PropertySet :=
  match comparedName property with
  | "gc" | "generalcategory" => generalCategory? (comparedName value)
  | "sc" | "script" => script? (comparedName value)
  | _ => none

def digitSet : CharSet := categorySet "Nd"

/-- Letters of all scripts, and what counts as letters. -/
def alphabeticSet : CharSet := (binary? "alphabetic").elim [] PropertySet.set

/-- Characters of words: letters, marks, digits, connectors and joiners. -/
def wordSet : CharSet :=
  alphabeticSet ++
    ["Mn", "Mc", "Me", "Nd", "Pc"].flatMap categorySet ++
    (binary? "joincontrol").elim [] PropertySet.set

/-- A rule of the case table: a class, or pairs of two runs. -/
inductive CaseRule
  | together (members : List Nat)
  | pairs (run : CharRange) (other : Nat)

def readCaseRule (token : String) : CaseRule :=
  match token.splitOn "." with
  | [run, other] =>
    let range := readRange run
    if range.first = range.last then .together [range.first, hexNumber other.toList]
    else .pairs range (hexNumber other.toList)
  | members => .together (members.map fun m => hexNumber m.toList)

def caseRules : List CaseRule :=
  caseTable.flatMap fun line => (line.splitOn " ").map readCaseRule

/-- The characters that one rule puts together with a character. -/
def CaseRule.partners? (rule : CaseRule) (n : Nat) : Option (List Nat) :=
  match rule with
  | .together members => if members.contains n then some members else none
  | .pairs run other =>
    if run.contains n then some [n, n + other - run.first]
    else if other ≤ n && run.contains (n + run.first - other) then
      some [n + run.first - other, n]
    else none

/-- All characters that differ from a character in case only, itself included. -/
def caseVariants (n : Nat) : List Nat :=
  match caseRules.findSome? (·.partners? n) with
  | some members => members
  | none => [n]

end ChatFlow.Pattern

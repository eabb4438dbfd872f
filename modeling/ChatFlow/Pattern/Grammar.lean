import ChatFlow.Pattern.Syntax
import ChatFlow.Text.Alphanumeric
import ChatFlow.Text.Blank
import ChatFlow.Text.Digits

/-!
# The grammar of patterns

`Syntax.parse` reads a text into the parts of a pattern, or refuses it.  While the option
`spaced` is on, blanks and comments between the tokens are passed over.

The functions return what they read and the text after it.  Those that call themselves for groups
and brackets take fuel: each call consumes a character, so the length of the text suffices.
-/

set_option autoImplicit false

namespace ChatFlow.Pattern

/-- The text after leading blanks and comments, if they are passed over. -/
def skip (spaced : Bool) (text : List Char) : List Char :=
  if spaced then go text.length text else text
where
  /-- A comment ends with the line. -/
  go : Nat → List Char → List Char
    | 0, text => text
    | _, [] => []
    | fuel + 1, c :: rest =>
      if Text.isBlank c then go fuel rest
      else if c = '#' then go fuel ((rest.dropWhile (· ≠ '\n')).drop 1)
      else c :: rest

/-- The character that decides whether a hyphen makes a range; blanks and the mark of a comment
are looked through. -/
def peek? (spaced : Bool) (text : List Char) : Option Char :=
  if spaced then
    match text.dropWhile Text.isBlank with
    | '#' :: rest => (rest.dropWhile Text.isBlank).head?
    | rest => rest.head?
  else text.head?

/-- The character with a number, unless it is a surrogate or too large. -/
def charOf? (n : Nat) : Option Char := if n.isValidChar then some (Char.ofNat n) else none

def hexDigits? (spaced : Bool) : (count value : Nat) → List Char → Option (Nat × List Char)
  | 0, value, text => some (value, text)
  | _ + 1, _, [] => none
  | count + 1, value, c :: rest =>
    match Text.hexDigit? c with
    | some digit => hexDigits? spaced count (value * 16 + digit) (skip spaced rest)
    | none => none

/-- Hexadecimal digits up to a closing brace; there has to be one. -/
def bracedHex? (spaced : Bool) : (fuel : Nat) → (value : Option Nat) → List Char →
    Option (Nat × List Char)
  | 0, _, _ => none
  | _, _, [] => none
  | fuel + 1, value, c :: rest =>
    if c = '\x7d' then value.map fun n => (n, skip spaced rest)
    else
      match Text.hexDigit? c with
      | some digit => bracedHex? spaced fuel (some (value.getD 0 * 16 + digit)) (skip spaced rest)
      | none => none

/-- A character by its number, after `\x`, `\u` or `\U`. -/
def hexLiteral? (spaced : Bool) (count : Nat) (text : List Char) :
    Option (Literal × List Char) :=
  match skip spaced text with
  | '\x7b' :: rest => do
    let (n, rest) ← bracedHex? spaced (rest.length + 1) none (skip spaced rest)
    return (⟨← charOf? n, false⟩, rest)
  | rest => do
    let (n, rest) ← hexDigits? spaced count 0 rest
    return (⟨← charOf? n, count == 2⟩, rest)

/-- A name up to a closing brace. -/
def bracedName? (spaced : Bool) : (fuel : Nat) → (name : List Char) → List Char →
    Option (List Char × List Char)
  | 0, _, _ => none
  | _, _, [] => none
  | fuel + 1, name, c :: rest =>
    if c = '\x7d' then some (name.reverse, rest)
    else bracedName? spaced fuel (c :: name) (skip spaced rest)

/-- Splits a text around the first place of a mark. -/
def splitAround? (mark : List Char) : (before : List Char) → List Char →
    Option (List Char × List Char)
  | _, [] => none
  | before, c :: rest =>
    if mark.isPrefixOf (c :: rest) then some (before.reverse, (c :: rest).drop mark.length)
    else splitAround? mark (c :: before) rest

/-- A property by its name in braces, where `!=`, `:` or `=` stands before a value. -/
def propertyName (name : List Char) : PropertyName :=
  match splitAround? ['!', '='] [] name <|> splitAround? [':'] [] name <|>
    splitAround? ['='] [] name with
  | some (property, value) => .valued (String.ofList property) (String.ofList value)
  | none => .alone (String.ofList name)

def property? (spaced negated : Bool) (text : List Char) : Option (Syntax × List Char) :=
  match skip spaced text with
  | [] => none
  | '\\' :: _ => none
  | '\x7b' :: rest => do
    let (name, rest) ← bracedName? spaced (rest.length + 1) [] (skip spaced rest)
    return (.property (propertyName name) negated, rest)
  | c :: rest => some (.property (.alone (String.ofList [c])) negated, skip spaced rest)

/-- The characters that an assertion about words has in its braces. -/
def isBoundaryChar (c : Char) : Bool := c.isAlpha || c = '-'

/-- The characters up to the first that no assertion about words has in its braces. -/
def boundaryName (spaced : Bool) : (fuel : Nat) → (name : List Char) → List Char →
    List Char × List Char
  | 0, name, text => (name.reverse, text)
  | _, name, [] => (name.reverse, [])
  | fuel + 1, name, c :: rest =>
    if isBoundaryChar c then boundaryName spaced fuel (c :: name) (skip spaced rest)
    else (name.reverse, c :: rest)

/-- What follows `\b`: perhaps a name in braces.  If the first character in the braces is no
letter and no hyphen, they are the count of a repetition. -/
def boundary? (spaced : Bool) (text : List Char) : Option (WordLook × List Char) :=
  match text with
  | '\x7b' :: rest =>
    match skip spaced rest with
    | [] => none
    | c :: inner =>
      if isBoundaryChar c then
        match boundaryName spaced (inner.length + 1) [] (c :: inner) with
        | (name, '\x7d' :: rest) =>
          match String.ofList name with
          | "start" => some (.start, rest)
          | "end" => some (.stop, rest)
          | "start-half" => some (.startHalf, rest)
          | "end-half" => some (.stopHalf, rest)
          | _ => none
        | _ => none
      else some (.boundary, text)
  | text => some (.boundary, text)

/-- ASCII characters that stand for themselves after a backslash. -/
def isEscapable (c : Char) : Bool :=
  c.toNat < 128 && !c.isAlphanum && c ≠ '<' && c ≠ '>'

def escape? (spaced : Bool) : List Char → Option (Syntax × List Char)
  | [] => none
  | c :: rest =>
    let hex (count : Nat) :=
      (hexLiteral? spaced count rest).map fun (literal, rest) => (.literal literal, rest)
    let control (n : Nat) : Option (Syntax × List Char) :=
      some (.literal ⟨Char.ofNat n, false⟩, rest)
    match c with
    | 'x' => hex 2
    | 'u' => hex 4
    | 'U' => hex 8
    | 'p' => property? spaced false rest
    | 'P' => property? spaced true rest
    | 'd' => some (.shorthand .digit false, rest)
    | 'D' => some (.shorthand .digit true, rest)
    | 's' => some (.shorthand .blank false, rest)
    | 'S' => some (.shorthand .blank true, rest)
    | 'w' => some (.shorthand .word false, rest)
    | 'W' => some (.shorthand .word true, rest)
    | 'a' => control 7
    | 'f' => control 12
    | 't' => control 9
    | 'n' => control 10
    | 'r' => control 13
    | 'v' => control 11
    | 'A' => some (.assertion .textStart, rest)
    | 'z' => some (.assertion .textStop, rest)
    | 'b' => (boundary? spaced rest).map fun (look, rest) => (.assertion (.word look), rest)
    | 'B' => some (.assertion (.word .notBoundary), rest)
    | '<' => some (.assertion (.word .start), rest)
    | '>' => some (.assertion (.word .stop), rest)
    | c => if isEscapable c then some (.literal ⟨c, false⟩, rest) else none

def asciiClass? : String → Option CharSet
  | "alnum" => some [⟨0x30, 0x39, 1⟩, ⟨0x41, 0x5A, 1⟩, ⟨0x61, 0x7A, 1⟩]
  | "alpha" => some [⟨0x41, 0x5A, 1⟩, ⟨0x61, 0x7A, 1⟩]
  | "ascii" => some [⟨0, 0x7F, 1⟩]
  | "blank" => some [⟨9, 9, 1⟩, ⟨32, 32, 1⟩]
  | "cntrl" => some [⟨0, 31, 1⟩, ⟨127, 127, 1⟩]
  | "digit" => some [⟨0x30, 0x39, 1⟩]
  | "graph" => some [⟨33, 126, 1⟩]
  | "lower" => some [⟨0x61, 0x7A, 1⟩]
  | "print" => some [⟨32, 126, 1⟩]
  | "punct" => some [⟨33, 47, 1⟩, ⟨58, 64, 1⟩, ⟨91, 96, 1⟩, ⟨123, 126, 1⟩]
  | "space" => some [⟨9, 13, 1⟩, ⟨32, 32, 1⟩]
  | "upper" => some [⟨0x41, 0x5A, 1⟩]
  | "word" => some [⟨0x30, 0x39, 1⟩, ⟨0x41, 0x5A, 1⟩, ⟨0x5F, 0x5F, 1⟩, ⟨0x61, 0x7A, 1⟩]
  | "xdigit" => some [⟨0x30, 0x39, 1⟩, ⟨0x41, 0x46, 1⟩, ⟨0x61, 0x66, 1⟩]
  | _ => none

/-- An ASCII class such as `:alpha:]` after its opening bracket, if there is one. -/
def namedClass? (text : List Char) : Option (Members × List Char) :=
  match text with
  | ':' :: rest =>
    let (negated, rest) := match rest with
      | '^' :: rest => (true, rest)
      | rest => (false, rest)
    match rest.dropWhile (· ≠ ':') with
    | ':' :: ']' :: after =>
      (asciiClass? (String.ofList (rest.takeWhile (· ≠ ':')))).map fun set =>
        (.named set negated, after)
    | _ => none
  | _ => none

/-- A part of a pattern that may stand inside brackets. -/
def Syntax.member? : Syntax → Option Members
  | .literal only => some (.literal only)
  | .shorthand name negated => some (.shorthand name negated)
  | .property name negated => some (.property name negated)
  | _ => none

def memberToken? (spaced : Bool) : List Char → Option (Syntax × List Char)
  | [] => none
  | '\\' :: rest => escape? spaced rest
  | c :: rest => some (.literal ⟨c, false⟩, rest)

/-- One member inside brackets: a range, or a character or escape alone.  A hyphen before a
closing bracket or another hyphen makes no range. -/
def member? (spaced : Bool) (text : List Char) : Option (Members × List Char) := do
  let (first, rest) ← memberToken? spaced text
  match skip spaced rest with
  | '-' :: after =>
    if peek? spaced after = some ']' ∨ peek? spaced after = some '-' then
      return (← first.member?, '-' :: after)
    else
      let (last, rest) ← memberToken? spaced (skip spaced after)
      match first, last with
      | .literal first, .literal last =>
        if first.char ≤ last.char then return (.range first last, rest) else none
      | _, _ => none
  | rest => return (← first.member?, rest)

/-- Literal hyphens at the start of brackets. -/
def leadingHyphens (spaced : Bool) : (fuel : Nat) → (members : List Members) → List Char →
    List Members × List Char
  | fuel + 1, members, '-' :: rest =>
    leadingHyphens spaced fuel (.literal ⟨'-', false⟩ :: members) (skip spaced rest)
  | _, members, text => (members, text)

/-- The start of brackets: whether they are negated, and the literal characters that only stand
there, last first. -/
def opened (spaced : Bool) (text : List Char) : Bool × List Members × List Char :=
  let (negated, text) := match skip spaced text with
    | '^' :: rest => (true, skip spaced rest)
    | text => (false, text)
  match leadingHyphens spaced text.length [] text with
  | ([], ']' :: rest) => (negated, [.literal ⟨']', false⟩], skip spaced rest)
  | (members, rest) => (negated, members, rest)

/-- An operation that waits for its right side. -/
abbrev Pending := Option (SetOperator × Members)

/-- Finishes a pending operation with the members read since, last first. -/
def Pending.close (pending : Pending) (members : List Members) : Members :=
  let right := Members.ofList members.reverse
  match pending with
  | some (operator, left) => .operation operator left right
  | none => right

/-- The operator at the start of a text. -/
def setOperator? : List Char → Option (SetOperator × List Char)
  | '&' :: '&' :: rest => some (.intersection, rest)
  | '-' :: '-' :: rest => some (.difference, rest)
  | '~' :: '~' :: rest => some (.symmetricDifference, rest)
  | _ => none

/-- Reads the inside of brackets up to the closing one. -/
def members? (spaced : Bool) : (fuel : Nat) → Pending → (members : List Members) → List Char →
    Option (Members × List Char)
  | 0, _, _, _ => none
  | fuel + 1, pending, members, text =>
    match skip spaced text with
    | [] => none
    | ']' :: rest => some (pending.close members, rest)
    | '[' :: rest =>
      match namedClass? rest with
      | some (named, rest) => members? spaced fuel pending (named :: members) rest
      | none =>
        let (negated, literals, rest) := opened spaced rest
        match members? spaced fuel none literals rest with
        | some (inner, rest) =>
          members? spaced fuel pending (.bracketed negated inner :: members) rest
        | none => none
    | text =>
      match setOperator? text with
      | some (operator, rest) =>
        members? spaced fuel (some (operator, pending.close members)) [] rest
      | none =>
        match member? spaced text with
        | some (member, rest) => members? spaced fuel pending (member :: members) rest
        | none => none

def bracketed? (spaced : Bool) (text : List Char) : Option (Syntax × List Char) :=
  let (negated, literals, rest) := opened spaced text
  (members? spaced (text.length + 1) none literals rest).map fun (members, rest) =>
    (.bracketed negated members, rest)

/-- A decimal number of at most 32 bits with blanks around it. -/
def decimal? (spaced : Bool) (text : List Char) : Option Nat × List Char :=
  let (digits, rest) := go (text.length + 1) [] (text.dropWhile Text.isBlank)
  let rest := skip spaced (rest.dropWhile Text.isBlank)
  let value := digits.foldl (fun n d => n * 10 + d) 0
  (if digits.isEmpty ∨ Nat.pow 2 32 ≤ value then none else some value, rest)
where
  /-- The digits; blanks between them are passed over where `spaced` says so. -/
  go : Nat → List Nat → List Char → List Nat × List Char
    | fuel + 1, digits, c :: rest =>
      if c.isDigit then go fuel (digits ++ [c.toNat - 48]) (skip spaced rest)
      else (digits, c :: rest)
    | _, digits, text => (digits, text)

/-- The text after a question mark, which makes a repetition prefer fewer rounds and so does not
change whether there is a match. -/
def afterLazyMark : List Char → List Char
  | '?' :: rest => rest
  | text => text

/-- The bounds of a repetition after an opening brace: `2`, `2,` or `2,3`. -/
def bounds? (spaced : Bool) (text : List Char) : Option ((Nat × Option Nat) × List Char) :=
  let (atLeast, rest) := decimal? spaced (skip spaced text)
  match rest with
  | '\x7d' :: rest => atLeast.map fun n => ((n, some n), afterLazyMark (skip spaced rest))
  | ',' :: rest =>
    match skip spaced rest with
    | '\x7d' :: rest => atLeast.map fun n => ((n, none), afterLazyMark (skip spaced rest))
    | rest =>
      match atLeast, decimal? spaced rest with
      | some n, (some m, '\x7d' :: rest) =>
        if n ≤ m then some ((n, some m), afterLazyMark (skip spaced rest)) else none
      | _, _ => none
  | _ => none

def option? : Char → Option PatternOption
  | 'i' => some .caseless
  | 'm' => some .multiline
  | 's' => some .dotMatchesNewline
  | 'U' => some .swapGreed
  | 'u' => some .unicode
  | 'R' => some .crlf
  | 'x' => some .spaced
  | _ => none

/-- Reads option letters up to a colon or a closing parenthesis.  Letters after a hyphen are
switched off; there is at most one hyphen, a letter follows it, and no letter is repeated. -/
def options? : (on : Bool) → (fresh : Bool) → OptionChanges → List Char →
    Option (OptionChanges × List Char)
  | _, _, _, [] => none
  | on, fresh, changes, c :: rest =>
    if c = ':' ∨ c = ')' then if fresh then none else some (changes, c :: rest)
    else if c = '-' then if on then options? false true changes rest else none
    else
      match option? c with
      | some option =>
        if changes.any (fun change => change.1 = option) then none
        else options? on false (changes ++ [(option, on)]) rest
      | none => none

def isAlphabetic (c : Char) : Bool :=
  CharSet.contains alphabeticSet c.toNat

/-- Characters of group names after the first. -/
def isNameChar (c : Char) : Bool :=
  c = '_' || c = '.' || c = '[' || c = ']' || Text.isAlphanumeric c

/-- The name of a group up to its closing angle bracket. -/
def groupName? (text : List Char) : Option (String × List Char) :=
  match text.dropWhile (· ≠ '>') with
  | '>' :: rest =>
    match text.takeWhile (· ≠ '>') with
    | [] => none
    | first :: others =>
      if (first = '_' ∨ isAlphabetic first) ∧ others.all isNameChar then
        some (String.ofList (first :: others), rest)
      else none
  | _ => none

inductive Opening
  | options (changes : OptionChanges)
  | group (name : Option String) (changes : OptionChanges)

/-- Reads what follows an opening parenthesis.  Looking ahead and behind is not supported. -/
def opening? (text : List Char) : Option (Opening × List Char) :=
  match text with
  | '?' :: '=' :: _ | '?' :: '!' :: _ | '?' :: '<' :: '=' :: _ | '?' :: '<' :: '!' :: _ => none
  | '?' :: 'P' :: '<' :: rest | '?' :: '<' :: rest =>
    (groupName? rest).map fun (name, rest) => (.group (some name) [], rest)
  | '?' :: rest =>
    match options? true false [] rest with
    | some (changes, ')' :: rest) => if changes.isEmpty then none else some (.options changes, rest)
    | some (changes, _ :: rest) => some (.group none changes, rest)
    | _ => none
  | rest => some (.group none [], rest)

/-- Whether blanks are passed over after some options changed. -/
def spacedAfter (spaced : Bool) (changes : OptionChanges) : Bool :=
  match changes.find? (fun change => change.1 = .spaced) with
  | some (_, on) => on
  | none => spaced

/-- Repeats the last part read; there has to be one, and options are none. -/
def repeatLast? (atLeast : Nat) (atMost : Option Nat) : List Syntax → Option (List Syntax)
  | [] => none
  | .options _ :: _ => none
  | last :: earlier => some (.repeated atLeast atMost last :: earlier)

/-- The alternatives read so far, last first, and the parts of the one being read, last first, as
one part. -/
def closeBranches (branches items : List Syntax) : Syntax :=
  .ofAlternatives ((Syntax.ofSequence items.reverse :: branches).reverse)

/-- A part that is neither group nor repetition. -/
def primitive? (spaced : Bool) : List Char → Option (Syntax × List Char)
  | [] => none
  | '\\' :: rest => escape? spaced rest
  | '[' :: rest => bracketed? spaced rest
  | '.' :: rest => some (.dot, rest)
  | '^' :: rest => some (.assertion .lineStart, rest)
  | '$' :: rest => some (.assertion .lineStop, rest)
  | c :: rest => some (.literal ⟨c, false⟩, rest)

/-- Where reading stands: the names of groups so far, and the text left. -/
structure Reading where
  names : List String
  rest : List Char

/-- Reads alternatives up to a closing parenthesis or the end of the text. -/
def branches? : (fuel : Nat) → (spaced : Bool) → (branches items : List Syntax) → Reading →
    Option (Syntax × Reading)
  | 0, _, _, _, _ => none
  | fuel + 1, spaced, branches, items, reading =>
    let continueWith (item : Option (Syntax × List Char)) :=
      match item with
      | some (item, rest) => branches? fuel spaced branches (item :: items) ⟨reading.names, rest⟩
      | none => none
    let repeatWith (atLeast : Nat) (atMost : Option Nat) (rest : List Char) :=
      match repeatLast? atLeast atMost items with
      | some items => branches? fuel spaced branches items ⟨reading.names, rest⟩
      | none => none
    match skip spaced reading.rest with
    | [] => some (closeBranches branches items, ⟨reading.names, []⟩)
    | ')' :: rest => some (closeBranches branches items, ⟨reading.names, ')' :: rest⟩)
    | '|' :: rest =>
      branches? fuel spaced (.ofSequence items.reverse :: branches) [] ⟨reading.names, rest⟩
    | '(' :: rest =>
      match opening? (skip spaced rest) with
      | none => none
      | some (.options changes, rest) =>
        branches? fuel (spacedAfter spaced changes) branches (.options changes :: items)
          ⟨reading.names, rest⟩
      | some (.group name changes, rest) =>
        if name.any reading.names.contains then none
        else
          match branches? fuel (spacedAfter spaced changes) [] []
            ⟨name.toList ++ reading.names, rest⟩ with
          | some (body, ⟨names, ')' :: rest⟩) =>
            branches? fuel spaced branches (.group changes body :: items) ⟨names, rest⟩
          | _ => none
    | '?' :: rest => repeatWith 0 (some 1) (afterLazyMark rest)
    | '*' :: rest => repeatWith 0 none (afterLazyMark rest)
    | '+' :: rest => repeatWith 1 none (afterLazyMark rest)
    | '\x7b' :: rest =>
      match bounds? spaced rest with
      | some ((atLeast, atMost), rest) => repeatWith atLeast atMost rest
      | none => none
    | text => continueWith (primitive? spaced text)

def Syntax.parse (text : String) : Option Syntax :=
  let characters := text.toList
  match branches? (characters.length + 1) false [] [] ⟨[], characters⟩ with
  | some (read, ⟨_, []⟩) => if read.levels .alone ≤ levelLimit then some read else none
  | _ => none

end ChatFlow.Pattern

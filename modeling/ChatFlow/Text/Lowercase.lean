import ChatFlow.Text.Lowercase.Table

/-!
# Lowercase

Full lowercasing of texts of any script.  Two characters are special: a capital I with a dot
becomes two characters, and a capital sigma has two lowercase forms, of which the one at the end
of a word is chosen by the characters around it.
-/

set_option autoImplicit false

namespace ChatFlow.Text

/-- Whether a number lies in one of some ranges. -/
def inRanges (ranges : List (Nat × Nat)) (n : Nat) : Bool :=
  ranges.any (fun range => range.1 ≤ n && n ≤ range.2)

/-- Characters that are or have upper, lower or title case. -/
def isCased (c : Char) : Bool := inRanges casedRanges c.toNat

/-- Characters that do not count when the case of their neighbours is looked at. -/
def isCaseIgnorable (c : Char) : Bool := inRanges caseIgnorableRanges c.toNat

def CaseRun.covers (run : CaseRun) (n : Nat) : Bool :=
  run.first ≤ n && n ≤ run.last && (n - run.first) % run.step == 0

/-- The lowercase form of a character by itself. -/
def lowercaseChar (c : Char) : List Char :=
  let n := c.toNat
  if n < 0x80 then [c.toLower]
  else if n = 0x130 then ['i', '\u0307']
  else
    match lowercaseRuns.find? (fun run => run.covers n) with
    | some run => [Char.ofNat (n + run.up - run.down)]
    | none => [c]

/-- Whether a cased character comes next, after ignorable ones. -/
def meetsCased (text : List Char) : Bool :=
  match text.dropWhile isCaseIgnorable with
  | c :: _ => isCased c
  | [] => false

/-- The lowercase form of a character between two texts; `before` is read backwards.  A capital
sigma is at the end of a word if a cased character stands before it and none after it. -/
def lowercaseBetween (before : List Char) (c : Char) (after : List Char) : List Char :=
  if c = 'Σ' then
    if meetsCased before && !meetsCased after then ['ς'] else ['σ']
  else lowercaseChar c

/-- The lowercase form of a text that follows `before`, read backwards. -/
def lowercaseAfter (before : List Char) : List Char → List Char
  | [] => []
  | c :: rest => lowercaseBetween before c rest ++ lowercaseAfter (c :: before) rest

def lowercased (text : List Char) : List Char := lowercaseAfter [] text

def lowercase (text : String) : String := String.ofList (lowercased text.toList)

end ChatFlow.Text

/-!
# Places in a YAML text

What the layout of YAML depends on: the remaining characters together with the line and the
column where they start, and the gaps of blanks and line breaks between words.

A line ends at a line feed, a carriage return, both in this order, or one of the Unicode breaks
NEL, LS and PS.  The text of a break is a line feed, except for LS and PS, which are kept.
-/

set_option autoImplicit false

namespace ChatFlow.Yaml

/-- Whether a text may contain a character.  Controls other than tab and line breaks are not
allowed. -/
def isAllowed (c : Char) : Bool :=
  let n := c.toNat
  n == 0x09 || n == 0x0A || n == 0x0D || (0x20 ≤ n && n ≤ 0x7E) || n == 0x85 ||
    (0xA0 ≤ n && n ≤ 0xFFFD) || 0x10000 ≤ n

def isBreak (c : Char) : Bool :=
  c = '\n' || c = '\r' || c = '\x85' || c = '\u2028' || c = '\u2029'

def isBlank (c : Char) : Bool := c = ' ' || c = '\t'

def isGap (c : Char) : Bool := isBlank c || isBreak c

/-- A character of names: a letter, a digit, a low line or a hyphen, all ASCII. -/
def isNameChar (c : Char) : Bool := c.isAlphanum || c = '_' || c = '-'

/-- What a break stands for in the value of a scalar. -/
def breakText (c : Char) : Char := if c = '\u2028' ∨ c = '\u2029' then c else '\n'

/-- The texts of the breaks in a gap. -/
def breakTexts : List Char → List Char
  | [] => []
  | '\r' :: '\n' :: rest => '\n' :: breakTexts rest
  | c :: rest => if isBreak c then breakText c :: breakTexts rest else breakTexts rest

/-- Lines folded into one: a single line feed is a space, of several the first is dropped, and
a kept break keeps all. -/
def foldedBreaks : List Char → List Char
  | ['\n'] => [' ']
  | '\n' :: more => more
  | breaks => breaks

/-- What a gap within a scalar stands for: its blanks if it is within a line, otherwise its breaks
folded. -/
def gapText (gap : List Char) : List Char :=
  match breakTexts gap with
  | [] => gap
  | breaks => foldedBreaks breaks

/-- The remaining characters and where they start. -/
structure Cursor where
  rest : List Char
  index : Nat := 0
  line : Nat := 0
  column : Nat := 0

namespace Cursor

def next? (cursor : Cursor) : Option Char := cursor.rest.head?

/-- Moves on by characters that are not breaks. -/
def skip (cursor : Cursor) (count : Nat) : Cursor :=
  { cursor with
    rest := cursor.rest.drop count
    index := cursor.index + count
    column := cursor.column + count }

/-- The place after some characters, at which `rest` remains. -/
def after (cursor : Cursor) (rest : List Char) : (passed : List Char) → Cursor
  | [] => { cursor with rest := rest }
  | '\r' :: '\n' :: passed =>
    after ⟨[], cursor.index + 2, cursor.line + 1, 0⟩ rest passed
  | c :: passed =>
    if isBreak c then after ⟨[], cursor.index + 1, cursor.line + 1, 0⟩ rest passed
    else after ⟨[], cursor.index + 1, cursor.line, cursor.column + 1⟩ rest passed

/-- The longest run of characters of a class, without breaks, and the place after it. -/
def run (cursor : Cursor) (belongs : Char → Bool) : List Char × Cursor :=
  let taken := cursor.rest.takeWhile belongs
  (taken, cursor.skip taken.length)

/-- The place after a run of characters of a class, without breaks. -/
def skipRun (cursor : Cursor) (belongs : Char → Bool) : Cursor := (cursor.run belongs).2

/-- The blanks and breaks that come next, and the place after them. -/
def gap (cursor : Cursor) : List Char × Cursor :=
  let taken := cursor.rest.takeWhile isGap
  (taken, cursor.after (cursor.rest.dropWhile isGap) taken)

/-- The text of a break that comes next, and the place after it. -/
def lineBreak? (cursor : Cursor) : Option (Char × Cursor) :=
  match cursor.rest with
  | '\r' :: '\n' :: rest => some ('\n', ⟨rest, cursor.index + 2, cursor.line + 1, 0⟩)
  | c :: rest =>
    if isBreak c then some (breakText c, ⟨rest, cursor.index + 1, cursor.line + 1, 0⟩) else none
  | [] => none

/-- The place after the break that comes next, if there is one. -/
def skipBreak (cursor : Cursor) : Cursor :=
  match cursor.lineBreak? with
  | some (_, cursor) => cursor
  | none => cursor

/-- Whether some of the characters of a line come next. -/
def inLine (cursor : Cursor) : Bool :=
  match cursor.next? with
  | some c => !isBreak c
  | none => false

/-- Whether a gap or the end of the text follows the next `count` characters. -/
def gapAfter (cursor : Cursor) (count : Nat) : Bool :=
  match cursor.rest.drop count with
  | c :: _ => isGap c
  | [] => true

/-- The place after the rest of a line on which only blanks and a comment may stand. -/
def endOfLine? (cursor : Cursor) : Option Cursor :=
  let cursor := cursor.skipRun isBlank
  let cursor := if cursor.next? = some '#' then cursor.skipRun (fun c => !isBreak c) else cursor
  if cursor.inLine then none else some cursor.skipBreak

/-- Whether a line starts here with three given characters that stand alone. -/
def startsMarker (cursor : Cursor) (mark : Char) : Bool :=
  cursor.column = 0 && cursor.rest.take 3 = [mark, mark, mark] && cursor.gapAfter 3

/-- Whether a line starts here with one of the two marks between documents. -/
def atDocumentMarker (cursor : Cursor) : Bool :=
  cursor.startsMarker '-' || cursor.startsMarker '.'

end Cursor

end ChatFlow.Yaml

import ChatFlow.Yaml.Cursor
import ChatFlow.Yaml.Token

/-!
# Plain scalars

A scalar without quotes goes on over gaps until something ends it: a colon before a gap, a comment,
a marker between documents, a mark of the flow collection around it or, outside flow collections,
a line that is not indented deeply enough.
-/

set_option autoImplicit false

namespace ChatFlow.Yaml.Token

/-- The marks that end a word in a flow collection. -/
def isFlowMark (c : Char) : Bool := [',', '[', ']', '\x7b', '\x7d'].contains c

/-- Whether a plain scalar can start with these characters.  In a flow collection a question mark
or colon cannot start one. -/
def startsPlain (inFlow : Bool) : List Char → Bool
  | [] => false
  | c :: rest =>
    let followed := !(rest.head?.all isGap)
    if isGap c then false
    else if c = '-' then !(rest.head?.any isBlank)
    else if c = '?' ∨ c = ':' then !inFlow && followed
    else
      !([',', '[', ']', '\x7b', '\x7d', '#', '&', '*', '!', '|', '>', '\'', '"', '%', '@',
        '\x60'].contains c)

/-- Reads a word up to a gap or a mark that ends it; `read` holds its characters so far, last
first.  `none` if a colon stands before a mark of a flow collection. -/
def word? (inFlow : Bool) (read : List Char) : List Char → Option (List Char × List Char)
  | [] => some (read.reverse, [])
  | c :: rest =>
    if isGap c then some (read.reverse, c :: rest)
    else if inFlow && c = ':' && rest.head?.any (fun d => isFlowMark d || d = '?') then none
    else if c = ':' && rest.head?.all isGap then some (read.reverse, c :: rest)
    else if inFlow && isFlowMark c then some (read.reverse, c :: rest)
    else word? inFlow (c :: read) rest

/-- Whether a gap has a tab on a later line before column `least`. -/
def hasEarlyTab (least : Int) (column : Option Nat) : List Char → Bool
  | [] => false
  | c :: rest =>
    if isBreak c then hasEarlyTab least (some 0) rest
    else
      match column with
      | none => hasEarlyTab least none rest
      | some column =>
        (c = '\t' && (column : Int) < least) || hasEarlyTab least (some (column + 1)) rest

/-- What has been read of a plain scalar: its text in reverse, the place after the last gap, and
the last gap, whose meaning is known once a word follows it. -/
structure PlainRead where
  text : List Char
  gap : List Char
  cursor : Cursor

/-- Reads a plain scalar to its end. -/
def plainRest? (inFlow : Bool) (least : Int) : (fuel : Nat) → PlainRead → Option PlainRead
  | 0, _ => none
  | fuel + 1, read =>
    if read.cursor.atDocumentMarker || read.cursor.next? = some '#' then some read
    else
      match word? inFlow [] read.cursor.rest with
      | none => none
      | some (word, _) =>
        let cursor := read.cursor.skip word.length
        let read : PlainRead :=
          if word.isEmpty then read
          else ⟨word.reverse ++ ((gapText read.gap).reverse ++ read.text), [], cursor⟩
        let (gap, cursor) := cursor.gap
        if gap.isEmpty then some read
        else if hasEarlyTab least none gap then none
        else
          let read : PlainRead := ⟨read.text, gap, cursor⟩
          if !inFlow && (cursor.column : Int) < least then some read
          else plainRest? inFlow least fuel read

/-- A plain scalar whose lines after the first start at column `least` or later, the place after
it, and whether that place is on a line of its own. -/
def plain? (inFlow : Bool) (least : Int) (cursor : Cursor) : Option (Token × Cursor × Bool) :=
  (plainRest? inFlow least (cursor.rest.length + 1) ⟨[], [], cursor⟩).map fun read =>
    (.scalar true (String.ofList read.text.reverse), read.cursor, read.gap.any isBreak)

end ChatFlow.Yaml.Token

import ChatFlow.Text.Digits
import ChatFlow.Yaml.Cursor
import ChatFlow.Yaml.Token

/-!
# Block scalars

A literal scalar keeps its line breaks; a folded one joins lines, except around lines that start
with a blank.  The indentation of the scalar is given by a digit or by its first line with text.
What remains of the breaks at the end depends on the chomping mark.
-/

set_option autoImplicit false

namespace ChatFlow.Yaml.Token

/-- What happens to the line breaks at the end of a block scalar. -/
inductive Chomping
  | strip
  | clip
  | keep
  deriving DecidableEq, Repr

def chomping? (cursor : Cursor) : Option (Chomping × Cursor) :=
  match cursor.next? with
  | some '+' => some (.keep, cursor.skip 1)
  | some '-' => some (.strip, cursor.skip 1)
  | _ => none

/-- A digit of indentation.  Answers no digit if there is none; zero is not allowed. -/
def indentation? (cursor : Cursor) : Option (Option Nat × Cursor) :=
  match cursor.next? with
  | some c =>
    match Text.digit? 10 c with
    | some 0 => none
    | some digit => some (some digit, cursor.skip 1)
    | none => some (none, cursor)
  | none => some (none, cursor)

/-- The marks of a block scalar, in either order. -/
def blockMarks? (cursor : Cursor) : Option (Chomping × Option Nat × Cursor) :=
  match chomping? cursor with
  | some (chomping, cursor) =>
    (indentation? cursor).map fun (digit, cursor) => (chomping, digit, cursor)
  | none =>
    match indentation? cursor with
    | none => none
    | some (some digit, cursor) =>
      match chomping? cursor with
      | some (chomping, cursor) => some (chomping, some digit, cursor)
      | none => some (.clip, some digit, cursor)
    | some (none, cursor) => some (.clip, none, cursor)

/-- Lines without text, between lines of text or at an end of the scalar. -/
structure EmptyLines where
  breaks : List Char
  longest : Nat
  cursor : Cursor

/-- Reads lines without text and the indentation of the line after them.  Only spaces indent; if
the indentation is not known yet, all spaces do. -/
def emptyLines? (indentation : Option Nat) : (fuel : Nat) → EmptyLines → Option EmptyLines
  | 0, _ => none
  | fuel + 1, read =>
    let (spaces, _) := read.cursor.run (fun c => c = ' ')
    let missing :=
      match indentation with
      | none => spaces.length
      | some column => min spaces.length (column - read.cursor.column)
    let cursor := read.cursor.skip missing
    let longest := max read.longest cursor.column
    if indentation.all (fun column => cursor.column < column) && cursor.next? = some '\t' then none
    else
      match cursor.lineBreak? with
      | none => some ⟨read.breaks.reverse, longest, cursor⟩
      | some (text, cursor) =>
        emptyLines? indentation fuel ⟨text :: read.breaks, longest, cursor⟩

/-- Lines without text from a place on. -/
def emptyLinesAt? (indentation : Option Nat) (cursor : Cursor) : Option EmptyLines :=
  emptyLines? indentation (cursor.rest.length + 1) ⟨[], 0, cursor⟩

/-- What has been read of a block scalar: its text in reverse, the break that ended the last line
of text, whether that line started with a blank, and the lines without text after it. -/
structure BlockRead where
  text : List Char
  lastBreak : Option Char
  afterBlank : Bool
  below : EmptyLines

/-- Reads lines of text that start at a column. -/
def blockLines? (literal : Bool) (column : Nat) : (fuel : Nat) → BlockRead → Option BlockRead
  | 0, _ => none
  | fuel + 1, read =>
    let cursor := read.below.cursor
    if cursor.column ≠ column ∨ cursor.rest.isEmpty then some read
    else
      let startsBlank := cursor.next?.any isBlank
      let folds := !literal && read.lastBreak = some '\n' && !read.afterBlank && !startsBlank
      let ended : List Char :=
        if folds then (if read.below.breaks.isEmpty then [' '] else []) else read.lastBreak.toList
      let (line, cursor) := cursor.run (fun c => !isBreak c)
      let text := line.reverse ++ ((ended ++ read.below.breaks).reverse ++ read.text)
      let (lastBreak, cursor) :=
        match cursor.lineBreak? with
        | some (text, cursor) => (some text, cursor)
        | none => (none, cursor)
      match emptyLinesAt? (some column) cursor with
      | none => none
      | some below => blockLines? literal column fuel ⟨text, lastBreak, startsBlank, below⟩

/-- A block scalar inside a block that is indented by `indent`, from behind its first mark. -/
def block? (literal : Bool) (indent : Int) (cursor : Cursor) : Option (Token × Cursor) :=
  match blockMarks? cursor with
  | none => none
  | some (chomping, digit, cursor) =>
    match cursor.endOfLine? with
    | none => none
    | some cursor =>
      let given := digit.map (fun digit => (max indent 0).toNat + digit)
      match emptyLinesAt? given cursor with
      | none => none
      | some first =>
        let column := given.getD (max first.longest (max (indent + 1).toNat 1))
        (blockLines? literal column (cursor.rest.length + 1) ⟨[], none, false, first⟩).map
          fun read =>
            let ended := if chomping = .strip then [] else read.lastBreak.toList
            let kept := if chomping = .keep then read.below.breaks else []
            (.scalar false (String.ofList (read.text.reverse ++ ended ++ kept)),
              read.below.cursor)

end ChatFlow.Yaml.Token

import ChatFlow.Yaml.Token.Block
import ChatFlow.Yaml.Token.Plain
import ChatFlow.Yaml.Token.Quoted

/-!
# From layout to tokens

`Token.ofText?` reads a whole text.  Deeper indentation opens a block and a return to a smaller
column closes it.  A key is recognised by the colon behind it, so the place of a possible key is
remembered, and the tokens that announce it are put before its first token afterwards.
-/

set_option autoImplicit false

namespace ChatFlow.Yaml

namespace Token

/-- A token together with the tokens that were found out later to stand before it. -/
structure Placed where
  before : List Token := []
  token : Token

/-- The place of a possible key: on one line and at most 1024 characters long.  One at the column
of the block around it must be a key. -/
structure KeyPlace where
  required : Bool
  position : Nat
  index : Nat
  line : Nat
  column : Nat

/-- A text in the middle of being read.  `indent` is the column of the block around the cursor and
`outer` those around it, innermost first; the outermost column is `-1`.  `key` is the possible
key on this level of flow collections and `outerKeys` those on the levels around it. -/
structure Layout where
  cursor : Cursor
  placed : Array Placed := #[]
  indent : Int := -1
  outer : List Int := []
  key : Option KeyPlace := none
  outerKeys : List (Option KeyPlace) := []
  keyAllowed : Bool := true

namespace Layout

/-- Whether the cursor is in a flow collection. -/
def inFlow (layout : Layout) : Bool := !layout.outerKeys.isEmpty

def push (layout : Layout) (token : Token) : Layout :=
  { layout with placed := layout.placed.push { token := token } }

def goTo (layout : Layout) (cursor : Cursor) : Layout := { layout with cursor := cursor }

/-- Sets whether a key may start next. -/
def allowKey (layout : Layout) (allowed : Bool) : Layout := { layout with keyAllowed := allowed }

/-- Adds a token of some characters and moves behind it. -/
def pushMark (layout : Layout) (token : Token) (count : Nat := 1) : Layout :=
  (layout.push token).goTo (layout.cursor.skip count)

/-- Passes over blanks, comments and line breaks; `fuel` bounds the lines.  A tab is passed over
only where no key can start.  After a break outside flow collections a key can start. -/
def toNextToken : (fuel : Nat) → Layout → Layout
  | 0, layout => layout
  | fuel + 1, layout =>
    let cursor := layout.cursor.skipRun fun c =>
      c = ' ' || ((layout.inFlow || !layout.keyAllowed) && c = '\t')
    let cursor := if cursor.next? = some '#' then cursor.skipRun (fun c => !isBreak c) else cursor
    match cursor.lineBreak? with
    | some (_, cursor) =>
      toNextToken fuel ((layout.goTo cursor).allowKey (layout.keyAllowed || !layout.inFlow))
    | none => layout.goTo cursor

/-- Gives up a possible key that can be none any more; `none` if it had to be one. -/
def withoutStaleKey? (cursor : Cursor) : Option KeyPlace → Option (Option KeyPlace)
  | none => some none
  | some key =>
    if key.line < cursor.line ∨ key.index + 1024 < cursor.index then
      if key.required then none else some none
    else some (some key)

/-- Gives up all possible keys that can be none any more. -/
def dropStaleKeys? (layout : Layout) : Option Layout :=
  match withoutStaleKey? layout.cursor layout.key,
    layout.outerKeys.mapM (withoutStaleKey? layout.cursor) with
  | some key, some outerKeys => some { layout with key := key, outerKeys := outerKeys }
  | _, _ => none

/-- Gives up the possible key on this level; `none` if it had to be one. -/
def dropKey? (layout : Layout) : Option Layout :=
  if layout.key.any KeyPlace.required then none else some { layout with key := none }

/-- Remembers that the next token may start a key, if it may. -/
def markKey? (layout : Layout) : Option Layout :=
  if layout.keyAllowed then
    layout.dropKey?.map fun layout =>
      { layout with
        key := some
          { required := !layout.inFlow && layout.indent = (layout.cursor.column : Int)
            position := layout.placed.size
            index := layout.cursor.index
            line := layout.cursor.line
            column := layout.cursor.column } }
  else some layout

/-- Opens a block at a column, if it is deeper than the block around it. -/
def indentTo (layout : Layout) (column : Nat) : Option Layout :=
  if !layout.inFlow && layout.indent < (column : Int) then
    some { layout with indent := column, outer := layout.indent :: layout.outer }
  else none

/-- Opens a block at the cursor with a token, if the cursor is deeper than the block around it. -/
def openBlock (layout : Layout) (token : Token) : Layout :=
  match layout.indentTo layout.cursor.column with
  | some deeper => deeper.push token
  | none => layout

/-- Closes the given blocks that are deeper than a column. -/
def closeDeeper (column : Int) (layout : Layout) : (outer : List Int) → Layout
  | [] => { layout with outer := [] }
  | around :: outer =>
    if column < layout.indent then
      closeDeeper column { layout.push .blockEnd with indent := around } outer
    else { layout with outer := around :: outer }

/-- Closes all blocks that are deeper than a column.  Flow collections know no blocks. -/
def closeBlocks (layout : Layout) (column : Int) : Layout :=
  if layout.inFlow then layout else closeDeeper column layout layout.outer

def finish? (layout : Layout) : Option Layout :=
  ((layout.closeBlocks (-1)).dropKey?).map (·.push .streamEnd)

def directive? (layout : Layout) : Option Layout :=
  match (layout.closeBlocks (-1)).dropKey? with
  | none => none
  | some layout =>
    (Token.directive? (layout.cursor.skip 1)).map fun (token, cursor) =>
      ((layout.push token).goTo cursor).allowKey false

def documentMarker? (layout : Layout) (token : Token) : Option Layout :=
  ((layout.closeBlocks (-1)).dropKey?).map fun layout => (layout.pushMark token 3).allowKey false

/-- The start of a flow collection, which may itself be a key. -/
def openFlow? (layout : Layout) (token : Token) : Option Layout :=
  layout.markKey?.map fun layout =>
    { (layout.pushMark token).allowKey true with
      key := none
      outerKeys := layout.key :: layout.outerKeys }

def closeFlow? (layout : Layout) (token : Token) : Option Layout :=
  layout.dropKey?.map fun layout =>
    let closed := (layout.pushMark token).allowKey false
    match layout.outerKeys with
    | [] => closed
    | key :: outerKeys => { closed with key := key, outerKeys := outerKeys }

def flowEntry? (layout : Layout) : Option Layout :=
  layout.dropKey?.map fun layout => (layout.pushMark .flowEntry).allowKey true

/-- The dash before an item of a block. -/
def blockEntry? (layout : Layout) : Option Layout :=
  if !layout.inFlow && !layout.keyAllowed then none
  else
    (layout.openBlock .blockSequenceStart).dropKey?.map fun layout =>
      (layout.pushMark .blockEntry).allowKey true

def explicitKey? (layout : Layout) : Option Layout :=
  if !layout.inFlow && !layout.keyAllowed then none
  else
    (layout.openBlock .blockMappingStart).dropKey?.map fun layout =>
      (layout.pushMark .key).allowKey (!layout.inFlow)

/-- The colon before a value.  It makes the possible key on this level a key. -/
def value? (layout : Layout) : Option Layout :=
  match layout.key with
  | some key =>
    let announce (before : List Token) (layout : Layout) : Layout :=
      { layout with
        placed := layout.placed.modify key.position fun placed =>
          { placed with before := before ++ placed.before } }
    let layout :=
      match layout.indentTo key.column with
      | some deeper => announce [.blockMappingStart, .key] deeper
      | none => announce [.key] layout
    some (({ layout with key := none }.pushMark .value).allowKey false)
  | none =>
    if !layout.inFlow && !layout.keyAllowed then none
    else
      some (((layout.openBlock .blockMappingStart).pushMark .value).allowKey (!layout.inFlow))

/-- A token that may start a key, read from behind its first `skipped` characters. -/
def keyWord? (layout : Layout) (skipped : Nat) (read : Cursor → Option (Token × Cursor)) :
    Option Layout :=
  match layout.markKey? with
  | none => none
  | some layout =>
    (read (layout.cursor.skip skipped)).map fun (token, cursor) =>
      ((layout.push token).goTo cursor).allowKey false

/-- A block scalar, which cannot be a key. -/
def blockScalar? (layout : Layout) (literal : Bool) : Option Layout :=
  match layout.dropKey? with
  | none => none
  | some layout =>
    (block? literal layout.indent (layout.cursor.skip 1)).map fun (token, cursor) =>
      ((layout.push token).goTo cursor).allowKey true

/-- A plain scalar.  After it a key may start only on a new line. -/
def plainScalar? (layout : Layout) : Option Layout :=
  match layout.markKey? with
  | none => none
  | some layout =>
    (plain? layout.inFlow (layout.indent + 1) layout.cursor).map fun (token, cursor, newLine) =>
      ((layout.push token).goTo cursor).allowKey newLine

def token? (layout : Layout) : Option Layout :=
  let cursor := layout.cursor
  if cursor.column = 0 ∧ cursor.next? = some '%' then layout.directive?
  else if cursor.startsMarker '-' then layout.documentMarker? .documentStart
  else if cursor.startsMarker '.' then layout.documentMarker? .documentEnd
  else
    let stands := layout.inFlow || cursor.gapAfter 1
    match cursor.next? with
    | none => none
    | some '[' => layout.openFlow? .flowSequenceStart
    | some '\x7b' => layout.openFlow? .flowMappingStart
    | some ']' => layout.closeFlow? .flowSequenceEnd
    | some '\x7d' => layout.closeFlow? .flowMappingEnd
    | some ',' => layout.flowEntry?
    | some '*' => layout.keyWord? 1 fun cursor =>
      (anchorName? cursor).map fun (name, cursor) => (.alias name, cursor)
    | some '&' => layout.keyWord? 1 fun cursor =>
      (anchorName? cursor).map fun (name, cursor) => (.anchor name, cursor)
    | some '!' => layout.keyWord? 0 (tag? layout.inFlow)
    | some '\'' => layout.keyWord? 1 (quoted? true)
    | some '"' => layout.keyWord? 1 (quoted? false)
    | some c =>
      if c = '-' ∧ cursor.gapAfter 1 then layout.blockEntry?
      else if c = '?' ∧ stands then layout.explicitKey?
      else if c = ':' ∧ stands then layout.value?
      else if c = '|' ∧ !layout.inFlow then layout.blockScalar? true
      else if c = '>' ∧ !layout.inFlow then layout.blockScalar? false
      else if startsPlain layout.inFlow cursor.rest then layout.plainScalar?
      else none

/-- Reads a text to its end.  Every token has at least one character, so `fuel` stays larger than
the number of characters that remain. -/
def readAll? : (fuel : Nat) → Layout → Option Layout
  | 0, _ => none
  | fuel + 1, layout =>
    match (layout.toNextToken (fuel + 1)).dropStaleKeys? with
    | none => none
    | some layout =>
      let layout := layout.closeBlocks layout.cursor.column
      if layout.cursor.rest.isEmpty then layout.finish?
      else
        match layout.token? with
        | none => none
        | some layout => readAll? fuel layout

end Layout

/-- The tokens of a text; `none` if it has a character that is not allowed or cannot be split into
tokens.  A byte order mark at the start is passed over. -/
def ofText? (text : String) : Option (List Token) :=
  let characters := text.toList
  if characters.all isAllowed then
    let cursor : Cursor := ⟨characters, 0, 0, 0⟩
    let start := if cursor.next? = some '\ufeff' then cursor.skip 1 else cursor
    let layout : Layout := { cursor := start }
    (layout.readAll? (characters.length + 1)).map fun layout =>
      layout.placed.toList.flatMap (fun placed => placed.before ++ [placed.token])
  else none

end Token

end ChatFlow.Yaml

import ChatFlow.Description.Schema
import ChatFlow.Json.Reading

/-!
# Descriptions in JSON

Names and texts of records are JSON strings, lists are arrays, and a record is an object or an
array.  `null` is an absent optional value.
-/

set_option autoImplicit false

namespace ChatFlow

def Json.Syntax.text? : Json.Syntax → Option String
  | .string pieces => (Json.pieceText pieces).map String.ofList
  | _ => none

/-- A JSON object or array as a record. -/
def Json.Syntax.record? : Json.Syntax → Option (Record Json.Syntax)
  | .object fields =>
    (fields.mapM fun entry =>
      (Json.pieceText entry.1).map fun name => (String.ofList name, entry.2)).map .keyed
  | .array items => some (.listed items)
  | _ => none

/-- Reads JSON.  A free-form object may use the levels that the collections around it leave. -/
def Json.reader : Reader Option Json.Syntax where
  text := Json.Syntax.text?
  optional := fun value => match value with
    | .null => some none
    | value => some (some value)
  list := fun value => match value with
    | .array items => some items
    | _ => none
  record := Json.Syntax.record?
  fields := fun above value => match value with
    | .object fields => (Json.ofSyntax (Json.levelLimit - above) (.object fields)).bind Json.fields?
    | _ => none
  refuse := fun _ => none

def Description.ofJson? (text : String) : Option Description :=
  (Json.Syntax.parse text).bind (Json.reader.description 0)

end ChatFlow

import ChatFlow.Description.Basic

/-!
# The schema of descriptions

Descriptions can be written in several notations.  A notation says how to read its values as
texts, lists and records (`Reader`); the schema says which records there are, and it is the same
for all of them.

A record is written either with names or as the plain list of its values in schema order.  With
names, unknown names are passed over and a known name may occur once; as a list, values may be
missing at the end only.
-/

set_option autoImplicit false

namespace ChatFlow

/-- A record as written: values under names, or values in schema order. -/
inductive Record (ν : Type)
  | keyed (entries : List (String × ν))
  | listed (values : List ν)

/-- The values of a record under the names that its schema knows; `none` if a known name is
repeated or the list is too long. -/
def Record.known? {ν : Type} (schema : List String) : Record ν → Option (Keyed ν)
  | .keyed entries =>
    let kept := entries.filter (fun entry => schema.contains entry.1)
    if (kept.map (·.1)).Nodup then some kept else none
  | .listed values =>
    if values.length ≤ schema.length then some (schema.zip values) else none

/-- How one notation reads its values.  `optional` tells an absent value from a present one, and
`fields` reads a free-form object that stands inside `above` other collections. -/
structure Reader (m : Type → Type) (ν : Type) where
  text : ν → m String
  optional : ν → m (Option ν)
  list : ν → m (List ν)
  record : ν → m (Record ν)
  fields : (above : Nat) → ν → m (Keyed Json)
  refuse : (α : Type) → m α

namespace Reader

variable {m : Type → Type} [Monad m] {ν : Type} (reader : Reader m ν)

def known (schema : List String) (value : ν) : m (Keyed ν) := do
  match (← reader.record value).known? schema with
  | some values => pure values
  | none => reader.refuse _

/-- A value that has to be there. -/
def required {α : Type} (read : ν → m α) (values : Keyed ν) (name : String) : m α :=
  match values.get? name with
  | some value => read value
  | none => reader.refuse _

/-- A value that may be left out. -/
def withDefault {α : Type} (default : α) (read : ν → m α) (values : Keyed ν) (name : String) :
    m α :=
  match values.get? name with
  | some value => read value
  | none => pure default

/-- A text that may be left out or be null. -/
def optionalText (values : Keyed ν) (name : String) : m (Option String) :=
  withDefault none (fun value => do
    match ← reader.optional value with
    | some value => return some (← reader.text value)
    | none => return none) values name

/-- The items of a list, read one after the other. -/
def listOf {α : Type} (read : ν → m α) (value : ν) : m (List α) := do
  (← reader.list value).mapM read

def port (value : ν) : m Description.Port := do
  let values ← reader.known ["id", "label", "role"] value
  let id ← reader.required reader.text values "id"
  let label ← reader.optionalText values "label"
  let role ← reader.optionalText values "role"
  return ⟨id, label, role⟩

/-- A node whose data stands inside `above` collections. -/
def node (above : Nat) (value : ν) : m Description.Node := do
  let values ← reader.known ["id", "type", "data", "inputs", "outputs"] value
  let id ← reader.required reader.text values "id"
  let type ← reader.required reader.text values "type"
  let data ← withDefault [] (reader.fields above) values "data"
  let inputs ← withDefault [] (reader.listOf reader.port) values "inputs"
  let outputs ← withDefault [] (reader.listOf reader.port) values "outputs"
  return ⟨id, type, data, inputs, outputs⟩

def connection (value : ν) : m Description.Connection := do
  let values ← reader.known
    ["id", "sourceNodeId", "sourcePortId", "targetNodeId", "targetPortId"] value
  let id ← reader.optionalText values "id"
  let sourceNode ← reader.required reader.text values "sourceNodeId"
  let sourcePort ← withDefault "" reader.text values "sourcePortId"
  let targetNode ← reader.required reader.text values "targetNodeId"
  let targetPort ← withDefault "" reader.text values "targetPortId"
  return ⟨id, sourceNode, sourcePort, targetNode, targetPort⟩

/-- A description that stands inside `above` collections. -/
def description (above : Nat) (value : ν) : m Description := do
  let values ← reader.known ["nodes", "connections"] value
  let nodes ← reader.required (reader.listOf (reader.node (above + 3))) values "nodes"
  let connections ← withDefault [] (reader.listOf reader.connection) values "connections"
  return ⟨nodes, connections⟩

end Reader

end ChatFlow

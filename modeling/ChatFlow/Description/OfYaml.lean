import ChatFlow.Description.Schema
import ChatFlow.Yaml.Node.OfTokens
import ChatFlow.Yaml.Scalar

/-!
# Descriptions in YAML

Where the schema asks for a text, a scalar is taken as written, whatever it would mean elsewhere.
A record, a list or a free-form object can also be written as nothing.  Values of free-form
objects are read by what their scalars mean.

An alias is read as the node it stands for.  So that a small text cannot stand for a huge
description, the number of aliases that are followed is limited.
-/

set_option autoImplicit false

namespace ChatFlow

namespace Yaml

/-- How many sequences and mappings may be open at once. -/
def levelLimit : Nat := 128

/-- A step that may fail, with the number of aliases followed so far. -/
abbrev Following (α : Type) := StateT Nat Option α

namespace Document

variable (document : Document)

/-- The node itself, or the node that an alias stands for. -/
def follow (node : Node) : Following Node := do
  match node with
  | .alias anchor =>
    modify (· + 1)
    if (← get) > document.jumpLimit then failure
    match document.target? anchor with
    | some target => return target
    | none => failure
  | node => return node

def text (node : Node) : Following String := do
  match ← document.follow node with
  | .scalar _ _ _ text => return text
  | _ => failure

/-- A value that may be written as null or as nothing.  Quotes and tags make it a value, and the
tag of null does not. -/
def optional (node : Node) : Following (Option Node) := do
  match ← document.follow node with
  | .scalar anchor tag plain text =>
    let present := some (.scalar anchor tag plain text)
    if !plain then return present
    match tag with
    | none => return if text.isEmpty || Scalar.isNullWord text then none else present
    | some tag =>
      if tag ≠ Scalar.standardTag "null" then return present
      if Scalar.isNullWord text then return none
      failure
  | node => return some node

def items (node : Node) : Following (List Node) := do
  match ← document.follow node with
  | .sequence _ _ items => return items
  | node => if node.isEmpty then return [] else failure

/-- A mapping with texts as keys, or a sequence, as a record. -/
def record (node : Node) : Following (Record Node) := do
  match ← document.follow node with
  | .sequence _ _ items => return .listed items
  | .mapping _ _ entries =>
    return .keyed (← entries.mapM fun entry => do return (← document.text entry.1, entry.2))
  | node => if node.isEmpty then return .keyed [] else failure

/-- What a node means in which at most `levels` more collections may be open.  Collections with a
tag of the document's own mean nothing. -/
def value : (levels : Nat) → Node → Following Json
  | levels, node => do
    match ← document.follow node with
    | .alias _ => failure
    | .scalar _ tag plain text =>
      match Scalar.value? tag plain text with
      | some value => return value
      | none => failure
    | .sequence _ tag items =>
      match levels with
      | 0 => failure
      | levels + 1 =>
        if tag.any Scalar.isOwnTag then failure
        return .array (← items.mapM (value levels))
    | .mapping _ tag entries =>
      match levels with
      | 0 => failure
      | levels + 1 =>
        if tag.any Scalar.isOwnTag then failure
        return Json.ofEntries (← entries.mapM fun entry => do
          return (← document.text entry.1, ← value levels entry.2))

/-- The entries of a mapping in which at most `levels` collections may be open.  Its tag does not
matter. -/
def fields (levels : Nat) (node : Node) : Following (Keyed Json) := do
  match ← document.follow node with
  | .mapping anchor _ entries =>
    match (← document.value levels (.mapping anchor none entries)).fields? with
    | some fields => return fields
    | none => failure
  | node => if node.isEmpty then return [] else failure

def reader : Reader Following Node where
  text := document.text
  optional := document.optional
  list := document.items
  record := document.record
  fields := fun above node => document.fields (levelLimit - above) node
  refuse := fun _ => failure

end Document

end Yaml

def Description.ofYaml? (text : String) : Option Description :=
  match Yaml.Document.ofText? text with
  | some document => ((document.reader.description 0 document.root).run 0).map (·.1)
  | none => none

end ChatFlow

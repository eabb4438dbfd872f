import ChatFlow.Json.Basic

/-!
# Workflow descriptions

A description is what an author submits: nodes with a type name and free-form data, and
connections between ports.  Nothing is checked here; type names and port roles are plain texts
until the description becomes a graph.
-/

set_option autoImplicit false

namespace ChatFlow

namespace Description

/-- A named attachment point of a node, with a role if the author gave one. -/
structure Port where
  id : String
  label : Option String := none
  role : Option String := none

/-- A node: its type name, its data by option name, and its declared ports. -/
structure Node where
  id : String
  type : String
  data : Keyed Json := []
  inputs : List Port := []
  outputs : List Port := []

/-- A connection from a port of one node to a port of another. -/
structure Connection where
  id : Option String := none
  sourceNode : String
  sourcePort : String := ""
  targetNode : String
  targetPort : String := ""

end Description

structure Description where
  nodes : List Description.Node
  connections : List Description.Connection := []

end ChatFlow

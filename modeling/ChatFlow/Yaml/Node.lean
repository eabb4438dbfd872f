import ChatFlow.Yaml.Token

/-!
# YAML documents

A document is a tree in which a node can be anchored, and an alias stands for an anchored node
elsewhere.  Anchors are numbers here.  When names are given twice, two nodes can have the same
number; the later one is meant.
-/

set_option autoImplicit false

namespace ChatFlow.Yaml

/-- A part of a document.  Whether a scalar is plain decides if its text can be anything but
text. -/
inductive Node
  | alias (anchor : Nat)
  | scalar (anchor : Option Nat) (tag : Option TagText) (plain : Bool) (text : String)
  | sequence (anchor : Option Nat) (tag : Option TagText) (items : List Node)
  | mapping (anchor : Option Nat) (tag : Option TagText) (entries : List (Node × Node))
  deriving Inhabited

namespace Node

/-- A node of which nothing is written. -/
def empty : Node := .scalar none none true ""

/-- Whether a node is written as nothing at all or as a plain scalar without text. -/
def isEmpty : Node → Bool
  | .scalar _ _ plain text => plain && text.isEmpty
  | _ => false

mutual

/-- The steps in which a node is read: one for a scalar or an alias, and one for each end of a
collection. -/
def steps : Node → Nat
  | .alias _ => 1
  | .scalar _ _ _ _ => 1
  | .sequence _ _ items => 2 + stepsOfItems items
  | .mapping _ _ entries => 2 + stepsOfEntries entries

def stepsOfItems : List Node → Nat
  | [] => 0
  | item :: rest => steps item + stepsOfItems rest

def stepsOfEntries : List (Node × Node) → Nat
  | [] => 0
  | (key, value) :: rest => steps key + steps value + stepsOfEntries rest

end

mutual

def anchored (node : Node) : List (Nat × Node) :=
  match node with
  | .alias _ => []
  | .scalar anchor tag plain text =>
    (anchor.map (·, Node.scalar anchor tag plain text)).toList
  | .sequence anchor tag items =>
    (anchor.map (·, Node.sequence anchor tag items)).toList ++ anchoredInItems items
  | .mapping anchor tag entries =>
    (anchor.map (·, Node.mapping anchor tag entries)).toList ++ anchoredInEntries entries

def anchoredInItems : List Node → List (Nat × Node)
  | [] => []
  | item :: rest => anchored item ++ anchoredInItems rest

/-- The anchored nodes among keys and values. -/
def anchoredInEntries : List (Node × Node) → List (Nat × Node)
  | [] => []
  | (key, value) :: rest => anchored key ++ (anchored value ++ anchoredInEntries rest)

end

end Node

/-- A document: its tree, and where its aliases lead. -/
structure Document where
  root : Node
  targets : List (Nat × Node)
  steps : Nat

namespace Document

def ofRoot (root : Node) : Document := ⟨root, root.anchored.reverse, root.steps⟩

def target? (document : Document) (anchor : Nat) : Option Node :=
  (document.targets.find? (fun entry => entry.1 = anchor)).map (·.2)

/-- How often aliases may be followed while a document is read. -/
def jumpLimit (document : Document) : Nat := 100 * document.steps

end Document

end ChatFlow.Yaml

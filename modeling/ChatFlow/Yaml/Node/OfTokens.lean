import ChatFlow.Keyed
import ChatFlow.Yaml.Node
import ChatFlow.Yaml.Token.Layout

/-!
# Documents from tokens

`Document.ofText?` accepts a text that holds exactly one document.  Where a node may stand and
nothing is written, there is an empty scalar.

Fuel is spent on every nested call.  Between two calls a token is consumed or a single node is
read, so four times the number of tokens suffices.
-/

set_option autoImplicit false

namespace ChatFlow.Yaml

namespace Node

/-- What is known while tokens are read: those that remain, the numbers of the anchors met so far
and the beginnings that tag handles stand for. -/
structure Reading where
  tokens : List Token
  anchors : Keyed Nat := []
  handles : Keyed TagText := []

abbrev Read (α : Type) := StateT Reading Option α

namespace Read

def next : Read Token := do
  match (← get).tokens with
  | token :: _ => return token
  | [] => failure

def advance : Read Unit := modify fun reading => { reading with tokens := reading.tokens.drop 1 }

/-- Gives the node that follows an anchor.  Its number is the number of different names so far. -/
def newAnchor (name : String) : Read Nat := do
  let reading ← get
  let number := reading.anchors.length
  set { reading with anchors := reading.anchors.put name number }
  return number

def knownAnchor (name : String) : Read Nat := do
  match (← get).anchors.get? name with
  | some number => return number
  | none => failure

def fullTag (name : TagName) : Read TagText := do
  if name.handle.isEmpty then return name.suffix
  match (← get).handles.get? name.handle with
  | some beginning => return beginning ++ name.suffix
  | none => failure

def anchor? : Read (Option Nat) := do
  match ← next with
  | .anchor name => advance; return some (← newAnchor name)
  | _ => return none

def tag? : Read (Option TagText) := do
  match ← next with
  | .tag name => advance; return some (← fullTag name)
  | _ => return none

/-- An anchor and a tag, in either order; each may be missing. -/
def properties : Read (Option Nat × Option TagText) := do
  match ← anchor? with
  | some anchor => return (some anchor, ← tag?)
  | none =>
    match ← tag? with
    | some tag => return (← anchor?, some tag)
    | none => return (none, none)

/-- The node of which only properties are written; without any there must be more. -/
def bare (anchor : Option Nat) (tag : Option TagText) : Read Node :=
  if anchor.isSome || tag.isSome then return .scalar anchor tag true "" else failure

/-- Whether a token ends the value of an entry in a block. -/
def endsBlockValue : Token → Bool
  | .key | .value | .blockEnd => true
  | _ => false

/-- Whether a token ends an item of a block sequence. -/
def endsBlockItem (indented : Bool) : Token → Bool
  | .blockEntry | .blockEnd => true
  | .key | .value => !indented
  | _ => false

/-- Whether a token ends a value in a flow sequence. -/
def endsFlowItem : Token → Bool
  | .flowEntry | .flowSequenceEnd => true
  | _ => false

/-- Whether a token ends a value in a flow mapping. -/
def endsFlowValue : Token → Bool
  | .flowEntry | .flowMappingEnd => true
  | _ => false

mutual

/-- Reads a node.  Blocks may start only where `block` says so, and dashes at the column of the
mapping around them only where `dashes` says so. -/
def node (fuel : Nat) (block dashes : Bool) : Read Node :=
  match fuel with
  | 0 => failure
  | fuel + 1 => do
    match ← next with
    | .alias name => advance; return .alias (← knownAnchor name)
    | _ =>
      let (anchor, tag) ← properties
      match ← next with
      | .scalar plain text =>
        advance
        return .scalar anchor (if tag = some [33] then none else tag) plain text
      | .flowSequenceStart =>
        advance
        return .sequence anchor tag (← flowItems fuel true [])
      | .flowMappingStart =>
        advance
        return .mapping anchor tag (← flowEntries fuel true [])
      | .blockEntry =>
        if dashes then return .sequence anchor tag (← blockItems fuel false [])
        else bare anchor tag
      | .blockSequenceStart =>
        if block then
          advance
          return .sequence anchor tag (← blockItems fuel true [])
        else bare anchor tag
      | .blockMappingStart =>
        if block then
          advance
          return .mapping anchor tag (← blockEntries fuel [])
        else bare anchor tag
      | _ => bare anchor tag

/-- Reads a node unless the next token ends it. -/
def nodeUnless (fuel : Nat) (block dashes : Bool) (ends : Token → Bool) : Read Node :=
  match fuel with
  | 0 => failure
  | fuel + 1 => do
    if ends (← next) then return .empty else node fuel block dashes

/-- Reads the value behind a colon; without a colon it is empty. -/
def valueNode (fuel : Nat) (block : Bool) (ends : Token → Bool) : Read Node :=
  match fuel with
  | 0 => failure
  | fuel + 1 => do
    match ← next with
    | .value => advance; nodeUnless fuel block block ends
    | _ => return .empty

/-- Reads the items of a block.  An indented sequence has an end of its own; one at the column of
the mapping around it ends with the last dash. -/
def blockItems (fuel : Nat) (indented : Bool) (read : List Node) : Read (List Node) :=
  match fuel with
  | 0 => failure
  | fuel + 1 => do
    match ← next with
    | .blockEntry =>
      advance
      let item ← nodeUnless fuel true false (endsBlockItem indented)
      blockItems fuel indented (item :: read)
    | .blockEnd =>
      if indented then advance
      return read.reverse
    | _ => if indented then failure else return read.reverse

/-- Reads the keys and values of a block. -/
def blockEntries (fuel : Nat) (read : List (Node × Node)) : Read (List (Node × Node)) :=
  match fuel with
  | 0 => failure
  | fuel + 1 => do
    match ← next with
    | .key =>
      advance
      let key ← nodeUnless fuel true true endsBlockValue
      let value ← valueNode fuel true endsBlockValue
      blockEntries fuel ((key, value) :: read)
    | .blockEnd => advance; return read.reverse
    | _ => failure

/-- Reads the items of a flow sequence.  An item with a key is a mapping of one entry. -/
def flowItems (fuel : Nat) (first : Bool) (read : List Node) : Read (List Node) :=
  match fuel with
  | 0 => failure
  | fuel + 1 => do
    match ← next with
    | .flowSequenceEnd => advance; return read.reverse
    | token =>
      if !first then
        match token with
        | .flowEntry => advance
        | _ => failure
      match ← next with
      | .flowSequenceEnd => advance; return read.reverse
      | .key =>
        advance
        let entry ← flowPair fuel
        flowItems fuel false (.mapping none none [entry] :: read)
      | _ =>
        let item ← node fuel false false
        flowItems fuel false (item :: read)

/-- Reads a single entry of a flow sequence, from behind the token of its key.  The token behind
an empty key is passed over. -/
def flowPair (fuel : Nat) : Read (Node × Node) :=
  match fuel with
  | 0 => failure
  | fuel + 1 => do
    let token ← next
    let key ←
      match token with
      | .value | .flowEntry | .flowSequenceEnd => do
        advance
        pure Node.empty
      | _ => node fuel false false
    return (key, ← valueNode fuel false endsFlowItem)

/-- Reads the entries of a flow mapping.  An entry without the token of a key has no value. -/
def flowEntries (fuel : Nat) (first : Bool) (read : List (Node × Node)) :
    Read (List (Node × Node)) :=
  match fuel with
  | 0 => failure
  | fuel + 1 => do
    match ← next with
    | .flowMappingEnd => advance; return read.reverse
    | token =>
      if !first then
        match token with
        | .flowEntry => advance
        | _ => failure
      match ← next with
      | .flowMappingEnd => advance; return read.reverse
      | .key =>
        advance
        let key ← nodeUnless fuel false false fun token =>
          match token with
          | .value => true
          | token => endsFlowValue token
        let value ← valueNode fuel false endsFlowValue
        flowEntries fuel false ((key, value) :: read)
      | _ =>
        let key ← node fuel false false
        flowEntries fuel false ((key, .empty) :: read)

end

/-- Reads directives.  A version can be given once and must be 1.1 or 1.2; a handle can be given
once. -/
def directives (versioned : Bool) (handles : Keyed TagText) :
    List Token → Option (Keyed TagText × List Token)
  | .version major minor :: rest =>
    if !versioned ∧ major = 1 ∧ (minor = 1 ∨ minor = 2) then directives true handles rest
    else none
  | .tagHandle handle beginning :: rest =>
    if handles.has handle then none
    else directives versioned (handles ++ [(handle, beginning)]) rest
  | tokens => some (handles, tokens)

/-- What handles stand for that no directive gives. -/
def defaultHandles : Keyed TagText :=
  [("!", [33]), ("!!", "tag:yaml.org,2002:".toUTF8.toList)]

def followsDocument : Token → Bool
  | .version _ _ | .tagHandle _ _ | .documentStart | .documentEnd | .streamEnd => true
  | _ => false

/-- Reads the root of a document that starts with a marker if `marked`. -/
def root (fuel : Nat) (marked : Bool) : Read Node := do
  if marked && followsDocument (← next) then return .empty else node fuel true false

/-- Whether nothing but markers of a document's end comes up to the end of the stream. -/
def onlyEnd : List Token → Bool
  | .documentEnd :: rest => onlyEnd rest
  | [.streamEnd] => true
  | _ => false

end Read

/-- The root of the single document that tokens are. -/
def ofTokens? (tokens : List Token) : Option Node :=
  let fuel := 4 * tokens.length + 4
  let read (marked : Bool) (tokens : List Token) (handles : Keyed TagText) : Option Node :=
    match (Read.root fuel marked).run ⟨tokens, [], handles ++ Read.defaultHandles⟩ with
    | some (node, reading) => if Read.onlyEnd reading.tokens then some node else none
    | none => none
  match tokens with
  | .version _ _ :: _ | .tagHandle _ _ :: _ | .documentStart :: _ =>
    match Read.directives false [] tokens with
    | some (handles, .documentStart :: tokens) => read true tokens handles
    | _ => none
  | [.streamEnd] => none
  | tokens => read false tokens []

end Node

def Document.ofText? (text : String) : Option Document :=
  ((Token.ofText? text).bind Node.ofTokens?).map Document.ofRoot

end ChatFlow.Yaml

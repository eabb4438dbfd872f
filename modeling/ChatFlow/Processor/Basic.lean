import ChatFlow.Collaborator.Basic
import ChatFlow.Graph.Basic

/-!
# Processors

A processor does the work of one kind of node.  It gets the node and the state before it, and
says what the state is after it; on the way it may call collaborators and report events.
-/

set_option autoImplicit false

namespace ChatFlow

/-- What happened while some work was done, in order. -/
structure Trace where
  events : Array Event := #[]
  calls : Array Call := #[]
  elapsed : Elapsed := .zero

namespace Trace

def empty : Trace := {}

def report (trace : Trace) (event : Event) : Trace :=
  { trace with events := trace.events.push event }

def call (trace : Trace) (call : Call) : Trace :=
  { trace with calls := trace.calls.push call }

/-- What happened in one stretch of work and then in another. -/
def append (first second : Trace) : Trace where
  events := first.events ++ second.events
  calls := first.calls ++ second.calls
  elapsed := first.elapsed.plus second.elapsed

end Trace

/-- What a processor leaves behind: the state, the error if it failed, what happened, and the
world. -/
structure Processed (World : Type) where
  state : State
  failure : Option NodeError
  trace : Trace
  world : World

/-- The work of one kind of node.  A processor reads the message, the history and the log of a
state, but only the engine writes the log, and nobody the other two. -/
structure Processor (World : Type) where
  name : String
  process : Node → State → World → Processed World
  keeps : ∀ (node : Node) (state : State) (world : World),
    state.KeptIn (process node state world).state

namespace Processed

variable {World : Type}

def done (state : State) (trace : Trace) (world : World) : Processed World :=
  ⟨state, none, trace, world⟩

def failed (state : State) (error : NodeError) (trace : Trace) (world : World) :
    Processed World :=
  ⟨state, some error, trace, world⟩

end Processed

end ChatFlow

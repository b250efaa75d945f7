import Mathlib.Tactic.MkIffOfInductiveProp
import PodPlacement.Proofs.Affinity.Merging

/-!
# Repeats in a merged affinity

Merging appends what is new, so it never repeats a required term or a
preference of an affinity that is there. An absent affinity becomes the other
one as it stands, with the repeats that the other one has. Merging into no
affinity and merging into an empty one therefore agree exactly if the affinity
that comes in has no repeats.
-/

namespace PodPlacement.Affinity

/-- No required term and no preference is there twice. -/
@[mk_iff]
structure HasNoRepeats (affinity : Affinity) : Prop where
  required : affinity.requiredTerms.Nodup
  preferred : affinity.preferences.Nodup

instance (affinity : Affinity) : Decidable affinity.HasNoRepeats :=
  decidable_of_iff _ (hasNoRepeats_iff affinity).symm

/-! ## Into no affinity and into an empty one -/

/-- An empty affinity takes every term and preference once. -/
theorem content_merge_empty (incoming : Affinity) :
    content (some (merge (some {}) incoming)) =
      { content (some incoming) with
        required := incoming.requiredTerms.eraseDups
        preferred := incoming.preferences.eraseDups } := by
  simp only [content_merge, joined, required_content_some, preferred_content_some,
    ← nil_appendNew]
  rfl

/-- To merge into no affinity and to merge into an empty one is the same for an
affinity without repeats, and for no other. -/
theorem collapse_merge_none_eq_iff (incoming : Affinity) :
    collapse (some (merge none incoming)) = collapse (some (merge (some {}) incoming)) ↔
      incoming.HasNoRepeats := by
  have taken : merge none incoming = incoming := rfl
  rw [collapse_eq_collapse_iff, content_merge_empty, taken, hasNoRepeats_iff,
    ← eraseDups_eq_self_iff, ← eraseDups_eq_self_iff]
  constructor
  · intro equal
    have sameTerms := congrArg Content.required equal
    have samePreferences := congrArg Content.preferred equal
    rw [required_content_some] at sameTerms
    rw [preferred_content_some] at samePreferences
    exact ⟨sameTerms.symm, samePreferences.symm⟩
  · rintro ⟨sameTerms, samePreferences⟩
    rw [sameTerms, samePreferences, ← required_content_some, ← preferred_content_some]

/-! ## Into any affinity without repeats -/

/-- An affinity that is there gets no repeats. -/
theorem HasNoRepeats.merge {existing : Affinity} (noRepeats : existing.HasNoRepeats)
    (incoming : Affinity) : (Affinity.merge (some existing) incoming).HasNoRepeats := by
  have merged := content_merge (some existing) incoming
  constructor
  · rw [← required_content_some, merged, required_content_some, required_content_some]
    exact nodup_appendNew noRepeats.required _
  · rw [← preferred_content_some, merged, preferred_content_some, preferred_content_some]
    exact nodup_appendNew noRepeats.preferred _

/-- Merging into no affinity agrees with merging into an empty one exactly if the
affinity that comes in has no repeats. Without repeats before, there are repeats
afterwards only if there was no affinity and the one that came in has them. -/
theorem merge_repeats_iff (incoming : Affinity) :
    (collapse (some (merge none incoming)) = collapse (some (merge (some {}) incoming)) ↔
      incoming.HasNoRepeats) ∧
    ∀ existing : Option Affinity, (∀ affinity ∈ existing, affinity.HasNoRepeats) →
      ((merge existing incoming).HasNoRepeats ↔ existing = none → incoming.HasNoRepeats) := by
  constructor
  · exact collapse_merge_none_eq_iff incoming
  · intro existing noRepeats
    cases existing with
    | none =>
        constructor
        · exact fun merged _ => merged
        · exact fun incomes => incomes rfl
    | some existing =>
        constructor
        · exact fun _ absent => absurd absent (Option.some_ne_none existing)
        · exact fun _ => (noRepeats existing rfl).merge incoming

/-- Requires a zone twice and prefers a disk twice. -/
def doubled : Affinity :=
  { node := some
      { required := some
          ⟨[{ expressions := [⟨"zone", .isIn, ["us-east-1a"]⟩] },
            { expressions := [⟨"zone", .isIn, ["us-east-1a"]⟩] }]⟩
        preferred :=
          [⟨50, { expressions := [⟨"disk", .isIn, ["ssd"]⟩] }⟩,
            ⟨50, { expressions := [⟨"disk", .isIn, ["ssd"]⟩] }⟩] } }

/-- Requires a zone. -/
def zoned : Affinity :=
  requiring [{ expressions := [⟨"zone", .isIn, ["us-east-1a"]⟩] }]

/-- Merged into an affinity that has the zone already, the doubled affinity adds
one preference and no term. -/
theorem merge_zoned_doubled :
    (∀ affinity ∈ some zoned, affinity.HasNoRepeats) ∧
      (merge (some zoned) doubled).HasNoRepeats ∧
      (merge (some zoned) doubled).requiredTerms = zoned.requiredTerms ∧
      (merge (some zoned) doubled).preferences =
        [⟨50, { expressions := [⟨"disk", .isIn, ["ssd"]⟩] }⟩] := by
  have noRepeats : ∀ affinity ∈ some zoned, affinity.HasNoRepeats := by decide
  exact ⟨noRepeats, ((merge_repeats_iff doubled).2 _ noRepeats).mpr nofun, rfl, rfl⟩

/-- Merged into no affinity, the doubled affinity keeps its repeats, which it loses
in an empty one. -/
theorem merge_none_doubled :
    collapse (some (merge none doubled)) ≠ collapse (some (merge (some {}) doubled)) ∧
      ¬ (merge none doubled).requiredTerms.Nodup ∧ ¬ (merge none doubled).preferences.Nodup := by
  decide

end PodPlacement.Affinity

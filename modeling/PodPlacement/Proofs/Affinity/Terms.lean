import PodPlacement.Affinity.Node
import PodPlacement.Proofs.FirstOccurrences

/-!
# Adding terms to a hard constraint

The terms of a constraint stay where they are when others are added, repeats
included. What is added stands behind them: every new term once, in the order in
which the new terms first occur. Terms can be added in several goes or all at once.
Only a constraint that is absent, and gets no terms, stays absent.
-/

namespace PodPlacement.NodeSelector

@[simp]
theorem termsOf_mergeTerms (existing : Option NodeSelector) (terms : List NodeTerm) :
    termsOf (mergeTerms existing terms) = appendNew (termsOf existing) terms := by
  rw [mergeTerms]
  split
  · next nothing => rw [List.isEmpty_iff.mp nothing, appendNew_nil]
  · rfl

theorem mergeTerms_nil (existing : Option NodeSelector) : mergeTerms existing [] = existing :=
  rfl

/-- With terms to add there is a constraint afterwards, present or not before. -/
theorem mergeTerms_of_ne_nil (existing : Option NodeSelector) {terms : List NodeTerm}
    (nonempty : terms ≠ []) :
    mergeTerms existing terms = some ⟨appendNew (termsOf existing) terms⟩ := by
  rw [mergeTerms, if_neg (by simpa using nonempty)]

theorem mergeTerms_eq_none_iff {existing : Option NodeSelector} {terms : List NodeTerm} :
    mergeTerms existing terms = none ↔ existing = none ∧ terms = [] := by
  cases terms with
  | nil => simp [mergeTerms_nil]
  | cons term terms => simp [mergeTerms_of_ne_nil]

/-- Terms can be added one list after the other or both lists at once. -/
theorem mergeTerms_append (existing : Option NodeSelector) (first second : List NodeTerm) :
    mergeTerms existing (first ++ second) = mergeTerms (mergeTerms existing first) second := by
  by_cases noneFirst : first = []
  · rw [noneFirst, List.nil_append, mergeTerms_nil]
  by_cases noneSecond : second = []
  · rw [noneSecond, List.append_nil, mergeTerms_nil]
  · rw [mergeTerms_of_ne_nil _ (by simp [noneFirst]), mergeTerms_of_ne_nil _ noneSecond,
      termsOf_mergeTerms, appendNew_append]

/-- Terms that were added are there, so adding them again changes nothing. -/
theorem mergeTerms_mergeTerms_self (existing : Option NodeSelector) (terms : List NodeTerm) :
    mergeTerms (mergeTerms existing terms) terms = mergeTerms existing terms := by
  by_cases nothing : terms = []
  · rw [nothing, mergeTerms_nil]
  · have there : ∀ term ∈ terms, term ∈ appendNew (termsOf existing) terms := by
      intro term member
      exact (mem_appendNew _ _ _).mpr (.inr member)
    rw [mergeTerms_of_ne_nil _ nothing, termsOf_mergeTerms, appendNew_eq_self there,
      mergeTerms_of_ne_nil _ nothing]

/-- Adding terms appends the first occurrences of the new ones and leaves no term out.
It can be done in several goes, and once done it need not be done again. -/
theorem mergeTerms_appends (existing : Option NodeSelector) (terms : List NodeTerm) :
    (∃ added, termsOf (mergeTerms existing terms) = termsOf existing ++ added ∧ added.Nodup ∧
      FirstOccurrences (terms.filter fun term => term ∉ termsOf existing) added) ∧
    (∀ term ∈ terms, term ∈ termsOf (mergeTerms existing terms)) ∧
    (mergeTerms existing terms = none ↔ existing = none ∧ terms = []) ∧
    (∀ others, mergeTerms (mergeTerms existing terms) others =
      mergeTerms existing (terms ++ others)) ∧
    mergeTerms (mergeTerms existing terms) terms = mergeTerms existing terms := by
  refine ⟨⟨(terms.removeAll (termsOf existing)).eraseDups, ?starts, nodup_eraseDups _, ?firsts⟩,
    ?kept, mergeTerms_eq_none_iff, ?inTurn, mergeTerms_mergeTerms_self existing terms⟩
  case starts => exact termsOf_mergeTerms existing terms
  case firsts =>
    have chosen : (terms.filter fun term => term ∉ termsOf existing) =
        terms.removeAll (termsOf existing) := by
      simp [List.removeAll]
    rw [chosen]
    exact firstOccurrences_eraseDups _
  case kept =>
    intro term member
    rw [termsOf_mergeTerms, mem_appendNew]
    exact .inr member
  case inTurn =>
    intro others
    exact (mergeTerms_append existing terms others).symm

/-- The term of one zone. -/
def zoneTerm (zone : String) : NodeTerm :=
  { expressions := [⟨"zone", .isIn, [zone]⟩] }

/-- The constraint keeps its repeat, and of the terms that come in the new ones are
appended, each once and the one that comes first before the other. -/
theorem mergeTerms_appends_zones :
    mergeTerms (some ⟨[zoneTerm "a", zoneTerm "a"]⟩)
        [zoneTerm "c", zoneTerm "a", zoneTerm "b", zoneTerm "c"] =
      some ⟨[zoneTerm "a", zoneTerm "a", zoneTerm "c", zoneTerm "b"]⟩ ∧
    zoneTerm "b" ∈ [zoneTerm "c", zoneTerm "a", zoneTerm "b", zoneTerm "c"] ∧
    zoneTerm "b" ∈ termsOf (mergeTerms (some ⟨[zoneTerm "a", zoneTerm "a"]⟩)
      [zoneTerm "c", zoneTerm "a", zoneTerm "b", zoneTerm "c"]) := by
  have member : zoneTerm "b" ∈ [zoneTerm "c", zoneTerm "a", zoneTerm "b", zoneTerm "c"] := by
    decide
  exact ⟨by decide, member, (mergeTerms_appends _ _).2.1 _ member⟩

end PodPlacement.NodeSelector

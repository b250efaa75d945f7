import PodPlacement.Proofs.Constraints.ModeChange

/-!
# What mode changes leave behind

Constraints that are enriched for one mode after another hold nothing but what
they held at first and what the preemptible nodes put there, and neither piles
up. One enrichment keeps the bounds because it replaces the required terms,
prunes them, or leaves them alone; what pruning leaves of a derived term is a
derived term, and what it leaves of another one is a part of it.
-/

namespace PodPlacement

/-! ## Parts of terms -/

namespace NodeTerm

/-- The term with some of its requirements on labels left out. -/
structure IsPartOf (part whole : NodeTerm) : Prop where
  expressions : part.expressions.Sublist whole.expressions
  fields : part.fields = whole.fields

theorem IsPartOf.refl (term : NodeTerm) : term.IsPartOf term :=
  ⟨List.Sublist.refl _, rfl⟩

theorem IsPartOf.prune {part whole : NodeTerm} (isPart : part.IsPartOf whole)
    (pruned : List NodeRequirement) : (part.prune pruned).IsPartOf whole where
  expressions := List.filter_sublist.trans isPart.expressions
  fields := isPart.fields

end NodeTerm

namespace Constraints

/-- The constraints hold no more than the original ones and the preemptible nodes
of a source account for. -/
structure StaysWithin (constraints original : Constraints) (source : Source) : Prop where
  requiredCount : constraints.requiredTerms.length ≤
    max original.requiredTerms.length source.labels.entries.length
  tolerationCount : (constraints.tolerations.getD []).length ≤
    (original.tolerations.getD []).length + source.tolerations.eraseDups.length
  tolerations : ∀ toleration ∈ constraints.tolerations.getD [],
    toleration ∈ original.tolerations.getD [] ∨ toleration ∈ source.tolerations
  required : ∀ term ∈ constraints.requiredTerms,
    term ∈ source.terms ∨ term ∈ source.antiTerms ∨
      ∃ whole ∈ original.requiredTerms, term.IsPartOf whole
  nodeLabels : constraints.nodeLabels.entries ⊆ original.nodeLabels.entries

theorem staysWithin_self (constraints : Constraints) (source : Source) :
    constraints.StaysWithin constraints source where
  requiredCount := Nat.le_max_left _ _
  tolerationCount := Nat.le_add_right _ _
  tolerations _ member := .inl member
  required term member := .inr (.inr ⟨term, member, .refl term⟩)
  nodeLabels := List.Subset.refl _

/-! ## One enrichment -/

/-- If a source follows its labels, an enrichment leaves the required terms alone,
replaces them by derived ones, or prunes them; pruning takes the attracting terms
away and leaves the excluding ones as they are or takes them away too. -/
theorem requiredTerms_enrich_cases_of_followsLabels (constraints : Constraints)
    {source : Source} (follows : source.FollowsLabels) (mode : Mode) :
    (constraints.enrich source mode).requiredTerms = constraints.requiredTerms ∨
    (constraints.enrich source mode).requiredTerms = source.terms ∨
    (constraints.enrich source mode).requiredTerms = source.antiTerms ∨
    ∃ pruned, NodeTerm.remaining source.terms pruned = [] ∧
      NodeTerm.remaining source.antiTerms pruned ⊆ source.antiTerms ∧
      (constraints.enrich source mode).requiredTerms =
        NodeTerm.remaining constraints.requiredTerms pruned := by
  cases configured : source.isConfigured with
  | false =>
      left
      rw [enrich_of_not_configured _ _ configured]
  | true =>
      rw [requiredTerms_enrich _ _ configured, ← required_content]
      cases mode with
      | off => exact .inl rfl
      | constrain => exact .inr (.inl rfl)
      | prevent =>
          right
          right
          rw [Content.enrich]
          by_cases untainted : source.tolerations.isEmpty = true
          · exact .inl (if_pos untainted)
          · refine .inr ⟨source.requirements .isIn, ?_, ?_, if_neg untainted⟩
            · exact follows.remaining_terms fun _ member => member
            · intro term member
              rcases NodeTerm.mem_remaining member with ⟨earlier, excluding, rfl⟩
              rw [NodeTerm.prune_eq_self fun _ required =>
                follows.not_mem_isIn_of_mem_antiTerms excluding required]
              exact excluding
      | allow =>
          right
          right
          right
          refine ⟨source.requirements .notIn ++ source.requirements .isIn, ?_, ?_, rfl⟩
          · exact follows.remaining_terms fun _ member => List.mem_append_right _ member
          · rw [follows.remaining_antiTerms fun _ member => List.mem_append_left _ member]
            exact List.nil_subset _

namespace StaysWithin

variable {constraints original : Constraints} {source : Source}

/-- What pruning leaves is accounted for, if it takes the attracting terms away and
leaves no others in place of the excluding ones. -/
theorem required_remaining (within : constraints.StaysWithin original source)
    {pruned : List NodeRequirement}
    (noTerms : NodeTerm.remaining source.terms pruned = [])
    (onlyAntiTerms : NodeTerm.remaining source.antiTerms pruned ⊆ source.antiTerms) :
    ∀ term ∈ NodeTerm.remaining constraints.requiredTerms pruned,
      term ∈ source.terms ∨ term ∈ source.antiTerms ∨
        ∃ whole ∈ original.requiredTerms, term.IsPartOf whole := by
  intro term member
  rcases NodeTerm.mem_remaining_iff.mp member with ⟨earlier, required, left⟩
  rcases within.required earlier required with attracting | excluding | isPart
  · have leftOfTerms : term ∈ NodeTerm.remaining source.terms pruned :=
      NodeTerm.mem_remaining_iff.mpr ⟨earlier, attracting, left⟩
    rw [noTerms] at leftOfTerms
    exact absurd leftOfTerms List.not_mem_nil
  · exact .inr (.inl (onlyAntiTerms (NodeTerm.mem_remaining_iff.mpr ⟨earlier, excluding, left⟩)))
  · rcases isPart with ⟨whole, wholeRequired, isPart⟩
    rcases NodeTerm.mem_remaining left with ⟨_, isEarlier, rfl⟩
    rw [List.mem_singleton.mp isEarlier]
    exact .inr (.inr ⟨whole, wholeRequired, isPart.prune pruned⟩)

/-- Merging in the tolerations of the source keeps to their number. -/
theorem length_merge_le (within : constraints.StaysWithin original source) :
    (Toleration.merge (constraints.tolerations.getD []) source.tolerations).length ≤
      (original.tolerations.getD []).length + source.tolerations.eraseDups.length := by
  rw [← List.length_append]
  apply Toleration.length_merge_le
  intro toleration member
  rw [List.mem_append, List.mem_eraseDups]
  rcases (Toleration.mem_merge _ _ _).mp member with held | incoming
  · exact within.tolerations toleration held
  · exact .inr incoming

theorem enrich_required (within : constraints.StaysWithin original source)
    (follows : source.FollowsLabels) (mode : Mode) :
    ∀ term ∈ (constraints.enrich source mode).requiredTerms,
      term ∈ source.terms ∨ term ∈ source.antiTerms ∨
        ∃ whole ∈ original.requiredTerms, term.IsPartOf whole := by
  rcases constraints.requiredTerms_enrich_cases_of_followsLabels follows mode with
    kept | replaced | replaced | ⟨pruned, noTerms, onlyAntiTerms, left⟩
  · rw [kept]
    exact within.required
  · rw [replaced]
    exact fun _ member => .inl member
  · rw [replaced]
    exact fun _ member => .inr (.inl member)
  · rw [left]
    exact within.required_remaining noTerms onlyAntiTerms

theorem enrich_requiredCount (within : constraints.StaysWithin original source)
    (follows : source.FollowsLabels) (mode : Mode) :
    (constraints.enrich source mode).requiredTerms.length ≤
      max original.requiredTerms.length source.labels.entries.length := by
  rcases constraints.requiredTerms_enrich_cases_of_followsLabels follows mode with
    kept | replaced | replaced | ⟨pruned, _, _, left⟩
  · rw [kept]
    exact within.requiredCount
  · rw [replaced, follows.length_terms]
    exact Nat.le_max_right _ _
  · rw [replaced]
    exact Nat.le_trans follows.length_antiTerms_le (Nat.le_max_right _ _)
  · rw [left]
    exact Nat.le_trans (NodeTerm.length_remaining_le _ _) within.requiredCount

/-- Whatever mode comes next, the constraints stay within the same bounds. -/
theorem enrich (within : constraints.StaysWithin original source)
    (follows : source.FollowsLabels) (mode : Mode) :
    (constraints.enrich source mode).StaysWithin original source := by
  cases configured : source.isConfigured with
  | false =>
      rw [enrich_of_not_configured _ _ configured]
      exact within
  | true =>
      constructor
      case requiredCount => exact within.enrich_requiredCount follows mode
      case required => exact within.enrich_required follows mode
      case tolerationCount =>
        rcases tolerations_enrich_cases mode configured with kept | pruned | merged
        · rw [kept]
          exact within.tolerationCount
        · rw [pruned]
          exact Nat.le_trans (Toleration.length_prune_le _ _) within.tolerationCount
        · rw [merged]
          exact within.length_merge_le
      case tolerations =>
        intro toleration member
        rcases tolerations_enrich_cases mode configured with kept | pruned | merged
        · rw [kept] at member
          exact within.tolerations toleration member
        · rw [pruned, Toleration.mem_prune] at member
          exact within.tolerations toleration member.1
        · rw [merged, Toleration.mem_merge] at member
          exact member.elim (within.tolerations toleration) .inr
      case nodeLabels =>
        rcases nodeLabels_enrich_cases mode configured with kept | pruned
        · rw [kept]
          exact within.nodeLabels
        · rw [pruned]
          exact fun _ member => within.nodeLabels (List.mem_of_mem_filter member)

end StaysWithin

/-! ## Sequences of modes -/

/-- Constraints that are enriched for any sequence of modes, one after the other,
stay within what they held at first and what the preemptible nodes account for.
Since this is said of every sequence, it holds after each mode of a longer one. -/
theorem staysWithin_enrichEach (original : Constraints) {source : Source}
    (follows : source.FollowsLabels) (modes : List Mode) :
    (original.enrichEach source modes).StaysWithin original source := by
  induction modes using List.reverseRecOn with
  | nil => exact original.staysWithin_self source
  | append_singleton modes mode inductionHypothesis =>
      rw [enrichEach_concat]
      exact inductionHypothesis.enrich follows mode

/-- Constraints with a toleration twice, and with a term that pruning cuts. -/
def repetitive : Constraints :=
  { affinity := some (.requiring
      [{ expressions := [⟨"node-type", .isIn, ["spot"]⟩, ⟨"zone", .isIn, ["us-east-1a"]⟩] },
        { expressions := [⟨"zone", .isIn, ["us-east-1b"]⟩] }])
    tolerations := some [.anyValue "gpu" .noSchedule, .anyValue "gpu" .noSchedule] }

/-- The term is cut, its other requirement stays, and the repeated toleration is
merged with the one of the spot nodes. -/
theorem staysWithin_enrichEach_repetitive :
    (PreemptibleNodes.tainted : Source).FollowsLabels ∧
      repetitive.enrichEach PreemptibleNodes.tainted [.prevent, .allow] =
        { affinity := some (.requiring
            [{ expressions := [⟨"zone", .isIn, ["us-east-1a"]⟩] },
              { expressions := [⟨"zone", .isIn, ["us-east-1b"]⟩] }])
          tolerations :=
            some [.anyValue "gpu" .noSchedule, .anyValue "preempt" .noSchedule] } ∧
      (repetitive.enrichEach PreemptibleNodes.tainted [.prevent, .allow]).StaysWithin
        repetitive PreemptibleNodes.tainted := by
  have follows : (PreemptibleNodes.tainted : Source).FollowsLabels :=
    Source.followsLabels_derived _
  exact ⟨follows, rfl, staysWithin_enrichEach repetitive follows _⟩

end Constraints

end PodPlacement

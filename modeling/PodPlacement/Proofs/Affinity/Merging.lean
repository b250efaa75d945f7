import PodPlacement.Proofs.Affinity.Content
import PodPlacement.Proofs.Affinity.Terms

/-!
# Merging affinities

Folding an affinity into another one joins the lists of their contents and
replaces what they say about other pods. A list is joined in two ways: new
entries are appended to an affinity that is there, but an affinity that is
absent becomes the other one as it stands, repeats included. What is there
already is never added, so both ways agree once a list has been joined.
-/

namespace PodPlacement

theorem NodeAffinity.requiredTerms_merge (existing incoming : NodeAffinity) :
    (existing.merge incoming).requiredTerms =
      appendNew existing.requiredTerms incoming.requiredTerms :=
  NodeSelector.termsOf_mergeTerms existing.required incoming.requiredTerms

theorem PodAffinity.getD_orElse (incoming existing : Option PodAffinity) :
    (incoming <|> existing).getD {} = incoming.getD (existing.getD {}) := by
  cases incoming <;> rfl

namespace Affinity

section Joined

variable {α : Type} [DecidableEq α]

/-- A list of an affinity joined with the incoming one. -/
def joined (existing : Option Affinity) (entries incoming : List α) : List α :=
  match existing with
  | none => incoming
  | some _ => appendNew entries incoming

variable {existing : Option Affinity} {entries incoming : List α}

theorem mem_joined_of_mem_incoming {entry : α} (member : entry ∈ incoming) :
    entry ∈ joined existing entries incoming := by
  cases existing with
  | none => exact member
  | some existing => exact (mem_appendNew _ _ _).mpr (.inr member)

/-- Only entries that are not there yet are added. -/
theorem joined_eq_append (absent : existing = none → entries = []) (incoming : List α) :
    ∃ fresh, joined existing entries incoming = entries ++ fresh ∧
      ∀ entry, entry ∈ fresh ↔ entry ∈ incoming ∧ entry ∉ entries := by
  cases existing with
  | none =>
      refine ⟨incoming, by simp [joined, absent rfl], ?_⟩
      simp [absent rfl]
  | some existing =>
      refine ⟨(incoming.removeAll entries).eraseDups, rfl, ?_⟩
      intro entry
      rw [List.mem_eraseDups, mem_removeAll]

theorem joined_eq_self (absent : existing = none → entries = [])
    (subset : ∀ entry ∈ incoming, entry ∈ entries) :
    joined existing entries incoming = entries := by
  obtain ⟨fresh, equal, mem_fresh⟩ := joined_eq_append absent incoming
  have nothingNew : fresh = [] := by
    rw [List.eq_nil_iff_forall_not_mem]
    intro entry member
    have ⟨incomes, new⟩ := (mem_fresh entry).mp member
    exact new (subset entry incomes)
  rw [equal, nothingNew, List.append_nil]

end Joined

/-- Merging joins the lists and replaces the rest. -/
theorem content_merge (existing : Option Affinity) (incoming : Affinity) :
    content (some (merge existing incoming)) =
      { required := joined existing (content existing).required
          (content (some incoming)).required
        preferred := joined existing (content existing).preferred
          (content (some incoming)).preferred
        pod := incoming.pod.getD (content existing).pod
        podAnti := incoming.podAnti.getD (content existing).podAnti } := by
  rcases existing with _ | ⟨node, pod, podAnti⟩
  · rfl
  · rcases incoming with ⟨incomingNode, incomingPod, incomingAnti⟩
    cases incomingNode with
    | none => simp [merge, content, joined, NodeAffinity.requiredTerms, NodeSelector.termsOf]
    | some incomingNode =>
        simp only [merge, content, joined, Option.getD_some,
          NodeAffinity.requiredTerms_merge, PodAffinity.getD_orElse]
        rfl

/-- Affinity to other pods is replaced if an affinity comes in that has some. -/
theorem pods_content_merge (existing : Option Affinity) (incoming : Affinity) (side : Side) :
    (content (some (merge existing incoming))).pods side =
      (pods (some incoming) side <|> pods existing side).getD {} := by
  rw [content_merge, PodAffinity.getD_orElse, ← pods_content]
  cases side <;> rfl

/-- Merging an affinity again, into what differs from the first merge in the
required terms at most, joins the required terms and changes nothing else. -/
theorem content_merge_again {existing merged : Option Affinity} {incoming : Affinity}
    (left : content merged =
      { content (some (merge existing incoming)) with
        required := (content merged).required }) :
    content (some (merge merged incoming)) =
      { content merged with
        required := joined merged (content merged).required
          (content (some incoming)).required } := by
  have samePreferred : joined merged (content merged).preferred
      (content (some incoming)).preferred = (content merged).preferred := by
    apply joined_eq_self preferred_content_of_eq_none
    intro preference member
    rw [left, content_merge]
    exact mem_joined_of_mem_incoming member
  have samePods (incoming : Option PodAffinity) (other : PodAffinity) :
      incoming.getD (incoming.getD other) = incoming.getD other := by
    cases incoming <;> rfl
  rw [content_merge, samePreferred, left, content_merge]
  simp only [samePods]

/-- Merging an affinity into what collapsing has left of the first merge changes
nothing. -/
theorem content_merge_collapse_merge (existing : Option Affinity) (incoming : Affinity) :
    content (some (merge (collapse (some (merge existing incoming))) incoming)) =
      content (some (merge existing incoming)) := by
  have collapsed : content (collapse (some (merge existing incoming))) =
      content (some (merge existing incoming)) :=
    content_collapse _
  have subset : ∀ term ∈ (content (some incoming)).required,
      term ∈ (content (collapse (some (merge existing incoming)))).required := by
    intro term member
    rw [collapsed, content_merge]
    exact mem_joined_of_mem_incoming member
  rw [content_merge_again (by rw [collapsed]), joined_eq_self required_content_of_eq_none subset]
  exact collapsed

/-! ## Pruning what was joined -/

/-- Joining terms again with what pruning has left of them and others, and
pruning again, adds to the list exactly if pruning cuts one of them: a cut term
is not there as it was written. -/
theorem remaining_joined {existing : Option Affinity} {terms incoming : List NodeTerm}
    {pruned : List NodeRequirement}
    (absent : existing = none → NodeTerm.remaining terms pruned = [])
    (subset : ∀ term ∈ incoming, term ∈ terms) :
    ∃ grown,
      NodeTerm.remaining (joined existing (NodeTerm.remaining terms pruned) incoming) pruned =
        NodeTerm.remaining terms pruned ++ grown ∧
      (grown = [] ↔ ∀ term ∈ incoming, ¬ term.IsCut pruned) := by
  obtain ⟨fresh, equal, mem_fresh⟩ := joined_eq_append absent incoming
  refine ⟨NodeTerm.remaining fresh pruned, ?_, ?_⟩
  · rw [equal, NodeTerm.remaining_append, NodeTerm.remaining_remaining_self]
  rw [NodeTerm.remaining_eq_nil_iff]
  constructor
  · intro emptied term incomes cut
    by_cases there : term ∈ NodeTerm.remaining terms pruned
    · exact cut.1 (NodeTerm.prune_eq_self_of_mem_remaining there)
    · have ⟨_, empty⟩ := emptied term ((mem_fresh term).mpr ⟨incomes, there⟩)
      rw [cut.2] at empty
      exact Bool.noConfusion empty
  · intro uncut term member
    have ⟨incomes, new⟩ := (mem_fresh term).mp member
    constructor
    · rintro rfl
      exact new (subset term incomes)
    · cases notEmpty : (term.prune pruned).isEmpty with
      | true => rfl
      | false =>
          exact absurd (NodeTerm.mem_remaining_of_not_isCut (subset term incomes)
            (uncut term incomes) notEmpty) new

end Affinity

end PodPlacement

import PodPlacement.Proofs.PodSpec
import PodPlacement.Proofs.Results
import PodPlacement.Proofs.Source

/-!
# Why a document is refused

Whether a document becomes a specification is decided by the two names in it and
by the classes of the cluster. The mode is looked at first, so that a document
with two unknown names is refused for its mode. The constraints of a document and
the preemptible nodes of a cluster have a part in the specification, but not in
whether there is one.
-/

namespace PodPlacement

/-! ## Names -/

theorem givenName_eq_some_iff {name : Option String} {given : String} :
    givenName name = some given ↔ name = some given ∧ given ≠ "" := by
  simp [givenName, Option.filter_eq_some_iff]

theorem givenName_eq_none_iff {name : Option String} :
    givenName name = none ↔ ∀ given ∈ name, given = "" := by
  simp [givenName, Option.filter_eq_none_iff]

namespace SpecDocument

/-! ## The rule -/

/-- A document names a mode that does not exist. An empty name counts as none. -/
structure NamesUnknownMode (document : SpecDocument) (name : String) : Prop where
  named : document.modeName = some name
  notEmpty : name ≠ ""
  unknown : ∀ mode : Mode, mode.name ≠ name

/-- The class that a document asks for is the one it names, or else the default
one. An empty name counts as none. -/
inductive AsksForClass (document : SpecDocument) (classes : PriorityClasses) : String → Prop
  | named {name : String} : document.priorityClass = some name → name ≠ "" →
      AsksForClass document classes name
  | default {name : String} : (∀ given ∈ document.priorityClass, given = "") →
      classes.default = some name → AsksForClass document classes name

/-- Why a document is refused: for its mode, or else for its class. -/
inductive IsRefused (document : SpecDocument) (classes : PriorityClasses) : SpecError → Prop
  | unknownMode {name : String} : document.NamesUnknownMode name →
      IsRefused document classes (.unknownMode name)
  | classNotAllowed {name : String} : (∀ mode, ¬ document.NamesUnknownMode mode) →
      document.AsksForClass classes name → name ∉ classes.valid →
      IsRefused document classes (.classNotAllowed name classes.valid)

/-- Documents with the same names are refused for the same reason. -/
theorem IsRefused.of_names {document other : SpecDocument} {classes : PriorityClasses}
    {refusal : SpecError} (refused : document.IsRefused classes refusal)
    (sameMode : other.modeName = document.modeName)
    (sameClass : other.priorityClass = document.priorityClass) :
    other.IsRefused classes refusal := by
  cases refused with
  | unknownMode names =>
      exact .unknownMode ⟨sameMode.trans names.named, names.notEmpty, names.unknown⟩
  | classNotAllowed known asks invalid =>
      refine .classNotAllowed ?_ ?_ invalid
      · intro mode names
        exact known mode ⟨sameMode.symm.trans names.named, names.notEmpty, names.unknown⟩
      · cases asks with
        | named named notEmpty => exact .named (sameClass.trans named) notEmpty
        | default unnamed isDefault => exact .default (sameClass ▸ unnamed) isDefault

/-! ## What the rule has to do with the lookups -/

variable (document : SpecDocument) (source : Source) (classes : PriorityClasses)

/-- No mode is found exactly for an unknown name. -/
theorem modeNamed_eq_error_iff {refusal : SpecError} :
    Placement.modeNamed source document.modeName = .error refusal ↔
      ∃ name, document.NamesUnknownMode name ∧ refusal = .unknownMode name := by
  rw [Placement.modeNamed]
  split
  · next notGiven =>
      constructor
      · rintro ⟨⟩
      · rintro ⟨name, names, _⟩
        exact absurd (givenName_eq_none_iff.mp notGiven name names.named) names.notEmpty
  · next given isGiven =>
      obtain ⟨named, notEmpty⟩ := givenName_eq_some_iff.mp isGiven
      split
      · next mode found =>
          constructor
          · rintro ⟨⟩
          · rintro ⟨name, names, _⟩
            cases named.symm.trans names.named
            exact absurd ((Mode.ofName?_eq_some_iff given mode).mp found) (names.unknown mode)
      · next notFound =>
          have unknown := (Mode.ofName?_eq_none_iff given).mp notFound
          constructor
          · rintro ⟨⟩
            exact ⟨given, ⟨named, notEmpty, unknown⟩, rfl⟩
          · rintro ⟨name, names, rfl⟩
            cases named.symm.trans names.named
            rfl

/-- Building a placement fails only if no mode is found. -/
theorem build_eq_error_iff {refusal : SpecError} :
    Placement.build source document.constraints document.modeName = .error refusal ↔
      ∃ name, document.NamesUnknownMode name ∧ refusal = .unknownMode name := by
  rw [Placement.build, Placement.setMode, map_eq_error_iff, modeNamed_eq_error_iff]

theorem chosen_eq_some_iff {name : String} :
    classes.chosen document.priorityClass = some name ↔
      document.AsksForClass classes name := by
  rw [PriorityClasses.chosen]
  cases given : givenName document.priorityClass with
  | none =>
      have unnamed := givenName_eq_none_iff.mp given
      constructor
      · exact fun isDefault => .default unnamed isDefault
      · rintro (⟨named, notEmpty⟩ | ⟨_, isDefault⟩)
        · exact absurd (unnamed name named) notEmpty
        · exact isDefault
  | some chosen =>
      obtain ⟨named, notEmpty⟩ := givenName_eq_some_iff.mp given
      constructor
      · rintro ⟨⟩
        exact .named named notEmpty
      · rintro (⟨alsoNamed, _⟩ | ⟨unnamed, _⟩)
        · exact named.symm.trans alsoNamed
        · exact absurd (unnamed chosen named) notEmpty

/-- A class is refused exactly if it is asked for and not valid. -/
theorem assign_eq_error_iff {refusal : SpecError} :
    classes.assign document.priorityClass = .error refusal ↔
      ∃ name, document.AsksForClass classes name ∧ name ∉ classes.valid ∧
        refusal = .classNotAllowed name classes.valid := by
  simp only [← chosen_eq_some_iff]
  rw [PriorityClasses.assign]
  cases classes.chosen document.priorityClass with
  | none => simp
  | some chosen => by_cases valid : chosen ∈ classes.valid <;> simp [valid, eq_comm]

/-! ## Documents -/

/-- A document is refused when no placement can be built, or when one can and the
class is refused. -/
theorem toSpec_eq_error_iff {refusal : SpecError} :
    document.toSpec source classes = .error refusal ↔
      Placement.build source document.constraints document.modeName = .error refusal ∨
      (∀ other, Placement.build source document.constraints document.modeName ≠ .error other) ∧
        classes.assign document.priorityClass = .error refusal := by
  rw [toSpec_eq]
  cases Placement.build source document.constraints document.modeName <;>
    cases classes.assign document.priorityClass <;> simp

theorem toSpec_eq_error_iff_isRefused {refusal : SpecError} :
    document.toSpec source classes = .error refusal ↔ document.IsRefused classes refusal := by
  simp only [toSpec_eq_error_iff, ne_eq, build_eq_error_iff, assign_eq_error_iff]
  constructor
  · rintro (⟨name, names, rfl⟩ | ⟨known, name, asks, invalid, rfl⟩)
    · exact .unknownMode names
    · exact .classNotAllowed (fun mode names => known _ ⟨mode, names, rfl⟩) asks invalid
  · rintro (⟨names⟩ | ⟨known, asks, invalid⟩)
    · exact .inl ⟨_, names, rfl⟩
    · refine .inr ⟨?_, _, asks, invalid, rfl⟩
      rintro other ⟨mode, names, _⟩
      exact known mode names

/-- A document is refused for its mode, or else for its class, and becomes a
specification otherwise. Documents with the same names are refused for the same
reason or both accepted, whatever the preemptible nodes are. -/
theorem toSpec_judged :
    (∀ refusal, document.toSpec source classes = .error refusal ↔
      document.IsRefused classes refusal) ∧
    ((∃ spec, document.toSpec source classes = .ok spec) ↔
      ∀ refusal, ¬ document.IsRefused classes refusal) ∧
    ∀ (other : SpecDocument) (otherSource : Source),
      other.modeName = document.modeName → other.priorityClass = document.priorityClass →
      (∃ refusal, document.toSpec source classes = .error refusal ∧
        other.toSpec otherSource classes = .error refusal) ∨
      (∃ spec, document.toSpec source classes = .ok spec) ∧
        ∃ spec, other.toSpec otherSource classes = .ok spec := by
  refine ⟨?refused, ?accepted, ?sameNames⟩
  case refused =>
    intro refusal
    exact toSpec_eq_error_iff_isRefused document source classes
  case accepted =>
    rw [exists_eq_ok_iff]
    simp only [ne_eq, toSpec_eq_error_iff_isRefused]
  case sameNames =>
    intro other otherSource sameMode sameClass
    apply both_error_or_both_ok
    intro refusal
    rw [toSpec_eq_error_iff_isRefused, toSpec_eq_error_iff_isRefused]
    constructor
    · exact fun refused => refused.of_names sameMode sameClass
    · exact fun refused => refused.of_names sameMode.symm sameClass.symm

/-- Asks for a class, for a mode and for a node with a disk. -/
def urgent : SpecDocument :=
  { priorityClass := some "urgent"
    constraints := { nodeLabels := .ofList [("disk", "ssd")] }
    modeName := some "allow" }

/-- Asks for the same class and mode, and for nothing else. -/
def urgentAnywhere : SpecDocument :=
  { priorityClass := some "urgent", modeName := some "allow" }

/-- The class is not valid, so both documents are refused for it, whether anything is
known about preemptible nodes or not. -/
theorem toSpec_judged_urgent :
    urgentAnywhere.modeName = urgent.modeName ∧
      urgentAnywhere.priorityClass = urgent.priorityClass ∧
      urgent.toSpec PreemptibleNodes.tainted { valid := ["standard"] } =
        .error (.classNotAllowed "urgent" ["standard"]) ∧
      urgentAnywhere.toSpec {} { valid := ["standard"] } =
        .error (.classNotAllowed "urgent" ["standard"]) := by
  have refused : urgent.toSpec PreemptibleNodes.tainted { valid := ["standard"] } =
      .error (.classNotAllowed "urgent" ["standard"]) :=
    rfl
  refine ⟨rfl, rfl, refused, ?_⟩
  have judged := (toSpec_judged urgent PreemptibleNodes.tainted { valid := ["standard"] }).2.2
    urgentAnywhere {} rfl rfl
  rw [refused] at judged
  rcases judged with ⟨refusal, same, otherRefused⟩ | ⟨⟨spec, accepted⟩, _⟩
  · cases same
    exact otherRefused
  · cases accepted

end SpecDocument

end PodPlacement

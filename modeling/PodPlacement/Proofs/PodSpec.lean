import PodPlacement.PodSpec
import PodPlacement.Proofs.Placement.Enriched

/-!
# Documents and the specifications that they ask for

A document asks for a specification part by part: the node as it stands, a
placement built from its constraints and mode, and a priority class. A document
that says what a specification shows asks for that specification, whatever
document the specification came from.
-/

namespace PodPlacement

/-! ## Names -/

@[simp]
theorem givenName_givenName (name : Option String) :
    givenName (givenName name) = givenName name := by
  simp [givenName]

@[simp]
theorem givenName_mode (mode : Mode) : givenName (some mode.name) = some mode.name := by
  cases mode <;> decide

@[simp]
theorem Placement.modeNamed_mode (source : Source) (mode : Mode) :
    modeNamed source (some mode.name) = .ok mode := by
  rw [modeNamed, givenName_mode]
  simp

namespace PriorityClasses

variable (classes : PriorityClasses)

/-- The class that was chosen is chosen again. An empty name can be chosen as
the default one only. -/
theorem chosen_chosen (name : Option String) :
    classes.chosen (classes.chosen name) = classes.chosen name := by
  have named := givenName_givenName name
  simp only [chosen]
  cases given : givenName name with
  | some name =>
      rw [given] at named
      simp [named]
  | none =>
      cases classes.default with
      | none => rfl
      | some default => by_cases empty : default = "" <;> simp [givenName, Option.filter, empty]

theorem assign_eq_ok_iff {name assigned : Option String} :
    classes.assign name = .ok assigned ↔
      classes.chosen name = assigned ∧ ∀ chosen ∈ assigned, chosen ∈ classes.valid := by
  rw [assign]
  cases classes.chosen name with
  | none =>
      constructor
      · rintro ⟨⟩
        exact ⟨rfl, nofun⟩
      · rintro ⟨rfl, _⟩
        rfl
  | some chosen =>
      dsimp only
      split
      · next valid =>
          constructor
          · rintro ⟨⟩
            refine ⟨rfl, ?_⟩
            rintro _ ⟨⟩
            exact valid
          · rintro ⟨rfl, _⟩
            rfl
      · next invalid =>
          constructor
          · exact nofun
          · rintro ⟨rfl, valid⟩
            exact absurd (valid chosen rfl) invalid

/-- A pod that names the class it was given is given it again. -/
theorem assign_assigned {name assigned : Option String}
    (given : classes.assign name = .ok assigned) : classes.assign assigned = .ok assigned := by
  obtain ⟨chosen, valid⟩ := classes.assign_eq_ok_iff.mp given
  apply classes.assign_eq_ok_iff.mpr
  rw [← chosen] at valid ⊢
  exact ⟨classes.chosen_chosen name, valid⟩

end PriorityClasses

/-! ## Specifications -/

/-- The constraints and the mode of an enriched placement build it again. -/
theorem Placement.IsEnriched.build_eq {placement : Placement} {source : Source}
    (enriched : placement.IsEnriched source) :
    build source placement.toConstraints (some placement.mode.name) = .ok placement := by
  rw [build, setMode, modeNamed_mode, Except.map, applyMode, enriched.enrich_eq]

/-- The document that says what a specification shows. -/
def PodSpec.document (spec : PodSpec) : SpecDocument :=
  { nodeName := spec.nodeName
    priorityClass := spec.priorityClass
    constraints := spec.placement.toConstraints
    modeName := some spec.placement.mode.name }

namespace SpecDocument

variable {document : SpecDocument} {source : Source} {classes : PriorityClasses}
  {spec : PodSpec}

/-- The placement is built before the class is looked up. -/
theorem toSpec_eq (document : SpecDocument) (source : Source) (classes : PriorityClasses) :
    document.toSpec source classes =
      match Placement.build source document.constraints document.modeName,
        classes.assign document.priorityClass with
      | .error refusal, _ => .error refusal
      | .ok _, .error refusal => .error refusal
      | .ok placement, .ok priorityClass =>
          .ok { nodeName := document.nodeName, priorityClass, placement } := by
  rw [toSpec, PodSpec.build]
  cases Placement.build source document.constraints document.modeName with
  | error refusal => rfl
  | ok placement =>
      rw [Except.map]
      cases assigned : classes.assign document.priorityClass <;>
        simp [bind, Except.bind, PodSpec.setPriorityClass, assigned, Except.map]

/-- A specification is asked for part by part. -/
theorem toSpec_eq_ok_iff :
    document.toSpec source classes = .ok spec ↔
      document.nodeName = spec.nodeName ∧
      Placement.build source document.constraints document.modeName = .ok spec.placement ∧
      classes.assign document.priorityClass = .ok spec.priorityClass := by
  rcases spec with ⟨nodeName, priorityClass, placement⟩
  rw [toSpec_eq]
  cases Placement.build source document.constraints document.modeName <;>
    cases classes.assign document.priorityClass <;> simp [and_comm]

/-- What a specification shows asks for it again. -/
theorem toSpec_document (asked : document.toSpec source classes = .ok spec) :
    spec.document.toSpec source classes = .ok spec := by
  obtain ⟨_, built, assigned⟩ := toSpec_eq_ok_iff.mp asked
  apply toSpec_eq_ok_iff.mpr
  refine ⟨rfl, ?_, ?_⟩
  · exact (Placement.isEnriched_of_build built).build_eq
  · exact classes.assign_assigned assigned

end SpecDocument

end PodPlacement

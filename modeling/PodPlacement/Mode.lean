/-!
# Preemption modes

A mode says how a pod relates to the preemptible nodes of its cluster. A mode
is written by its lower-case name, and a name determines its mode: reading a
name finds exactly the mode that writes it.
-/

namespace PodPlacement

/-- How a pod relates to preemptible nodes. -/
inductive Mode where
  /-- The pod's constraints are left as they are. -/
  | off
  /-- The pod may run on preemptible nodes. -/
  | allow
  /-- The pod must run on preemptible nodes. -/
  | constrain
  /-- The pod must not run on preemptible nodes. -/
  | prevent
  deriving DecidableEq, Repr

namespace Mode

/-- Every mode, in the order in which messages and listings name them. -/
def all : List Mode := [off, allow, constrain, prevent]

/-- The written name of a mode. -/
def name : Mode → String
  | off => "none"
  | allow => "allow"
  | constrain => "constrain"
  | prevent => "prevent"

/-- The mode written `name`, if there is one. Case matters. -/
def ofName? (name : String) : Option Mode :=
  all.find? fun mode => mode.name = name

/-- The mode of a cluster that does not choose one: pods keep off preemptible
nodes. -/
def standard : Mode := prevent

instance : Inhabited Mode := ⟨standard⟩

theorem mem_all (mode : Mode) : mode ∈ all := by
  cases mode <;> decide

@[simp]
theorem ofName?_name (mode : Mode) : ofName? mode.name = some mode := by
  cases mode <;> decide

/-- Reading a name finds exactly the mode that writes it. -/
theorem ofName?_eq_some_iff (name : String) (mode : Mode) :
    ofName? name = some mode ↔ mode.name = name := by
  constructor
  · intro found
    simpa using List.find?_some found
  · rintro rfl
    exact ofName?_name mode

/-- No mode is read from a name that no mode writes. -/
theorem ofName?_eq_none_iff (name : String) :
    ofName? name = none ↔ ∀ mode : Mode, mode.name ≠ name := by
  simp [ofName?, List.find?_eq_none, mem_all]

end Mode

end PodPlacement

/-!
# Priority classes and refusals

A cluster accepts some priority classes, and may have one for pods that do not
name any. A specification is refused when it names a mode that does not exist
or a class that the cluster does not accept.
-/

namespace PodPlacement

/-- Why a specification is refused. -/
inductive SpecError where
  /-- No mode has this name. -/
  | unknownMode (name : String)
  /-- The cluster accepts other classes only. -/
  | classNotAllowed (name : String) (valid : List String)
  deriving DecidableEq, Repr

/-- The message of a refusal. -/
def SpecError.message : SpecError → String
  | unknownMode name =>
      "invalid preemption mode '" ++ name ++
        "', expected one of: allow, constrain, prevent, none"
  | classNotAllowed name valid =>
      "priority class '" ++ name ++ "' not in available priority class names: [" ++
        ", ".intercalate valid ++ "]"

/-- A name, unless it is absent or empty. -/
def givenName (name : Option String) : Option String :=
  name.filter fun name => name ≠ ""

/-- The priority classes that a cluster accepts. -/
structure PriorityClasses where
  /-- The class of a pod that does not name one. -/
  default : Option String := none
  /-- The classes that may be named. -/
  valid : List String := []
  deriving DecidableEq, Repr

namespace PriorityClasses

/-- The class that a pod asks for: the one it names, else the default one. -/
def chosen (classes : PriorityClasses) (name : Option String) : Option String :=
  givenName name <|> classes.default

/-- The class of a pod, which must be valid if there is one. -/
def assign (classes : PriorityClasses) (name : Option String) :
    Except SpecError (Option String) :=
  match classes.chosen name with
  | none => .ok none
  | some name =>
      if name ∈ classes.valid then .ok (some name)
      else .error (.classNotAllowed name classes.valid)

end PriorityClasses

end PodPlacement

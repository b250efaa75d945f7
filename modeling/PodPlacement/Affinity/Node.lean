import PodPlacement.AppendNew

/-!
# Node affinity

Node affinity says what nodes a pod may run on and which of them it prefers. A
hard constraint is a list of terms of which one must match; a term is a list of
requirements that must all match. Requirements and terms are compared part by
part, and the order of values and requirements counts.
-/

namespace PodPlacement

/-- How a requirement relates the label of a node to its values. -/
inductive NodeOperator where
  /-- The label has one of the values. -/
  | isIn
  /-- The label has none of the values. -/
  | notIn
  /-- The label is there. -/
  | present
  /-- The label is not there. -/
  | absent
  /-- The label is a number greater than the value. -/
  | greater
  /-- The label is a number less than the value. -/
  | less
  deriving DecidableEq, Repr

namespace NodeOperator

/-- Every operator, in the order in which messages name them. -/
def all : List NodeOperator := [isIn, notIn, present, absent, greater, less]

/-- The written name of an operator. -/
def name : NodeOperator → String
  | isIn => "In"
  | notIn => "NotIn"
  | present => "Exists"
  | absent => "DoesNotExist"
  | greater => "Gt"
  | less => "Lt"

end NodeOperator

/-- A requirement on one label of a node. -/
structure NodeRequirement where
  key : String
  operator : NodeOperator
  values : List String := []
  deriving DecidableEq, Repr

/-- Requirements on the labels and on the fields of a node, all of which must
match. -/
structure NodeTerm where
  /-- Requirements on labels. -/
  expressions : List NodeRequirement := []
  /-- Requirements on fields. -/
  fields : List NodeRequirement := []
  deriving DecidableEq, Repr

/-- Terms of which one must match. -/
structure NodeSelector where
  terms : List NodeTerm := []
  deriving DecidableEq, Repr

/-- A term that nodes had better match, and how much that counts. -/
structure NodePreference where
  weight : Int32
  term : NodeTerm
  deriving DecidableEq, Repr

/-- What nodes a pod may run on, and which it prefers. -/
structure NodeAffinity where
  /-- The hard constraint. -/
  required : Option NodeSelector := none
  /-- The preferences. -/
  preferred : List NodePreference := []
  deriving DecidableEq, Repr

namespace NodeTerm

/-- Whether the term requires nothing. -/
def isEmpty (term : NodeTerm) : Bool :=
  term.expressions.isEmpty && term.fields.isEmpty

/-- One term for each requirement, so that a node has to meet one of them. -/
def anyOf (requirements : List NodeRequirement) : List NodeTerm :=
  requirements.map fun requirement => { expressions := [requirement] }

/-- A single term, so that a node has to meet every requirement; none if there
are no requirements. -/
def allOf (requirements : List NodeRequirement) : List NodeTerm :=
  if requirements.isEmpty then [] else [{ expressions := requirements }]

/-- The term without the given requirements on labels. -/
def prune (term : NodeTerm) (pruned : List NodeRequirement) : NodeTerm :=
  { term with expressions := term.expressions.removeAll pruned }

/-- The terms without the given requirements on labels; a term that then
requires nothing is dropped. -/
def pruneAll (terms : List NodeTerm) (pruned : List NodeRequirement) : List NodeTerm :=
  (terms.map fun term => term.prune pruned).filter fun term => !term.isEmpty

end NodeTerm

namespace NodeSelector

/-- The terms of a constraint, none if there is no constraint. -/
def termsOf (selector : Option NodeSelector) : List NodeTerm :=
  (selector.map NodeSelector.terms).getD []

/-- A constraint with the given terms added, those that it does not have yet.
Without terms to add it stays as it is, even if it is absent. -/
def mergeTerms (existing : Option NodeSelector) (terms : List NodeTerm) :
    Option NodeSelector :=
  if terms.isEmpty then existing else some ⟨appendNew (termsOf existing) terms⟩

end NodeSelector

namespace NodeAffinity

/-- The terms of the hard constraint, none if there is no constraint. -/
def requiredTerms (affinity : NodeAffinity) : List NodeTerm :=
  NodeSelector.termsOf affinity.required

/-- Whether there are neither required terms nor preferences. -/
def isEmpty (affinity : NodeAffinity) : Bool :=
  affinity.requiredTerms.isEmpty && affinity.preferred.isEmpty

/-- The affinity without the given requirements in its required terms. A hard
constraint that has no terms left is dropped, and so is an affinity that then
has no preferences either. -/
def prune (affinity : NodeAffinity) (pruned : List NodeRequirement) : Option NodeAffinity :=
  match NodeTerm.pruneAll affinity.requiredTerms pruned with
  | [] =>
      if affinity.preferred.isEmpty then none
      else some { affinity with required := none }
  | term :: terms => some { affinity with required := some ⟨term :: terms⟩ }

/-- The affinity with the required terms and the preferences of another one
added, those that it does not have yet. -/
def merge (existing incoming : NodeAffinity) : NodeAffinity :=
  { required := NodeSelector.mergeTerms existing.required incoming.requiredTerms
    preferred := appendNew existing.preferred incoming.preferred }

/-- The affinity without a hard constraint that has no terms, and none if
nothing is left. -/
def collapse (affinity : NodeAffinity) : Option NodeAffinity :=
  if affinity.isEmpty then none
  else some { affinity with required := affinity.required.filter fun selector =>
    !selector.terms.isEmpty }

end NodeAffinity

end PodPlacement

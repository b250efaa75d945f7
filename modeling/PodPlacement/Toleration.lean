/-!
# Tolerations

A toleration lets a pod onto nodes with a matching taint. Lists of tolerations
are used as ordered sets: two tolerations are the same when all their parts
are, merging keeps the first occurrence of each, and pruning removes every
occurrence.
-/

namespace PodPlacement

/-- How a toleration compares the value of a taint. -/
inductive TolerationOperator where
  /-- Any value matches. -/
  | exist
  /-- Only the toleration's own value matches. -/
  | equal
  deriving DecidableEq, Repr

namespace TolerationOperator

/-- Every operator, in the order in which messages name them. -/
def all : List TolerationOperator := [exist, equal]

/-- The written name of an operator. -/
def name : TolerationOperator → String
  | exist => "Exists"
  | equal => "Equal"

end TolerationOperator

/-- What a taint does to pods that do not tolerate it. -/
inductive TaintEffect where
  /-- New pods are not scheduled. -/
  | noSchedule
  /-- New pods are scheduled elsewhere if possible. -/
  | preferNoSchedule
  /-- Running pods are evicted. -/
  | noExecute
  deriving DecidableEq, Repr

namespace TaintEffect

/-- Every effect, in the order in which messages name them. -/
def all : List TaintEffect := [noSchedule, preferNoSchedule, noExecute]

/-- The written name of an effect. -/
def name : TaintEffect → String
  | noSchedule => "NoSchedule"
  | preferNoSchedule => "PreferNoSchedule"
  | noExecute => "NoExecute"

end TaintEffect

/-- A toleration. A part that is absent matches everything. -/
structure Toleration where
  /-- The key of the taint. -/
  key : Option String := none
  /-- How the value of the taint is compared. -/
  operator : Option TolerationOperator := none
  /-- The value that the taint must have. -/
  value : Option String := none
  /-- The effect of the taint. -/
  effect : Option TaintEffect := none
  /-- How long a running pod may stay, in seconds. -/
  seconds : Option Int64 := none
  deriving DecidableEq, Repr

namespace Toleration

/-- Tolerates a key with any value. -/
def anyValue (key : String) (effect : TaintEffect) : Toleration :=
  { key := some key, operator := some .exist, effect := some effect }

/-- Tolerates a key with one value. -/
def oneValue (key value : String) (effect : TaintEffect) : Toleration :=
  { key := some key, operator := some .equal, value := some value, effect := some effect }

/-- The toleration for so many seconds only. -/
def during (toleration : Toleration) (seconds : Int64) : Toleration :=
  { toleration with seconds := some seconds }

/-- Both lists in order, each toleration once: where it occurs first. -/
def merge (existing incoming : List Toleration) : List Toleration :=
  (existing ++ incoming).eraseDups

/-- The list without any toleration of `pruned`. -/
def prune (existing pruned : List Toleration) : List Toleration :=
  existing.removeAll pruned

@[simp]
theorem mem_merge (existing incoming : List Toleration) (toleration : Toleration) :
    toleration ∈ merge existing incoming ↔
      toleration ∈ existing ∨ toleration ∈ incoming := by
  simp [merge]

@[simp]
theorem mem_prune (existing pruned : List Toleration) (toleration : Toleration) :
    toleration ∈ prune existing pruned ↔
      toleration ∈ existing ∧ toleration ∉ pruned := by
  simp [prune, List.removeAll]

@[simp]
theorem prune_nil (existing : List Toleration) : prune existing [] = existing := by
  simp [prune, List.removeAll]

end Toleration

end PodPlacement

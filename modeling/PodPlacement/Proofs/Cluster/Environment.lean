import PodPlacement.Cluster.Environment
import PodPlacement.Proofs.Base64
import PodPlacement.Proofs.Cluster.Names
import PodPlacement.Proofs.Format.Cluster
import PodPlacement.Proofs.Source

/-!
# Clusters written into an environment

Whatever a cluster is configured with can be written into the variables of an
environment, with any white space around each value, and is read back from there
exactly: from its variables and from its document the same cluster is loaded. The
names of priority classes must fit into a list with commas between them.
-/

namespace PodPlacement

open Json Text

/-- Names without commas and without white space at their ends are read back from
the list of them. -/
theorem splitNames_intercalate {names : List String} (nonempty : names ≠ [])
    (solid : ∀ name ∈ names, IsSolid name.toList)
    (noComma : ∀ name ∈ names, ',' ∉ name.toList) :
    splitNames (",".intercalate names) = names := by
  rw [← listsNames_iff]
  refine ⟨names.map String.toList, by simpa using nonempty, by simpa using noComma, ?_,
    namesIn_map_toList solid⟩
  rw [String.toList_intercalate]
  rfl

/-- Names that can stand in variables: none is empty or has white space at an end,
and the valid ones have no commas. -/
structure PriorityClasses.Listable (classes : PriorityClasses) : Prop where
  solid : ∀ name ∈ classes.valid, IsSolid name.toList
  noComma : ∀ name ∈ classes.valid, ',' ∉ name.toList
  solidDefault : ∀ name ∈ classes.default, IsSolid name.toList

/-- A value as base64 of its text without white space. -/
def Json.base64 (value : Json) : String :=
  String.ofList (Base64.encode (bytes value.compact.toList))

/-- What the variable of a setting says of a cluster, if it is set. -/
def Cluster.settingText (cluster : Cluster) : Setting → Option String
  | .nodeLabels => some cluster.nodes.labels.toJson.base64
  | .tolerations => some (Toleration.listToJson cluster.nodes.tolerations).base64
  | .defaultMode => some cluster.nodes.defaultMode.name
  | .validClasses =>
      if cluster.classes.valid = [] then none else some (",".intercalate cluster.classes.valid)
  | .defaultClass => cluster.classes.default

/-- Every setting of the cluster stands in its variable, with any white space around
it, and a variable that would say nothing is not set. -/
def Environment.Describes (environment : Environment) (cluster : Cluster) : Prop :=
  ∀ setting : Setting, Option.Rel (fun value text => Pads value.toList text.toList)
    (environment setting.name) (cluster.settingText setting)

/-! ## Values of variables -/

/-- No text without characters is read as a value, so none is written for one. -/
theorem Json.compact_ne_empty (value : Json) : value.compact ≠ "" := by
  intro equal
  have isRead := readText_compact value fun _ => .ok ()
  have fails : readText (fun _ => .ok ()) "" = .error .damaged := by
    rw [readText, readSymbols, Reading.ofSymbols, String.toList_empty, symbols, List.map_nil,
      tokens]
    rfl
  rw [equal, fails] at isRead
  cases isRead

theorem Json.isSolid_base64 (value : Json) : IsSolid value.base64.toList := by
  rw [base64, String.toList_ofList]
  apply isSolid_of_forall
  · apply Base64.encode_ne_nil
    have nonempty := value.compact_ne_empty
    cases characters : value.compact.toList with
    | nil => exact absurd (String.toList_eq_nil_iff.mp characters) nonempty
    | cons c rest => simp [String.utf8EncodeChar_ne_nil]
  · exact Base64.isBlank_of_mem_encode _

theorem Mode.isSolid_name (mode : Mode) : IsSolid mode.name.toList := by
  cases mode <;> decide

/-- No setting is empty or has white space at an end. -/
theorem Cluster.isSolid_settingText {cluster : Cluster} (listable : cluster.classes.Listable)
    {setting : Setting} {text : String} (isSet : cluster.settingText setting = some text) :
    IsSolid text.toList := by
  cases setting with
  | nodeLabels =>
      rw [← Option.some.inj isSet]
      exact Json.isSolid_base64 _
  | tolerations =>
      rw [← Option.some.inj isSet]
      exact Json.isSolid_base64 _
  | defaultMode =>
      rw [← Option.some.inj isSet]
      exact Mode.isSolid_name _
  | validClasses =>
      rw [settingText] at isSet
      split at isSet
      · cases isSet
      · next nonempty =>
          cases isSet
          rw [String.toList_intercalate]
          apply isSolid_intercalate
          · simpa using nonempty
          · simpa using listable.solid
  | defaultClass => exact listable.solidDefault text isSet

/-- The value of a setting is what its variable says without the white space around it. -/
theorem Environment.Describes.value_eq {environment : Environment} {cluster : Cluster}
    (describes : environment.Describes cluster) (listable : cluster.classes.Listable)
    (setting : Setting) : environment.value setting = cluster.settingText setting := by
  have related := describes setting
  cases shown : cluster.settingText setting with
  | none =>
      rw [shown] at related
      rw [value_eq_none_iff]
      intro value found
      rw [Option.mem_def.mp found] at related
      cases related
  | some text =>
      rw [shown] at related
      rw [value_eq_some_iff]
      generalize isValue : environment setting.name = found at related
      cases related with
      | some pads => exact ⟨Cluster.isSolid_settingText listable shown, _, isValue, pads⟩

/-! ## Loading -/

/-- JSON in base64 is decoded to what the reader makes of it. -/
theorem Cluster.decodeSetting_base64 {α : Type} {read : Reader α} {write : α → Json}
    (undoes : Undoes read write) (setting : Setting) (value : α) :
    decodeSetting read setting (write value).base64 = .ok value := by
  have isRead : readBytes read (bytes (write value).compact.toList) = .ok value := by
    rw [readBytes, symbolsOfBytes_bytes]
    exact (undoes.readsBack value).1
  rw [decodeSetting, Json.base64, String.toList_ofList, Base64.decode_bytes_encode]
  simp only [Except.mapError, bind, Except.bind, isRead]

section Loading

variable {environment : Environment} {cluster : Cluster}
  (describes : environment.Describes cluster) (listable : cluster.classes.Listable)

include describes listable

theorem Cluster.readLabels_eq : readLabels environment = .ok cluster.nodes.labels := by
  rw [readLabels, describes.value_eq listable]
  exact decodeSetting_base64 LabelMap.undoes_read .nodeLabels _

theorem Cluster.readTolerations_eq :
    readTolerations environment = .ok cluster.nodes.tolerations := by
  rw [readTolerations, describes.value_eq listable]
  exact decodeSetting_base64 Toleration.undoes_readAll .tolerations _

theorem Cluster.readDefaultMode_eq :
    readDefaultMode environment = .ok cluster.nodes.defaultMode := by
  rw [readDefaultMode, describes.value_eq listable]
  simp only [settingText, Mode.ofName?_name]

theorem Cluster.readClasses_eq : readClasses environment = cluster.classes := by
  have default := describes.value_eq listable .defaultClass
  have valid : ((environment.value .validClasses).map splitNames).getD [] =
      cluster.classes.valid := by
    rw [describes.value_eq listable, settingText]
    split
    · next empty => rw [empty]; rfl
    · next nonempty =>
        exact splitNames_intercalate nonempty listable.solid listable.noComma
  rw [readClasses, default, valid]
  rfl

end Loading

/-- A cluster that is written into an environment is loaded from there, and its
document, compact or with a line for every item, is loaded as the same cluster. -/
theorem Cluster.ofEnvironment_eq_ofText {environment : Environment} {cluster : Cluster}
    (describes : environment.Describes cluster) (listable : cluster.classes.Listable) :
    ofEnvironment environment = .ok cluster ∧
      ofText cluster.toJson.compact = .ok cluster ∧
      ofText cluster.toJson.pretty = .ok cluster := by
  have ⟨compact, pretty⟩ := Cluster.undoes_read.readsBack cluster
  constructor
  · rw [ofEnvironment, readLabels_eq describes listable, readTolerations_eq describes listable,
      readDefaultMode_eq describes listable, readClasses_eq describes listable]
    rfl
  constructor
  · rw [ofText, ofDocument, compact]
    rfl
  · rw [ofText, ofDocument, pretty]
    rfl

/-- Spot nodes that pods must run on, and two priority classes, none of which is the
default. -/
def Cluster.nightly : Cluster :=
  { nodes := { PreemptibleNodes.tainted with defaultMode := .constrain }
    classes := { valid := ["standard", "night shift"] } }

/-- Variables with spaces, tabs and line breaks around their values. -/
def Environment.nightly : Environment
  | "KFN_PREEMPTIBLE_NODES_NODE_SELECTOR" => some " eyJub2RlLXR5cGUiOiJzcG90In0=\n"
  | "KFN_PREEMPTIBLE_NODES_TOLERATIONS" => some <|
      "W3sia2V5IjoicHJlZW1wdCIsIm9wZXJhdG9yIjoiRXhpc3RzIiwiZWZmZWN0IjoiTm9TY2hlZHVsZSJ9XQ==" ++
        "\r\n"
  | "KFN_DEFAULT_PREEMPTION_MODE" => some "\tconstrain "
  | "KFN_VALID_PRIORITY_CLASS_NAMES" => some "\u00a0standard,night shift\n"
  | _ => none

/-- The labels and the toleration are found in base64, the names between the commas. -/
theorem Cluster.ofEnvironment_eq_ofText_nightly :
    Environment.nightly.Describes nightly ∧ nightly.classes.Listable ∧
      ofEnvironment Environment.nightly = .ok nightly ∧
      ofText nightly.toJson.compact = .ok nightly ∧
      ofText nightly.toJson.pretty = .ok nightly := by
  have describes : Environment.nightly.Describes nightly := by
    intro setting
    cases setting with
    | nodeLabels => exact .some ⟨[' '], ['\n'], by decide +kernel, rfl, rfl⟩
    | tolerations => exact .some ⟨[], ['\r', '\n'], by decide +kernel, rfl, rfl⟩
    | defaultMode => exact .some ⟨['\t'], [' '], by decide +kernel, rfl, rfl⟩
    | validClasses => exact .some ⟨['\u00a0'], ['\n'], by decide +kernel, rfl, rfl⟩
    | defaultClass => exact .none
  have listable : nightly.classes.Listable := ⟨by decide, by decide, nofun⟩
  exact ⟨describes, listable, ofEnvironment_eq_ofText describes listable⟩

end PodPlacement

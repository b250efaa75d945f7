import PodPlacement.Proofs.Base64.Canonical
import PodPlacement.Proofs.Cluster.Names

/-!
# What texts mean for settings

The text of a variable either means a value of its setting or is malformed, never both:
labels and tolerations are JSON in base64, a mode is written by its name, and any text
will do for the priority classes. The message about a malformed text names its variable,
or the mode that does not exist.
-/

namespace PodPlacement

open Json Text

namespace Setting

/-- What a setting is set to. -/
abbrev Value : Setting → Type
  | nodeLabels => LabelMap
  | tolerations => List Toleration
  | defaultMode => Mode
  | validClasses => List String
  | defaultClass => Option String

/-- A text is JSON in base64 that is read as a value. -/
def Holds {α : Type} (read : Reader α) (text : String) (value : α) : Prop :=
  ∃ data, text.toList = Base64.encode data ∧ readBytes read data = .ok value

/-- Why a text that should be JSON in base64 is refused. -/
inductive HoldsNothing {α : Type} (read : Reader α) (setting : Setting) (text : String) :
    ClusterError → Prop
  | notBase64 {error : Base64.DecodeError} : Base64.decode (bytes text.toList) = .error error →
      HoldsNothing read setting text (.invalidBase64 setting error)
  | notJson {data : List UInt8} {error : ReadError} : text.toList = Base64.encode data →
      readBytes read data = .error error →
      HoldsNothing read setting text (.invalidJson setting.name error)

/-- What a text means for a setting. -/
inductive Means : (setting : Setting) → String → setting.Value → Prop
  | nodeLabels {text : String} {labels : LabelMap} : Holds LabelMap.read text labels →
      Means .nodeLabels text labels
  | tolerations {text : String} {tolerations : List Toleration} :
      Holds Toleration.readAll text tolerations → Means .tolerations text tolerations
  | defaultMode (mode : Mode) : Means .defaultMode mode.name mode
  | validClasses {text : String} {names : List String} : ListsNames text names →
      Means .validClasses text names
  | defaultClass (name : String) : Means .defaultClass name (some name)

/-- Why a text means nothing for a setting. There is no such text for the priority
classes. -/
inductive IsMalformed : Setting → String → ClusterError → Prop
  | nodeLabels {text : String} {error : ClusterError} :
      HoldsNothing LabelMap.read .nodeLabels text error → IsMalformed .nodeLabels text error
  | tolerations {text : String} {error : ClusterError} :
      HoldsNothing Toleration.readAll .tolerations text error →
      IsMalformed .tolerations text error
  | defaultMode {name : String} : (∀ mode : Mode, mode.name ≠ name) →
      IsMalformed .defaultMode name (.unknownMode name)

/-- The value that a text is read as. -/
def parse : (setting : Setting) → String → Except ClusterError setting.Value
  | nodeLabels, text => Cluster.decodeSetting LabelMap.read nodeLabels text
  | tolerations, text => Cluster.decodeSetting Toleration.readAll tolerations text
  | defaultMode, text =>
    match Mode.ofName? text with
    | some mode => .ok mode
    | none => .error (.unknownMode text)
  | validClasses, text => .ok (splitNames text)
  | defaultClass, text => .ok (some text)

theorem decodeSetting_eq_ok_iff {α : Type} {read : Reader α} {setting : Setting} {text : String}
    {value : α} :
    Cluster.decodeSetting read setting text = .ok value ↔ Holds read text value := by
  simp only [Cluster.decodeSetting, bind_eq_ok_iff, mapError_eq_ok_iff,
    Base64.decode_bytes_eq_ok_iff, Holds]

theorem decodeSetting_eq_error_iff {α : Type} {read : Reader α} {setting : Setting}
    {text : String} {error : ClusterError} :
    Cluster.decodeSetting read setting text = .error error ↔
      HoldsNothing read setting text error := by
  simp only [Cluster.decodeSetting, bind_eq_error_iff, mapError_eq_ok_iff, mapError_eq_error_iff,
    Base64.decode_bytes_eq_ok_iff]
  constructor
  · rintro (⟨cause, notDecoded, rfl⟩ | ⟨data, encoded, cause, notRead, rfl⟩)
    · exact .notBase64 notDecoded
    · exact .notJson encoded notRead
  · rintro (⟨notDecoded⟩ | ⟨encoded, notRead⟩)
    · exact .inl ⟨_, notDecoded, rfl⟩
    · exact .inr ⟨_, encoded, _, notRead, rfl⟩

theorem parse_eq_ok_iff {setting : Setting} {text : String} {value : setting.Value} :
    setting.parse text = .ok value ↔ setting.Means text value := by
  cases setting with
  | nodeLabels =>
      exact decodeSetting_eq_ok_iff.trans ⟨.nodeLabels, fun | .nodeLabels holds => holds⟩
  | tolerations =>
      exact decodeSetting_eq_ok_iff.trans ⟨.tolerations, fun | .tolerations holds => holds⟩
  | defaultMode =>
      constructor
      · intro parsed
        rw [parse] at parsed
        split at parsed
        · next mode found =>
            cases parsed
            rw [← (Mode.ofName?_eq_some_iff text value).mp found]
            exact .defaultMode value
        · cases parsed
      · rintro ⟨mode⟩
        rw [parse, Mode.ofName?_name]
  | validClasses =>
      constructor
      · rintro ⟨⟩
        exact .validClasses (listsNames_iff.mpr rfl)
      · intro means
        cases means with
        | validClasses lists => exact congrArg Except.ok (listsNames_iff.mp lists)
  | defaultClass =>
      constructor
      · rintro ⟨⟩
        exact .defaultClass text
      · rintro ⟨⟩
        rfl

theorem parse_eq_error_iff {setting : Setting} {text : String} {error : ClusterError} :
    setting.parse text = .error error ↔ setting.IsMalformed text error := by
  cases setting with
  | nodeLabels =>
      exact decodeSetting_eq_error_iff.trans ⟨.nodeLabels, fun | .nodeLabels nothing => nothing⟩
  | tolerations =>
      exact decodeSetting_eq_error_iff.trans
        ⟨.tolerations, fun | .tolerations nothing => nothing⟩
  | defaultMode =>
      constructor
      · intro parsed
        rw [parse] at parsed
        split at parsed
        · cases parsed
        · next notFound =>
            cases parsed
            exact .defaultMode ((Mode.ofName?_eq_none_iff text).mp notFound)
      · intro malformed
        cases malformed with
        | defaultMode unknown => rw [parse, (Mode.ofName?_eq_none_iff text).mpr unknown]
  | validClasses => exact ⟨nofun, nofun⟩
  | defaultClass => exact ⟨nofun, nofun⟩

/-- The settings that a text can mean nothing for, in the order in which their variables
are read. -/
def checked : List Setting :=
  [nodeLabels, tolerations, defaultMode]

/-- What the message about a malformed text calls it: the variable that it stands in, or
for a mode the text itself. -/
def namedBy : Setting → String → String
  | defaultMode, text => text
  | setting, _ => setting.name

/-- The message about JSON in base64 names the variable. -/
theorem HoldsNothing.exists_message_eq {α : Type} {read : Reader α} {setting : Setting}
    {text : String} {error : ClusterError} (nothing : HoldsNothing read setting text error) :
    ∃ before after, error.message = before ++ setting.name ++ after := by
  cases nothing with
  | @notBase64 error _ =>
      refine ⟨"", " is not valid base64: " ++ error.message, ?_⟩
      rw [String.empty_append]
      exact String.append_assoc
  | @notJson _ error _ _ =>
      exact ⟨"invalid JSON in ", ": " ++ error.message, String.append_assoc⟩

/-- The message about a malformed text names it. -/
theorem IsMalformed.exists_message_eq {setting : Setting} {text : String} {error : ClusterError}
    (malformed : setting.IsMalformed text error) :
    ∃ before after, error.message = before ++ setting.namedBy text ++ after := by
  cases malformed with
  | nodeLabels nothing => exact nothing.exists_message_eq
  | tolerations nothing => exact nothing.exists_message_eq
  | defaultMode => exact ⟨_, _, rfl⟩

end Setting

end PodPlacement

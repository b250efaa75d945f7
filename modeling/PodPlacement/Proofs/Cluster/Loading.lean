import PodPlacement.Proofs.Cluster.Settings

/-!
# Loading a cluster from variables

Every setting depends on what its own variable says and on nothing else; a silent
variable leaves it as it is in a cluster without configuration. Loading fails exactly
if a variable says something malformed, and the first such variable is reported. Any
text will do for the priority classes, so their variables never make it fail.
-/

namespace PodPlacement

open Text

/-! ## Settings and variables -/

/-- What a setting of a cluster is set to. -/
def Cluster.get (cluster : Cluster) : (setting : Setting) → setting.Value
  | .nodeLabels => cluster.nodes.labels
  | .tolerations => cluster.nodes.tolerations
  | .defaultMode => cluster.nodes.defaultMode
  | .validClasses => cluster.classes.valid
  | .defaultClass => cluster.classes.default

namespace Environment

/-- The value that an environment sets a setting to: if its variable is silent, the one
of a cluster without configuration. -/
inductive Sets (environment : Environment) (setting : Setting) : setting.Value → Prop
  | silent : environment.IsSilent setting → Sets environment setting (({} : Cluster).get setting)
  | said {text : String} {value : setting.Value} : environment.Says setting text →
      setting.Means text value → Sets environment setting value

/-- The variable of a setting says something malformed. -/
def IsMalformed (environment : Environment) (setting : Setting) (error : ClusterError) : Prop :=
  ∃ text, environment.Says setting text ∧ setting.IsMalformed text error

/-- The first of some settings for which something malformed is said decides about the
error. -/
inductive Reports (environment : Environment) : List Setting → ClusterError → Prop
  | here {setting : Setting} {settings : List Setting} {error : ClusterError} :
      environment.IsMalformed setting error → Reports environment (setting :: settings) error
  | later {setting : Setting} {settings : List Setting} {error : ClusterError} :
      (∀ other, ¬ environment.IsMalformed setting other) →
      Reports environment settings error → Reports environment (setting :: settings) error

/-- Two environments differ about a setting in nothing but white space: both are silent,
or both have the same text with white space around it. -/
inductive Agrees (environment other : Environment) (setting : Setting) : Prop
  | silent : environment.IsSilent setting → other.IsSilent setting →
      Agrees environment other setting
  | padded {value otherValue : String} {text : List Char} :
      value ∈ environment setting.name → otherValue ∈ other setting.name →
      Pads value.toList text → Pads otherValue.toList text → Agrees environment other setting

/-- The value of a setting, read from its variable. -/
def read (environment : Environment) (setting : Setting) : Except ClusterError setting.Value :=
  match environment.value setting with
  | none => .ok (({} : Cluster).get setting)
  | some text => setting.parse text

variable {environment other : Environment} {setting : Setting}

theorem read_eq_ok_iff {value : setting.Value} :
    environment.read setting = .ok value ↔ environment.Sets setting value := by
  rw [read]
  cases found : environment.value setting with
  | none =>
      have silent := value_eq_none_iff.mp found
      constructor
      · rintro ⟨⟩
        exact .silent silent
      · intro sets
        cases sets with
        | silent => rfl
        | said said => cases found.symm.trans (value_eq_some_iff.mpr said)
  | some text =>
      have said := value_eq_some_iff.mp found
      rw [Setting.parse_eq_ok_iff]
      constructor
      · exact .said said
      · intro sets
        cases sets with
        | silent silent => cases found.symm.trans (value_eq_none_iff.mpr silent)
        | said alsoSaid means =>
            cases found.symm.trans (value_eq_some_iff.mpr alsoSaid)
            exact means

theorem read_eq_error_iff {error : ClusterError} :
    environment.read setting = .error error ↔ environment.IsMalformed setting error := by
  simp only [IsMalformed, ← value_eq_some_iff]
  rw [read]
  cases environment.value setting with
  | none => exact ⟨nofun, fun ⟨_, notFound, _⟩ => nomatch notFound⟩
  | some text => simp [Setting.parse_eq_error_iff]

/-- White space makes no difference to what is read. -/
theorem Agrees.read_eq (agrees : environment.Agrees other setting) :
    environment.read setting = other.read setting := by
  have sameValue : environment.value setting = other.value setting := by
    cases agrees with
    | silent silent otherSilent =>
        rw [value_eq_none_iff.mpr silent, value_eq_none_iff.mpr otherSilent]
    | padded found otherFound pads otherPads =>
        rw [value, value, Option.mem_def.mp found, Option.mem_def.mp otherFound, Option.map_some,
          Option.map_some, trim, trim, trimmed_eq_trimmed_of_pads pads,
          trimmed_eq_trimmed_of_pads otherPads]
  rw [read, read, sameValue]

theorem reports_cons_iff {settings : List Setting} {error : ClusterError} :
    environment.Reports (setting :: settings) error ↔
      environment.IsMalformed setting error ∨
        (∀ other, ¬ environment.IsMalformed setting other) ∧
          environment.Reports settings error := by
  constructor
  · rintro (⟨malformed⟩ | ⟨wellFormed, reports⟩)
    · exact .inl malformed
    · exact .inr ⟨wellFormed, reports⟩
  · rintro (malformed | ⟨wellFormed, reports⟩)
    · exact .here malformed
    · exact .later wellFormed reports

/-- What is reported is malformed. -/
theorem Reports.exists_isMalformed {settings : List Setting} {error : ClusterError}
    (reports : environment.Reports settings error) :
    ∃ setting ∈ settings, environment.IsMalformed setting error := by
  induction reports with
  | @here setting settings _ malformed => exact ⟨setting, List.mem_cons_self, malformed⟩
  | later _ _ inductionHypothesis =>
      obtain ⟨setting, member, malformed⟩ := inductionHypothesis
      exact ⟨setting, List.mem_cons_of_mem _ member, malformed⟩

/-- Something is reported exactly if something malformed is said. -/
theorem exists_reports_iff {settings : List Setting} :
    (∃ error, environment.Reports settings error) ↔
      ∃ setting ∈ settings, ∃ error, environment.IsMalformed setting error := by
  constructor
  · rintro ⟨error, reports⟩
    obtain ⟨setting, member, malformed⟩ := reports.exists_isMalformed
    exact ⟨setting, member, error, malformed⟩
  · rintro ⟨setting, member, malformed⟩
    induction settings with
    | nil => cases member
    | cons first settings inductionHypothesis =>
        by_cases firstMalformed : ∃ error, environment.IsMalformed first error
        · obtain ⟨error, firstMalformed⟩ := firstMalformed
          exact ⟨error, .here firstMalformed⟩
        · rcases List.mem_cons.mp member with rfl | later
          · exact absurd malformed firstMalformed
          · obtain ⟨error, reports⟩ := inductionHypothesis later
            exact ⟨error, .later (not_exists.mp firstMalformed) reports⟩

/-- Environments that agree about some settings report the same of them. -/
theorem reports_congr {settings : List Setting} {error : ClusterError}
    (agree : ∀ setting ∈ settings, environment.Agrees other setting) :
    environment.Reports settings error ↔ other.Reports settings error := by
  induction settings with
  | nil => exact ⟨nofun, nofun⟩
  | cons first settings inductionHypothesis =>
      have sameFirst : ∀ error,
          environment.IsMalformed first error ↔ other.IsMalformed first error := by
        intro error
        rw [← read_eq_error_iff, ← read_eq_error_iff, (agree first List.mem_cons_self).read_eq]
      have sameRest := inductionHypothesis fun setting member =>
        agree setting (List.mem_cons_of_mem first member)
      simp only [reports_cons_iff, sameFirst, sameRest]

end Environment

/-- A cluster is loaded setting by setting. -/
structure LoadsSettings (load : Environment → Except ClusterError Cluster) : Prop where
  /-- The error is that of the first malformed variable. -/
  fails_iff : ∀ environment error,
    load environment = .error error ↔ environment.Reports Setting.checked error
  /-- The message names the malformed variable, or the mode that does not exist. -/
  named : ∀ environment error, load environment = .error error →
    ∃ setting ∈ Setting.checked, ∃ text before after, environment.Says setting text ∧
      setting.IsMalformed text error ∧
      error.message = before ++ setting.namedBy text ++ after
  /-- Nothing else fails. -/
  succeeds_iff : ∀ environment, (∃ cluster, load environment = .ok cluster) ↔
    ∀ setting ∈ Setting.checked, ∀ error, ¬ environment.IsMalformed setting error
  /-- Every setting is what its own variable sets it to. -/
  loads_iff : ∀ environment cluster, load environment = .ok cluster ↔
    ∀ setting, environment.Sets setting (cluster.get setting)
  /-- Two clusters have the same value of a setting if their variables of this setting
  agree, whatever the other ones say. -/
  own : ∀ environment other cluster otherCluster setting,
    load environment = .ok cluster → load other = .ok otherCluster →
    environment.Agrees other setting → cluster.get setting = otherCluster.get setting
  /-- The variables of the priority classes make no difference to whether loading fails. -/
  classes : ∀ (environment other : Environment) error,
    (∀ setting ∈ Setting.checked, environment.Agrees other setting) →
    (load environment = .error error ↔ load other = .error error)
  /-- White space makes no difference. -/
  agreeing : ∀ environment other : Environment, (∀ setting, environment.Agrees other setting) →
    load environment = load other

namespace Cluster

/-! ## Loading -/

section Loading

variable {environment other : Environment}

theorem readLabels_eq_read : readLabels environment = environment.read .nodeLabels := by
  rw [readLabels, Environment.read]
  rfl

theorem readTolerations_eq_read : readTolerations environment = environment.read .tolerations := by
  rw [readTolerations, Environment.read]
  rfl

theorem readDefaultMode_eq_read : readDefaultMode environment = environment.read .defaultMode := by
  rw [readDefaultMode, Environment.read]
  rfl

theorem read_validClasses :
    environment.read .validClasses = .ok (readClasses environment).valid := by
  rw [Environment.read, readClasses]
  cases environment.value .validClasses <;> rfl

theorem read_defaultClass :
    environment.read .defaultClass = .ok (readClasses environment).default := by
  rw [Environment.read, readClasses]
  cases environment.value .defaultClass <;> rfl

/-- A cluster is loaded exactly if each of its settings is what is read from the
variable. -/
theorem ofEnvironment_eq_ok_iff_read {cluster : Cluster} :
    ofEnvironment environment = .ok cluster ↔
      ∀ setting, environment.read setting = .ok (cluster.get setting) := by
  rw [ofEnvironment_eq_ok_iff, readLabels_eq_read, readTolerations_eq_read,
    readDefaultMode_eq_read]
  constructor
  · rintro ⟨labels, tolerations, defaultMode, classes⟩ setting
    cases setting with
    | nodeLabels => exact labels
    | tolerations => exact tolerations
    | defaultMode => exact defaultMode
    | validClasses => rw [read_validClasses, classes]; rfl
    | defaultClass => rw [read_defaultClass, classes]; rfl
  · intro settings
    have valid := settings .validClasses
    have default := settings .defaultClass
    rw [read_validClasses, Except.ok.injEq] at valid
    rw [read_defaultClass, Except.ok.injEq] at default
    refine ⟨settings .nodeLabels, settings .tolerations, settings .defaultMode, ?_⟩
    calc readClasses environment
      _ = ⟨(readClasses environment).default, (readClasses environment).valid⟩ := rfl
      _ = cluster.classes := by rw [default, valid]; rfl

/-- Loading fails exactly with the error of the first malformed variable. -/
theorem ofEnvironment_eq_error_iff {error : ClusterError} :
    ofEnvironment environment = .error error ↔ environment.Reports Setting.checked error := by
  have noneReported : ¬ environment.Reports [] error := nofun
  rw [ofEnvironment, readLabels_eq_read, readTolerations_eq_read, readDefaultMode_eq_read]
  -- A step is taken only if the ones before it did not fail.
  simp only [bind_eq_error_iff, Setting.checked, Environment.reports_cons_iff, noneReported,
    ← Environment.read_eq_error_iff, ← ne_eq, ← exists_eq_ok_iff, exists_and_right, pure,
    Except.pure, reduceCtorEq]

theorem get_eq_of_agrees {cluster otherCluster : Cluster} {setting : Setting}
    (loaded : ofEnvironment environment = .ok cluster)
    (otherLoaded : ofEnvironment other = .ok otherCluster)
    (agrees : environment.Agrees other setting) :
    cluster.get setting = otherCluster.get setting := by
  have read := ofEnvironment_eq_ok_iff_read.mp loaded setting
  have otherRead := ofEnvironment_eq_ok_iff_read.mp otherLoaded setting
  rw [agrees.read_eq, otherRead] at read
  exact (Except.ok.inj read).symm

theorem ofEnvironment_congr (agree : ∀ setting, environment.Agrees other setting) :
    ofEnvironment environment = ofEnvironment other := by
  cases loaded : ofEnvironment other with
  | error error =>
      rw [ofEnvironment_eq_error_iff] at loaded ⊢
      exact (Environment.reports_congr fun setting _ => agree setting).mpr loaded
  | ok cluster =>
      rw [ofEnvironment_eq_ok_iff_read] at loaded ⊢
      exact fun setting => (agree setting).read_eq.trans (loaded setting)

end Loading

/-- From an environment a cluster is loaded setting by setting. -/
theorem loadsSettings : LoadsSettings ofEnvironment where
  fails_iff := fun _ _ => ofEnvironment_eq_error_iff
  named := by
    intro environment error fails
    obtain ⟨setting, member, text, said, malformed⟩ :=
      (ofEnvironment_eq_error_iff.mp fails).exists_isMalformed
    obtain ⟨before, after, message⟩ := malformed.exists_message_eq
    exact ⟨setting, member, text, before, after, said, malformed, message⟩
  succeeds_iff := by
    intro environment
    rw [exists_eq_ok_iff]
    calc (∀ error, ofEnvironment environment ≠ .error error)
      _ ↔ ¬ ∃ error, environment.Reports Setting.checked error := by
        simp only [ne_eq, ofEnvironment_eq_error_iff, not_exists]
      _ ↔ ∀ setting ∈ Setting.checked, ∀ error, ¬ environment.IsMalformed setting error := by
        rw [Environment.exists_reports_iff]
        simp only [not_exists, not_and]
  loads_iff := by
    intro environment cluster
    simp only [ofEnvironment_eq_ok_iff_read, Environment.read_eq_ok_iff]
  own := fun _ _ _ _ _ => get_eq_of_agrees
  classes := by
    intro environment other error agree
    rw [ofEnvironment_eq_error_iff, ofEnvironment_eq_error_iff, Environment.reports_congr agree]
  agreeing := fun _ _ => ofEnvironment_congr

end Cluster

/-- Tolerations that are not base64, and a mode that does not exist. -/
def Environment.garbled : Environment
  | "KFN_PREEMPTIBLE_NODES_TOLERATIONS" => some "\tnot base64! "
  | "KFN_DEFAULT_PREEMPTION_MODE" => some "sometimes"
  | "KFN_VALID_PRIORITY_CLASS_NAMES" => some ",,"
  | _ => none

example : Cluster.ofEnvironment .garbled =
    .error (.invalidBase64 .tolerations (.invalidSymbol 32 3)) := by
  decide +kernel

end PodPlacement

import PodPlacement.Base64
import PodPlacement.Format.Cluster
import PodPlacement.SystemError
import PodPlacement.Text.Blank
import PodPlacement.Text.Segments

/-!
# Clusters from documents and from the environment

A configuration is loaded from a JSON document, or from five variables. White
space around the value of a variable does not count, and a variable that is
missing or blank leaves its setting unconfigured. The node labels and the
tolerations are JSON in base64; the valid priority classes are a list with
commas between them. Each setting is read from its own variable, and the first
variable that cannot be read is reported.
-/

namespace PodPlacement

/-- The variables that configure a cluster. -/
inductive Setting where
  | nodeLabels
  | tolerations
  | defaultMode
  | validClasses
  | defaultClass
  deriving DecidableEq, Repr

/-- The name of the variable of a setting. -/
def Setting.name : Setting → String
  | nodeLabels => "KFN_PREEMPTIBLE_NODES_NODE_SELECTOR"
  | tolerations => "KFN_PREEMPTIBLE_NODES_TOLERATIONS"
  | defaultMode => "KFN_DEFAULT_PREEMPTION_MODE"
  | validClasses => "KFN_VALID_PRIORITY_CLASS_NAMES"
  | defaultClass => "KFN_DEFAULT_PRIORITY_CLASS_NAME"

/-- Why a configuration cannot be loaded. -/
inductive ClusterError where
  /-- The value of a variable is not base64. -/
  | invalidBase64 (setting : Setting) (error : Base64.DecodeError)
  /-- A document, or the value of a variable, is not the JSON that it should be. -/
  | invalidJson (origin : String) (error : Json.ReadError)
  /-- The default mode does not exist. -/
  | unknownMode (name : String)
  /-- A file cannot be read. -/
  | unreadable (path : String) (error : SystemError)
  deriving DecidableEq, Repr

/-- The message of an error. -/
def ClusterError.message : ClusterError → String
  | invalidBase64 setting error =>
      setting.name ++ " is not valid base64: " ++ error.message
  | invalidJson origin error => "invalid JSON in " ++ origin ++ ": " ++ error.message
  | unknownMode name =>
      "invalid default preemption mode '" ++ name ++
        "', expected one of: allow, constrain, prevent, none"
  | unreadable path error => "failed to read " ++ path ++ ": " ++ error.message

/-- The values of variables. -/
abbrev Environment := String → Option String

/-- The value of a setting without the white space around it, unless it is
missing or blank. -/
def Environment.value (environment : Environment) (setting : Setting) : Option String :=
  ((environment setting.name).map Text.trim).filter fun value => value ≠ ""

/-- The names in a list with commas between them, without the white space
around them. Blank names do not count. -/
def splitNames (text : String) : List String :=
  ((Text.segments ',' text.toList).map fun name => String.ofList (Text.trimmed name)).filter
    fun name => name ≠ ""

namespace Cluster

/-- A configuration read from a document, which messages call `origin`. -/
def ofDocument (origin text : String) : Except ClusterError Cluster :=
  (Json.readText Cluster.read text).mapError (.invalidJson origin)

/-- A configuration read from a document of no particular origin. -/
def ofText (text : String) : Except ClusterError Cluster :=
  ofDocument "document" text

/-- The value of a setting that is JSON in base64. -/
def decodeSetting {α : Type} (read : Json.Reader α) (setting : Setting) (text : String) :
    Except ClusterError α := do
  let decoded ← (Base64.decode (Text.bytes text.toList)).mapError
    (.invalidBase64 setting)
  (Json.readBytes read decoded).mapError (.invalidJson setting.name)

/-- The node labels of an environment. -/
def readLabels (environment : Environment) : Except ClusterError LabelMap :=
  match environment.value .nodeLabels with
  | none => .ok .empty
  | some text => decodeSetting LabelMap.read .nodeLabels text

/-- The tolerations of an environment. -/
def readTolerations (environment : Environment) : Except ClusterError (List Toleration) :=
  match environment.value .tolerations with
  | none => .ok []
  | some text => decodeSetting Toleration.readAll .tolerations text

/-- The default mode of an environment. -/
def readDefaultMode (environment : Environment) : Except ClusterError Mode :=
  match environment.value .defaultMode with
  | none => .ok .standard
  | some name =>
    match Mode.ofName? name with
    | some mode => .ok mode
    | none => .error (.unknownMode name)

/-- The priority classes of an environment. -/
def readClasses (environment : Environment) : PriorityClasses :=
  { default := environment.value .defaultClass
    valid := ((environment.value .validClasses).map splitNames).getD [] }

/-- The configuration of an environment. -/
def ofEnvironment (environment : Environment) : Except ClusterError Cluster := do
  let labels ← readLabels environment
  let tolerations ← readTolerations environment
  let defaultMode ← readDefaultMode environment
  return { nodes := { labels, tolerations, defaultMode }, classes := readClasses environment }

end Cluster

end PodPlacement

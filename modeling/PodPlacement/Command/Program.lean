import PodPlacement.Command.Line
import PodPlacement.Command.Output

/-!
# The program

The program reads its command line, loads the cluster configuration, and runs
the command. What it needs of the world is given to it: the environment, and
how files and the standard input are read. The configuration is loaded before
the input is opened. An input that can be opened but not read counts as damaged,
like one that is no JSON.
-/

namespace PodPlacement.Program

/-- What comes of opening a file and reading it. -/
inductive FileReading where
  | text (content : String)
  /-- The file cannot be opened. -/
  | unopened (error : SystemError)
  /-- The file can be opened but not read. -/
  | unread (error : SystemError)
  deriving DecidableEq, Repr

/-- What the program needs of the world. -/
structure World (m : Type → Type) where
  environment : Environment
  file : String → m FileReading
  standardInput : m String

/-- How the program ends. -/
structure Exit where
  code : UInt8
  output : String := ""
  error : String := ""
  deriving DecidableEq, Repr

/-- The variable that may name the configuration file. -/
def configVariable : String :=
  "KFN_CONFIG"

/-- The answer to a request for the version. -/
def version : String :=
  "kfn 0.1.0\n"

/-- The answer to a request for help. -/
def usage : String :=
  "Usage: kfn [-c|--config FILE] COMMAND\n\n" ++
  "Commands:\n" ++
  "  enrich [-i|--input FILE] [-m|--mode MODE]\n" ++
  "              Enrich a resource spec for its preemption mode\n" ++
  "  descriptor  Show the preemptible node descriptor of the cluster\n" ++
  "  help        Show this text\n\n" ++
  "Without a configuration file the cluster is described by KFN_* variables.\n"

/-- How the program ends after a command. -/
def Exit.ofOutput (output : Output) : Exit :=
  match output.error with
  | none => { code := 0, output := output.written }
  | some error =>
      { code := 1, output := output.written, error := "Error: " ++ error.message ++ "\n" }

variable {m : Type → Type} [Monad m]

/-- The cluster configuration: of the file, or else of the environment. -/
def loadCluster (world : World m) (config : Option String) :
    m (Except ClusterError Cluster) :=
  match config with
  | none => return Cluster.ofEnvironment world.environment
  | some path => do
    match ← world.file path with
    | .text content => return Cluster.ofDocument path content
    | .unopened error => return .error (.unreadable path error)
    | .unread error => return .error (.unreadable path error)

/-- The text of the input; a dash stands for the standard input. -/
def loadInput (world : World m) (input : String) : m (Except CommandError String) := do
  if input = "-" then return .ok (← world.standardInput)
  match ← world.file input with
  | .text content => return .ok content
  | .unopened error => return .error (.io error)
  | .unread _ => return .error (.input .damaged)

/-- The output of the command that prints the report. -/
def runDescriptor (world : World m) (config : Option String) : m Output := do
  match ← loadCluster world config with
  | .error error => return { error := some (.cluster error) }
  | .ok cluster => return printReport cluster.source .unlimited

/-- The output of the command that enriches a specification. -/
def runEnrich (world : World m) (config : Option String) (input : String)
    (mode : Option String) : m Output := do
  match ← loadCluster world config with
  | .error error => return { error := some (.cluster error) }
  | .ok cluster =>
    match ← loadInput world input with
    | .error error => return { error := some error }
    | .ok text => return printEnriched cluster text mode .unlimited

/-- Runs the program with the words of its command line. -/
def run (world : World m) (words : List String) : m Exit := do
  match CommandLine.read (world.environment configVariable) words with
  | none => return { code := 2, error := usage }
  | some .version => return { code := 0, output := version }
  | some .help => return { code := 0, output := usage }
  | some (.descriptor config) => return Exit.ofOutput (← runDescriptor world config)
  | some (.enrich config input mode) =>
      return Exit.ofOutput (← runEnrich world config input mode)

end PodPlacement.Program

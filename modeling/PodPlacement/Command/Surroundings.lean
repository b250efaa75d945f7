import PodPlacement.Command.FileTree
import PodPlacement.Command.Program

/-!
# Surroundings that are known in full

A run of the program depends on the variables, the files of the directory where
it runs, and the standard input. If all three are given, so is how it ends.

The standard input is a stream: who reads it to its end leaves nothing to the
next reader, under whichever of its names. So a run carries along what is left
of it.
-/

namespace PodPlacement.Program

/-- All that a run of the program depends on besides its command line. -/
structure Surroundings where
  environment : Environment
  /-- The names and contents of the files in the directory where it runs. -/
  files : List (String × String) := []
  standardInput : String := ""

/-- A computation that reads from the standard input. Its state is what is left
to read. -/
abbrev Reading := StateM String

/-- All that is left of the standard input. -/
def Reading.rest : Reading String :=
  modifyGet fun left => (left, "")

namespace Surroundings

/-- The place where the program runs: a directory of files in a directory of
which nothing else is known. -/
def place (surroundings : Surroundings) : Place :=
  { here := .directory (surroundings.files.map fun (name, content) => (name, .file content))
    around := [.directory [], .system] }

/-- Opens and reads the file at a path. A directory can be opened but not
read. -/
def file (surroundings : Surroundings) (path : String) : Reading FileReading :=
  match surroundings.place.resolve path with
  | .error error => return .unopened error
  | .ok place =>
    match place.here with
    | .file content => return .text content
    | .standardInput => return .text (← Reading.rest)
    | .directory _ => return .unread .isDirectory

/-- The surroundings as a world. -/
def world (surroundings : Surroundings) : World Reading :=
  { environment := surroundings.environment
    file := surroundings.file
    standardInput := Reading.rest }

/-- How the program ends when it runs with the words of its command line. -/
def run (surroundings : Surroundings) (words : List String) : Exit :=
  ((Program.run surroundings.world words).run surroundings.standardInput).1

end Surroundings

end PodPlacement.Program

import PodPlacement.Command.Program

/-!
# The executable

Gives the program the world it runs in.
-/

namespace PodPlacement

/-- The number of an error. Some errors come with their number negated. -/
def errorNumber (code : UInt32) : UInt32 :=
  if code.toInt32 < 0 then 0 - code else code

/-- What an error of an operation on a file means. -/
def systemError : IO.Error → SystemError
  | .noFileOrDirectory .. => .notFound
  | .permissionDenied .. => .permissionDenied
  | .inappropriateType _ code _ =>
      if errorNumber code = 21 then .isDirectory else .notDirectory
  | .invalidArgument file code details =>
      if errorNumber code = 36 then .nameTooLong
      else .other (toString (IO.Error.invalidArgument file code details))
  | error => .other (toString error)

/-- Opens and reads a file. A directory can be opened. -/
def readFile (path : String) : IO Program.FileReading := do
  try
    return .text (← IO.FS.readFile path)
  catch error =>
    match systemError error with
    | .isDirectory => return .unread .isDirectory
    | error => return .unopened error

/-- Reads the standard input to its end. -/
def readInput : IO String := do
  let stdin ← IO.getStdin
  stdin.readToEnd

/-- The variables that the program looks at. -/
def variableNames : List String :=
  Program.configVariable ::
    [Setting.nodeLabels, .tolerations, .defaultMode, .validClasses, .defaultClass].map
      Setting.name

/-- The values of the variables that the program looks at. -/
def readEnvironment : IO Environment := do
  let values ← variableNames.mapM fun name => return (name, ← IO.getEnv name)
  return fun name => (values.lookup name).join

end PodPlacement

open PodPlacement in
/-- Runs the program, prints what it prints, and ends as it ends. -/
def main (words : List String) : IO UInt32 := do
  let world : Program.World IO :=
    { environment := ← readEnvironment, file := readFile, standardInput := readInput }
  let exit ← Program.run world words
  IO.print exit.output
  IO.eprint exit.error
  return exit.code.toUInt32

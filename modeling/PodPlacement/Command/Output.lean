import PodPlacement.Cluster.Environment
import PodPlacement.Format.Spec

/-!
# Commands and their output

A command prints one JSON value, indented and with a final line break. What
takes the output may fail after so many bytes; the bytes before that are
written all the same, and the error tells whether the value or only its line
break is incomplete.
-/

namespace PodPlacement

/-- Why a command fails. -/
inductive CommandError where
  /-- The cluster configuration cannot be loaded. -/
  | cluster (error : ClusterError)
  /-- The specification is refused. -/
  | refused (error : SpecError)
  /-- The input is not a document. -/
  | input (error : Json.ReadError)
  /-- The value cannot be written. -/
  | format (error : SystemError)
  /-- Opening the input, or ending the output, fails. -/
  | io (error : SystemError)
  deriving DecidableEq, Repr

/-- The message of an error. -/
def CommandError.message : CommandError → String
  | cluster error => "configuration error: " ++ error.message
  | refused error => error.message
  | input error => "invalid input: " ++ error.message
  | format error => "format error: " ++ error.message
  | io error => "IO error: " ++ error.message

/-- What a command has written, and why it failed if it did. -/
structure Output where
  written : String := ""
  error : Option CommandError := none
  deriving DecidableEq, Repr

/-- What takes the output of a command. -/
inductive Outlet where
  | unlimited
  /-- Takes so many bytes and fails then with an error. -/
  | limited (capacity : Nat) (error : SystemError)
  deriving DecidableEq, Repr

/-- The characters of a text that fit into so many bytes. A character that fits
only in part is shown by the replacement character. -/
def takeBytes : Nat → List Char → List Char
  | _, [] => []
  | capacity, c :: rest =>
      if c.utf8Size ≤ capacity then c :: takeBytes (capacity - c.utf8Size) rest
      else if capacity = 0 then []
      else ['\ufffd']

namespace Outlet

/-- Prints a value. -/
def print (outlet : Outlet) (value : Json) : Output :=
  let text := value.pretty
  match outlet with
  | .unlimited => { written := text ++ "\n" }
  | .limited capacity error =>
      if capacity < text.utf8ByteSize then
        { written := String.ofList (takeBytes capacity text.toList)
          error := some (.format error) }
      else if capacity = text.utf8ByteSize then
        { written := text, error := some (.io error) }
      else { written := text ++ "\n" }

end Outlet

/-- Prints the report of a source. -/
def printReport (source : Source) (outlet : Outlet) : Output :=
  outlet.print (Report.of source).toJson

/-- The document of an input, with another mode if one is given. -/
def readDocument (input : String) (mode : Option String) :
    Except CommandError SpecDocument :=
  match Json.readText SpecDocument.read input with
  | .ok document => .ok { document with modeName := mode <|> document.modeName }
  | .error error => .error (.input error)

/-- The specification that an input asks for. -/
def enrichInput (cluster : Cluster) (input : String) (mode : Option String) :
    Except CommandError PodSpec := do
  let document ← readDocument input mode
  (document.toSpec cluster.source cluster.classes).mapError .refused

/-- Prints the specification that an input asks for. -/
def printEnriched (cluster : Cluster) (input : String) (mode : Option String)
    (outlet : Outlet) : Output :=
  match enrichInput cluster input mode with
  | .ok spec => outlet.print spec.toJson
  | .error error => { error := some error }

end PodPlacement

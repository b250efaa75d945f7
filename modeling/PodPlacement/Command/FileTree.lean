import PodPlacement.SystemError
import PodPlacement.Text.Segments

/-!
# Trees of files

A directory gives names to files and to further directories, so a single
directory, the root, can hold all files of a system. A place in such a tree is
what is found there together with the directories around it.

A path is a list of names with slashes between them, and each name is one step
from the place where the names before it lead. The first step starts at the
root if a slash stands in front, and else where the program runs. In a
directory, an empty name and a dot stay, two dots lead out, and any other name
is looked up. From anything else no step leads on, not even an empty one.
-/

namespace PodPlacement

/-- What a name in a directory stands for. -/
inductive FileTree where
  | file (content : String)
  /-- The standard input, which has names too. -/
  | standardInput
  | directory (entries : List (String × FileTree))

/-- What all systems have in common: the directories at the root, and of the
devices the standard input and those that always give the same. The devices
that give zeros without end are cut after the first, which no document has. -/
def FileTree.system : FileTree :=
  let descriptors := directory [("0", standardInput)]
  let zeros := file "\x00"
  let devices := [("fd", descriptors), ("full", zeros), ("null", file ""),
    ("stdin", standardInput), ("zero", zeros)]
  let known := [("dev", directory devices),
    ("proc", directory [("self", directory [("fd", descriptors)])])]
  let others := ["bin", "boot", "etc", "home", "lib", "media", "mnt", "opt", "root", "run",
    "sbin", "srv", "sys", "tmp", "usr", "var"]
  directory (known ++ others.map fun name => (name, directory []))

/-- A place in a tree of files. -/
structure Place where
  /-- What is found at the place. -/
  here : FileTree
  /-- The directories around the place, from the nearest to the root. -/
  around : List FileTree := []

namespace Place

/-- The longest name, in bytes. -/
def nameLimit : Nat := 255

/-- The longest path, in bytes. -/
def pathLimit : Nat := 4095

/-- One directory further out. The root is as far out as it goes. -/
def outside (place : Place) : Place :=
  match place.around with
  | [] => place
  | nearest :: others => { here := nearest, around := others }

/-- The root of the tree. -/
def root (place : Place) : Place :=
  match place.around.getLast? with
  | none => place
  | some root => { here := root }

/-- Where one more name of a path leads. -/
def step (place : Place) (name : String) : Except SystemError Place :=
  match place.here with
  | .directory entries =>
    if name = "" ∨ name = "." then .ok place
    else if name = ".." then .ok place.outside
    else if nameLimit < name.utf8ByteSize then .error .nameTooLong
    else
      match entries.lookup name with
      | some found => .ok { here := found, around := place.here :: place.around }
      | none => .error .notFound
  | _ => .error .notDirectory

/-- Where the first step of a path starts. -/
def start (place : Place) (path : String) : Place :=
  if path.toList.head? = some '/' then place.root else place

/-- Where a path leads. -/
def resolve (place : Place) (path : String) : Except SystemError Place :=
  if path = "" then .error .notFound
  else if pathLimit < path.utf8ByteSize then .error .nameTooLong
  else ((Text.segments '/' path.toList).map String.ofList).foldlM step (place.start path)

end Place

end PodPlacement

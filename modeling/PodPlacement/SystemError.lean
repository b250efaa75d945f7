/-!
# Errors of the system

What the system says when it does not open, read or write a file. A message
gives the system's words and its number for the error.
-/

namespace PodPlacement

/-- Why the system fails to do what it is asked to. -/
inductive SystemError where
  /-- Nothing has the name. -/
  | notFound
  /-- The file must not be opened. -/
  | permissionDenied
  /-- A path goes on after a file that is no directory. -/
  | notDirectory
  /-- A directory is read like a file. -/
  | isDirectory
  /-- A path, or a name in it, has too many bytes. -/
  | nameTooLong
  /-- Any other reason, in words. -/
  | other (reason : String)
  deriving DecidableEq, Repr

/-- The message of an error. -/
def SystemError.message : SystemError → String
  | notFound => "No such file or directory (os error 2)"
  | permissionDenied => "Permission denied (os error 13)"
  | notDirectory => "Not a directory (os error 20)"
  | isDirectory => "Is a directory (os error 21)"
  | nameTooLong => "File name too long (os error 36)"
  | other reason => reason

end PodPlacement

import GrammarLoader.Bytes

/-! # File stores

What the library needs from a file system: read a whole file, and create (or
truncate) a file and write it. A store answers in the terms the operating system
uses: opening can fail, and so can reading after a successful open, as when the
path is a directory.
-/

namespace GrammarLoader.Files

/-- Why a path could not be opened, created or read: an operating-system error, with
the text and number the system gives it, or a path that cannot be handed to the
system at all. -/
inductive FileError where
  | notFound
  | notADirectory
  | isADirectory
  /-- A directory was to be made where something else already is. -/
  | alreadyExists
  /-- The path, or one of its components, is longer than the system takes. -/
  | nameTooLong
  /-- The path holds a NUL character, which ends a path for the system. -/
  | nulInName
  /-- The device has no room for the bytes. -/
  | noSpace
  /-- The device is not there to be opened. -/
  | noDevice
  /-- The user may not do this. -/
  | permissionDenied
  /-- Any other error, by its full text. -/
  | other (text : String)
  deriving Repr, DecidableEq

/-- The error's text. -/
def FileError.message : FileError → String
  | .notFound => "No such file or directory (os error 2)"
  | .notADirectory => "Not a directory (os error 20)"
  | .isADirectory => "Is a directory (os error 21)"
  | .alreadyExists => "File exists (os error 17)"
  | .nameTooLong => "File name too long (os error 36)"
  | .nulInName => "file name contained an unexpected NUL byte"
  | .noSpace => "No space left on device (os error 28)"
  | .noDevice => "No such device or address (os error 6)"
  | .permissionDenied => "Permission denied (os error 13)"
  | .other text => text

/-- What reading a file gave. -/
inductive ReadOutcome where
  | contents (bytes : Bytes)
  | openFailed (e : FileError)
  | readFailed (e : FileError)
  deriving Repr, DecidableEq

/-- Why writing a file failed. -/
inductive WriteFault where
  | createFailed (e : FileError)
  | writeFailed (e : FileError)
  deriving Repr, DecidableEq

/-- A file system the library can read and write. -/
class FileStore (m : Type → Type) where
  /-- Open a path and read it whole. -/
  readFile : String → m ReadOutcome
  /-- Create or truncate a path and write the bytes. -/
  writeFile : String → Bytes → m (Except WriteFault Unit)

end GrammarLoader.Files

import GrammarLoader.Cli.Run

/-! # The command-line program

Reads the arguments, runs them against the real file system, writes the run's
text to standard output and errors to standard error, and exits with 0 when the
run passed and 1 otherwise.
-/

namespace GrammarLoader.Cli

open Files

/-- The operating-system error behind an I/O error. -/
def fileErrorOf (e : IO.Error) : FileError :=
  match e with
  | .noFileOrDirectory _ _ _ => .notFound
  | .inappropriateType _ 20 _ => .notADirectory
  | .inappropriateType _ 21 _ => .isADirectory
  | .otherError 21 _ => .isADirectory
  | .otherError 20 _ => .notADirectory
  | .alreadyExists _ 17 _ => .alreadyExists
  | .invalidArgument _ 36 _ => .nameTooLong
  | .otherError 36 _ => .nameTooLong
  | .resourceExhausted _ 28 _ => .noSpace
  | .otherError 28 _ => .noSpace
  | .noSuchThing _ 6 _ => .noDevice
  | .otherError 6 _ => .noDevice
  | .permissionDenied _ 13 _ => .permissionDenied
  | .otherError 13 _ => .permissionDenied
  | e => .other (toString e)

/-- The real file system. -/
instance : FileStore IO where
  readFile path := do
    if path.contains (Char.ofNat 0) then return .openFailed .nulInName
    match ← (IO.FS.Handle.mk path .read).toBaseIO with
    | .error e => return .openFailed (fileErrorOf e)
    | .ok h =>
      match ← h.readBinToEnd.toBaseIO with
      | .error e => return .readFailed (fileErrorOf e)
      | .ok bytes => return .contents bytes.toList
  writeFile path bs := do
    if path.contains (Char.ofNat 0) then return .error (.createFailed .nulInName)
    match ← (IO.FS.Handle.mk path .write).toBaseIO with
    | .error e => return .error (.createFailed (fileErrorOf e))
    | .ok h =>
      match ← (do h.write (ByteArray.mk bs.toArray); h.flush).toBaseIO with
      | .error e => return .error (.writeFailed (fileErrorOf e))
      | .ok () => return .ok ()

end GrammarLoader.Cli

open GrammarLoader.Cli in
/-- Parse, run, print. -/
def main (args : List String) : IO UInt32 := do
  match parseArgs ("grz" :: args) with
  | .error msg =>
    IO.eprintln s!"\x1b[31mError: {msg}\x1b[0m"
    IO.eprintln "Run `grz --help` for usage."
    return 1
  | .ok o =>
    let (text, result) ← run (m := IO) o
    IO.print text
    match result with
    | .ok true => return 0
    | .ok false => return 1
    | .error e =>
      IO.eprintln ("\x1b[31mError: " ++ e.message ++ "\x1b[0m")
      return 1

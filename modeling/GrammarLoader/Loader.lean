import GrammarLoader.Artifact.Decode
import GrammarLoader.Language
import GrammarLoader.Files.Store

/-! # Loading

Every way to a language goes through `load`: an artifact that passes validation
becomes a language, one that fails gives its failure with the grammar's name as
context. Bytes are decoded first, and a file is read and then decoded; a file's
errors carry its path as context, added to the grammar's.
-/

namespace GrammarLoader

open Files

/-- Where an artifact may come from: a function that may have none to give. -/
structure ArtifactSource where
  artifact? : Option Artifact

/-- A source without an artifact. -/
def ArtifactSource.unset : ArtifactSource := ⟨none⟩

namespace Loader

/-- Validate the artifact, if any, and make its language. -/
def load (c : LoaderConfig) : Option Artifact → Except Error Language
  | none => .error (.ofFailure .missing)
  | some a =>
    match a.validate c with
    | .ok () => .ok (Language.ofArtifact a)
    | .error f => .error ((Error.ofFailure f).withContext { grammar := some a.name })

/-- Load the artifact a source gives. -/
def loadSource (c : LoaderConfig) (src : ArtifactSource) : Except Error Language :=
  load c src.artifact?

/-- Decode bytes, then load; decoding errors have no context. -/
def loadBytes (c : LoaderConfig) (bs : Bytes) : Except Error Language :=
  match Artifact.decode bs with
  | .error f => .error (.ofFailure f)
  | .ok a => load c (some a)

/-- The context naming a file. -/
def sourceContext (path : String) : Context := { source := some path }

/-- An I/O error about a file: what failed, the path, and the system's text. -/
def fileError (what path : String) (e : FileError) : Error :=
  { kind := .io s!"failed to {what} file '{path}': {e.message}", context := some (sourceContext path) }

/-- The artifact in what reading a file gave. A file that is not there is a missing artifact. -/
def artifactOfRead (path : String) : ReadOutcome → Except Error Artifact
  | .openFailed .notFound => .error ((Error.ofFailure .missing).withContext (sourceContext path))
  | .openFailed e => .error (fileError "open" path e)
  | .readFailed e => .error (fileError "read" path e)
  | .contents bs =>
    match Artifact.decode bs with
    | .ok a => .ok a
    | .error f => .error ((Error.ofFailure f).withContext (sourceContext path))

/-- Load what reading a file gave; a rejection keeps its grammar and gains the path. -/
def loadRead (c : LoaderConfig) (path : String) (r : ReadOutcome) : Except Error Language :=
  match artifactOfRead path r with
  | .error e => .error e
  | .ok a =>
    match load c (some a) with
    | .ok l => .ok l
    | .error e => .error (e.withContext { (e.context.getD {}) with source := some path })

/-- Read a file and load it. -/
def loadFile {m : Type → Type} [Monad m] [FileStore m] (c : LoaderConfig) (path : String) :
    m (Except Error Language) := do
  return loadRead c path (← FileStore.readFile path)

end Loader

/-- The size of the buffer that saved bytes pass through. -/
def Artifact.saveBufferBytes : Nat := 8192

/-- Write an encoded artifact to a file. The bytes pass through a buffer: fewer
than the buffer holds reach the file only when it is flushed, so a refused write
is a failed flush; as many or more are written at once. -/
def Artifact.save {m : Type → Type} [Monad m] [FileStore m] (a : Artifact) (path : String) :
    m (Except Error Unit) := do
  let bs := a.encode
  match ← FileStore.writeFile path bs with
  | .ok () => return .ok ()
  | .error (.createFailed e) => return .error (Loader.fileError "create" path e)
  | .error (.writeFailed e) =>
    let step := if bs.length < Artifact.saveBufferBytes then "flush" else "write to"
    return .error (Loader.fileError step path e)

end GrammarLoader

import GrammarLoader.Builtin

/-! # Checks

A check loads a grammar once and keeps what came of it: the language, or the
error. Shown, a success reads `ok:` and the language; a failure reads
`Error loading Grz grammar:`, the error, and its context in parentheses when it
has one.
-/

namespace GrammarLoader

open Files

/-- The result of loading a grammar once. -/
inductive CheckOutcome where
  | loaded (l : Language)
  | failed (e : Error)

namespace CheckOutcome

/-- The heading of a failed check. -/
def failureHeading : String := "Error loading Grz grammar"

/-- The outcome of a load. -/
def ofResult : Except Error Language → CheckOutcome
  | .ok l => .loaded l
  | .error e => .failed e

/-- Whether the grammar loaded. -/
def passed : CheckOutcome → Bool
  | .loaded _ => true
  | .failed _ => false

/-- The language, if it loaded. -/
def language? : CheckOutcome → Option Language
  | .loaded l => some l
  | .failed _ => none

/-- The error, if it did not. -/
def error? : CheckOutcome → Option Error
  | .loaded _ => none
  | .failed e => some e

/-- Back to the load's result. -/
def toResult : CheckOutcome → Except Error Language
  | .loaded l => .ok l
  | .failed e => .error e

/-- The outcome's text. -/
def display : CheckOutcome → String
  | .loaded l => "ok: " ++ l.display
  | .failed e =>
    failureHeading ++ ": " ++ e.message ++
      match e.context with
      | some c => " (" ++ c.render ++ ")"
      | none => ""

end CheckOutcome

namespace Check

/-- Check the artifact that a source gives. -/
def source (c : LoaderConfig) (src : ArtifactSource) : CheckOutcome :=
  .ofResult (Loader.loadSource c src)

/-- Check the built-in grammar. -/
def builtin (c : LoaderConfig) : CheckOutcome :=
  source c Builtin.source

/-- Check an artifact, if any. -/
def artifact (c : LoaderConfig) (a : Option Artifact) : CheckOutcome :=
  .ofResult (Loader.load c a)

/-- Check an artifact file. -/
def file {m : Type → Type} [Monad m] [FileStore m] (c : LoaderConfig) (path : String) :
    m CheckOutcome :=
  CheckOutcome.ofResult <$> Loader.loadFile c path

end Check

end GrammarLoader

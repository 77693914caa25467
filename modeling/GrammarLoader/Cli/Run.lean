import GrammarLoader.Check
import GrammarLoader.Report
import GrammarLoader.Cli.Options

/-! # Running the command line

Help and version come first and end the run. Then `--emit` writes the built-in
artifact and says so; with no artifact paths that ends the run. Then each path is
checked (or the built-in grammar, when there are none) and gets one status line:
`ok:` and the summary, followed by the tables with `--info`, or the failed
check's text. The run passes when every check does.
-/

namespace GrammarLoader.Cli

open Files

/-- Why a run stopped. -/
inductive CliError where
  | usage (message : String)
  | grammar (e : Error)
  deriving Repr, DecidableEq

/-- The error's text. -/
def CliError.message : CliError → String
  | .usage m => m
  | .grammar e => e.message

/-- The help text. -/
def helpText : String :=
  "grz - load and check Grz grammar artifacts\n" ++
  "\n" ++
  "USAGE:\n" ++
  "    grz [OPTIONS] [ARTIFACTS...]\n" ++
  "\n" ++
  "ARGUMENTS:\n" ++
  "    [ARTIFACTS...]    Artifact files to check (default: the built-in grammar)\n" ++
  "\n" ++
  "OPTIONS:\n" ++
  "    -h, --help         Print help information\n" ++
  "    -V, --version      Print version information\n" ++
  "    -v, --verbose      Enable debug logging (RUST_LOG overrides)\n" ++
  "    --info             Print node-kind and field tables\n" ++
  "    --emit PATH        Write the built-in artifact to PATH\n" ++
  "    --min-abi N        Oldest accepted artifact ABI version\n" ++
  "    --max-abi N        Newest accepted artifact ABI version\n" ++
  "    --no-verify        Skip fingerprint verification\n" ++
  "\n" ++
  "EXAMPLES:\n" ++
  "    grz                          Check the built-in grammar\n" ++
  "    grz --info                   Check it and print its tables\n" ++
  "    grz --emit grz.grza          Write the built-in artifact\n" ++
  "    grz --min-abi 14 grz.grza    Check an artifact file\n"

/-- The version line. -/
def versionText : String := s!"grz {Builtin.packageVersion}\n"

/-- The name under which the built-in grammar is reported. -/
def builtinSource : String := "<built-in>"

/-- The status text of one checked source. -/
def statusText (o : Options) (src : String) : CheckOutcome → String
  | .loaded l =>
    s!"{src}: ok: {Report.summary l}\n" ++ (if o.info then Report.tables l ++ "\n" else "")
  | oc@(.failed _) => s!"{src}: {oc.display}\n"

/-- Check each source and write its status; passed when all loaded. -/
def report (o : Options) (outcomes : List (String × CheckOutcome)) : String × Bool :=
  (String.join (outcomes.map fun (src, oc) => statusText o src oc), outcomes.all (·.2.passed))

/-- The checks of a run: each artifact path, or the built-in grammar. -/
def checks {m : Type → Type} [Monad m] [FileStore m] (o : Options) :
    m (List (String × CheckOutcome)) :=
  if o.artifacts.isEmpty then pure [(builtinSource, Check.builtin o.loaderConfig)]
  else o.artifacts.mapM fun path => do return (path, ← Check.file o.loaderConfig path)

/-- Run the options: the text written, and whether the run passed or why it stopped. -/
def run {m : Type → Type} [Monad m] [FileStore m] (o : Options) : m (String × Except CliError Bool) := do
  if o.showHelp then return (helpText, .ok true)
  if o.showVersion then return (versionText, .ok true)
  match o.emit with
  | none =>
    let (text, passed) := report o (← checks o)
    return (text, .ok passed)
  | some path =>
    match ← Builtin.artifact.save path with
    | .error e => return ("", .error (.grammar e))
    | .ok () =>
      let wrote := s!"wrote {path}\n"
      if o.artifacts.isEmpty then return (wrote, .ok true)
      let (text, passed) := report o (← checks o)
      return (wrote ++ text, .ok passed)

end GrammarLoader.Cli

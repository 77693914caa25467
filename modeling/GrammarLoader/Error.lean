import GrammarLoader.Text.Quoted

/-! # Errors

Why loading failed, and where. A load failure has one of eight reasons; besides
those, writing an artifact can fail to serialize, and files can fail to open, read
or write. An error may carry a context: the grammar it concerns and the file it
came from.
-/

namespace GrammarLoader

/-- The three tables whose entries name symbols. -/
inductive SymbolTable where
  | externalTokens
  | extras
  | wordToken
  deriving Repr, DecidableEq

/-- The table's name in messages. -/
def SymbolTable.name : SymbolTable → String
  | .externalTokens => "external token table"
  | .extras => "extras"
  | .wordToken => "word token"

/-- Why an artifact did not load. -/
inductive Failure where
  /-- There was no artifact. -/
  | missing
  /-- The ABI version lies outside the accepted window. -/
  | incompatibleVersion (version min max : UInt32)
  /-- The grammar name is not an identifier. -/
  | invalidName (name : String)
  | invalidSymbolTable (detail : String)
  | invalidFieldTable (detail : String)
  /-- A table names a symbol id past the end of the symbol table. -/
  | danglingSymbol (id : UInt16) (table : SymbolTable)
  /-- The stored fingerprint (0 when unsealed) is not the computed one. -/
  | fingerprintMismatch (stored computed : UInt64)
  /-- The bytes are not an encoded artifact. -/
  | corrupt (detail : String)
  deriving Repr, DecidableEq

/-- `0x` and sixteen lowercase hex digits. -/
def hexWord (n : UInt64) : String :=
  "0x" ++ Text.hexPadded 16 n.toNat

/-- The failure's text. -/
def Failure.message : Failure → String
  | .missing => "grammar artifact is missing"
  | .incompatibleVersion v lo hi => s!"incompatible ABI version {v}, expected {lo}..={hi}"
  | .invalidName name => "invalid grammar name " ++ Text.quote name
  | .invalidSymbolTable d => "invalid symbol table: " ++ d
  | .invalidFieldTable d => "invalid field table: " ++ d
  | .danglingSymbol id t => s!"{t.name} refers to unknown symbol {id}"
  | .fingerprintMismatch s c => "fingerprint mismatch: stored " ++ hexWord s ++ ", computed " ++ hexWord c
  | .corrupt d => "corrupt artifact: " ++ d

/-- What went wrong. -/
inductive ErrorKind where
  | loadFailure (f : Failure)
  | serialization (detail : String)
  | io (detail : String)
  deriving Repr, DecidableEq

/-- The kind's text. -/
def ErrorKind.message : ErrorKind → String
  | .loadFailure f => "load failure: " ++ f.message
  | .serialization d => "serialization error: " ++ d
  | .io d => "I/O error: " ++ d

/-- The grammar and the file an error concerns. -/
structure Context where
  source : Option String := none
  grammar : Option String := none
  deriving Repr, DecidableEq

/-- `grammar G from S`, `grammar G`, `from S`, or nothing. -/
def Context.render (c : Context) : String :=
  match c.grammar, c.source with
  | some g, some s => s!"grammar {g} from {s}"
  | some g, none => s!"grammar {g}"
  | none, some s => s!"from {s}"
  | none, none => ""

/-- An error and its context. -/
structure Error where
  kind : ErrorKind
  context : Option Context := none
  deriving Repr, DecidableEq

namespace Error

/-- A load failure without context. -/
def ofFailure (f : Failure) : Error := ⟨.loadFailure f, none⟩

/-- The error's text; the context is not part of it. -/
def message (e : Error) : String := e.kind.message

/-- The same error with this context, replacing any other. -/
def withContext (e : Error) (c : Context) : Error := { e with context := some c }

/-- The load failure, if that is the kind. -/
def failure? (e : Error) : Option Failure :=
  match e.kind with
  | .loadFailure f => some f
  | _ => none

end Error

end GrammarLoader

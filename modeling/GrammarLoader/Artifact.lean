import GrammarLoader.Symbol

/-! # Grammar artifacts

An artifact is the loadable description of a grammar: its name and ABI version,
the symbol table (symbol 0 is the end of input), the field names, the external
tokens and extras as symbol ids, an optional word token, metadata about the
files it applies to, and a fingerprint. A fingerprint of 0 means the artifact
is not sealed.
-/

namespace GrammarLoader

/-- The ABI version that this library writes. -/
def currentAbi : UInt32 := 15

/-- The oldest ABI version that loads by default. -/
def oldestAbi : UInt32 := 13

/-- What an artifact says about the files of its language. -/
structure Metadata where
  version : String
  scope : String
  fileTypes : List String
  deriving Repr, DecidableEq, Inhabited

/-- A compiled grammar. Symbol ids index `symbols`; field ids start at 1. -/
structure Artifact where
  name : String
  abiVersion : UInt32
  symbols : List Symbol
  fields : List String
  externalTokens : List UInt16
  extras : List UInt16
  wordToken : Option UInt16
  metadata : Metadata
  fingerprint : UInt64
  deriving Repr, DecidableEq, Inhabited

namespace Artifact

/-- A grammar with empty tables, empty metadata and no fingerprint. -/
def empty (name : String) (abiVersion : UInt32) : Artifact where
  name := name
  abiVersion := abiVersion
  symbols := []
  fields := []
  externalTokens := []
  extras := []
  wordToken := none
  metadata := ⟨"", "", []⟩
  fingerprint := 0

/-- The symbol with an id, if the table has one. -/
def symbol? (a : Artifact) (id : UInt16) : Option Symbol :=
  a.symbols[id.toNat]?

/-- Sealed: the fingerprint is set. -/
def isSealed (a : Artifact) : Bool :=
  a.fingerprint != 0

end Artifact

end GrammarLoader

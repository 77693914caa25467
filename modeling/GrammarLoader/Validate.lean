import GrammarLoader.Artifact.Fingerprint
import GrammarLoader.Config
import GrammarLoader.Error

/-! # Validation

The checks an artifact passes before it loads, in order; the first that fails
decides the failure.

1. The name is an ASCII identifier: a letter or `_`, then letters, digits or `_`.
2. The ABI version lies in the configured window.
3. The symbol table is not empty, starts with `end`, has at most 65536 symbols,
   and no symbol has an empty name.
4. There are at most 65535 fields, none empty, in strictly increasing byte order.
5. Every external token and extra is a symbol id of the table; the word token, if
   any, is too, and names a named symbol.
6. An unsealed artifact loads only when sealing is not required; a sealed one, when
   verification is on, only if its fingerprint is the computed one.
-/

namespace GrammarLoader

/-- A letter or `_`, in ASCII. -/
def isNameStart (c : Char) : Bool := c.isAlpha || c == '_'

/-- A letter, digit or `_`, in ASCII. -/
def isNameChar (c : Char) : Bool := c.isAlphanum || c == '_'

/-- Whether a grammar name is an identifier. -/
def isGrammarName (s : String) : Bool :=
  match s.toList with
  | [] => false
  | c :: cs => isNameStart c && cs.all isNameChar

/-- The first adjacent pair of a list that is not strictly increasing. -/
def firstUnordered : List String → Option (String × String)
  | a :: b :: rest => if a < b then firstUnordered (b :: rest) else some (a, b)
  | _ => none

namespace Artifact

/-- Check 1: the name. -/
def checkName (a : Artifact) : Except Failure Unit :=
  if isGrammarName a.name then .ok () else .error (.invalidName a.name)

/-- Check 2: the ABI window. -/
def checkAbi (a : Artifact) (c : LoaderConfig) : Except Failure Unit :=
  if c.acceptsAbi a.abiVersion then .ok ()
  else .error (.incompatibleVersion a.abiVersion c.minAbi c.maxAbi)

/-- Check 3: the symbol table. -/
def checkSymbols (a : Artifact) : Except Failure Unit :=
  match a.symbols with
  | [] => .error (.invalidSymbolTable "table is empty")
  | first :: _ =>
    if first.name != "end" then
      .error (.invalidSymbolTable ("symbol 0 must be \"end\", found " ++ Text.quote first.name))
    else if a.symbols.length > 65536 then
      .error (.invalidSymbolTable s!"{a.symbols.length} symbols exceed the id space")
    else match a.symbols.findIdx? (·.name.isEmpty) with
      | some i => .error (.invalidSymbolTable s!"symbol {i} has an empty name")
      | none => .ok ()

/-- Check 4: the field table. -/
def checkFields (a : Artifact) : Except Failure Unit :=
  if a.fields.length > 65535 then
    .error (.invalidFieldTable s!"{a.fields.length} fields exceed the id space")
  else match a.fields.findIdx? (·.isEmpty) with
    | some i => .error (.invalidFieldTable s!"field {i + 1} has an empty name")
    | none => match firstUnordered a.fields with
      | some (x, y) =>
        .error (.invalidFieldTable (Text.quote x ++ " must sort strictly before " ++ Text.quote y))
      | none => .ok ()

/-- Check 5: references into the symbol table. -/
def checkReferences (a : Artifact) : Except Failure Unit :=
  let n := a.symbols.length
  match a.externalTokens.find? (·.toNat ≥ n) with
  | some id => .error (.danglingSymbol id .externalTokens)
  | none => match a.extras.find? (·.toNat ≥ n) with
    | some id => .error (.danglingSymbol id .extras)
    | none => match a.wordToken with
      | none => .ok ()
      | some w => match a.symbol? w with
        | none => .error (.danglingSymbol w .wordToken)
        | some s =>
          if s.flags.named then .ok ()
          else .error (.invalidSymbolTable ("word token " ++ Text.quote s.name ++ " is not a named symbol"))

/-- Check 6: the fingerprint. -/
def checkFingerprint (a : Artifact) (c : LoaderConfig) : Except Failure Unit :=
  if a.fingerprint == 0 then
    if c.requireFingerprint then .error (.fingerprintMismatch 0 a.computeFingerprint) else .ok ()
  else if c.verifyFingerprint && a.computeFingerprint != a.fingerprint then
    .error (.fingerprintMismatch a.fingerprint a.computeFingerprint)
  else .ok ()

/-- All six checks in order; the first failure wins. -/
def validate (a : Artifact) (c : LoaderConfig) : Except Failure Unit := do
  a.checkName
  a.checkAbi c
  a.checkSymbols
  a.checkFields
  a.checkReferences
  a.checkFingerprint c

end Artifact

end GrammarLoader

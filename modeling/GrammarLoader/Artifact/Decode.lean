import GrammarLoader.Artifact.Encode
import GrammarLoader.Error
import GrammarLoader.MessagePack.Read

/-! # Decoding artifacts

Reading an encoded artifact back. The body must be one MessagePack value that
spells an artifact, with nothing after it. Each record is a map keyed by field
names (or field positions), unknown keys skipped, or an array of its fields in
order. A string may also come as binary data that is UTF-8, and a list of ids as
binary data whose bytes are the ids. Every failure is a corrupt artifact whose
detail says what the reader met.
-/

namespace GrammarLoader.Artifact

open MessagePack

/-- A present field, or the missing-field error. -/
def required {β : Type} (name : String) : Option β → Except ReadError β
  | some x => .ok x
  | none => .error (.missingField name)

/-- Store a value read by `r` with `set`. -/
def storeWith {σ β : Type} (r : Reader β) (set : β → σ → σ) (st : σ) : Reader σ :=
  (fun x => set x st) <$> r

/-- A symbol's three flags. -/
def flagsShape : RecordShape (Option Bool × Option Bool × Option Bool) SymbolFlags where
  name := "SymbolMetadata"
  fields := ["visible", "named", "supertype"]
  empty := (none, none, none)
  isSet st i := match i with
    | 0 => st.1.isSome
    | 1 => st.2.1.isSome
    | _ => st.2.2.isSome
  readField i _ st := match i with
    | 0 => storeWith expectFlag (fun b st => (some b, st.2)) st
    | 1 => storeWith expectFlag (fun b st => (st.1, some b, st.2.2)) st
    | _ => storeWith expectFlag (fun b st => (st.1, st.2.1, some b)) st
  finish st := do
    let v ← required "visible" st.1
    let n ← required "named" st.2.1
    let s ← required "supertype" st.2.2
    pure ⟨v, n, s⟩

/-- A symbol: its name and flags. -/
def symbolShape : RecordShape (Option String × Option SymbolFlags) Symbol where
  name := "SymbolEntry"
  fields := ["name", "metadata"]
  empty := (none, none)
  isSet st i := match i with
    | 0 => st.1.isSome
    | _ => st.2.isSome
  readField i depth st := match i with
    | 0 => storeWith (expectText depth) (fun s st => (some s, st.2)) st
    | _ => storeWith (expectRecord flagsShape depth) (fun f st => (st.1, some f)) st
  finish st := do
    let n ← required "name" st.1
    let f ← required "metadata" st.2
    pure ⟨n, f⟩

/-- File metadata. -/
def metadataShape : RecordShape (Option String × Option String × Option (List String)) Metadata where
  name := "ArtifactMetadata"
  fields := ["version", "scope", "file_types"]
  empty := (none, none, none)
  isSet st i := match i with
    | 0 => st.1.isSome
    | 1 => st.2.1.isSome
    | _ => st.2.2.isSome
  readField i depth st := match i with
    | 0 => storeWith (expectText depth) (fun s st => (some s, st.2)) st
    | 1 => storeWith (expectText depth) (fun s st => (st.1, some s, st.2.2)) st
    | _ => storeWith (expectList depth expectText)
        (fun l st => (st.1, st.2.1, some l)) st
  finish st := do
    let v ← required "version" st.1
    let s ← required "scope" st.2.1
    let t ← required "file_types" st.2.2
    pure ⟨v, s, t⟩

/-- The fields of an artifact read so far. -/
structure Partial where
  name : Option String := none
  abiVersion : Option UInt32 := none
  symbols : Option (List Symbol) := none
  fields : Option (List String) := none
  externalTokens : Option (List UInt16) := none
  extras : Option (List UInt16) := none
  wordToken : Option (Option UInt16) := none
  metadata : Option Metadata := none
  fingerprint : Option UInt64 := none

/-- A list of symbol ids. -/
def expectIds (depth : Nat) : Reader (List UInt16) :=
  expectList depth (fun _ => (fun n => n.toUInt16) <$> expectNat 16)

/-- The artifact record. -/
def artifactShape : RecordShape Partial Artifact where
  name := "GrammarArtifact"
  fields := ["name", "abi_version", "symbols", "fields", "external_tokens", "extras",
    "word_token", "metadata", "fingerprint"]
  empty := {}
  isSet st i := match i with
    | 0 => st.name.isSome
    | 1 => st.abiVersion.isSome
    | 2 => st.symbols.isSome
    | 3 => st.fields.isSome
    | 4 => st.externalTokens.isSome
    | 5 => st.extras.isSome
    | 6 => st.wordToken.isSome
    | 7 => st.metadata.isSome
    | _ => st.fingerprint.isSome
  readField i depth st := match i with
    | 0 => storeWith (expectText depth) (fun x st => { st with name := some x }) st
    | 1 => storeWith (expectNat 32) (fun x st => { st with abiVersion := some x.toUInt32 }) st
    | 2 => storeWith
        (expectList depth (expectRecord symbolShape))
        (fun x st => { st with symbols := some x }) st
    | 3 => storeWith
        (expectList depth expectText)
        (fun x st => { st with fields := some x }) st
    | 4 => storeWith (expectIds depth) (fun x st => { st with externalTokens := some x }) st
    | 5 => storeWith (expectIds depth) (fun x st => { st with extras := some x }) st
    | 6 => storeWith (expectOptionalNat 16)
        (fun x st => { st with wordToken := some (x.map Nat.toUInt16) }) st
    | 7 => storeWith (expectRecord metadataShape depth) (fun x st => { st with metadata := some x }) st
    | _ => storeWith (expectNat 64) (fun x st => { st with fingerprint := some x.toUInt64 }) st
  finish st := do
    let name ← required "name" st.name
    let abiVersion ← required "abi_version" st.abiVersion
    let symbols ← required "symbols" st.symbols
    let fields ← required "fields" st.fields
    let externalTokens ← required "external_tokens" st.externalTokens
    let extras ← required "extras" st.extras
    let metadata ← required "metadata" st.metadata
    let fingerprint ← required "fingerprint" st.fingerprint
    pure { name, abiVersion, symbols, fields, externalTokens, extras,
           wordToken := st.wordToken.getD none, metadata, fingerprint }

/-- An artifact read from the front of a body, and the bytes after it. -/
def readBody : Reader Artifact :=
  expectRecord artifactShape maxDepth

/-- Decode an encoded artifact: the header, one artifact, and nothing after it. -/
def decode (bs : Bytes) : Except Failure Artifact :=
  if bs.take 4 = header then
    match readBody (bs.drop 4) with
    | .error e => .error (.corrupt e.message)
    | .ok (a, []) => .ok a
    | .ok (_, rest) => .error (.corrupt s!"{rest.length} trailing bytes after artifact")
  else if bs.length < 4 then
    .error (.corrupt s!"{bs.length} bytes is too short for an artifact")
  else .error (.corrupt "missing GRZ artifact header")

end GrammarLoader.Artifact

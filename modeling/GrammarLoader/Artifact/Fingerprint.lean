import GrammarLoader.Artifact
import GrammarLoader.Fnv
import GrammarLoader.Text.Utf8

/-! # Fingerprints

The fingerprint is the FNV-1a hash of an artifact's canonical bytes, which spell
every part of it except the stored fingerprint: the name, the ABI version (four
bytes), the symbols with their flag bytes, the fields, the external tokens and
extras (two bytes per id), the word token, the version, the scope and the file
types. A string is its byte length in eight bytes, then its UTF-8 bytes; a list
starts with its length in eight bytes; all numbers are little-endian. A hash of 0
becomes 1, since 0 marks an unsealed artifact.
-/

namespace GrammarLoader.Artifact

/-- A count in eight little-endian bytes. -/
def countBytes (n : Nat) : Bytes := Bytes.littleEndian 8 n

/-- A string as its byte count and its UTF-8 bytes. -/
def stringBytes (s : String) : Bytes :=
  let b := Text.Utf8.encode s
  countBytes b.length ++ b

/-- A list of symbol ids: the count, then two bytes per id. -/
def idBytes (ids : List UInt16) : Bytes :=
  countBytes ids.length ++ ids.flatMap fun id => Bytes.littleEndian 2 id.toNat

/-- The word token: byte 0 for none, or byte 1 and the id. -/
def wordBytes : Option UInt16 → Bytes
  | none => [0]
  | some id => 1 :: Bytes.littleEndian 2 id.toNat

/-- The bytes that the fingerprint hashes. -/
def canonical (a : Artifact) : Bytes :=
  List.flatten [
    stringBytes a.name, Bytes.littleEndian 4 a.abiVersion.toNat,
    countBytes a.symbols.length, a.symbols.flatMap (fun s => stringBytes s.name ++ [s.flags.bits]),
    countBytes a.fields.length, a.fields.flatMap stringBytes,
    idBytes a.externalTokens, idBytes a.extras, wordBytes a.wordToken,
    stringBytes a.metadata.version, stringBytes a.metadata.scope,
    countBytes a.metadata.fileTypes.length, a.metadata.fileTypes.flatMap stringBytes]

/-- The fingerprint an artifact should carry: the hash of its canonical bytes, at least 1. -/
def computeFingerprint (a : Artifact) : UInt64 :=
  max 1 (Fnv.hash a.canonical)

/-- The artifact with its computed fingerprint stored. -/
def sealed (a : Artifact) : Artifact :=
  { a with fingerprint := a.computeFingerprint }

end GrammarLoader.Artifact

import GrammarLoader.Artifact
import GrammarLoader.MessagePack.Write

/-! # Encoding artifacts

An encoded artifact is the four-byte header `GRZ` 1 followed by the artifact as a
MessagePack map keyed by field names, in declaration order. Symbols are maps of a
name and a map of three booleans; ids are plain integers; an absent word token is
nil.
-/

namespace GrammarLoader.Artifact

open MessagePack

/-- The header that starts every encoded artifact. -/
def header : Bytes := [0x47, 0x52, 0x5a, 0x01]

/-- A symbol's flags as a map. -/
def encodeFlags (f : SymbolFlags) : Bytes :=
  writeMap [("visible", writeBool f.visible), ("named", writeBool f.named),
    ("supertype", writeBool f.supertype)]

/-- A symbol as a map of its name and flags. -/
def encodeSymbol (s : Symbol) : Bytes :=
  writeMap [("name", writeStr s.name), ("metadata", encodeFlags s.flags)]

/-- The metadata as a map. -/
def encodeMetadata (m : Metadata) : Bytes :=
  writeMap [("version", writeStr m.version), ("scope", writeStr m.scope),
    ("file_types", writeArray writeStr m.fileTypes)]

/-- The artifact's fields as map entries, each keyed by its name, in declaration order. -/
def bodyEntries (a : Artifact) : List (String × Bytes) := [
    ("name", writeStr a.name),
    ("abi_version", writeUInt a.abiVersion.toNat),
    ("symbols", writeArray encodeSymbol a.symbols),
    ("fields", writeArray writeStr a.fields),
    ("external_tokens", writeArray (fun id => writeUInt id.toNat) a.externalTokens),
    ("extras", writeArray (fun id => writeUInt id.toNat) a.extras),
    ("word_token", match a.wordToken with
      | none => writeNil
      | some id => writeUInt id.toNat),
    ("metadata", encodeMetadata a.metadata),
    ("fingerprint", writeUInt a.fingerprint.toNat)]

/-- The artifact as a MessagePack map, without the header. -/
def encodeBody (a : Artifact) : Bytes :=
  writeMap a.bodyEntries

/-- The encoded artifact: header, then body. -/
def encode (a : Artifact) : Bytes :=
  header ++ a.encodeBody

end GrammarLoader.Artifact

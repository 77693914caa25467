import GrammarLoader.Proofs.MessagePack
import GrammarLoader.Builtin

/-! # Encoded artifacts read back

An artifact whose strings and lists fit the lengths a MessagePack head can spell
(`Encodable`) is read back from its encoding, and the reader stops exactly where the
encoding ends: `decode` gives the artifact back when nothing follows, and counts the
trailing bytes otherwise.

Each record is read by `reads_expectRecord` from the map its encoder writes, one entry
per field in declaration order; symbols and their flags sit two and three levels down
the nesting budget, well inside it.
-/

namespace GrammarLoader.Artifact

open MessagePack

/-- The lengths a MessagePack head can spell: every string of the artifact has fewer
than `2 ^ 32` bytes and every list fewer than `2 ^ 32` elements. -/
structure Encodable (a : Artifact) : Prop where
  name : a.name.utf8ByteSize < 2 ^ 32
  symbols : a.symbols.length < 2 ^ 32
  symbolNames : ∀ s ∈ a.symbols, s.name.utf8ByteSize < 2 ^ 32
  fields : a.fields.length < 2 ^ 32
  fieldNames : ∀ f ∈ a.fields, f.utf8ByteSize < 2 ^ 32
  externalTokens : a.externalTokens.length < 2 ^ 32
  extras : a.extras.length < 2 ^ 32
  version : a.metadata.version.utf8ByteSize < 2 ^ 32
  scope : a.metadata.scope.utf8ByteSize < 2 ^ 32
  fileTypes : a.metadata.fileTypes.length < 2 ^ 32
  fileTypeNames : ∀ t ∈ a.metadata.fileTypes, t.utf8ByteSize < 2 ^ 32

variable {d : Nat}

theorem reads_flags (f : SymbolFlags) (hd : 1 < d) :
    Reads (expectRecord flagsShape d) (encodeFlags f) f :=
  reads_expectRecord flagsShape hd (by simp)
    (.cons 0 (by decide) rfl rfl ((reads_expectFlag f.visible).map _) <|
      .cons 1 (by decide) rfl rfl ((reads_expectFlag f.named).map _) <|
      .cons 2 (by decide) rfl rfl ((reads_expectFlag f.supertype).map _) <|
      .nil _)
    rfl

theorem reads_symbol {s : Symbol} (hd : 2 < d) (hs : s.name.utf8ByteSize < 2 ^ 32) :
    Reads (expectRecord symbolShape d) (encodeSymbol s) s :=
  reads_expectRecord symbolShape (by omega) (by simp)
    (.cons 0 (by decide) rfl rfl ((reads_expectText hs).map _) <|
      .cons 1 (by decide) rfl rfl ((reads_flags s.flags (by omega)).map _) <|
      .nil _)
    rfl

theorem reads_metadata {m : Metadata} (hd : 2 < d) (hv : m.version.utf8ByteSize < 2 ^ 32)
    (hs : m.scope.utf8ByteSize < 2 ^ 32) (ht : m.fileTypes.length < 2 ^ 32)
    (hts : ∀ t ∈ m.fileTypes, t.utf8ByteSize < 2 ^ 32) :
    Reads (expectRecord metadataShape d) (encodeMetadata m) m :=
  reads_expectRecord metadataShape (by omega) (by simp)
    (.cons 0 (by decide) rfl rfl ((reads_expectText hv).map _) <|
      .cons 1 (by decide) rfl rfl ((reads_expectText hs).map _) <|
      .cons 2 (by decide) rfl rfl
        ((reads_expectList (by omega) ht fun t ht => reads_expectText (hts t ht)).map _) <|
      .nil _)
    rfl

theorem reads_id (id : UInt16) :
    Reads ((fun n => n.toUInt16) <$> expectNat 16) (writeUInt id.toNat) id := by
  have h := (reads_expectNat (by omega) (UInt16.toNat_lt id)).map fun n => n.toUInt16
  have hid : id.toNat.toUInt16 = id := UInt16.ofNat_toNat
  rwa [hid] at h

theorem reads_expectIds {ids : List UInt16} (hd : 1 < d) (hn : ids.length < 2 ^ 32) :
    Reads (expectIds d) (writeArray (fun id => writeUInt id.toNat) ids) ids :=
  reads_expectList hd hn fun id _ => reads_id id

theorem reads_wordToken (o : Option UInt16) :
    Reads (expectOptionalNat 16)
      (match o with
        | none => writeNil
        | some id => writeUInt id.toNat)
      (o.map UInt16.toNat) := by
  cases o with
  | none => exact reads_expectOptionalNat_nil 16
  | some id => exact reads_expectOptionalNat_some (by omega) (UInt16.toNat_lt id)

/-- Read in order, an encodable artifact's entries fill a record that finishes as the
artifact. -/
theorem fills_bodyEntries {a : Artifact} (ha : a.Encodable) :
    ∃ st, Fills artifactShape (maxDepth - 1) a.bodyEntries {} st ∧ artifactShape.finish st = .ok a := by
  have hsymbols : Reads (expectList 31 (expectRecord symbolShape))
      (writeArray encodeSymbol a.symbols) a.symbols :=
    reads_expectList (by omega) ha.symbols fun s hs => reads_symbol (by omega) (ha.symbolNames s hs)
  have hfields : Reads (expectList 31 expectText) (writeArray writeStr a.fields) a.fields :=
    reads_expectList (by omega) ha.fields fun f hf => reads_expectText (ha.fieldNames f hf)
  have hmetadata : Reads (expectRecord metadataShape 31) (encodeMetadata a.metadata) a.metadata :=
    reads_metadata (by omega) ha.version ha.scope ha.fileTypes ha.fileTypeNames
  refine ⟨_, .cons 0 (by decide) rfl rfl ((reads_expectText ha.name).map _) <|
      .cons 1 (by decide) rfl rfl ((reads_expectNat (by omega) (UInt32.toNat_lt _)).map _) <|
      .cons 2 (by decide) rfl rfl (hsymbols.map _) <|
      .cons 3 (by decide) rfl rfl (hfields.map _) <|
      .cons 4 (by decide) rfl rfl ((reads_expectIds (by decide) ha.externalTokens).map _) <|
      .cons 5 (by decide) rfl rfl ((reads_expectIds (by decide) ha.extras).map _) <|
      .cons 6 (by decide) rfl rfl ((reads_wordToken a.wordToken).map _) <|
      .cons 7 (by decide) rfl rfl (hmetadata.map _) <|
      .cons 8 (by decide) rfl rfl ((reads_expectNat (by omega) (UInt64.toNat_lt _)).map _) <|
      .nil _, ?_⟩
  -- the integers come back through `Nat`: the ABI version, the word token and the fingerprint
  have hword : Nat.toUInt16 ∘ UInt16.toNat = id := funext fun _ => UInt16.ofNat_toNat
  simp only [artifactShape, required, UInt32.ofNat_toNat, UInt64.ofNat_toNat, Option.map_map,
    hword, Option.map_id_fun, id, Option.getD_some]
  rfl

/-- The body reader reads an encodable artifact's body back, and nothing after it. -/
theorem reads_encodeBody {a : Artifact} (ha : a.Encodable) : Reads readBody a.encodeBody a := by
  obtain ⟨st, hfills, hfinish⟩ := fills_bodyEntries ha
  exact reads_expectRecord artifactShape (d := maxDepth) (by decide) (by simp [bodyEntries]) hfills
    hfinish

/-- After the header, a body that the body reader reads as `a` decodes to `a` when nothing
follows it, and to the count of the bytes that do otherwise. -/
theorem decode_header_append {body : Bytes} {a : Artifact} (h : Reads readBody body a) (t : Bytes) :
    decode (header ++ body ++ t) =
      if t = [] then .ok a else .error (.corrupt s!"{t.length} trailing bytes after artifact") := by
  have htake : (header ++ body ++ t).take 4 = header := by simp [header]
  have hdrop : (header ++ body ++ t).drop 4 = body ++ t := by simp [header]
  rw [decode, if_pos htake, hdrop, h t]
  cases t with
  | nil => rfl
  | cons b t => rfl

theorem decode_encode_append_eq {a : Artifact} (ha : a.Encodable) (t : Bytes) :
    decode (a.encode ++ t) =
      if t = [] then .ok a else .error (.corrupt s!"{t.length} trailing bytes after artifact") :=
  decode_header_append (reads_encodeBody ha) t

theorem decode_encode {a : Artifact} (ha : a.Encodable) : decode a.encode = .ok a := by
  simpa using decode_encode_append_eq ha []

/-- An encoded artifact is the header and then the body; the body reader stops where the
body ends, so `decode` gives the artifact back after the header when nothing follows, and
counts the bytes that do. -/
theorem decode_encode_append (a : Artifact) (ha : a.Encodable) (t : Bytes) :
    a.encode = header ++ a.encodeBody ∧ readBody (a.encodeBody ++ t) = .ok (a, t) ∧
      decode (a.encode ++ t) =
        if t = [] then .ok a else .error (.corrupt s!"{t.length} trailing bytes after artifact") :=
  ⟨rfl, reads_encodeBody ha t, decode_encode_append_eq ha t⟩

theorem encodable_builtin : Builtin.artifact.Encodable := by
  constructor <;> decide

theorem decode_encode_append_builtin :
    Builtin.artifact.Encodable ∧
      readBody (Builtin.artifact.encodeBody ++ [0xc0]) = .ok (Builtin.artifact, [0xc0]) ∧
      decode (Builtin.artifact.encode ++ [0xc0]) = .error (.corrupt "1 trailing bytes after artifact") := by
  obtain ⟨-, hbody, hdecode⟩ := decode_encode_append Builtin.artifact encodable_builtin [0xc0]
  refine ⟨encodable_builtin, hbody, ?_⟩
  rw [hdecode]
  rfl

end GrammarLoader.Artifact

import GrammarLoader.Proofs.Saving

/-! # What decoding can give

Decoding is a total function: the reader's recursion is bounded by the nesting budget
and by the counts that containers declare, whatever the input. It ends in an artifact or
in a corrupt-artifact failure: every way the reader can stop, from a short input to a
value nested past the budget, becomes `corrupt` with the reader's message, and loading
bytes adds no context to it.

Unknown map keys are skipped with their values. `Value` is a MessagePack value of any
kind, each written in its shortest form, so that every format MessagePack has is the
writing of some value; arrays and maps nest to any depth. Skipping a written value
consumes exactly its bytes when it fits the nesting budget, and stops with the depth
error when it does not, before reading anything after it (`Value.skipValue_write`).
Arrays and maps take one level of the budget more than their deepest element, and an
extension takes one level, as entering it does for the reader. So an artifact's body
with an unknown entry in front decodes as the body alone when the entry's value nests
within the budget the artifact's map leaves it (`decode_skips_unknown`), and is
rejected for depth otherwise, whatever follows (`decode_deep_unknown`). A map that
declares more entries than follow it runs out of input where a key is due
(`decode_short_map`).

Main statement: `decode_fails_only_as_corrupt`.
-/

namespace GrammarLoader

namespace MessagePack

/-! ## Values and their writing -/

/-- An integer in its shortest form: a non-negative one as `writeUInt` writes it, a
negative one as a negative fixint from -32 on, then `int 8`, `16`, `32` or `64` in two's
complement. -/
def writeInt (i : Int) : Bytes :=
  if 0 ≤ i then writeUInt i.toNat
  else if -32 ≤ i then [UInt8.ofNat (i + 0x100).toNat]
  else if -0x80 ≤ i then 0xd0 :: Bytes.bigEndian 1 (i + 0x100).toNat
  else if -0x8000 ≤ i then 0xd1 :: Bytes.bigEndian 2 (i + 0x10000).toNat
  else if -0x80000000 ≤ i then 0xd2 :: Bytes.bigEndian 4 (i + 0x100000000).toNat
  else 0xd3 :: Bytes.bigEndian 8 (i + 0x10000000000000000).toNat

/-- The head of binary data of `len` bytes. -/
def binHeader (len : Nat) : Bytes :=
  if len < 0x100 then 0xc4 :: Bytes.bigEndian 1 len
  else if len < 0x10000 then 0xc5 :: Bytes.bigEndian 2 len
  else 0xc6 :: Bytes.bigEndian 4 len

/-- The head of an extension of `len` data bytes: a fixext for 1, 2, 4, 8 or 16 bytes,
else `ext 8`, `16` or `32` with the length. The type byte and the data follow. -/
def extHeader (len : Nat) : Bytes :=
  if len = 1 then [0xd4]
  else if len = 2 then [0xd5]
  else if len = 4 then [0xd6]
  else if len = 8 then [0xd7]
  else if len = 16 then [0xd8]
  else if len < 0x100 then 0xc7 :: Bytes.bigEndian 1 len
  else if len < 0x10000 then 0xc8 :: Bytes.bigEndian 2 len
  else 0xc9 :: Bytes.bigEndian 4 len

mutual
/-- A MessagePack value of any kind: nil, a boolean, an integer, a float of either width
(by its bits), a string, binary data, an array or a map nested to any depth, or an
extension with its type byte. -/
inductive Value where
  | nil
  | bool (b : Bool)
  | int (i : Int)
  | float32 (bits : UInt32)
  | float64 (bits : UInt64)
  | str (s : String)
  | bin (bytes : Bytes)
  | array (items : Values)
  | map (entries : Entries)
  | ext (type : UInt8) (data : Bytes)
/-- The items of an array, in order. -/
inductive Values where
  | nil
  | cons (head : Value) (tail : Values)
/-- The entries of a map, in order. -/
inductive Entries where
  | nil
  | cons (key value : Value) (tail : Entries)
end

/-- The number of items. -/
def Values.length : Values → Nat
  | .nil => 0
  | .cons _ vs => vs.length + 1

/-- The number of entries. -/
def Entries.length : Entries → Nat
  | .nil => 0
  | .cons _ _ es => es.length + 1

mutual
/-- A value in its shortest form. -/
def Value.write : Value → Bytes
  | .nil => writeNil
  | .bool b => writeBool b
  | .int i => writeInt i
  | .float32 bits => 0xca :: Bytes.bigEndian 4 bits.toNat
  | .float64 bits => 0xcb :: Bytes.bigEndian 8 bits.toNat
  | .str s => writeStr s
  | .bin bs => binHeader bs.length ++ bs
  | .array items => arrayHeader items.length ++ items.write
  | .map entries => mapHeader entries.length ++ entries.write
  | .ext type data => extHeader data.length ++ type :: data
/-- The items one after another. -/
def Values.write : Values → Bytes
  | .nil => []
  | .cons v vs => v.write ++ vs.write
/-- Each key, then its value. -/
def Entries.write : Entries → Bytes
  | .nil => []
  | .cons k v es => k.write ++ v.write ++ es.write
end

mutual
/-- How many levels of the nesting budget a value takes: one more than its deepest
element for an array or a map, one for an extension, none for the other kinds. -/
def Value.depth : Value → Nat
  | .array items => items.depth + 1
  | .map entries => entries.depth + 1
  | .ext _ _ => 1
  | _ => 0
/-- The depth of the deepest item. -/
def Values.depth : Values → Nat
  | .nil => 0
  | .cons v vs => max v.depth vs.depth
/-- The depth of the deepest key or value. -/
def Entries.depth : Entries → Nat
  | .nil => 0
  | .cons k v es => max (max k.depth v.depth) es.depth
end

mutual
/-- Every integer and length of a value fits the widest form MessagePack has. -/
def Value.Fits : Value → Prop
  | .int i => -2 ^ 63 ≤ i ∧ i < 2 ^ 64
  | .str s => s.utf8ByteSize < 2 ^ 32
  | .bin bs => bs.length < 2 ^ 32
  | .array items => items.length < 2 ^ 32 ∧ items.Fits
  | .map entries => entries.length < 2 ^ 32 ∧ entries.Fits
  | .ext _ data => data.length < 2 ^ 32
  | _ => True
/-- Every item fits. -/
def Values.Fits : Values → Prop
  | .nil => True
  | .cons v vs => v.Fits ∧ vs.Fits
/-- Every key and value fits. -/
def Entries.Fits : Entries → Prop
  | .nil => True
  | .cons k v es => k.Fits ∧ v.Fits ∧ es.Fits
end

/-- `n` arrays of one item, one inside the other, around nil. -/
def Value.nested : Nat → Value
  | 0 => .nil
  | n + 1 => .array (.cons (Value.nested n) .nil)

theorem Value.depth_nested (n : Nat) : (Value.nested n).depth = n := by
  induction n with
  | zero => rfl
  | succ n ih => simp [Value.nested, Value.depth, Values.depth, ih]

theorem Value.fits_nested (n : Nat) : (Value.nested n).Fits := by
  induction n with
  | zero => trivial
  | succ n ih => exact ⟨by simp [Values.length], ih, trivial⟩

/-! ## Heads -/

/-- A value whose marker starts a scalar: its head is that scalar, read with its payload. -/
theorem readHead_of_scalar {b : UInt8} {more : Bytes} {f : Found}
    (hr : Reads (readScalar (Marker.ofByte b)) more (some f)) (d : Nat) (rest : Bytes) :
    (readMarker >>= readHead d) (b :: more ++ rest) = .ok (.scalar f, rest) := by
  rw [List.cons_append, readMarker_bind]
  unfold readHead
  exact hr.bind_apply _ rest

theorem ofByte_fixNeg {n : Nat} (hlo : 0xe0 ≤ n) (hhi : n < 256) :
    Marker.ofByte (UInt8.ofNat n) = .fixNeg ((n : Int) - 256) := by
  dsimp only [Marker.ofByte]
  rw [toNat_ofNat_of_lt hhi, if_neg (by omega), if_neg (by omega), if_neg (by omega),
    if_neg (by omega), if_pos hlo]

theorem reads_scalar_int {w n : Nat} (h : n < 256 ^ w) {m : Marker}
    (hm : readScalar m = (some ∘ Found.signed) <$> readSigned w) :
    ∃ i, Reads (readScalar m) (Bytes.bigEndian w n) (some (.signed i)) := by
  have hsigned : Reads (readSigned w) (Bytes.bigEndian w n) _ := (reads_readNumber h).bind_pure rfl
  rw [hm]
  exact ⟨_, hsigned.map _⟩

/-- A written integer is a marker followed by what that marker's scalar reader reads as
an integer. -/
theorem writeInt_scalar {i : Int} (hlo : -2 ^ 63 ≤ i) (hhi : i < 2 ^ 64) :
    ∃ b more f, writeInt i = b :: more ∧ Reads (readScalar (Marker.ofByte b)) more (some f) := by
  -- one case per form: the unsigned ones, a negative fixint, then int 8, 16, 32 and 64
  by_cases h0 : 0 ≤ i
  · obtain ⟨b, more, hw, -, hr⟩ := writeUInt_scalar (n := i.toNat) (by omega)
    exact ⟨b, more, _, by rw [writeInt, if_pos h0, hw], hr⟩
  rw [writeInt, if_neg h0]
  by_cases h5 : -32 ≤ i
  · rw [if_pos h5]
    refine ⟨UInt8.ofNat (i + 0x100).toNat, [], .signed (((i + 0x100).toNat : Int) - 256), rfl, ?_⟩
    rw [ofByte_fixNeg (by omega) (by omega)]
    exact Reads.pure _
  rw [if_neg h5]
  by_cases h8 : -0x80 ≤ i
  · rw [if_pos h8]
    obtain ⟨j, hr⟩ := reads_scalar_int (w := 1) (n := (i + 0x100).toNat) (m := .int8) (by omega) rfl
    exact ⟨0xd0, _, _, rfl, hr⟩
  rw [if_neg h8]
  by_cases h16 : -0x8000 ≤ i
  · rw [if_pos h16]
    obtain ⟨j, hr⟩ := reads_scalar_int (w := 2) (n := (i + 0x10000).toNat) (m := .int16) (by omega) rfl
    exact ⟨0xd1, _, _, rfl, hr⟩
  rw [if_neg h16]
  by_cases h32 : -0x80000000 ≤ i
  · rw [if_pos h32]
    obtain ⟨j, hr⟩ :=
      reads_scalar_int (w := 4) (n := (i + 0x100000000).toNat) (m := .int32) (by omega) rfl
    exact ⟨0xd2, _, _, rfl, hr⟩
  rw [if_neg h32]
  obtain ⟨j, hr⟩ :=
    reads_scalar_int (w := 8) (n := (i + 0x10000000000000000).toNat) (m := .int64) (by omega) rfl
  exact ⟨0xd3, _, _, rfl, hr⟩

/-- Binary data's head holds all of it. -/
theorem reads_head_writeBin {d : Nat} {bs : Bytes} (hs : bs.length < 2 ^ 32) :
    Reads (readMarker >>= readHead d) (binHeader bs.length ++ bs) (.binary bs) := by
  rw [binHeader]
  -- one case per length field: bin 8, 16 and 32
  split_ifs with h8 h16
  · apply Reads.marker 0xc4
    show Reads (readNumber 1 >>= fun n => Head.binary <$> readPayload n) _ _
    exact (reads_readNumber (by omega)).bind ((reads_readPayload bs).map _)
  · apply Reads.marker 0xc5
    show Reads (readNumber 2 >>= fun n => Head.binary <$> readPayload n) _ _
    exact (reads_readNumber (by omega)).bind ((reads_readPayload bs).map _)
  · apply Reads.marker 0xc6
    show Reads (readNumber 4 >>= fun n => Head.binary <$> readPayload n) _ _
    exact (reads_readNumber (by omega)).bind ((reads_readPayload bs).map _)

/-- An extension's head gives its data length, and enters it if the budget allows. -/
theorem readHead_extHeader {n : Nat} (hn : n < 2 ^ 32) (d : Nat) (rest : Bytes) :
    (readMarker >>= readHead d) (extHeader n ++ rest) = enter d (.extension n) rest := by
  -- the five fixed sizes, then ext 8, 16 and 32 with a length field
  by_cases h1 : n = 1
  · subst h1; rfl
  by_cases h2 : n = 2
  · subst h2; rfl
  by_cases h4 : n = 4
  · subst h4; rfl
  by_cases h8 : n = 8
  · subst h8; rfl
  by_cases h16 : n = 16
  · subst h16; rfl
  rw [extHeader, if_neg h1, if_neg h2, if_neg h4, if_neg h8, if_neg h16]
  by_cases h8' : n < 0x100
  · rw [if_pos h8', List.cons_append, readMarker_bind]
    exact (reads_readNumber (w := 1) (by omega)).bind_apply (fun n => enter d (.extension n)) rest
  by_cases h16' : n < 0x10000
  · rw [if_neg h8', if_pos h16', List.cons_append, readMarker_bind]
    exact (reads_readNumber (w := 2) (by omega)).bind_apply (fun n => enter d (.extension n)) rest
  rw [if_neg h8', if_neg h16', List.cons_append, readMarker_bind]
  exact (reads_readNumber (w := 4) (by omega)).bind_apply (fun n => enter d (.extension n)) rest

/-! ## Skipping -/

/-- A written integer's head is the integer. -/
theorem readHead_writeUInt {n : Nat} (hn : n < 2 ^ 64) (d : Nat) (rest : Bytes) :
    (readMarker >>= readHead d) (writeUInt n ++ rest) = .ok (.scalar (.unsigned n), rest) := by
  obtain ⟨b, more, hw, -, hr⟩ := writeUInt_scalar hn
  rw [hw]
  exact readHead_of_scalar hr d rest

section Skip

variable {k : Nat} {bs rest : Bytes}

theorem skipValue_of_error {e : ReadError} (h : (readMarker >>= readHead (k + 1)) bs = .error e) :
    skipValue (k + 1) bs = .error e := by
  rw [skipValue]
  simp only [h]

theorem skipValue_of_array {n : Nat} (h : (readMarker >>= readHead (k + 1)) bs = .ok (.array n, rest)) :
    skipValue (k + 1) bs = skipMany k n rest := by
  rw [skipValue]
  simp only [h]

theorem skipValue_of_map {n : Nat} (h : (readMarker >>= readHead (k + 1)) bs = .ok (.map n, rest)) :
    skipValue (k + 1) bs = skipMany k (2 * n) rest := by
  rw [skipValue]
  simp only [h]

/-- An extension is skipped with its type byte and its data. -/
theorem skipValue_of_extension {type : UInt8} {data t : Bytes}
    (h : (readMarker >>= readHead (k + 1)) bs = .ok (.extension data.length, type :: data ++ t)) :
    skipValue (k + 1) bs = .ok ((), t) := by
  rw [skipValue]
  simp only [h]
  have htype : Reads (readNumber 1) [type] (Bytes.toNatBE [type]) := fun _ => rfl
  exact (htype.bind ((reads_readPayload data).bind_pure (f := fun _ => pure ()) rfl)) t

/-- A value whose head holds all of it, a scalar, a string or binary data, is skipped with
its head. -/
theorem skipValue_of_leaf {h : Head} (hh : (readMarker >>= readHead (k + 1)) bs = .ok (h, rest))
    (harray : ∀ n, h ≠ .array n) (hmap : ∀ n, h ≠ .map n) (hext : ∀ n, h ≠ .extension n) :
    skipValue (k + 1) bs = .ok ((), rest) := by
  rw [skipValue]
  simp only [hh]

/-- A container or an extension on a budget of one level is not entered. -/
theorem skipValue_one_of_enter {h : Head} (hh : (readMarker >>= readHead 1) bs = enter 1 h rest) :
    skipValue 1 bs = .error .tooDeep := by
  rw [enter_apply, if_pos le_rfl] at hh
  exact skipValue_of_error hh

/-- A scalar is skipped with its head, on any budget. -/
theorem skipValue_of_scalar {b : UInt8} {more : Bytes} {f : Found}
    (hr : Reads (readScalar (Marker.ofByte b)) more (some f)) (t : Bytes) :
    skipValue (k + 1) (b :: more ++ t) = .ok ((), t) :=
  skipValue_of_leaf (readHead_of_scalar hr (k + 1) t) (by simp) (by simp) (by simp)

end Skip

/-- Skipping one value after another: the first error stops the run. -/
theorem skipMany_succ_of_skipValue {d n : Nat} {bs : Bytes} {r : Except ReadError (Unit × Bytes)}
    (h : skipValue d bs = r) :
    skipMany d (n + 1) bs = r.bind fun (_, rest) => skipMany d n rest := by
  simp only [skipMany, h]
  cases r with
  | error e => rfl
  | ok p => rfl

mutual

/-- Skipping a written value takes exactly its bytes when it fits the budget, and stops
at the first container or extension past it with the depth error. -/
theorem Value.skipValue_write (v : Value) (hv : v.Fits) (d : Nat) (t : Bytes) :
    skipValue d (v.write ++ t) = if v.depth < d then .ok ((), t) else .error .tooDeep := by
  cases d with
  | zero =>
    rw [skipValue]
    simp only [Nat.not_lt_zero, if_false]
    rfl
  | succ k =>
    cases v with
    | nil => exact skipValue_of_leaf (h := .scalar .unit) rfl (by simp) (by simp) (by simp)
    | bool b =>
      cases b <;> exact skipValue_of_leaf (h := .scalar (.bool _)) rfl (by simp) (by simp) (by simp)
    | int i =>
      obtain ⟨b, more, f, hw, hr⟩ := writeInt_scalar hv.1 hv.2
      rw [Value.write, hw]
      exact skipValue_of_scalar hr t
    | float32 bits =>
      have hbits : bits.toNat < 256 ^ 4 := by have := bits.toNat_lt; omega
      exact skipValue_of_scalar ((reads_readNumber hbits).map _) t
    | float64 bits =>
      have hbits : bits.toNat < 256 ^ 8 := by have := bits.toNat_lt; omega
      exact skipValue_of_scalar ((reads_readNumber hbits).map _) t
    | str s =>
      exact skipValue_of_leaf (reads_head_writeStr hv t) (by simp) (by simp) (by simp)
    | bin bs =>
      exact skipValue_of_leaf (reads_head_writeBin hv t) (by simp) (by simp) (by simp)
    | array items =>
      obtain ⟨hn, hitems⟩ := hv
      have hhead := readHead_arrayHeader hn (k + 1) (items.write ++ t)
      rw [Value.write, List.append_assoc, Value.depth]
      -- one level left: the array is not entered
      cases k with
      | zero => rw [skipValue_one_of_enter hhead, if_neg (by omega)]
      | succ k =>
        rw [enter_apply, if_neg (by omega)] at hhead
        rw [skipValue_of_array hhead, Values.skipMany_write items hitems (k + 1) (by omega) t]
        simp only [Nat.add_lt_add_iff_right]
    | map entries =>
      obtain ⟨hn, hentries⟩ := hv
      have hhead := readHead_mapHeader hn (k + 1) (entries.write ++ t)
      rw [Value.write, List.append_assoc, Value.depth]
      cases k with
      | zero => rw [skipValue_one_of_enter hhead, if_neg (by omega)]
      | succ k =>
        rw [enter_apply, if_neg (by omega)] at hhead
        rw [skipValue_of_map hhead, Entries.skipMany_write entries hentries (k + 1) (by omega) t]
        simp only [Nat.add_lt_add_iff_right]
    | ext type data =>
      have hhead := readHead_extHeader hv (k + 1) (type :: data ++ t)
      rw [Value.write, List.append_assoc, Value.depth]
      cases k with
      | zero => rw [skipValue_one_of_enter hhead, if_neg (by omega)]
      | succ k =>
        rw [enter_apply, if_neg (by omega)] at hhead
        rw [skipValue_of_extension hhead, if_pos (by omega)]

/-- Skipping the items of an array, within a budget of at least one level. -/
theorem Values.skipMany_write (vs : Values) (hvs : vs.Fits) (d : Nat) (hd : 0 < d) (t : Bytes) :
    skipMany d vs.length (vs.write ++ t) = if vs.depth < d then .ok ((), t) else .error .tooDeep := by
  cases vs with
  | nil =>
    rw [Values.length, skipMany, Values.depth, if_pos hd]
    rfl
  | cons v vs =>
    obtain ⟨hv, hvs⟩ := hvs
    rw [Values.length, Values.write, List.append_assoc,
      skipMany_succ_of_skipValue (Value.skipValue_write v hv d _), Values.depth]
    by_cases hv : v.depth < d
    · rw [if_pos hv]
      exact (Values.skipMany_write vs hvs d hd t).trans (by simp [hv])
    · rw [if_neg hv, if_neg (by omega)]
      rfl

/-- Skipping the keys and values of a map, within a budget of at least one level. -/
theorem Entries.skipMany_write (es : Entries) (hes : es.Fits) (d : Nat) (hd : 0 < d) (t : Bytes) :
    skipMany d (2 * es.length) (es.write ++ t) =
      if es.depth < d then .ok ((), t) else .error .tooDeep := by
  cases es with
  | nil =>
    rw [Entries.length, Nat.mul_zero, skipMany, Entries.depth, if_pos hd]
    rfl
  | cons key value es =>
    obtain ⟨hkey, hvalue, hes⟩ := hes
    rw [Entries.length, show 2 * (es.length + 1) = 2 * es.length + 1 + 1 by omega, Entries.write,
      List.append_assoc, List.append_assoc,
      skipMany_succ_of_skipValue (Value.skipValue_write key hkey d _), Entries.depth]
    by_cases hk : key.depth < d
    · rw [if_pos hk]
      show skipMany d (2 * es.length + 1) (value.write ++ (es.write ++ t)) = _
      rw [skipMany_succ_of_skipValue (Value.skipValue_write value hvalue d _)]
      by_cases hv : value.depth < d
      · rw [if_pos hv]
        exact (Entries.skipMany_write es hes d hd t).trans (by simp [hk, hv])
      · rw [if_neg hv, if_neg (by omega)]
        rfl
    · rw [if_neg hk, if_neg (by omega)]
      rfl

end

/-! ## Records -/

theorem bind_apply_error {α β : Type} {r : Reader α} {bs : Bytes} {e : ReadError}
    (h : r bs = .error e) (f : α → Reader β) : (r >>= f) bs = .error e := by
  show StateT.bind r f bs = _
  simp only [StateT.bind, h]
  rfl

section Records

variable {σ α : Type} (shape : RecordShape σ α) (depth : Nat)

/-- A record spelled as a map is read entry by entry, one level further in. -/
theorem expectRecord_mapHeader {d n : Nat} (hd : 1 < d) (hn : n < 2 ^ 32) (rest : Bytes) :
    expectRecord shape d (mapHeader n ++ rest) = shape.ofEntries (d - 1) n rest := by
  rw [expectRecord, ← bind_assoc]
  exact (reads_head_mapHeader hd hn).bind_apply _ rest

theorem ofEntries_of_error {n : Nat} {bs : Bytes} {e : ReadError}
    (h : shape.readEntries depth n shape.empty bs = .error e) :
    shape.ofEntries depth n bs = .error e := by
  rw [RecordShape.ofEntries]
  exact bind_apply_error h _

/-- A map that declares more entries than the input holds ends where a key is due. -/
theorem readEntries_nil (n : Nat) (st : σ) :
    shape.readEntries depth (n + 1) st [] = .error .endAtMarker := by
  rw [RecordShape.readEntries]
  rfl

end Records

end MessagePack

namespace Artifact

open MessagePack

/-- After the header, a body the body reader rejects is a corrupt artifact with the
reader's message. -/
theorem decode_header_error {body : Bytes} {e : ReadError} (h : readBody body = .error e) :
    decode (header ++ body) = .error (.corrupt e.message) := by
  have htake : (header ++ body).take 4 = header := by simp [header]
  have hdrop : (header ++ body).drop 4 = body := by simp [header]
  rw [decode, if_pos htake, hdrop, h]

/-- Every input decodes to an artifact or is a corrupt artifact. -/
theorem decode_ok_or_corrupt (bs : Bytes) :
    (∃ a, decode bs = .ok a) ∨ ∃ detail, decode bs = .error (.corrupt detail) := by
  rw [decode]
  -- the header check, then the three ways the body reader can end
  split_ifs
  · split
    · exact .inr ⟨_, rfl⟩
    · exact .inl ⟨_, rfl⟩
    · exact .inr ⟨_, rfl⟩
  · exact .inr ⟨_, rfl⟩
  · exact .inr ⟨_, rfl⟩

/-- A body whose map declares more entries than the artifact's encoding holds is
rejected at the end of the input. -/
theorem decode_short_map {a : Artifact} (ha : a.Encodable) {n : Nat}
    (hlt : a.bodyEntries.length < n) (hn : n < 2 ^ 32) :
    decode (header ++ mapHeader n ++ a.bodyEntries.flatMap fun (k, v) => writeStr k ++ v) =
      .error (.corrupt ReadError.endAtMarker.message) := by
  obtain ⟨st, hfills, -⟩ := fills_bodyEntries ha
  obtain ⟨m, rfl⟩ : ∃ m, n = a.bodyEntries.length + (m + 1) := ⟨n - a.bodyEntries.length - 1, by omega⟩
  rw [List.append_assoc]
  apply decode_header_error
  rw [readBody, expectRecord_mapHeader artifactShape (by decide) hn]
  apply ofEntries_of_error
  have hrun := readEntries_fills_append artifactShape _ hfills (m + 1) []
  rw [List.append_nil] at hrun
  exact hrun.trans (readEntries_nil artifactShape _ m st)

/-- An unknown key in front of an artifact's entries, with a value that nests within the
budget the artifact's map leaves it, is skipped: the input decodes as the artifact's
encoding does. -/
theorem decode_skips_unknown {a : Artifact} (ha : a.Encodable) {k : String}
    (hk : k.utf8ByteSize < 2 ^ 32) (hu : artifactShape.fields.idxOf? k = none) {v : Value}
    (hv : v.Fits) (hshallow : v.depth + 1 < maxDepth) (t : Bytes) :
    decode (header ++ writeMap ((k, v.write) :: a.bodyEntries) ++ t) = decode (a.encode ++ t) := by
  obtain ⟨st, hfills, hfinish⟩ := fills_bodyEntries ha
  have hskip : Reads (skipValue (maxDepth - 1)) v.write () := fun rest => by
    rw [Value.skipValue_write v hv, if_pos (by omega)]
  have hbody : Reads readBody (writeMap ((k, v.write) :: a.bodyEntries)) a :=
    reads_expectRecord artifactShape (by decide) (by simp [bodyEntries])
      (.skip hk hu hskip hfills) hfinish
  rw [decode_header_append hbody, decode_encode_append_eq ha]

/-- A map whose first key is unknown, with a value that nests past the budget, is rejected
for depth, whatever the map declares and whatever follows. -/
theorem decode_deep_unknown {n : Nat} (hn0 : 0 < n) (hn : n < 2 ^ 32) {k : String}
    (hk : k.utf8ByteSize < 2 ^ 32) (hu : artifactShape.fields.idxOf? k = none) {v : Value}
    (hv : v.Fits) (hdeep : maxDepth ≤ v.depth + 1) (t : Bytes) :
    decode (header ++ mapHeader n ++ writeStr k ++ v.write ++ t) =
      .error (.corrupt ReadError.tooDeep.message) := by
  obtain ⟨m, rfl⟩ : ∃ m, n = m + 1 := ⟨n - 1, by omega⟩
  simp only [List.append_assoc]
  apply decode_header_error
  rw [readBody, expectRecord_mapHeader artifactShape (by decide) hn]
  apply ofEntries_of_error
  rw [readEntries_unknown artifactShape _ hk hu, Value.skipValue_write v hv, if_neg (by omega)]
  rfl

end Artifact

namespace Loader

variable {c : LoaderConfig} {bs : Bytes}

/-- Bytes that do not decode fail to load with the decoder's failure and no context. -/
theorem loadBytes_of_decode_error {f : Failure} (h : Artifact.decode bs = .error f) :
    loadBytes c bs = .error (.ofFailure f) := by
  rw [loadBytes, h]

theorem loadBytes_of_decode_ok {a : Artifact} (h : Artifact.decode bs = .ok a) :
    loadBytes c bs = load c (some a) := by
  rw [loadBytes, h]

/-- Loading bytes gives a language or a load failure, never an error of another kind. -/
theorem loadBytes_ok_or_loadFailure :
    (∃ l, loadBytes c bs = .ok l) ∨ ∃ f ctx, loadBytes c bs = .error ⟨.loadFailure f, ctx⟩ := by
  cases hd : Artifact.decode bs with
  | error f => exact .inr ⟨f, none, loadBytes_of_decode_error hd⟩
  | ok a =>
    rw [loadBytes_of_decode_ok hd]
    cases hl : load c (some a) with
    | ok l => exact .inl ⟨l, rfl⟩
    | error e =>
      -- a rejected artifact is a load failure with the grammar's name as context
      obtain ⟨f, -, rfl⟩ := load_some_eq_error_iff.mp hl
      exact .inr ⟨f, _, rfl⟩

end Loader

open Artifact MessagePack

/-- Decoding ends, on every input, in an artifact or in a corrupt-artifact failure, which
loading the bytes reports with no context; loading bytes fails only with load failures.
Among the corrupt inputs: a map that declares more entries than the input holds, and an
unknown key whose value nests past the budget, rejected before anything after it is read.
An unknown key whose value nests within the budget is skipped. -/
theorem decode_fails_only_as_corrupt :
    (∀ bs, (∃ a, decode bs = .ok a) ∨
      ∃ detail, decode bs = .error (.corrupt detail) ∧
        ∀ c, Loader.loadBytes c bs = .error ⟨.loadFailure (.corrupt detail), none⟩) ∧
    (∀ c bs, (∃ l, Loader.loadBytes c bs = .ok l) ∨
      ∃ f ctx, Loader.loadBytes c bs = .error ⟨.loadFailure f, ctx⟩) ∧
    (∀ (a : Artifact) n, a.Encodable → a.bodyEntries.length < n → n < 2 ^ 32 →
      decode (header ++ mapHeader n ++ a.bodyEntries.flatMap fun (k, v) => writeStr k ++ v) =
        .error (.corrupt ReadError.endAtMarker.message)) ∧
    (∀ (a : Artifact) k (v : Value) t, a.Encodable → artifactShape.fields.idxOf? k = none →
      k.utf8ByteSize < 2 ^ 32 → v.Fits → v.depth + 1 < maxDepth →
      decode (header ++ writeMap ((k, v.write) :: a.bodyEntries) ++ t) = decode (a.encode ++ t)) ∧
    (∀ n k (v : Value) t, 0 < n → n < 2 ^ 32 → artifactShape.fields.idxOf? k = none →
      k.utf8ByteSize < 2 ^ 32 → v.Fits → maxDepth ≤ v.depth + 1 →
      decode (header ++ mapHeader n ++ writeStr k ++ v.write ++ t) =
        .error (.corrupt ReadError.tooDeep.message)) := by
  refine ⟨fun bs => ?_, fun c bs => Loader.loadBytes_ok_or_loadFailure,
    fun a n ha hlt hn => decode_short_map ha hlt hn,
    fun a k v t ha hu hk hv hshallow => decode_skips_unknown ha hk hu hv hshallow t,
    fun n k v t hn0 hn hu hk hv hdeep => decode_deep_unknown hn0 hn hk hu hv hdeep t⟩
  rcases decode_ok_or_corrupt bs with hok | ⟨detail, hd⟩
  · exact .inl hok
  · exact .inr ⟨detail, hd, fun c => Loader.loadBytes_of_decode_error hd⟩

/-- A map of one unknown key whose value is 200000 arrays deep is rejected for depth; a
body that declares a tenth entry it lacks ends at a missing marker; an unknown key with a
nil value in front of the built-in grammar's body is skipped. -/
theorem deep_unknown_entry_rejected :
    decode (header ++ mapHeader 1 ++ writeStr "zz" ++ (Value.nested 200000).write) =
        .error (.corrupt "depth limit exceeded") ∧
      decode (header ++ mapHeader 10 ++
          Builtin.artifact.bodyEntries.flatMap fun (k, v) => writeStr k ++ v) =
        .error (.corrupt "IO error while reading marker: failed to fill whole buffer") ∧
      decode (header ++ writeMap (("zz", Value.nil.write) :: Builtin.artifact.bodyEntries)) =
        .ok Builtin.artifact := by
  obtain ⟨-, -, hshort, hskip, hdeep⟩ := decode_fails_only_as_corrupt
  refine ⟨?_, hshort _ 10 encodable_builtin (by decide) (by decide), ?_⟩
  · have h := hdeep 1 "zz" (.nested 200000) [] (by decide) (by decide) (by decide) (by decide)
      (Value.fits_nested _) (by rw [Value.depth_nested]; decide)
    rwa [List.append_nil] at h
  · have h := hskip Builtin.artifact "zz" .nil [] encodable_builtin (by decide) (by decide) trivial
      (by decide)
    rwa [List.append_nil, List.append_nil, decode_encode encodable_builtin] at h

end GrammarLoader

import Mathlib.Tactic.SplitIfs
import GrammarLoader.Proofs.Utf8
import GrammarLoader.MessagePack.Read

/-! # Reading back what is written

Every MessagePack value says where it ends, so a reader takes one value from the front of
its input and leaves whatever follows untouched. `Reads r bs x` states this of one byte
string: `r` reads `bs` as `x` whatever bytes come after it, and hands those bytes back.

Each schema reads its writer's output this way: `expectNat` an integer that fits its bits,
`expectFlag` a boolean, `expectText` a string of fewer than `2 ^ 32` bytes, `expectList` an
array of such values, and `expectRecord` a map whose entries fill a record's fields one by
one (`Fills`). Containers need one level of the nesting budget to spare.
-/

namespace GrammarLoader.MessagePack

/-- `r` reads `bs` as `x`, whatever follows `bs`, and leaves what follows. -/
def Reads {α : Type} (r : Reader α) (bs : Bytes) (x : α) : Prop :=
  ∀ rest, r (bs ++ rest) = .ok (x, rest)

namespace Reads

variable {α β : Type} {r : Reader α} {bs bs' : Bytes} {x : α}

/-- After `r` reads `bs`, the next reader starts on what follows `bs`. -/
theorem bind_apply (h : Reads r bs x) (f : α → Reader β) (rest : Bytes) :
    (r >>= f) (bs ++ rest) = f x rest := by
  show StateT.bind r f (bs ++ rest) = _
  simp only [StateT.bind, h rest]
  rfl

theorem bind {f : α → Reader β} {y : β} (h : Reads r bs x) (hf : Reads (f x) bs' y) :
    Reads (r >>= f) (bs ++ bs') y := by
  intro rest
  rw [List.append_assoc, bind_apply h]
  exact hf rest

theorem pure (x : α) : Reads (Pure.pure x : Reader α) [] x := fun _ => rfl

theorem bind_pure {f : α → Reader β} {y : β} (h : Reads r bs x) (hf : f x = Pure.pure y) :
    Reads (r >>= f) bs y := by
  have hp : Reads (f x) [] y := by
    rw [hf]
    exact Reads.pure y
  simpa using bind h hp

theorem map (g : α → β) (h : Reads r bs x) : Reads (g <$> r) bs (g x) := by
  intro rest
  show StateT.map g r (bs ++ rest) = _
  simp only [StateT.map, h rest]
  rfl

theorem reads_readMarker (b : UInt8) : Reads readMarker [b] (Marker.ofByte b) := fun _ => rfl

/-- A reader that starts with a marker reads the marker's byte and then what follows it. -/
theorem marker {f : Marker → Reader α} (b : UInt8) {more : Bytes}
    (h : Reads (f (Marker.ofByte b)) more x) : Reads (readMarker >>= f) (b :: more) x :=
  bind (reads_readMarker b) h

end Reads

/-! ## Numbers and payloads -/

theorem length_littleEndian (w n : Nat) : (Bytes.littleEndian w n).length = w := by
  induction w generalizing n with
  | zero => rfl
  | succ w ih => simp [Bytes.littleEndian, ih]

theorem length_bigEndian (w n : Nat) : (Bytes.bigEndian w n).length = w := by
  simp [Bytes.bigEndian, length_littleEndian]

theorem toNatBE_append_singleton (bs : Bytes) (b : UInt8) :
    Bytes.toNatBE (bs ++ [b]) = Bytes.toNatBE bs * 256 + b.toNat := by
  simp [Bytes.toNatBE, List.foldl_append]

/-- Big-endian bytes spell the number modulo the width's range. -/
theorem toNatBE_bigEndian (w n : Nat) : Bytes.toNatBE (Bytes.bigEndian w n) = n % 256 ^ w := by
  induction w generalizing n with
  | zero => simp [Bytes.bigEndian, Bytes.littleEndian, Bytes.toNatBE, Nat.mod_one]
  | succ w ih =>
    have hlow : (UInt8.ofNat (n % 256)).toNat = n % 256 := by
      simp only [UInt8.toNat_ofNat']
      omega
    have hsplit := Nat.mod_mul (x := n) (a := 256) (b := 256 ^ w)
    rw [Bytes.bigEndian, Bytes.littleEndian, List.reverse_cons, toNatBE_append_singleton,
      ← Bytes.bigEndian, ih, hlow, Nat.pow_succ', hsplit]
    omega

theorem reads_readNumber {w n : Nat} (h : n < 256 ^ w) :
    Reads (readNumber w) (Bytes.bigEndian w n) n := by
  intro rest
  have hlen := length_bigEndian w n
  simp only [readNumber, List.take_left' hlen, List.drop_left' hlen, hlen, Nat.lt_irrefl,
    if_false, toNatBE_bigEndian, Nat.mod_eq_of_lt h]

theorem reads_readPayload (bs : Bytes) : Reads (readPayload bs.length) bs bs := by
  intro rest
  simp [readPayload]

theorem length_encode (s : String) : (Text.Utf8.encode s).length = s.utf8ByteSize := by
  rw [Text.Utf8.encode, ByteArray.toList, Text.Utf8.toList_loop _ _ _ (Nat.zero_le _)]
  simp only [List.reverse_nil, List.nil_append, List.drop_zero, Array.length_toList]
  exact String.size_toByteArray

theorem reads_readText (s : String) :
    Reads (readText (Text.Utf8.encode s).length) (Text.Utf8.encode s) (.text s) := by
  rw [readText]
  apply (reads_readPayload _).bind_pure
  simp only [Text.Utf8.decode_encode]

/-! ## Heads

The first byte of a small integer, string, array or map holds the value or the length;
larger ones follow a marker byte with a big-endian length. -/

theorem toNat_ofNat_of_lt {n : Nat} (h : n < 256) : (UInt8.ofNat n).toNat = n := by
  simp only [UInt8.toNat_ofNat']
  exact Nat.mod_eq_of_lt h

theorem ofByte_fixPos {n : Nat} (h : n < 0x80) : Marker.ofByte (UInt8.ofNat n) = .fixPos n := by
  simp only [Marker.ofByte, toNat_ofNat_of_lt (show n < 256 by omega), if_pos h]

theorem ofByte_fixMap {n : Nat} (h : n < 16) :
    Marker.ofByte (UInt8.ofNat (0x80 + n)) = .fixMap n := by
  simp only [Marker.ofByte, toNat_ofNat_of_lt (show 0x80 + n < 256 by omega)]
  rw [if_neg (by omega), if_pos (by omega), Nat.add_sub_cancel_left]

theorem ofByte_fixArray {n : Nat} (h : n < 16) :
    Marker.ofByte (UInt8.ofNat (0x90 + n)) = .fixArray n := by
  simp only [Marker.ofByte, toNat_ofNat_of_lt (show 0x90 + n < 256 by omega)]
  rw [if_neg (by omega), if_neg (by omega), if_pos (by omega), Nat.add_sub_cancel_left]

theorem ofByte_fixStr {n : Nat} (h : n < 32) :
    Marker.ofByte (UInt8.ofNat (0xa0 + n)) = .fixStr n := by
  simp only [Marker.ofByte, toNat_ofNat_of_lt (show 0xa0 + n < 256 by omega)]
  rw [if_neg (by omega), if_neg (by omega), if_neg (by omega), if_pos (by omega),
    Nat.add_sub_cancel_left]

variable {d : Nat}

theorem readMarker_bind {α : Type} (b : UInt8) (more : Bytes) (f : Marker → Reader α) :
    (readMarker >>= f) (b :: more) = f (Marker.ofByte b) more := rfl

theorem enter_apply (d : Nat) (h : Head) (rest : Bytes) :
    enter d h rest = if d ≤ 1 then .error .tooDeep else .ok (h, rest) := by
  rw [enter]
  split <;> rfl

theorem reads_head_writeStr {s : String} (hs : s.utf8ByteSize < 2 ^ 32) :
    Reads (readMarker >>= readHead d) (writeStr s) (.text s) := by
  have hlen := length_encode s
  rw [writeStr, strHeader]
  -- one case per length class: fixstr, then str8, str16 and str32 with a length field
  split_ifs with h32 h8 h16
  · exact Reads.marker _ (by rw [ofByte_fixStr h32]; exact reads_readText s)
  · exact Reads.marker 0xd9 ((reads_readNumber (by omega)).bind (reads_readText s))
  · exact Reads.marker 0xda ((reads_readNumber (by omega)).bind (reads_readText s))
  · exact Reads.marker 0xdb ((reads_readNumber (by omega)).bind (reads_readText s))

/-- An array's head gives its length, and enters the array if the budget allows. -/
theorem readHead_arrayHeader {n : Nat} (hn : n < 2 ^ 32) (d : Nat) (rest : Bytes) :
    (readMarker >>= readHead d) (arrayHeader n ++ rest) = enter d (.array n) rest := by
  rw [arrayHeader]
  -- one case per length class: fixarray, then array 16 and array 32 with a length field
  split_ifs with h4 h16
  · rw [List.singleton_append, readMarker_bind, ofByte_fixArray h4]
    rfl
  · rw [List.cons_append, readMarker_bind]
    exact (reads_readNumber (w := 2) (by omega)).bind_apply (fun n => enter d (.array n)) rest
  · rw [List.cons_append, readMarker_bind]
    exact (reads_readNumber (w := 4) (by omega)).bind_apply (fun n => enter d (.array n)) rest

/-- A map's head gives its number of entries, and enters the map if the budget allows. -/
theorem readHead_mapHeader {n : Nat} (hn : n < 2 ^ 32) (d : Nat) (rest : Bytes) :
    (readMarker >>= readHead d) (mapHeader n ++ rest) = enter d (.map n) rest := by
  rw [mapHeader]
  split_ifs with h4 h16
  · rw [List.singleton_append, readMarker_bind, ofByte_fixMap h4]
    rfl
  · rw [List.cons_append, readMarker_bind]
    exact (reads_readNumber (w := 2) (by omega)).bind_apply (fun n => enter d (.map n)) rest
  · rw [List.cons_append, readMarker_bind]
    exact (reads_readNumber (w := 4) (by omega)).bind_apply (fun n => enter d (.map n)) rest

theorem reads_head_arrayHeader {n : Nat} (hd : 1 < d) (hn : n < 2 ^ 32) :
    Reads (readMarker >>= readHead d) (arrayHeader n) (.array n) := fun rest => by
  rw [readHead_arrayHeader hn d rest, enter_apply, if_neg (by omega)]

theorem reads_head_mapHeader {n : Nat} (hd : 1 < d) (hn : n < 2 ^ 32) :
    Reads (readMarker >>= readHead d) (mapHeader n) (.map n) := fun rest => by
  rw [readHead_mapHeader hn d rest, enter_apply, if_neg (by omega)]

/-! ## Scalars -/

theorem reads_scalar_uint {w n : Nat} (h : n < 256 ^ w) {m : Marker}
    (hm : readScalar m = (some ∘ Found.unsigned) <$> readNumber w) :
    Reads (readScalar m) (Bytes.bigEndian w n) (some (.unsigned n)) :=
  hm ▸ (reads_readNumber h).map _

/-- A written integer is a marker other than nil, followed by what that marker's scalar
reader reads as the integer. -/
theorem writeUInt_scalar {n : Nat} (h : n < 2 ^ 64) :
    ∃ b more, writeUInt n = b :: more ∧ Marker.ofByte b ≠ .nil ∧
      Reads (readScalar (Marker.ofByte b)) more (some (.unsigned n)) := by
  rw [writeUInt]
  -- one case per width: fixint, then uint 8, 16, 32 and 64
  split_ifs with h7 h8 h16 h32
  · refine ⟨_, [], rfl, ?_, ?_⟩ <;> rw [ofByte_fixPos h7]
    · exact nofun
    · exact Reads.pure _
  · exact ⟨0xcc, _, rfl, by decide, reads_scalar_uint (w := 1) (by omega) rfl⟩
  · exact ⟨0xcd, _, rfl, by decide, reads_scalar_uint (w := 2) (by omega) rfl⟩
  · exact ⟨0xce, _, rfl, by decide, reads_scalar_uint (w := 4) (by omega) rfl⟩
  · exact ⟨0xcf, _, rfl, by decide, reads_scalar_uint (w := 8) (by omega) rfl⟩

theorem reads_expectNatFrom {m : Marker} {more : Bytes} {n bits : Nat}
    (h : Reads (readScalar m) more (some (.unsigned n))) (hn : n < 2 ^ bits) :
    Reads (expectNatFrom bits m) more n := by
  rw [expectNatFrom]
  exact h.bind_pure (if_pos hn)

theorem reads_expectNat {n bits : Nat} (hb : bits ≤ 64) (hn : n < 2 ^ bits) :
    Reads (expectNat bits) (writeUInt n) n := by
  have h64 : n < 2 ^ 64 := Nat.lt_of_lt_of_le hn (Nat.pow_le_pow_right (by omega) hb)
  obtain ⟨b, more, hw, -, hr⟩ := writeUInt_scalar h64
  rw [hw, expectNat]
  exact Reads.marker b (reads_expectNatFrom hr hn)

theorem reads_expectOptionalNat_nil (bits : Nat) :
    Reads (expectOptionalNat bits) writeNil none :=
  fun _ => rfl

theorem reads_expectOptionalNat_some {n bits : Nat} (hb : bits ≤ 64) (hn : n < 2 ^ bits) :
    Reads (expectOptionalNat bits) (writeUInt n) (some n) := by
  have h64 : n < 2 ^ 64 := Nat.lt_of_lt_of_le hn (Nat.pow_le_pow_right (by omega) hb)
  obtain ⟨b, more, hw, hnil, hr⟩ := writeUInt_scalar h64
  rw [hw, expectOptionalNat]
  apply Reads.marker b
  rw [if_neg hnil]
  exact (reads_expectNatFrom hr hn).map some

theorem reads_expectFlag (b : Bool) : Reads expectFlag (writeBool b) b := by
  cases b <;> exact fun _ => rfl

/-! ## Strings, arrays and maps -/

theorem reads_expectText {s : String} (hs : s.utf8ByteSize < 2 ^ 32) :
    Reads (expectText d) (writeStr s) s := by
  rw [expectText, ← bind_assoc]
  exact (reads_head_writeStr hs).bind_pure rfl

theorem reads_expectFieldKey {fields : List String} {k : String} (hk : k.utf8ByteSize < 2 ^ 32) :
    Reads (expectFieldKey d fields) (writeStr k) (fields.idxOf? k) := by
  rw [expectFieldKey, ← bind_assoc]
  exact (reads_head_writeStr hk).bind_pure rfl

section Many

variable {α : Type} {r : Reader α} {w : α → Bytes}

/-- The loop keeps the values read so far reversed in its accumulator. -/
theorem reads_readMany_go {xs : List α} (hx : ∀ x ∈ xs, Reads r (w x) x) (acc : List α) :
    Reads (readMany.go r xs.length acc) (xs.flatMap w) (acc.reverse ++ xs) := by
  induction xs generalizing acc with
  | nil =>
    intro rest
    simp [readMany.go]
  | cons x xs ih =>
    intro rest
    have hxs : ∀ y ∈ xs, Reads r (w y) y := fun y hy => hx y (List.mem_cons_of_mem x hy)
    rw [List.length_cons, List.flatMap_cons, List.append_assoc, readMany.go]
    simp only [hx x List.mem_cons_self (xs.flatMap w ++ rest), ih hxs (x :: acc) rest]
    simp

theorem reads_readMany {xs : List α} (hx : ∀ x ∈ xs, Reads r (w x) x) :
    Reads (readMany r xs.length) (xs.flatMap w) xs := by
  have h := reads_readMany_go hx []
  rw [List.reverse_nil, List.nil_append] at h
  exact h

theorem reads_expectList {elem : Nat → Reader α} {xs : List α} (hd : 1 < d)
    (hn : xs.length < 2 ^ 32) (hx : ∀ x ∈ xs, Reads (elem (d - 1)) (w x) x) :
    Reads (expectList d elem) (writeArray w xs) xs := by
  rw [expectList, ← bind_assoc, writeArray]
  exact (reads_head_arrayHeader hd hn).bind (reads_readMany hx)

end Many

section Records

variable {σ α : Type} (shape : RecordShape σ α) (depth : Nat)

/-- The entries `es` of a map, read in order into a record of shape `shape`, take its
state from `st` to `st'`: each key is the name of a field not read yet, and that field's
reader reads the entry's value, or the key names no field and the entry's value is skipped
whole. -/
inductive Fills : List (String × Bytes) → σ → σ → Prop
  | nil (st : σ) : Fills [] st st
  | cons {k : String} {v : Bytes} {es : List (String × Bytes)} {st st' st'' : σ} (i : Nat)
      (key : k.utf8ByteSize < 2 ^ 32) (names : shape.fields.idxOf? k = some i)
      (fresh : shape.isSet st i = false) (value : Reads (shape.readField i depth st) v st')
      (rest : Fills es st' st'') : Fills ((k, v) :: es) st st''
  | skip {k : String} {v : Bytes} {es : List (String × Bytes)} {st st' : σ}
      (key : k.utf8ByteSize < 2 ^ 32) (unknown : shape.fields.idxOf? k = none)
      (value : Reads (skipValue depth) v ()) (rest : Fills es st st') : Fills ((k, v) :: es) st st'

/-- An entry whose key names no field: its value is skipped, and reading goes on after it. -/
theorem readEntries_unknown {k : String} (hk : k.utf8ByteSize < 2 ^ 32)
    (hu : shape.fields.idxOf? k = none) (n : Nat) (st : σ) (bs : Bytes) :
    shape.readEntries depth (n + 1) st (writeStr k ++ bs) =
      (skipValue depth bs).bind fun (_, rest) => shape.readEntries depth n st rest := by
  rw [RecordShape.readEntries]
  simp only [reads_expectFieldKey hk bs, hu]
  cases skipValue depth bs with
  | error e => rfl
  | ok p => rfl

/-- Entries that fill a record leave the count they did not use to the bytes after them. -/
theorem readEntries_fills_append {es : List (String × Bytes)} {st st' : σ}
    (h : Fills shape depth es st st') (m : Nat) (rest : Bytes) :
    shape.readEntries depth (es.length + m) st ((es.flatMap fun (k, v) => writeStr k ++ v) ++ rest) =
      shape.readEntries depth m st' rest := by
  induction h with
  | nil st => rw [List.length_nil, Nat.zero_add, List.flatMap_nil, List.nil_append]
  | cons i key names fresh value _ ih =>
    rw [List.length_cons, Nat.add_right_comm, List.flatMap_cons, RecordShape.readEntries]
    simp only [List.append_assoc, reads_expectFieldKey key _, names, fresh, value _, ih,
      Bool.false_eq_true, if_false]
  | skip key unknown value _ ih =>
    rw [List.length_cons, Nat.add_right_comm, List.flatMap_cons, List.append_assoc,
      List.append_assoc, readEntries_unknown shape depth key unknown, value _]
    exact ih

theorem reads_readEntries {es : List (String × Bytes)} {st st' : σ}
    (h : Fills shape depth es st st') :
    Reads (shape.readEntries depth es.length st) (es.flatMap fun (k, v) => writeStr k ++ v)
      st' :=
  readEntries_fills_append shape depth h 0

theorem reads_expectRecord {es : List (String × Bytes)} {st : σ} {x : α} (hd : 1 < d)
    (hn : es.length < 2 ^ 32) (h : Fills shape (d - 1) es shape.empty st)
    (hx : shape.finish st = .ok x) :
    Reads (expectRecord shape d) (writeMap es) x := by
  rw [expectRecord, ← bind_assoc, writeMap]
  refine (reads_head_mapHeader hd hn).bind ?_
  show Reads (shape.ofEntries (d - 1) es.length) _ x
  rw [RecordShape.ofEntries]
  exact (reads_readEntries shape (d - 1) h).bind_pure (by rw [hx])

end Records

end GrammarLoader.MessagePack

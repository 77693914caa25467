import GrammarLoader.Proofs.MessagePack
import GrammarLoader.Artifact.Fingerprint

/-! # The canonical bytes spell an artifact's content once

The bytes a fingerprint hashes are a chain of codes, each of which can be read back
from the front of whatever follows it: numbers in a fixed number of bytes, strings and
lists behind their length in eight bytes, the flag byte of a symbol, and a tag byte
before an optional word token. A chain of such prefix codes is itself one, so as long
as every length fits in the eight bytes it is given, the canonical bytes determine
every part of the artifact except the stored fingerprint, which they leave out.

Main statement: `canonical_eq_iff`.
-/

namespace GrammarLoader

/-- A byte encoding that reads back from the front of any byte string: on values that
meet `p`, a code and what follows it give back the value and what follows. -/
def PrefixCode {α : Type} (p : α → Prop) (e : α → Bytes) : Prop :=
  ∀ ⦃x y : α⦄ (r s : Bytes), p x → p y → e x ++ r = e y ++ s → x = y ∧ r = s

/-- A list's length in eight bytes, then each element's code. -/
def countedBytes {α : Type} (e : α → Bytes) (xs : List α) : Bytes :=
  Artifact.countBytes xs.length ++ xs.flatMap e

namespace PrefixCode

variable {α β : Type} {p : α → Prop} {e : α → Bytes}

theorem inj (he : PrefixCode p e) {x y : α} (hx : p x) (hy : p y) (h : e x = e y) : x = y :=
  (he [] [] hx hy (by simp [h])).1

theorem mono {q : α → Prop} (he : PrefixCode p e) (hq : ∀ x, q x → p x) : PrefixCode q e :=
  fun _ _ r s hx hy h => he r s (hq _ hx) (hq _ hy) h

theorem of_length {w : Nat} (hw : ∀ x, p x → (e x).length = w)
    (hinj : ∀ x y, p x → p y → e x = e y → x = y) : PrefixCode p e := by
  intro x y r s hx hy h
  obtain ⟨hxy, hrs⟩ := List.append_inj h (by rw [hw x hx, hw y hy])
  exact ⟨hinj x y hx hy hxy, hrs⟩

theorem comap (he : PrefixCode p e) (f : β → α) (hf : Function.Injective f) :
    PrefixCode (fun y => p (f y)) (fun y => e (f y)) := by
  intro x y r s hx hy h
  obtain ⟨hxy, hrs⟩ := he r s hx hy h
  exact ⟨hf hxy, hrs⟩

/-- Codes of equally long lists, one after another, read back element by element. -/
theorem flatMap (he : PrefixCode p e) :
    ∀ {xs ys : List α} (r s : Bytes), xs.length = ys.length → (∀ x ∈ xs, p x) →
      (∀ y ∈ ys, p y) → xs.flatMap e ++ r = ys.flatMap e ++ s → xs = ys ∧ r = s
  | [], [], _, _, _, _, _, h => ⟨rfl, by simpa using h⟩
  | x :: xs, y :: ys, r, s, hlen, hxs, hys, h => by
    simp only [List.flatMap_cons, List.append_assoc] at h
    obtain ⟨rfl, htail⟩ := he _ _ (hxs x (by simp)) (hys y (by simp)) h
    obtain ⟨rfl, rfl⟩ := flatMap he r s (by simpa using hlen) (fun x hx => hxs x (by simp [hx]))
      (fun y hy => hys y (by simp [hy])) htail
    exact ⟨rfl, rfl⟩

end PrefixCode

namespace Artifact

theorem littleEndian_inj :
    ∀ {w x y : Nat}, x < 256 ^ w → y < 256 ^ w → Bytes.littleEndian w x = Bytes.littleEndian w y → x = y
  | 0, x, y, hx, hy, _ => by simp at hx hy; omega
  | w + 1, x, y, hx, hy, h => by
    simp only [Bytes.littleEndian, List.cons.injEq] at h
    obtain ⟨hlow, hhigh⟩ := h
    -- The low byte fixes `x % 256`, the rest fixes `x / 256`.
    have hmod : x % 256 = y % 256 := by
      have := congrArg UInt8.toNat hlow
      simpa [UInt8.toNat_ofNat, Nat.mod_mod] using this
    have hdiv : x / 256 = y / 256 :=
      littleEndian_inj (by rw [Nat.pow_succ] at hx; omega) (by rw [Nat.pow_succ] at hy; omega) hhigh
    omega

theorem littleEndian_prefixCode (w : Nat) : PrefixCode (· < 256 ^ w) (Bytes.littleEndian w) :=
  .of_length (fun _ _ => MessagePack.length_littleEndian w _) fun _ _ hx hy h => littleEndian_inj hx hy h

theorem countBytes_prefixCode : PrefixCode (· < 2 ^ 64) countBytes :=
  littleEndian_prefixCode 8

/-- Numbers of a type whose values fit in `w` bytes, written in `w` bytes. -/
theorem fixedWidth_prefixCode {β : Type} (w : Nat) (f : β → Nat) (hf : Function.Injective f)
    (hb : ∀ x, f x < 256 ^ w) : PrefixCode (fun _ => True) fun x => Bytes.littleEndian w (f x) :=
  ((littleEndian_prefixCode w).comap f hf).mono fun x _ => hb x

/-- A list behind its length reads back when its elements do. -/
theorem countedBytes_prefixCode {α : Type} {p : α → Prop} {e : α → Bytes} (he : PrefixCode p e) :
    PrefixCode (fun xs : List α => xs.length < 2 ^ 64 ∧ ∀ x ∈ xs, p x) (countedBytes e) := by
  intro xs ys r s ⟨hxl, hxs⟩ ⟨hyl, hys⟩ h
  simp only [countedBytes, List.append_assoc] at h
  obtain ⟨hlen, h⟩ := countBytes_prefixCode _ _ hxl hyl h
  exact he.flatMap r s hlen hxs hys h

theorem countedRaw_prefixCode : PrefixCode (fun bs : Bytes => bs.length < 2 ^ 64)
    (fun bs => countBytes bs.length ++ bs) := by
  intro xs ys r s hx hy h
  simp only [List.append_assoc] at h
  obtain ⟨hlen, h⟩ := countBytes_prefixCode _ _ hx hy h
  exact List.append_inj h hlen

theorem encode_injective : Function.Injective Text.Utf8.encode := by
  intro s t h
  have := Text.Utf8.decode_encode s
  rw [h, Text.Utf8.decode_encode] at this
  exact (Except.ok.inj this).symm

theorem stringBytes_prefixCode : PrefixCode (·.utf8ByteSize < 2 ^ 64) stringBytes := by
  intro x y r s hx hy h
  rw [← MessagePack.length_encode] at hx hy
  exact countedRaw_prefixCode.comap _ encode_injective r s hx hy h

theorem abiBytes_prefixCode : PrefixCode (fun _ => True) fun v : UInt32 => Bytes.littleEndian 4 v.toNat :=
  fixedWidth_prefixCode 4 UInt32.toNat (fun _ _ h => UInt32.toNat_inj.mp h) UInt32.toNat_lt_size

/-- A symbol: its name, then its flag byte. -/
def symbolBytes (s : Symbol) : Bytes := stringBytes s.name ++ [s.flags.bits]

/-- A symbol id in two bytes. -/
def idCode (id : UInt16) : Bytes := Bytes.littleEndian 2 id.toNat

theorem idCode_prefixCode : PrefixCode (fun _ => True) idCode :=
  fixedWidth_prefixCode 2 UInt16.toNat (fun _ _ h => UInt16.toNat_inj.mp h) UInt16.toNat_lt_size

theorem idBytes_prefixCode : PrefixCode (fun ids : List UInt16 => ids.length < 2 ^ 64) idBytes :=
  (countedBytes_prefixCode idCode_prefixCode).mono fun _ h => ⟨h, fun _ _ => trivial⟩

theorem wordBytes_prefixCode : PrefixCode (fun _ => True) wordBytes := by
  rintro (_ | x) (_ | y) r s - - h
  · simpa [wordBytes] using h
  · simp [wordBytes] at h
  · simp [wordBytes] at h
  · simp only [wordBytes, List.cons_append, List.cons.injEq, true_and] at h
    obtain ⟨rfl, rfl⟩ := idCode_prefixCode r s trivial trivial h
    exact ⟨rfl, rfl⟩

end Artifact

/-- The flags a flag byte spells: bit 0 visible, bit 1 named, bit 2 supertype. -/
def SymbolFlags.ofBits (b : UInt8) : SymbolFlags :=
  ⟨b &&& 1 != 0, b &&& 2 != 0, b &&& 4 != 0⟩

theorem SymbolFlags.ofBits_bits (f : SymbolFlags) : ofBits f.bits = f := by
  obtain ⟨_ | _, _ | _, _ | _⟩ := f <;> decide

theorem SymbolFlags.bits_injective : Function.Injective SymbolFlags.bits := by
  intro f g h
  rw [← ofBits_bits f, h, ofBits_bits]

namespace Artifact

theorem symbolBytes_prefixCode : PrefixCode (·.name.utf8ByteSize < 2 ^ 64) symbolBytes := by
  intro x y r s hx hy h
  simp only [symbolBytes, List.append_assoc, List.singleton_append] at h
  obtain ⟨hname, h⟩ := stringBytes_prefixCode _ _ hx hy h
  obtain ⟨hbits, rfl⟩ := List.cons.inj h
  have hflags : x.flags = y.flags := SymbolFlags.bits_injective hbits
  obtain ⟨_, _⟩ := x
  obtain ⟨_, _⟩ := y
  subst hname hflags
  exact ⟨rfl, rfl⟩

/-- The canonical bytes as a chain of codes, one per part of the artifact. -/
theorem canonical_eq (a : Artifact) :
    a.canonical =
      stringBytes a.name ++ (Bytes.littleEndian 4 a.abiVersion.toNat ++
        (countedBytes symbolBytes a.symbols ++ (countedBytes stringBytes a.fields ++
        (idBytes a.externalTokens ++ (idBytes a.extras ++ (wordBytes a.wordToken ++
        (stringBytes a.metadata.version ++ (stringBytes a.metadata.scope ++
        countedBytes stringBytes a.metadata.fileTypes)))))))) := by
  simp only [canonical, countedBytes, List.flatten_cons, List.flatten_nil, List.append_nil,
    List.append_assoc]
  rfl

/-- Every length the canonical bytes write fits in the eight bytes it is given: the byte
length of each string and the length of each list is below `2 ^ 64`. -/
structure LengthsFit (a : Artifact) : Prop where
  name : a.name.utf8ByteSize < 2 ^ 64
  symbols : a.symbols.length < 2 ^ 64
  symbolNames : ∀ s ∈ a.symbols, s.name.utf8ByteSize < 2 ^ 64
  fields : a.fields.length < 2 ^ 64
  fieldNames : ∀ f ∈ a.fields, f.utf8ByteSize < 2 ^ 64
  externalTokens : a.externalTokens.length < 2 ^ 64
  extras : a.extras.length < 2 ^ 64
  version : a.metadata.version.utf8ByteSize < 2 ^ 64
  scope : a.metadata.scope.utf8ByteSize < 2 ^ 64
  fileTypes : a.metadata.fileTypes.length < 2 ^ 64
  fileTypeNames : ∀ t ∈ a.metadata.fileTypes, t.utf8ByteSize < 2 ^ 64

/-- Equal canonical bytes, read back code by code, give equal parts. -/
theorem content_eq_of_canonical_eq {a b : Artifact} (ha : a.LengthsFit) (hb : b.LengthsFit)
    (h : a.canonical = b.canonical) : { a with fingerprint := 0 } = { b with fingerprint := 0 } := by
  have hstrings := countedBytes_prefixCode stringBytes_prefixCode
  rw [canonical_eq, canonical_eq] at h
  obtain ⟨hname, h⟩ := stringBytes_prefixCode _ _ ha.name hb.name h
  obtain ⟨habi, h⟩ := abiBytes_prefixCode _ _ trivial trivial h
  obtain ⟨hsymbols, h⟩ := countedBytes_prefixCode symbolBytes_prefixCode _ _
    ⟨ha.symbols, ha.symbolNames⟩ ⟨hb.symbols, hb.symbolNames⟩ h
  obtain ⟨hfields, h⟩ := hstrings _ _ ⟨ha.fields, ha.fieldNames⟩ ⟨hb.fields, hb.fieldNames⟩ h
  obtain ⟨hexternal, h⟩ := idBytes_prefixCode _ _ ha.externalTokens hb.externalTokens h
  obtain ⟨hextras, h⟩ := idBytes_prefixCode _ _ ha.extras hb.extras h
  obtain ⟨hword, h⟩ := wordBytes_prefixCode _ _ trivial trivial h
  obtain ⟨hversion, h⟩ := stringBytes_prefixCode _ _ ha.version hb.version h
  obtain ⟨hscope, h⟩ := stringBytes_prefixCode _ _ ha.scope hb.scope h
  have htypes := hstrings.inj ⟨ha.fileTypes, ha.fileTypeNames⟩ ⟨hb.fileTypes, hb.fileTypeNames⟩ h
  obtain ⟨_, _, _, _, _, _, _, ⟨_, _, _⟩, _⟩ := a
  obtain ⟨_, _, _, _, _, _, _, ⟨_, _, _⟩, _⟩ := b
  subst hname habi hsymbols hfields hexternal hextras hword hversion hscope htypes
  rfl

/-- Under lengths that fit their eight bytes, two artifacts have the same canonical bytes
exactly when they agree on everything but the stored fingerprint. -/
theorem canonical_eq_iff (a b : Artifact) (ha : a.LengthsFit) (hb : b.LengthsFit) :
    a.canonical = b.canonical ↔ { a with fingerprint := 0 } = { b with fingerprint := 0 } := by
  refine ⟨content_eq_of_canonical_eq ha hb, fun h => ?_⟩
  calc a.canonical = ({ a with fingerprint := 0 }).canonical := rfl
    _ = ({ b with fingerprint := 0 }).canonical := by rw [h]
    _ = b.canonical := rfl

/-- A small grammar with the given fields. -/
def withFields (fields : List String) : Artifact :=
  { Artifact.empty "tiny" currentAbi with symbols := [⟨"end", .hidden⟩], fields := fields }

theorem lengthsFit_withFields (fields : List String) (hf : ∀ f ∈ fields, f.utf8ByteSize < 2 ^ 64)
    (hn : fields.length < 2 ^ 64) : (withFields fields).LengthsFit := by
  refine ⟨?_, ?_, ?_, hn, hf, ?_, ?_, ?_, ?_, ?_, ?_⟩ <;> simp [withFields, Artifact.empty] <;> decide

/-- Where a string ends is part of the canonical bytes: fields `ab`, `c` and fields `a`,
`bc` give different bytes. -/
theorem canonical_keeps_string_boundaries :
    (withFields ["ab", "c"]).LengthsFit ∧ (withFields ["a", "bc"]).LengthsFit ∧
      (withFields ["ab", "c"]).canonical ≠ (withFields ["a", "bc"]).canonical := by
  have h1 := lengthsFit_withFields ["ab", "c"] (by decide) (by decide)
  have h2 := lengthsFit_withFields ["a", "bc"] (by decide) (by decide)
  refine ⟨h1, h2, fun h => ?_⟩
  have := (canonical_eq_iff _ _ h1 h2).mp h
  simp [withFields] at this

end Artifact

end GrammarLoader

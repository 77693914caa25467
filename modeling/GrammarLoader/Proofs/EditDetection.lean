import GrammarLoader.Proofs.StoredFingerprint
import GrammarLoader.Proofs.Canonical

/-! # A fingerprint catches every one-byte edit

For a fixed byte, a step of FNV-1a is a bijection of the 64-bit state: it xors the byte
in, then multiplies by an odd prime, which has an inverse modulo `2 ^ 64`. For a fixed
state, distinct bytes give distinct states. So two byte strings of one length that
differ at one position reach different states there and stay apart to the end, and
their hashes differ. The fingerprint raises a hash of 0 to 1, which merges exactly the
hashes 0 and 1.

Changing one symbol's flags, or one byte of its name, is such an edit of the canonical
bytes. A sealed artifact edited so, with its stored fingerprint kept, fails validation
with a fingerprint mismatch when verification is on and the checks before pass.

Main statement: `fingerprint_detects_one_byte_edit`.
-/

namespace GrammarLoader

namespace Fnv

/-- The inverse of the FNV prime modulo `2 ^ 64`. -/
def primeInverse : UInt64 := 0xce965057aff6957b

theorem prime_mul_primeInverse : prime * primeInverse = 1 := by decide

theorem mul_prime_injective : Function.Injective (· * prime) := by
  intro x y h
  have := congrArg (· * primeInverse) h
  simpa only [UInt64.mul_assoc, prime_mul_primeInverse, UInt64.mul_one] using this

theorem xor_left_injective (h : UInt64) : Function.Injective (h ^^^ ·) := by
  intro x y hxy
  have := congrArg (h ^^^ ·) hxy
  simpa [← UInt64.xor_assoc] using this

/-- For a fixed state, distinct bytes lead to distinct states. -/
theorem step_injective (h : UInt64) : Function.Injective (step h) := by
  intro x y hxy
  have hx : h ^^^ x.toUInt64 = h ^^^ y.toUInt64 := mul_prime_injective hxy
  exact UInt8.toUInt64_inj.mp (xor_left_injective h hx)

/-- For a fixed byte, distinct states lead to distinct states. -/
theorem step_state_injective (b : UInt8) : Function.Injective (step · b) := by
  intro h h' hh
  have hx : h ^^^ b.toUInt64 = h' ^^^ b.toUInt64 := mul_prime_injective hh
  simpa using congrArg (· ^^^ b.toUInt64) hx

/-- Hashing further bytes keeps distinct states apart. -/
theorem foldl_step_injective : ∀ bs : Bytes, Function.Injective (bs.foldl step ·)
  | [] => fun _ _ h => h
  | b :: bs => fun _ _ h => step_state_injective b (foldl_step_injective bs h)

theorem hash_append_cons (p s : Bytes) (x : UInt8) :
    hash (p ++ x :: s) = s.foldl step (step (p.foldl step offsetBasis) x) := by
  simp [hash, List.foldl_append]

theorem hash_ne_of_split {p s : Bytes} {x y : UInt8} (hxy : x ≠ y) :
    hash (p ++ x :: s) ≠ hash (p ++ y :: s) := by
  rw [hash_append_cons, hash_append_cons]
  exact fun h => hxy (step_injective _ (foldl_step_injective s h))

end Fnv

/-- Two byte strings of one length that differ at exactly one position. -/
def DifferInOneByte (u v : Bytes) : Prop :=
  u.length = v.length ∧ ∃ i : Nat, u[i]? ≠ v[i]? ∧ ∀ j : Nat, j ≠ i → u[j]? = v[j]?

namespace DifferInOneByte

variable {u v : Bytes}

theorem of_split (p s : Bytes) {x y : UInt8} (hxy : x ≠ y) :
    DifferInOneByte (p ++ x :: s) (p ++ y :: s) := by
  refine ⟨by simp, p.length, by simpa using hxy, fun j hj => ?_⟩
  rcases Nat.lt_or_gt_of_ne hj with hlt | hgt
  · rw [List.getElem?_append_left hlt, List.getElem?_append_left hlt]
  · have hle : p.length ≤ j := by omega
    rw [List.getElem?_append_right hle, List.getElem?_append_right hle]
    obtain ⟨k, hk⟩ : ∃ k, j - p.length = k + 1 := ⟨j - p.length - 1, by omega⟩
    rw [hk]
    rfl

/-- The edited position splits both strings into a common prefix and a common suffix. -/
theorem exists_split (h : DifferInOneByte u v) :
    ∃ p x y s, x ≠ y ∧ u = p ++ x :: s ∧ v = p ++ y :: s := by
  obtain ⟨hlen, i, hi, hrest⟩ := h
  -- Past the common end both strings read `none`, so the edit lies inside both.
  have hiu : i < u.length := by
    refine Nat.lt_of_not_le fun hge => hi ?_
    rw [List.getElem?_eq_none hge, List.getElem?_eq_none (hlen ▸ hge)]
  have hiv : i < v.length := hlen ▸ hiu
  have htake : v.take i = u.take i := by
    apply List.ext_getElem?
    intro j
    rw [List.getElem?_take, List.getElem?_take]
    split
    · exact (hrest j (by omega)).symm
    · rfl
  have hdrop : v.drop (i + 1) = u.drop (i + 1) := by
    apply List.ext_getElem?
    intro j
    rw [List.getElem?_drop, List.getElem?_drop]
    exact (hrest _ (by omega)).symm
  refine ⟨u.take i, u[i], v[i], u.drop (i + 1), fun hxy => hi ?_, ?_, ?_⟩
  · rw [List.getElem?_eq_getElem hiu, List.getElem?_eq_getElem hiv, hxy]
  · rw [← List.drop_eq_getElem_cons hiu, List.take_append_drop]
  · rw [← htake, ← hdrop, ← List.drop_eq_getElem_cons hiv, List.take_append_drop]

theorem append_left (h : DifferInOneByte u v) (p : Bytes) : DifferInOneByte (p ++ u) (p ++ v) := by
  obtain ⟨q, x, y, s, hxy, rfl, rfl⟩ := h.exists_split
  simpa only [List.append_assoc] using of_split (p ++ q) s hxy

theorem append_right (h : DifferInOneByte u v) (s : Bytes) : DifferInOneByte (u ++ s) (v ++ s) := by
  obtain ⟨q, x, y, r, hxy, rfl, rfl⟩ := h.exists_split
  simpa only [List.append_assoc, List.cons_append] using of_split q (r ++ s) hxy

end DifferInOneByte

theorem Fnv.hash_ne_of_differInOneByte {u v : Bytes} (h : DifferInOneByte u v) : hash u ≠ hash v := by
  obtain ⟨p, x, y, s, hxy, rfl, rfl⟩ := h.exists_split
  exact hash_ne_of_split hxy

/-- The one way the floor at 1 merges two hashes: one is 0 and the other 1. -/
def FloorMerges (x y : UInt64) : Prop := x = 0 ∧ y = 1 ∨ x = 1 ∧ y = 0

theorem max_one_eq (x : UInt64) : max 1 x = if x = 0 then 1 else x := by
  simp only [max, UInt64.le_iff_toNat_le, UInt64.toNat_one]
  by_cases hx : x = 0
  · simp [hx]
  · have : x.toNat ≠ 0 := fun h => hx (UInt64.toNat_inj.mp h)
    simp [hx]
    omega

theorem max_one_ne {x y : UInt64} (hxy : x ≠ y) (hm : ¬ FloorMerges x y) : max 1 x ≠ max 1 y := by
  rw [max_one_eq, max_one_eq]
  by_cases hx : x = 0 <;> by_cases hy : y = 0 <;> simp_all [FloorMerges, eq_comm]

namespace Artifact

variable {a b : Artifact} {c : LoaderConfig}

theorem computeFingerprint_ne_of_differInOneByte (h : DifferInOneByte a.canonical b.canonical)
    (hm : ¬ FloorMerges (Fnv.hash a.canonical) (Fnv.hash b.canonical)) :
    a.computeFingerprint ≠ b.computeFingerprint :=
  max_one_ne (Fnv.hash_ne_of_differInOneByte h) hm

/-- With the content checks passed and verification on, a sealed artifact whose stored
fingerprint is not its computed one fails with a mismatch. -/
theorem validate_eq_mismatch (hcontent : ∀ g ∈ Check.content, g.Holds a c) (h0 : a.fingerprint ≠ 0)
    (hv : c.verifyFingerprint = true) (hne : a.fingerprint ≠ a.computeFingerprint) :
    a.validate c = .error (.fingerprintMismatch a.fingerprint a.computeFingerprint) := by
  have hfp : a.checkFingerprint c = .error (.fingerprintMismatch a.fingerprint a.computeFingerprint) := by
    rcases checkFingerprint_ok_or_mismatch a c with hok | ⟨s, k, herr⟩
    · exact absurd ((checkFingerprint_eq_ok_iff.mp hok).2 h0 hv) hne
    · rw [herr, checkFingerprint_eq_error herr]
  rw [validate_eq_content_bind, forM_content_eq_ok_iff.mpr hcontent, hfp]
  rfl

/-- Replacing one symbol whose code differs from the new one's in one byte is a one-byte
edit of the canonical bytes: the table's length, and all around the symbol, stay. -/
theorem differInOneByte_setSymbol (pre post : List Symbol) {s s' : Symbol}
    (hs : a.symbols = pre ++ s :: post) (h : DifferInOneByte (symbolBytes s) (symbolBytes s')) :
    DifferInOneByte a.canonical ({ a with symbols := pre ++ s' :: post }).canonical := by
  have htable : DifferInOneByte (countedBytes symbolBytes a.symbols)
      (countedBytes symbolBytes (pre ++ s' :: post)) := by
    rw [hs]
    simp only [countedBytes, List.length_append, List.length_cons, List.flatMap_append,
      List.flatMap_cons]
    exact ((h.append_right _).append_left _).append_left _
  rw [canonical_eq, canonical_eq]
  exact ((htable.append_right _).append_left _).append_left _

/-- New flags are a one-byte edit of a symbol's code: its flag byte. -/
theorem differInOneByte_reflag (s : Symbol) {f : SymbolFlags} (hf : f ≠ s.flags) :
    DifferInOneByte (symbolBytes s) (symbolBytes { s with flags := f }) := by
  have hbits : s.flags.bits ≠ f.bits := fun h => hf (SymbolFlags.bits_injective h).symm
  exact DifferInOneByte.of_split (stringBytes s.name) [] hbits

/-- A name whose bytes differ from the old one's in one position is a one-byte edit of a
symbol's code: the byte count stays. -/
theorem differInOneByte_rename (s : Symbol) {n : String}
    (hn : DifferInOneByte (Text.Utf8.encode s.name) (Text.Utf8.encode n)) :
    DifferInOneByte (symbolBytes s) (symbolBytes { s with name := n }) := by
  simp only [symbolBytes, stringBytes]
  rw [hn.1]
  exact (hn.append_left _).append_right _

end Artifact

/-- Two artifacts whose canonical bytes differ in one position have different
fingerprints, unless their raw hashes are 0 and 1. So a sealed artifact edited so, with
its stored fingerprint kept, fails validation with a fingerprint mismatch whenever
verification is on and the checks before the fingerprint's pass. -/
theorem fingerprint_detects_one_byte_edit (a b : Artifact)
    (hab : DifferInOneByte a.canonical b.canonical)
    (hraw : ¬ FloorMerges (Fnv.hash a.canonical) (Fnv.hash b.canonical)) :
    a.computeFingerprint ≠ b.computeFingerprint ∧
      ∀ c : LoaderConfig, a.fingerprint = a.computeFingerprint → b.fingerprint = a.fingerprint →
        c.verifyFingerprint = true → (∀ g ∈ Artifact.Check.content, g.Holds b c) →
        b.validate c = .error (.fingerprintMismatch a.fingerprint b.computeFingerprint) := by
  have hne := Artifact.computeFingerprint_ne_of_differInOneByte hab hraw
  refine ⟨hne, fun c hsealed hkept hv hcontent => ?_⟩
  have h0 : b.fingerprint ≠ 0 := by
    rw [hkept, hsealed]
    exact Artifact.computeFingerprint_ne_zero a
  rw [← hkept]
  exact Artifact.validate_eq_mismatch hcontent h0 hv (by rw [hkept, hsealed]; exact hne)

/-- A small sealed grammar: `end`, and a visible `identifier` that is its word token. -/
def tinySealed : Artifact :=
  ({ Artifact.empty "tiny" currentAbi with
    symbols := [⟨"end", .hidden⟩, ⟨"identifier", .regular⟩], fields := ["name"],
    wordToken := some 1 }).sealed

/-- The same grammar with `identifier` hidden, its stored fingerprint kept. -/
def tinyHidden : Artifact :=
  { tinySealed with symbols := [⟨"end", .hidden⟩, ⟨"identifier", .hidden⟩] }

/-- Hiding one symbol of a sealed grammar changes one byte of its canonical bytes, and
the standard checks then refuse it for its fingerprint. -/
theorem hidden_identifier_mismatch :
    DifferInOneByte tinySealed.canonical tinyHidden.canonical ∧
      ¬ FloorMerges (Fnv.hash tinySealed.canonical) (Fnv.hash tinyHidden.canonical) ∧
      tinySealed.computeFingerprint ≠ tinyHidden.computeFingerprint ∧
      tinyHidden.validate .standard =
        .error (.fingerprintMismatch tinySealed.fingerprint tinyHidden.computeFingerprint) := by
  have hab : DifferInOneByte tinySealed.canonical tinyHidden.canonical :=
    Artifact.differInOneByte_setSymbol [⟨"end", .hidden⟩] [] rfl
      (Artifact.differInOneByte_reflag _ (by decide))
  have hraw : ¬ FloorMerges (Fnv.hash tinySealed.canonical) (Fnv.hash tinyHidden.canonical) := by
    unfold FloorMerges
    decide +kernel
  obtain ⟨hne, hvalidate⟩ := fingerprint_detects_one_byte_edit _ _ hab hraw
  refine ⟨hab, hraw, hne, hvalidate .standard rfl rfl rfl ?_⟩
  exact Artifact.forM_content_eq_ok_iff.mp rfl

end GrammarLoader

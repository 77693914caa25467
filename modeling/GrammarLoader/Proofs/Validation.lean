import GrammarLoader.Proofs.Utf8
import GrammarLoader.Validate

/-! # What validation accepts

`Artifact.validate` runs six checks and stops at the first that fails. Each check is
stated here as a condition on the artifact and the configuration, in terms of the
data alone: an identifier for a name, a window for the ABI version, the shape of the
symbol table, field names in strictly increasing byte order, symbol ids that exist,
and a fingerprint that is present or right when the configuration asks for it.

The field check compares only neighbouring names, while its condition is about every
pair; the two agree because the order is transitive. The code compares strings
character by character and the condition compares UTF-8 bytes; those agree by
`Text.Utf8.encode_lt_encode_iff`.

Main statement: validation succeeds exactly when all six conditions hold, and a
failure carries a reason of the first condition that does not.
-/

namespace GrammarLoader

def IsAsciiLetter (c : Char) : Prop := ('a' ≤ c ∧ c ≤ 'z') ∨ ('A' ≤ c ∧ c ≤ 'Z')

def IsAsciiDigit (c : Char) : Prop := '0' ≤ c ∧ c ≤ '9'

/-- An identifier: a letter or `_`, then letters, digits or `_`, all ASCII. -/
def IsIdentifier (s : String) : Prop :=
  ∃ c cs, s.toList = c :: cs ∧ (IsAsciiLetter c ∨ c = '_') ∧
    ∀ d ∈ cs, IsAsciiLetter d ∨ IsAsciiDigit d ∨ d = '_'

/-- One string before another in the byte order of their UTF-8 forms. -/
def ByteLt (s t : String) : Prop := Text.Utf8.encode s < Text.Utf8.encode t

theorem isNameStart_iff (c : Char) : isNameStart c = true ↔ IsAsciiLetter c ∨ c = '_' := by
  simp only [isNameStart, Char.isAlpha, Char.isUpper, Char.isLower, IsAsciiLetter, Char.le_def,
    Bool.or_eq_true, Bool.and_eq_true, decide_eq_true_eq, beq_iff_eq]
  grind

theorem isNameChar_iff (c : Char) :
    isNameChar c = true ↔ IsAsciiLetter c ∨ IsAsciiDigit c ∨ c = '_' := by
  simp only [isNameChar, Char.isAlphanum, Char.isAlpha, Char.isDigit, Char.isUpper, Char.isLower,
    IsAsciiLetter, IsAsciiDigit, Char.le_def, Bool.or_eq_true, Bool.and_eq_true, decide_eq_true_eq,
    beq_iff_eq]
  grind

theorem isGrammarName_iff (s : String) : isGrammarName s = true ↔ IsIdentifier s := by
  unfold isGrammarName IsIdentifier
  split
  next h => simp [h]
  next c cs h =>
      simp only [h, Bool.and_eq_true, isNameStart_iff, List.all_eq_true, isNameChar_iff]
      constructor
      · rintro ⟨hc, hcs⟩
        exact ⟨c, cs, rfl, hc, hcs⟩
      · rintro ⟨c', cs', heq, hc, hcs⟩
        obtain ⟨rfl, rfl⟩ := List.cons.inj heq
        exact ⟨hc, hcs⟩

/-- Neighbours in increasing order make the whole list increasing, since `<` on strings
is transitive. -/
theorem firstUnordered_eq_none_iff (l : List String) :
    firstUnordered l = none ↔ l.Pairwise (· < ·) := by
  fun_induction firstUnordered l with
  | case1 a b rest hab ih =>
      rw [ih]
      constructor
      · intro hrest
        refine List.Pairwise.cons (fun x hx => ?_) hrest
        rcases List.mem_cons.mp hx with rfl | hx
        · exact hab
        · exact String.lt_trans hab (List.rel_of_pairwise_cons hrest hx)
      · exact List.Pairwise.of_cons
  | case2 a b rest hab =>
      simp only [reduceCtorEq, false_iff, List.pairwise_cons, List.mem_cons, not_and]
      intro ha
      exact absurd (ha b (.inl rfl)) hab
  | case3 l short =>
      match l, short with
      | [], _ => simp
      | [_], _ => simp
      | _ :: _ :: _, short => exact (short _ _ _ rfl).elim

theorem pairwise_lt_iff_byteLt (l : List String) :
    l.Pairwise (· < ·) ↔
      ∀ i j, (hij : i < j) → (hj : j < l.length) → ByteLt l[i] l[j] := by
  rw [List.pairwise_iff_getElem]
  simp only [ByteLt, Text.Utf8.encode_lt_encode_iff]
  exact ⟨fun h i j hij hj => h i j (by omega) hj hij, fun h i j _ hj hij => h i j hij hj⟩

theorem forM_eq_ok_iff {α ε : Type} (xs : List α) (f : α → Except ε Unit) :
    forM xs f = .ok () ↔ ∀ x ∈ xs, f x = .ok () := by
  induction xs with
  | nil => simp [pure, Except.pure]
  | cons x xs ih =>
      cases hx : f x with
      | error e => simp [hx, bind, Except.bind]
      | ok u => simp [hx, bind, Except.bind, ih]

/-- A run of checks in `Except` fails with the error of its first failing check. -/
theorem forM_eq_error {α ε : Type} {xs : List α} {f : α → Except ε Unit} {e : ε}
    (h : forM xs f = .error e) :
    ∃ pre x post, xs = pre ++ x :: post ∧ (∀ y ∈ pre, f y = .ok ()) ∧ f x = .error e := by
  induction xs with
  | nil => simp [pure, Except.pure] at h
  | cons x xs ih =>
      cases hx : f x with
      | error e' =>
          simp only [List.forM_cons, hx, bind, Except.bind, Except.error.injEq] at h
          subst h
          exact ⟨[], x, xs, rfl, by simp, hx⟩
      | ok u =>
          simp only [List.forM_cons, hx, bind, Except.bind] at h
          obtain ⟨pre, y, post, rfl, hpre, hy⟩ := ih h
          refine ⟨x :: pre, y, post, rfl, ?_, hy⟩
          simpa [hx] using hpre

namespace Artifact

variable {a : Artifact} {c : LoaderConfig} {f : Failure}

theorem checkName_eq_ok_iff : a.checkName = .ok () ↔ IsIdentifier a.name := by
  rw [checkName, ← isGrammarName_iff]
  split <;> simp_all

theorem checkName_eq_error (h : a.checkName = .error f) : f = .invalidName a.name := by
  unfold checkName at h
  split at h
  · cases h
  · exact (Except.error.inj h).symm

theorem checkAbi_eq_ok_iff :
    a.checkAbi c = .ok () ↔ c.minAbi ≤ a.abiVersion ∧ a.abiVersion ≤ c.maxAbi := by
  simp [checkAbi, LoaderConfig.acceptsAbi]

theorem checkAbi_eq_error (h : a.checkAbi c = .error f) :
    f = .incompatibleVersion a.abiVersion c.minAbi c.maxAbi := by
  unfold checkAbi at h
  split at h
  · cases h
  · exact (Except.error.inj h).symm

theorem checkSymbols_eq_ok_iff :
    a.checkSymbols = .ok () ↔
      (∃ s rest, a.symbols = s :: rest ∧ s.name = "end") ∧ a.symbols.length ≤ 65536 ∧
        ∀ s ∈ a.symbols, s.name ≠ "" := by
  unfold checkSymbols
  split
  next h => simp [h]
  next first rest h =>
      rw [h]
      by_cases hend : first.name = "end"
      · simp only [hend, bne_self_eq_false, Bool.false_eq_true, ↓reduceIte]
        by_cases hlen : (first :: rest).length > 65536
        · rw [if_pos hlen]
          simp only [reduceCtorEq, false_iff, not_and]
          intro _ hle
          omega
        · rw [if_neg hlen]
          cases hidx : (first :: rest).findIdx? (·.name.isEmpty) with
          | some i =>
              obtain ⟨hi, hempty, -⟩ := List.findIdx?_eq_some_iff_getElem.mp hidx
              simp only [reduceCtorEq, false_iff, not_and]
              intro _ _ hall
              exact hall _ (List.getElem_mem hi) (by simpa using hempty)
          | none =>
              rw [List.findIdx?_eq_none_iff] at hidx
              simp only [true_iff]
              refine ⟨⟨first, rest, rfl, hend⟩, by omega, fun s hs => ?_⟩
              simpa using hidx s hs
      · simp [hend]

theorem checkSymbols_eq_error (h : a.checkSymbols = .error f) :
    ∃ d, f = .invalidSymbolTable d := by
  unfold checkSymbols at h
  repeat' split at h
  all_goals cases h
  all_goals exact ⟨_, rfl⟩

theorem checkFields_eq_ok_iff :
    a.checkFields = .ok () ↔
      a.fields.length ≤ 65535 ∧ (∀ x ∈ a.fields, x ≠ "") ∧
        ∀ i j, (hij : i < j) → (hj : j < a.fields.length) → ByteLt a.fields[i] a.fields[j] := by
  rw [← pairwise_lt_iff_byteLt, ← firstUnordered_eq_none_iff]
  unfold checkFields
  by_cases hlen : a.fields.length > 65535
  · rw [if_pos hlen]
    simp only [reduceCtorEq, false_iff, not_and]
    intro hle
    omega
  · rw [if_neg hlen]
    cases hidx : a.fields.findIdx? (·.isEmpty) with
    | some i =>
        obtain ⟨hi, hempty, -⟩ := List.findIdx?_eq_some_iff_getElem.mp hidx
        simp only [reduceCtorEq, false_iff, not_and]
        intro _ hall
        exact absurd (hall _ (List.getElem_mem hi)) (by simpa using hempty)
    | none =>
        rw [List.findIdx?_eq_none_iff] at hidx
        have hnonempty : ∀ x ∈ a.fields, x ≠ "" := fun x hx => by simpa using hidx x hx
        cases hord : firstUnordered a.fields with
        | some p => simp
        | none => simpa using ⟨by omega, hnonempty⟩

theorem checkFields_eq_error (h : a.checkFields = .error f) :
    ∃ d, f = .invalidFieldTable d := by
  unfold checkFields at h
  repeat' split at h
  all_goals cases h
  all_goals exact ⟨_, rfl⟩

/-- No id of a table reaches past `n` exactly when the search for one finds nothing. -/
theorem find?_past_eq_none_iff (ids : List UInt16) (n : Nat) :
    ids.find? (·.toNat ≥ n) = none ↔ ∀ id ∈ ids, id.toNat < n := by
  simp [List.find?_eq_none]

theorem find?_past_eq_some {ids : List UInt16} {n : Nat} {id : UInt16}
    (h : ids.find? (·.toNat ≥ n) = some id) : id ∈ ids ∧ n ≤ id.toNat :=
  ⟨List.mem_of_find?_eq_some h, by simpa using List.find?_some h⟩

theorem checkReferences_eq_ok_iff :
    a.checkReferences = .ok () ↔
      (∀ id ∈ a.externalTokens, id.toNat < a.symbols.length) ∧
        (∀ id ∈ a.extras, id.toNat < a.symbols.length) ∧
        ∀ w, a.wordToken = some w → ∃ s, a.symbols[w.toNat]? = some s ∧ s.flags.named = true := by
  unfold checkReferences
  dsimp only
  split
  next id hext =>
      obtain ⟨hmem, hpast⟩ := find?_past_eq_some hext
      simp only [reduceCtorEq, false_iff, not_and]
      intro hall
      exact absurd (hall id hmem) (by omega)
  next hext =>
      rw [find?_past_eq_none_iff] at hext
      split
      next id hextra =>
          obtain ⟨hmem, hpast⟩ := find?_past_eq_some hextra
          simp only [reduceCtorEq, false_iff, not_and]
          intro _ hall
          exact absurd (hall id hmem) (by omega)
      next hextra =>
          rw [find?_past_eq_none_iff] at hextra
          split
          next hw => simpa [hw] using ⟨hext, hextra⟩
          next w hw =>
              simp only [symbol?]
              split
              next hs => simp [hw, hs]
              next s hs =>
                  cases hn : s.flags.named
                  · simp [hw, hs, hn]
                  · simpa [hw, hs, hn] using ⟨hext, hextra⟩

theorem checkReferences_eq_error (h : a.checkReferences = .error f) :
    (∃ id ∈ a.externalTokens, a.symbols.length ≤ id.toNat ∧ f = .danglingSymbol id .externalTokens) ∨
      (∃ id ∈ a.extras, a.symbols.length ≤ id.toNat ∧ f = .danglingSymbol id .extras) ∨
      ∃ w, a.wordToken = some w ∧
        ((a.symbols.length ≤ w.toNat ∧ f = .danglingSymbol w .wordToken) ∨
          ∃ s, a.symbols[w.toNat]? = some s ∧ s.flags.named = false ∧ ∃ d, f = .invalidSymbolTable d) := by
  unfold checkReferences at h
  dsimp only at h
  split at h
  next id hext =>
      obtain ⟨hmem, hpast⟩ := find?_past_eq_some hext
      exact .inl ⟨id, hmem, hpast, (Except.error.inj h).symm⟩
  next =>
      split at h
      next id hextra =>
          obtain ⟨hmem, hpast⟩ := find?_past_eq_some hextra
          exact .inr (.inl ⟨id, hmem, hpast, (Except.error.inj h).symm⟩)
      next =>
          split at h
          next => cases h
          next w hw =>
              refine .inr (.inr ⟨w, hw, ?_⟩)
              simp only [symbol?] at h
              split at h
              next hs =>
                  rw [List.getElem?_eq_none_iff] at hs
                  exact .inl ⟨hs, (Except.error.inj h).symm⟩
              next s hs =>
                  split at h
                  next => cases h
                  next hn => exact .inr ⟨s, hs, by simpa using hn, _, (Except.error.inj h).symm⟩

theorem checkFingerprint_eq_ok_iff :
    a.checkFingerprint c = .ok () ↔
      (a.fingerprint = 0 → c.requireFingerprint = false) ∧
        (a.fingerprint ≠ 0 → c.verifyFingerprint = true → a.fingerprint = a.computeFingerprint) := by
  unfold checkFingerprint
  by_cases h0 : a.fingerprint = 0
  · rw [if_pos (beq_iff_eq.mpr h0)]
    cases c.requireFingerprint <;> simp [h0]
  · rw [if_neg (by simpa using h0)]
    simp only [ne_eq, h0, not_false_eq_true, forall_const]
    cases c.verifyFingerprint
    · simp
    · by_cases hfp : a.computeFingerprint = a.fingerprint
      · simp [hfp]
      · simp [hfp, Ne.symm hfp]

theorem checkFingerprint_eq_error (h : a.checkFingerprint c = .error f) :
    f = .fingerprintMismatch a.fingerprint a.computeFingerprint := by
  unfold checkFingerprint at h
  by_cases h0 : a.fingerprint = 0
  · rw [if_pos (beq_iff_eq.mpr h0)] at h
    cases hr : c.requireFingerprint <;> simp [hr] at h
    rw [h0]
    exact h.symm
  · rw [if_neg (by simpa using h0)] at h
    cases hv : c.verifyFingerprint
    · simp [hv] at h
    · by_cases hfp : a.computeFingerprint = a.fingerprint
      · simp [hv, hfp] at h
      · simp only [hv, Bool.true_and, bne_iff_ne, ne_eq, hfp, not_false_eq_true,
          ↓reduceIte, Except.error.injEq] at h
        exact h.symm

/-- The six checks of validation, in the order they run. -/
inductive Check where
  | name
  | abi
  | symbols
  | fields
  | references
  | fingerprint
  deriving Repr, DecidableEq

namespace Check

def all : List Check := [name, abi, symbols, fields, references, fingerprint]

/-- The check as validation runs it. -/
def run : Check → Artifact → LoaderConfig → Except Failure Unit
  | name, a, _ => a.checkName
  | abi, a, c => a.checkAbi c
  | symbols, a, _ => a.checkSymbols
  | fields, a, _ => a.checkFields
  | references, a, _ => a.checkReferences
  | fingerprint, a, c => a.checkFingerprint c

/-- What a check asks of the artifact and the configuration. -/
def Holds : Check → Artifact → LoaderConfig → Prop
  | name, a, _ => IsIdentifier a.name
  | abi, a, c => c.minAbi ≤ a.abiVersion ∧ a.abiVersion ≤ c.maxAbi
  | symbols, a, _ =>
      (∃ s rest, a.symbols = s :: rest ∧ s.name = "end") ∧ a.symbols.length ≤ 65536 ∧
        ∀ s ∈ a.symbols, s.name ≠ ""
  | fields, a, _ =>
      a.fields.length ≤ 65535 ∧ (∀ f ∈ a.fields, f ≠ "") ∧
        ∀ i j, (hij : i < j) → (hj : j < a.fields.length) → ByteLt a.fields[i] a.fields[j]
  | references, a, _ =>
      (∀ id ∈ a.externalTokens, id.toNat < a.symbols.length) ∧
        (∀ id ∈ a.extras, id.toNat < a.symbols.length) ∧
        ∀ w, a.wordToken = some w → ∃ s, a.symbols[w.toNat]? = some s ∧ s.flags.named = true
  | fingerprint, a, c =>
      (a.fingerprint = 0 → c.requireFingerprint = false) ∧
        (a.fingerprint ≠ 0 → c.verifyFingerprint = true → a.fingerprint = a.computeFingerprint)

/-- The reasons a check gives when it fails. A word token that names an anonymous
symbol is refused by the reference check with a symbol-table reason. -/
def Raises : Check → Artifact → LoaderConfig → Failure → Prop
  | name, a, _, f => f = .invalidName a.name
  | abi, a, c, f => f = .incompatibleVersion a.abiVersion c.minAbi c.maxAbi
  | symbols, _, _, f => ∃ d, f = .invalidSymbolTable d
  | fields, _, _, f => ∃ d, f = .invalidFieldTable d
  | references, a, _, f =>
      (∃ id ∈ a.externalTokens, a.symbols.length ≤ id.toNat ∧ f = .danglingSymbol id .externalTokens) ∨
        (∃ id ∈ a.extras, a.symbols.length ≤ id.toNat ∧ f = .danglingSymbol id .extras) ∨
        ∃ w, a.wordToken = some w ∧
          ((a.symbols.length ≤ w.toNat ∧ f = .danglingSymbol w .wordToken) ∨
            ∃ s, a.symbols[w.toNat]? = some s ∧ s.flags.named = false ∧ ∃ d, f = .invalidSymbolTable d)
  | fingerprint, a, _, f => f = .fingerprintMismatch a.fingerprint a.computeFingerprint

theorem run_eq_ok_iff (g : Check) : g.run a c = .ok () ↔ g.Holds a c := by
  cases g with
  | name => exact checkName_eq_ok_iff
  | abi => exact checkAbi_eq_ok_iff
  | symbols => exact checkSymbols_eq_ok_iff
  | fields => exact checkFields_eq_ok_iff
  | references => exact checkReferences_eq_ok_iff
  | fingerprint => exact checkFingerprint_eq_ok_iff

/-- A check that fails gives one of its own reasons. -/
theorem raises_of_run_eq_error {g : Check} (h : g.run a c = .error f) : g.Raises a c f := by
  cases g with
  | name => exact checkName_eq_error h
  | abi => exact checkAbi_eq_error h
  | symbols => exact checkSymbols_eq_error h
  | fields => exact checkFields_eq_error h
  | references => exact checkReferences_eq_error h
  | fingerprint => exact checkFingerprint_eq_error h

end Check

/-- Validation is the run of the six checks in order. -/
theorem validate_eq_forM (a : Artifact) (c : LoaderConfig) :
    a.validate c = forM Check.all (·.run a c) := by
  simp only [validate, Check.all, List.forM_cons, List.forM_nil, Check.run, bind_pure_unit]

theorem validate_eq_ok_iff (a : Artifact) (c : LoaderConfig) :
    a.validate c = .ok () ↔ ∀ g ∈ Check.all, g.Holds a c := by
  rw [validate_eq_forM, forM_eq_ok_iff]
  exact forall₂_congr fun g _ => Check.run_eq_ok_iff g

section Accepted

variable (h : a.validate c = .ok ())
include h

/-- A validated artifact's symbol ids fit in `u16`. -/
theorem symbols_length_le_of_validate : a.symbols.length ≤ 65536 :=
  ((validate_eq_ok_iff a c).mp h .symbols (by simp [Check.all])).2.1

/-- A validated artifact's field ids, counted from 1, fit in `u16`. -/
theorem fields_length_le_of_validate : a.fields.length ≤ 65535 :=
  ((validate_eq_ok_iff a c).mp h .fields (by simp [Check.all])).1

theorem fields_pairwise_of_validate : a.fields.Pairwise (· < ·) :=
  (pairwise_lt_iff_byteLt a.fields).mpr
    ((validate_eq_ok_iff a c).mp h .fields (by simp [Check.all])).2.2

/-- Increasing field names are distinct. -/
theorem fields_nodup_of_validate : a.fields.Nodup := by
  apply List.nodup_iff_pairwise_ne.mpr
  refine (fields_pairwise_of_validate h).imp ?_
  intro x y hlt heq
  subst heq
  exact String.lt_irrefl _ hlt

end Accepted

/-- An artifact passes validation exactly when it meets all six conditions; when it
does not, the failure is a reason of the first condition it misses, every earlier one
holding. -/
theorem validate_eq_ok_iff_and_error_first (a : Artifact) (c : LoaderConfig) :
    (a.validate c = .ok () ↔ ∀ g ∈ Check.all, g.Holds a c) ∧
      ∀ f, a.validate c = .error f →
        ∃ pre g post, Check.all = pre ++ g :: post ∧ (∀ g' ∈ pre, g'.Holds a c) ∧
          ¬ g.Holds a c ∧ g.Raises a c f := by
  refine ⟨validate_eq_ok_iff a c, fun f h => ?_⟩
  rw [validate_eq_forM] at h
  obtain ⟨pre, g, post, hall, hpre, hg⟩ := forM_eq_error h
  refine ⟨pre, g, post, hall, fun g' hg' => (Check.run_eq_ok_iff g').mp (hpre g' hg'), ?_, ?_⟩
  · rw [← Check.run_eq_ok_iff, hg]
    exact nofun
  · exact Check.raises_of_run_eq_error hg

end Artifact

end GrammarLoader

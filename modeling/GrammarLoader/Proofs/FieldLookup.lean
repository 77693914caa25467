import GrammarLoader.Proofs.Loading

/-! # Field ids and field names

A language numbers its fields from 1 in table order, by a `u16` counter zipped with the
field names, and looks fields up both ways: a name's id in the index the numbering builds,
an id's name in the table itself. On a validated artifact the two lookups are inverse to
each other on exactly the table's names and the ids `1 ..= |fields|`. Two facts from
validation carry this: the names increase, so they are distinct and no later name takes
an earlier one's id; and there are at most 65535 of them, so every id the counter hands
out is exact and none is 0.

The counter steps once after each value it yields, in the call that yields it. A full
table of 65535 fields, which validation admits, has the counter yield `u16::MAX` for the
last field and then step past it. The ids are still right, since the wrapped value is
never used; but the step overflows, which under overflow checks is a panic.

Main statements: `fieldLookups_inverse` and `fieldCounter_overflows_iff`.
-/

namespace GrammarLoader

section Counter

variable {α : Type} (xs : List α) (start : UInt16)

/-- Stepping the counter and then counting `j` more is counting `j + 1`. -/
theorem counter_step_add (j : Nat) : start + 1 + UInt16.ofNat j = start + UInt16.ofNat (j + 1) := by
  rw [← UInt16.toNat_inj]
  simp [UInt16.toNat_add, UInt16.toNat_ofNat]
  omega

/-- Ids up to 65535 are exact in `u16`, so none of them is 0. -/
theorem toNat_ofNat_succ {i : Nat} (hi : i < 65535) : (UInt16.ofNat (i + 1)).toNat = i + 1 := by
  simp [UInt16.toNat_ofNat]
  omega

theorem ofNat_succ_ne_zero {i : Nat} (hi : i < 65535) : UInt16.ofNat (i + 1) ≠ 0 := by
  rw [Ne, ← UInt16.toNat_inj, toNat_ofNat_succ hi]
  simp

@[simp] theorem map_fst_zipCounter : (zipCounter xs start).1.map Prod.fst = xs := by
  induction xs generalizing start with
  | nil => rfl
  | cons x xs ih => simp [zipCounter, counterNext, ih]

/-- The counter pairs item `i` with `start + i`, wrapping past `u16::MAX`. -/
theorem mem_zipCounter (i : Nat) (hi : i < xs.length) :
    (xs[i], start + UInt16.ofNat i) ∈ (zipCounter xs start).1 := by
  induction xs generalizing i start with
  | nil => simp at hi
  | cons x xs ih =>
    cases i with
    | zero => simp [zipCounter, counterNext]
    | succ j =>
      have hj := ih (start + 1) j (by simpa using hi)
      rw [counter_step_add] at hj
      simp only [zipCounter, counterNext, List.mem_cons]
      exact .inr hj

/-- A step of the counter overflows exactly when it has just yielded `u16::MAX`. -/
theorem zipCounter_overflow_iff :
    (zipCounter xs start).2 = true ↔ ∃ i < xs.length, start + UInt16.ofNat i = 65535 := by
  induction xs generalizing start with
  | nil => simp [zipCounter]
  | cons x xs ih =>
    simp only [zipCounter, counterNext, Bool.or_eq_true, beq_iff_eq, ih, List.length_cons]
    constructor
    · rintro (h | ⟨j, hj, h⟩)
      · exact ⟨0, by omega, by simpa using h⟩
      · exact ⟨j + 1, by omega, by rw [← counter_step_add, h]⟩
    · rintro ⟨i, hi, h⟩
      cases i with
      | zero => exact .inl (by simpa using h)
      | succ j => exact .inr ⟨j, by omega, by rw [counter_step_add, h]⟩

/-- Counting from 1, some step overflows exactly when there are 65535 items or more: the
65535th yields `u16::MAX`. -/
theorem zipCounter_one_overflow_iff : (zipCounter xs 1).2 = true ↔ 65535 ≤ xs.length := by
  have hmax (i : Nat) : (1 : UInt16) + UInt16.ofNat i = 65535 ↔ i % 65536 = 65534 := by
    rw [← UInt16.toNat_inj]
    simp [UInt16.toNat_add, UInt16.toNat_ofNat]
    omega
  rw [zipCounter_overflow_iff]
  simp only [hmax]
  constructor
  · rintro ⟨i, hi, h⟩
    omega
  · intro h
    exact ⟨65534, by omega, rfl⟩

end Counter

section Index

variable {fields : List String}

/-- The entries of the field index: each name with its counter value, unless that is 0. -/
theorem fieldIndex_eq (fields : List String) :
    fieldIndex fields = Std.HashMap.ofList ((zipCounter fields 1).1.filter fun p => p.2 != 0) :=
  rfl

/-- A name that is not a field has no id. -/
theorem fieldIndex_getElem?_of_not_mem {s : String} (hs : s ∉ fields) :
    (fieldIndex fields)[s]? = none := by
  rw [fieldIndex_eq]
  apply Std.HashMap.getElem?_ofList_of_contains_eq_false
  have hsub : ((zipCounter fields 1).1.filter fun p => p.2 != 0).map Prod.fst ⊆ fields := by
    have h : ((zipCounter fields 1).1.filter fun p => p.2 != 0).map Prod.fst ⊆
        (zipCounter fields 1).1.map Prod.fst :=
      (List.filter_sublist.map Prod.fst).subset
    rwa [map_fst_zipCounter] at h
  simpa using fun h => hs (hsub h)

/-- Among distinct names, at most 65535, field `i` has the id `i + 1`. -/
theorem fieldIndex_getElem?_getElem (hnodup : fields.Nodup) (hlen : fields.length ≤ 65535)
    (i : Nat) (hi : i < fields.length) :
    (fieldIndex fields)[fields[i]]? = some (UInt16.ofNat (i + 1)) := by
  have hid : (1 : UInt16) + UInt16.ofNat i = UInt16.ofNat (i + 1) := by
    simpa using counter_step_add 0 i
  -- the index is built from distinct names, so each name keeps the id it was given
  have hdistinct : ((zipCounter fields 1).1.filter fun p => p.2 != 0).Pairwise
      (fun p q => (p.1 == q.1) = false) := by
    have h : ((zipCounter fields 1).1.map Prod.fst).Pairwise (· ≠ ·) := by
      simpa [List.nodup_iff_pairwise_ne] using hnodup
    rw [List.pairwise_map] at h
    exact (h.sublist List.filter_sublist).imp fun hne => by simpa using hne
  rw [fieldIndex_eq]
  refine Std.HashMap.getElem?_ofList_of_mem (beq_self_eq_true _) hdistinct ?_
  rw [List.mem_filter]
  exact ⟨hid ▸ mem_zipCounter fields 1 i hi, by simpa using ofNat_succ_ne_zero (by omega)⟩

end Index

namespace Language

variable (a : Artifact)

theorem fieldIdForName_ofArtifact (s : String) :
    (ofArtifact a).fieldIdForName s = (fieldIndex a.fields)[s]? := rfl

/-- Id `k` names field `k - 1` of the table, and id 0 names none. -/
theorem fieldNameForId_eq_some_iff (k : UInt16) (s : String) :
    (ofArtifact a).fieldNameForId k = some s ↔
      k ≠ 0 ∧ ∃ h : k.toNat - 1 < a.fields.length, a.fields[k.toNat - 1] = s := by
  by_cases hk : k = 0
  · simp [fieldNameForId, hk]
  · simp [fieldNameForId, hk, ofArtifact, List.getElem?_eq_some_iff]

theorem fieldNameForId_ofNat (i : Nat) (hi : i < a.fields.length) (hlen : a.fields.length ≤ 65535) :
    (ofArtifact a).fieldNameForId (UInt16.ofNat (i + 1)) = some a.fields[i] := by
  have hmod : (i + 1) % 65536 = i + 1 := Nat.mod_eq_of_lt (by omega)
  exact (fieldNameForId_eq_some_iff a _ _).mpr
    ⟨ofNat_succ_ne_zero (by omega), by simp [UInt16.toNat_ofNat, hmod, hi],
      by simp [UInt16.toNat_ofNat, hmod]⟩

theorem fieldNameForId_eq_none_of_lt (k : UInt16) (hk : a.fields.length < k.toNat) :
    (ofArtifact a).fieldNameForId k = none := by
  rw [Option.eq_none_iff_forall_ne_some]
  intro s h
  obtain ⟨-, hlt, -⟩ := (fieldNameForId_eq_some_iff a k s).mp h
  omega

section Distinct

variable {a} (hnodup : a.fields.Nodup) (hlen : a.fields.length ≤ 65535)
include hnodup hlen

theorem fieldIdForName_getElem (i : Nat) (hi : i < a.fields.length) :
    (ofArtifact a).fieldIdForName a.fields[i] = some (UInt16.ofNat (i + 1)) :=
  fieldIndex_getElem?_getElem hnodup hlen i hi

/-- Among distinct names, a name has an id exactly when that id names it. -/
theorem fieldIdForName_eq_some_iff (s : String) (id : UInt16) :
    (ofArtifact a).fieldIdForName s = some id ↔ id ≠ 0 ∧ (ofArtifact a).fieldNameForId id = some s := by
  constructor
  · -- a name with an id is some field `i`, whose id is `i + 1`
    intro h
    have hs : s ∈ a.fields := Decidable.byContradiction fun hs => by
      rw [fieldIdForName_ofArtifact, fieldIndex_getElem?_of_not_mem hs] at h
      cases h
    obtain ⟨i, hi, rfl⟩ := List.getElem_of_mem hs
    rw [fieldIdForName_getElem hnodup hlen i hi, Option.some.injEq] at h
    subst h
    exact ⟨ofNat_succ_ne_zero (by omega), fieldNameForId_ofNat a i hi hlen⟩
  · -- an id that names field `id - 1` is that field's id
    rintro ⟨hne, h⟩
    obtain ⟨-, hlt, rfl⟩ := (fieldNameForId_eq_some_iff a id s).mp h
    have hpos : 0 < id.toNat := by
      rw [Ne, ← UInt16.toNat_inj] at hne
      simp at hne
      omega
    rw [fieldIdForName_getElem hnodup hlen _ hlt, Nat.sub_add_cancel hpos, UInt16.ofNat_toNat]

end Distinct

end Language

/-- In the language of a validated artifact, field `i` of the table has the id `i + 1` (exact
in `u16`, so never 0), and that id names field `i`; a name not in the table has no id; an id
past the table names no field. So a name's id and an id's name are inverse lookups, on
exactly the table's names and the ids `1 ..= |fields|`. -/
theorem fieldLookups_inverse (a : Artifact) (c : LoaderConfig) (hv : a.validate c = .ok ()) :
    (∀ i (h : i < a.fields.length),
      (UInt16.ofNat (i + 1)).toNat = i + 1 ∧
      (Language.ofArtifact a).fieldIdForName a.fields[i] = some (UInt16.ofNat (i + 1)) ∧
      (Language.ofArtifact a).fieldNameForId (UInt16.ofNat (i + 1)) = some a.fields[i]) ∧
    (∀ s, s ∉ a.fields → (Language.ofArtifact a).fieldIdForName s = none) ∧
    (∀ k : UInt16, a.fields.length < k.toNat → (Language.ofArtifact a).fieldNameForId k = none) ∧
    ∀ s id, (Language.ofArtifact a).fieldIdForName s = some id ↔
      id ≠ 0 ∧ (Language.ofArtifact a).fieldNameForId id = some s := by
  have hlen := Artifact.fields_length_le_of_validate hv
  have hnodup := Artifact.fields_nodup_of_validate hv
  refine ⟨fun i hi => ⟨toNat_ofNat_succ (by omega), Language.fieldIdForName_getElem hnodup hlen i hi,
      Language.fieldNameForId_ofNat a i hi hlen⟩,
    fun s hs => fieldIndex_getElem?_of_not_mem hs, Language.fieldNameForId_eq_none_of_lt a,
    Language.fieldIdForName_eq_some_iff hnodup hlen⟩

/-- The language of the built-in artifact numbers its fields from 1, inversely to their names. -/
theorem builtin_fieldLookups_inverse :
    Builtin.artifact.validate .standard = .ok () ∧
    (∀ i (h : i < Builtin.artifact.fields.length),
      (UInt16.ofNat (i + 1)).toNat = i + 1 ∧
      (Language.ofArtifact Builtin.artifact).fieldIdForName Builtin.artifact.fields[i] =
        some (UInt16.ofNat (i + 1)) ∧
      (Language.ofArtifact Builtin.artifact).fieldNameForId (UInt16.ofNat (i + 1)) =
        some Builtin.artifact.fields[i]) ∧
    (∀ s, s ∉ Builtin.artifact.fields →
      (Language.ofArtifact Builtin.artifact).fieldIdForName s = none) ∧
    (∀ k : UInt16, Builtin.artifact.fields.length < k.toNat →
      (Language.ofArtifact Builtin.artifact).fieldNameForId k = none) ∧
    ∀ s id, (Language.ofArtifact Builtin.artifact).fieldIdForName s = some id ↔
      id ≠ 0 ∧ (Language.ofArtifact Builtin.artifact).fieldNameForId id = some s :=
  ⟨Builtin.validate_artifact, fieldLookups_inverse _ _ Builtin.validate_artifact⟩

/-- On a validated artifact the field counter's steps stay within `u16` exactly when the
table is not full: with 65535 fields, its last step goes past `u16::MAX`. -/
theorem fieldCounter_overflows_iff (a : Artifact) (c : LoaderConfig) (hv : a.validate c = .ok ()) :
    (zipCounter a.fields 1).2 = true ↔ a.fields.length = 65535 := by
  have hlen := Artifact.fields_length_le_of_validate hv
  rw [zipCounter_one_overflow_iff]
  omega

/-- Field name `i` of the full table below: the one character U+E000 + `i`. -/
def fullFieldName (i : Nat) : String := String.singleton (Char.ofNat (0xE000 + i))

/-- A grammar with as many fields as validation admits: 65535 one-character names. -/
def fullFieldTable : Artifact :=
  { Artifact.empty "full" currentAbi with
    symbols := [⟨"end", .hidden⟩]
    fields := (List.range 65535).map fullFieldName }

theorem fullFieldTable_fields : fullFieldTable.fields = (List.range 65535).map fullFieldName := by
  simp [fullFieldTable]

theorem toNat_ofNat_privateUse (i : Nat) (hi : i < 65535) :
    (Char.ofNat (0xE000 + i)).toNat = 0xE000 + i := by
  have hv : (0xE000 + i).isValidChar := by
    simp [Nat.isValidChar]
    omega
  unfold Char.ofNat
  rw [dif_pos hv]
  simp [Char.ofNatAux, Char.toNat]
  omega

/-- The full table's names increase, as their code points do. -/
theorem fullFieldTable_fields_pairwise : fullFieldTable.fields.Pairwise (· < ·) := by
  rw [fullFieldTable_fields]
  refine List.pairwise_map.mpr (List.pairwise_lt_range.imp_of_mem ?_)
  intro i j hi hj hij
  have hc : Char.ofNat (0xE000 + i) < Char.ofNat (0xE000 + j) := by
    have hlt : (Char.ofNat (0xE000 + i)).toNat < (Char.ofNat (0xE000 + j)).toNat := by
      rw [toNat_ofNat_privateUse i (List.mem_range.mp hi), toNat_ofNat_privateUse j (List.mem_range.mp hj)]
      omega
    exact Char.lt_def.mpr (UInt32.lt_iff_toNat_lt.mpr hlt)
  rw [String.lt_iff]
  simp only [fullFieldName, String.toList_singleton]
  exact List.cons_lt_cons_iff.mpr (.inl hc)

theorem fullFieldTable_validate : fullFieldTable.validate .standard = .ok () := by
  rw [Artifact.validate_eq_ok_iff]
  intro g hg
  simp only [Artifact.Check.all, List.mem_cons, List.not_mem_nil, or_false] at hg
  rcases hg with rfl | rfl | rfl | rfl | rfl | rfl
  · exact (isGrammarName_iff _).mp (by decide)
  · exact ⟨by decide, by decide⟩
  · exact ⟨⟨_, [], rfl, rfl⟩, by decide, by decide⟩
  · refine ⟨by simp [fullFieldTable_fields], ?_, (pairwise_lt_iff_byteLt _).mp fullFieldTable_fields_pairwise⟩
    simp [fullFieldTable_fields, fullFieldName]
  · exact ⟨by simp [fullFieldTable, Artifact.empty], by simp [fullFieldTable, Artifact.empty],
      by simp [fullFieldTable, Artifact.empty]⟩
  · exact ⟨fun _ => rfl, fun h => absurd rfl h⟩

/-- The full table passes the standard checks, and its field counter steps past `u16::MAX`. -/
theorem fullFieldTable_counter_overflows :
    fullFieldTable.validate .standard = .ok () ∧ (zipCounter fullFieldTable.fields 1).2 = true :=
  ⟨fullFieldTable_validate,
    (fieldCounter_overflows_iff _ _ fullFieldTable_validate).mpr (by simp [fullFieldTable_fields])⟩

end GrammarLoader

import GrammarLoader.Proofs.Loading

/-! # Looking up node kinds by name

A language answers a name and a naming (named rule or anonymous token) with the first
symbol of its table that is a node kind of that name and naming. Only visible symbols and
supertypes are node kinds here; a hidden symbol is never found by name, though its id
still names it.

The index behind the lookup is built in one pass over the table, in which a symbol takes
its name's slot for its naming only while the slot is empty. The pass's invariant
(`kindLookup_foldl`) is that after a prefix of the table each slot holds the first match
in that prefix. A symbol's id is its index, saturated at `u16::MAX`; validation keeps the
table within the 65536 ids of `u16`, so the saturation never happens and the id returned
is the index itself.

Main statement: `idForNodeKind_eq_first_kind`.
-/

namespace GrammarLoader

/-- Symbol `s` is a node kind called `kind`, a named rule or an anonymous token as `named`
says: the symbols that looking up `kind` and `named` may answer with. -/
def Symbol.IsKindOf (kind : String) (named : Bool) (s : Symbol) : Prop :=
  s.name = kind ∧ s.flags.named = named ∧ (s.flags.visible = true ∨ s.flags.supertype = true)

instance (kind : String) (named : Bool) : DecidablePred (Symbol.IsKindOf kind named) :=
  fun _ => inferInstanceAs (Decidable (_ ∧ _ ∧ _))

namespace KindIds

@[simp] theorem get_default (named : Bool) : ({} : KindIds).get named = none := by
  cases named <;> rfl

/-- Adding an id fills the slot of its naming when that slot is empty, and only then. -/
theorem get_add (ids : KindIds) (n named : Bool) (id : UInt16) :
    (ids.add n id).get named = if n = named then some ((ids.get named).getD id) else ids.get named := by
  cases n <;> cases named <;> simp [add, get, Option.orElse_eq_or]

end KindIds

theorem symbolIdOfIndex_toNat (id : UInt16) : symbolIdOfIndex id.toNat = id := by
  simp [symbolIdOfIndex, id.toNat_lt_size]

theorem toNat_symbolIdOfIndex {i : Nat} (hi : i < UInt16.size) : (symbolIdOfIndex i).toNat = i := by
  simp [symbolIdOfIndex, hi, Nat.mod_eq_of_lt hi]

/-- What a kind index answers for a name and a naming. -/
def kindLookup (m : Std.HashMap String KindIds) (kind : String) (named : Bool) : Option UInt16 :=
  m[kind]?.bind (·.get named)

theorem idForNodeKind_eq_kindLookup (L : Language) (kind : String) (named : Bool) :
    L.idForNodeKind kind named = kindLookup L.kinds kind named := rfl

section Pass

variable (m : Std.HashMap String KindIds) (kind : String) (named : Bool)

theorem getD_get : (m.getD kind {}).get named = kindLookup m kind named := by
  rw [Std.HashMap.getD_eq_getD_getElem?, kindLookup]
  cases m[kind]? <;> simp

/-- One step of the pass: a node kind of the name and naming looked up fills the answer
if it is still empty; every other symbol leaves the answer as it was. -/
theorem kindLookup_indexKind (s : Symbol) (i : Nat) :
    kindLookup (indexKind m (s, i)) kind named =
      if s.IsKindOf kind named then some ((kindLookup m kind named).getD (symbolIdOfIndex i))
      else kindLookup m kind named := by
  by_cases hidx : s.indexed
  · have hkind : s.flags.visible = true ∨ s.flags.supertype = true := by
      simpa [Symbol.indexed] using hidx
    by_cases hname : s.name = kind
    · -- the symbol's own name: its slot for its naming is filled if empty
      subst hname
      simp only [indexKind, hidx, ↓reduceIte, kindLookup, Std.HashMap.getElem?_insert, beq_self_eq_true,
        Option.bind_some, KindIds.get_add, getD_get]
      simp [Symbol.IsKindOf, hkind]
    · have hne : (s.name == kind) = false := by simpa using hname
      simp [indexKind, hidx, kindLookup, Std.HashMap.getElem?_insert, hne, Symbol.IsKindOf, hname]
  · have hnot : ¬ s.IsKindOf kind named := by
      have : s.flags.visible = false ∧ s.flags.supertype = false := by
        simpa [Symbol.indexed] using hidx
      simp [Symbol.IsKindOf, this]
    simp [indexKind, hidx, hnot]

/-- The pass's invariant: indexing the table entries from position `n` on adds, to what
the index answered before, the first match among them, at its position. -/
theorem kindLookup_foldl (l : List Symbol) (n : Nat) :
    kindLookup ((l.zipIdx n).foldl indexKind m) kind named =
      (kindLookup m kind named).or
        ((l.findIdx? (Symbol.IsKindOf kind named ·)).map fun i => symbolIdOfIndex (n + i)) := by
  induction l generalizing n m with
  | nil => simp
  | cons s l ih =>
    rw [List.zipIdx_cons, List.foldl_cons, ih, kindLookup_indexKind, List.findIdx?_cons]
    by_cases hs : s.IsKindOf kind named
    · simp [hs]
    · simp [hs, Option.map_map, Function.comp_def, Nat.add_assoc, Nat.add_comm 1]

end Pass

namespace Language

variable (a : Artifact) (kind : String) (named : Bool)

/-- A language built from any artifact answers a lookup with the id of the first node
kind of that name and naming. -/
theorem idForNodeKind_ofArtifact :
    (ofArtifact a).idForNodeKind kind named =
      (a.symbols.findIdx? (Symbol.IsKindOf kind named ·)).map symbolIdOfIndex := by
  have h := kindLookup_foldl {} kind named a.symbols 0
  simpa [kindLookup, idForNodeKind_eq_kindLookup, ofArtifact, kindIndex] using h

/-- Within the id space, the id answered is the index of the first match. -/
theorem idForNodeKind_eq_some_iff (hlen : a.symbols.length ≤ UInt16.size) (id : UInt16) :
    (ofArtifact a).idForNodeKind kind named = some id ↔
      ∃ h : id.toNat < a.symbols.length, a.symbols[id.toNat].IsKindOf kind named ∧
        ∀ j (hj : j < id.toNat), ¬ a.symbols[j].IsKindOf kind named := by
  have hfirst : (ofArtifact a).idForNodeKind kind named = some id ↔
      a.symbols.findIdx? (Symbol.IsKindOf kind named ·) = some id.toNat := by
    rw [idForNodeKind_ofArtifact, Option.map_eq_some_iff]
    constructor
    · rintro ⟨i, hi, rfl⟩
      obtain ⟨hlt, -⟩ := List.findIdx?_eq_some_iff_getElem.mp hi
      rwa [toNat_symbolIdOfIndex (by omega)]
    · intro h
      exact ⟨id.toNat, h, symbolIdOfIndex_toNat id⟩
  rw [hfirst, List.findIdx?_eq_some_iff_getElem]
  simp

theorem idForNodeKind_eq_none_iff :
    (ofArtifact a).idForNodeKind kind named = none ↔ ∀ s ∈ a.symbols, ¬ s.IsKindOf kind named := by
  rw [idForNodeKind_ofArtifact, Option.map_eq_none_iff, List.findIdx?_eq_none_iff]
  simp

end Language

/-- In the language of a validated artifact, looking up a name and a naming gives the id of
the first symbol of that name and naming that is visible or a supertype, and nothing when
there is none; the id found names that kind, with that naming. -/
theorem idForNodeKind_eq_first_kind (a : Artifact) (c : LoaderConfig) (hv : a.validate c = .ok ())
    (kind : String) (named : Bool) :
    (∀ id : UInt16, (Language.ofArtifact a).idForNodeKind kind named = some id ↔
      ∃ h : id.toNat < a.symbols.length, a.symbols[id.toNat].IsKindOf kind named ∧
        ∀ j (hj : j < id.toNat), ¬ a.symbols[j].IsKindOf kind named) ∧
    ((Language.ofArtifact a).idForNodeKind kind named = none ↔
      ∀ s ∈ a.symbols, ¬ s.IsKindOf kind named) ∧
    ∀ id, (Language.ofArtifact a).idForNodeKind kind named = some id →
      (Language.ofArtifact a).nodeKindForId id = some kind ∧
        (Language.ofArtifact a).isNamed id = named := by
  have hlen : a.symbols.length ≤ UInt16.size := Artifact.symbols_length_le_of_validate hv
  refine ⟨Language.idForNodeKind_eq_some_iff a kind named hlen,
    Language.idForNodeKind_eq_none_iff a kind named, fun id hid => ?_⟩
  obtain ⟨hlt, ⟨hname, hnamed, -⟩, -⟩ := (Language.idForNodeKind_eq_some_iff a kind named hlen id).mp hid
  simp [Language.nodeKindForId, Language.isNamed, Language.flags?, Artifact.symbol?,
    Language.ofArtifact, hlt, hname, hnamed]

/-- In the built-in language, the rule `identifier` is found as the first named node kind of
that name. -/
theorem builtin_identifier_first_kind :
    Builtin.artifact.validate .standard = .ok () ∧
    (∀ id : UInt16, (Language.ofArtifact Builtin.artifact).idForNodeKind "identifier" true = some id ↔
      ∃ h : id.toNat < Builtin.artifact.symbols.length,
        Builtin.artifact.symbols[id.toNat].IsKindOf "identifier" true ∧
        ∀ j (hj : j < id.toNat), ¬ Builtin.artifact.symbols[j].IsKindOf "identifier" true) ∧
    ((Language.ofArtifact Builtin.artifact).idForNodeKind "identifier" true = none ↔
      ∀ s ∈ Builtin.artifact.symbols, ¬ s.IsKindOf "identifier" true) ∧
    ∀ id, (Language.ofArtifact Builtin.artifact).idForNodeKind "identifier" true = some id →
      (Language.ofArtifact Builtin.artifact).nodeKindForId id = some "identifier" ∧
        (Language.ofArtifact Builtin.artifact).isNamed id = true :=
  ⟨Builtin.validate_artifact,
    idForNodeKind_eq_first_kind _ _ Builtin.validate_artifact "identifier" true⟩

end GrammarLoader

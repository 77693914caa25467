import GrammarLoader.Proofs.Validation
import GrammarLoader.Builtin
import GrammarLoader.Files.Tree

/-! # Every loaded language is validated

A language comes into existence in one place, `Loader.load`, and only for an artifact
that passed validation under the loader's configuration. Every other way in (a source
function, bytes, a file, the built-in grammar) reaches it with the artifact it was
given or decoded, unchanged.

`Language.WellFormed` is what validation then guarantees through the language's own
accessors: symbol 0 is `end`, every id in the token tables names a symbol, the word
token is named, and the field names increase.
-/

namespace GrammarLoader

open Files

/-- What a language tells through its accessors once its artifact passed validation. -/
structure Language.WellFormed (L : Language) : Prop where
  endKind : L.nodeKindForId 0 = some "end"
  externalTokens : ∀ id ∈ L.externalTokens, (L.nodeKindForId id).isSome
  extras : ∀ id ∈ L.extras, (L.nodeKindForId id).isSome
  wordToken : ∀ w, L.wordToken = some w → (L.nodeKindForId w).isSome ∧ L.isNamed w = true
  fieldsIncreasing : L.artifact.fields.Pairwise (· < ·)

namespace Language

theorem nodeKindForId_isSome_iff (L : Language) (id : UInt16) :
    (L.nodeKindForId id).isSome ↔ id.toNat < L.artifact.symbols.length := by
  simp [nodeKindForId, Artifact.symbol?]

theorem wellFormed_ofArtifact {a : Artifact} {c : LoaderConfig} (h : a.validate c = .ok ()) :
    (ofArtifact a).WellFormed := by
  have hall := (Artifact.validate_eq_ok_iff a c).mp h
  obtain ⟨⟨s, rest, hs, hend⟩, -, -⟩ : Artifact.Check.symbols.Holds a c :=
    hall _ (by simp [Artifact.Check.all])
  obtain ⟨-, -, hfields⟩ : Artifact.Check.fields.Holds a c := hall _ (by simp [Artifact.Check.all])
  obtain ⟨hext, hextras, hword⟩ : Artifact.Check.references.Holds a c :=
    hall _ (by simp [Artifact.Check.all])
  refine ⟨?_, ?_, ?_, ?_, (pairwise_lt_iff_byteLt a.fields).mpr hfields⟩
  · simp [nodeKindForId, Artifact.symbol?, ofArtifact, hs, hend]
  · intro id hid
    exact (nodeKindForId_isSome_iff _ id).mpr (hext id hid)
  · intro id hid
    exact (nodeKindForId_isSome_iff _ id).mpr (hextras id hid)
  · intro w hw
    obtain ⟨s, hsw, hnamed⟩ := hword w hw
    simp [nodeKindForId, isNamed, flags?, Artifact.symbol?, ofArtifact, hsw, hnamed]

end Language

namespace Loader

variable {c : LoaderConfig} {L : Language}

theorem load_eq_ok_iff {a? : Option Artifact} :
    load c a? = .ok L ↔ ∃ a, a? = some a ∧ L = .ofArtifact a ∧ a.validate c = .ok () := by
  cases a? with
  | none => simp [load]
  | some a =>
    cases h : a.validate c with
    | ok u => simp [load, h, eq_comm]
    | error f => simp [load, h]

theorem load_some_eq_ok_iff {a : Artifact} :
    load c (some a) = .ok L ↔ L = .ofArtifact a ∧ a.validate c = .ok () := by
  simp [load_eq_ok_iff]

theorem loadBytes_eq_ok_iff {bs : Bytes} :
    loadBytes c bs = .ok L ↔
      ∃ a, Artifact.decode bs = .ok a ∧ L = .ofArtifact a ∧ a.validate c = .ok () := by
  cases h : Artifact.decode bs with
  | error f => simp [loadBytes, h]
  | ok a => simp [loadBytes, h, load_eq_ok_iff]

theorem artifactOfRead_eq_ok_iff {path : String} {r : ReadOutcome} {a : Artifact} :
    artifactOfRead path r = .ok a ↔ ∃ bs, r = .contents bs ∧ Artifact.decode bs = .ok a := by
  unfold artifactOfRead
  split
  · simp
  · simp
  · simp
  · next bs =>
    cases h : Artifact.decode bs <;> simp [h]

theorem loadRead_eq_ok_iff {path : String} {r : ReadOutcome} :
    loadRead c path r = .ok L ↔ ∃ bs a, r = .contents bs ∧ Artifact.decode bs = .ok a ∧
      L = .ofArtifact a ∧ a.validate c = .ok () := by
  constructor
  · intro h
    cases hr : artifactOfRead path r with
    | error e => simp only [loadRead, hr, reduceCtorEq] at h
    | ok a =>
      obtain ⟨bs, hbs, ha⟩ := artifactOfRead_eq_ok_iff.mp hr
      cases hl : load c (some a) with
      | error e => simp only [loadRead, hr, hl, reduceCtorEq] at h
      | ok l =>
        simp only [loadRead, hr, hl, Except.ok.injEq] at h
        obtain ⟨a', ha', hL, hv⟩ := load_eq_ok_iff.mp hl
        cases ha'
        exact ⟨bs, a, hbs, ha, h ▸ hL, hv⟩
  · rintro ⟨bs, a, rfl, ha, rfl, hv⟩
    have hr : artifactOfRead path (.contents bs) = .ok a :=
      artifactOfRead_eq_ok_iff.mpr ⟨bs, rfl, ha⟩
    have hl : load c (some a) = .ok (.ofArtifact a) := load_eq_ok_iff.mpr ⟨a, rfl, rfl, hv⟩
    simp only [loadRead, hr, hl]

/-- Loading a file is loading what reading it gave, whatever the store. -/
theorem loadFile_eq_map {m : Type → Type} [Monad m] [LawfulMonad m] [FileStore m] (path : String) :
    loadFile (m := m) c path = loadRead c path <$> FileStore.readFile path := by
  rw [loadFile, map_eq_pure_bind]

/-- In a file tree, loading a file reads it and leaves the tree as it was. -/
theorem loadFile_run (t : FileTree) (path : String) :
    (loadFile (m := StateM FileTree) c path).run t = (loadRead c path (t.read path), t) :=
  rfl

end Loader

namespace Builtin

/-- The built-in artifact passes the standard checks, its fingerprint included. -/
theorem validate_artifact : artifact.validate .standard = .ok () := by
  have h : (artifact.validate .standard).toBool = true := by decide +kernel
  cases hv : artifact.validate .standard with
  | ok u => rfl
  | error f =>
    rw [hv] at h
    cases h

theorem language_eq_ok : language = .ok (.ofArtifact artifact) :=
  Loader.load_some_eq_ok_iff.mpr ⟨rfl, validate_artifact⟩

end Builtin

/-- Every language a loader hands out, by any way in, is the language of the artifact it
was given or decoded, unchanged, and that artifact passed validation under the loader's
configuration; through its accessors such a language is well formed. -/
theorem loaded_language_validated (c : LoaderConfig) (L : Language) :
    (∀ a, Loader.load c (some a) = .ok L → L = .ofArtifact a ∧ a.validate c = .ok ()) ∧
    (∀ src, Loader.loadSource c src = .ok L →
      ∃ a, src.artifact? = some a ∧ L = .ofArtifact a ∧ a.validate c = .ok ()) ∧
    (∀ bs, Loader.loadBytes c bs = .ok L →
      ∃ a, Artifact.decode bs = .ok a ∧ L = .ofArtifact a ∧ a.validate c = .ok ()) ∧
    (∀ (t t' : FileTree) path,
      (Loader.loadFile (m := StateM FileTree) c path).run t = (.ok L, t') →
      ∃ bs a, t.read path = .contents bs ∧ Artifact.decode bs = .ok a ∧
        L = .ofArtifact a ∧ a.validate c = .ok ()) ∧
    (Builtin.language = .ok L →
      L = .ofArtifact Builtin.artifact ∧ Builtin.artifact.validate .standard = .ok ()) ∧
    (∀ a, L = .ofArtifact a → a.validate c = .ok () → L.WellFormed) := by
  refine ⟨fun a h => ?_, fun src h => ?_, fun bs h => ?_, fun t t' path h => ?_, fun h => ?_, ?_⟩
  · exact Loader.load_some_eq_ok_iff.mp h
  · exact Loader.load_eq_ok_iff.mp h
  · exact Loader.loadBytes_eq_ok_iff.mp h
  · rw [Loader.loadFile_run, Prod.mk.injEq] at h
    exact Loader.loadRead_eq_ok_iff.mp h.1
  · exact Loader.load_some_eq_ok_iff.mp h
  · rintro a rfl hv
    exact Language.wellFormed_ofArtifact hv

/-- The built-in language loads, and is well formed. -/
theorem builtin_language_wellFormed :
    Builtin.language = .ok (.ofArtifact Builtin.artifact) ∧
      (Language.ofArtifact Builtin.artifact).WellFormed := by
  have h := Builtin.language_eq_ok
  obtain ⟨hL, hv⟩ := (loaded_language_validated .standard _).2.2.2.2.1 h
  exact ⟨h, (loaded_language_validated .standard _).2.2.2.2.2 _ hL hv⟩

end GrammarLoader

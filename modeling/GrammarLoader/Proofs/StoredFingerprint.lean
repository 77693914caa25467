import GrammarLoader.Proofs.Validation

/-! # The stored fingerprint

An artifact's stored fingerprint is read by the last check of validation and by
nothing else. The canonical bytes leave it out, so the computed fingerprint does not
depend on it, and that value is never 0, the mark of an unsealed artifact. The five
checks before the fingerprint's read neither the stored value nor the two fingerprint
settings of the configuration.

Hence two artifacts that differ only in their stored fingerprint validate alike,
unless the fingerprint check refuses one of them; sealing a sealed artifact changes
nothing; and a sealed artifact validates as its content does with both fingerprint
settings off.

Main statement: `stored_fingerprint_frame`.
-/

namespace GrammarLoader.Artifact

variable (a : Artifact) (c : LoaderConfig)

@[simp] theorem computeFingerprint_withFingerprint (f : UInt64) :
    ({ a with fingerprint := f }).computeFingerprint = a.computeFingerprint := rfl

theorem one_le_max_one (x : UInt64) : 1 ≤ max 1 x := by
  simp only [max]
  split
  · assumption
  · exact UInt64.le_refl 1

theorem one_le_computeFingerprint : 1 ≤ a.computeFingerprint :=
  one_le_max_one _

theorem computeFingerprint_ne_zero : a.computeFingerprint ≠ 0 := by
  intro h
  have := one_le_computeFingerprint a
  rw [h] at this
  exact absurd this (by decide)

@[simp] theorem sealed_fingerprint : a.sealed.fingerprint = a.computeFingerprint := rfl

theorem sealed_sealed : a.sealed.sealed = a.sealed := rfl

theorem isSealed_sealed : a.sealed.isSealed = true := by
  simpa [isSealed] using computeFingerprint_ne_zero a

namespace Check

/-- The five checks that run before the fingerprint's. -/
def content : List Check := [name, abi, symbols, fields, references]

theorem all_eq_content_append : all = content ++ [fingerprint] := rfl

/-- The checks before the fingerprint's do not read the stored fingerprint. -/
theorem forM_content_withFingerprint (f : UInt64) :
    forM content (fun g : Check => g.run { a with fingerprint := f } c) =
      forM content (fun g : Check => g.run a c) := rfl

/-- Nor do they read the configuration's fingerprint settings. -/
theorem forM_content_settings (v r : Bool) :
    forM content (fun g : Check => g.run a ((c.withVerifyFingerprint v).withRequireFingerprint r)) =
      forM content (fun g : Check => g.run a c) := rfl

end Check

/-- Validation is the five content checks, then the fingerprint check. -/
theorem validate_eq_content_bind :
    a.validate c = forM Check.content (fun g : Check => g.run a c) >>= fun _ => a.checkFingerprint c := by
  rw [validate_eq_forM, Check.all_eq_content_append, List.forM_append]
  simp [Check.run]

theorem forM_content_eq_ok_iff {a : Artifact} {c : LoaderConfig} :
    forM Check.content (fun g : Check => g.run a c) = .ok () ↔ ∀ g ∈ Check.content, g.Holds a c := by
  rw [forM_eq_ok_iff]
  exact forall₂_congr fun g _ => Check.run_eq_ok_iff g

/-- The fingerprint check passes or reports a mismatch; it has no other failure. -/
theorem checkFingerprint_ok_or_mismatch :
    a.checkFingerprint c = .ok () ∨ ∃ s k, a.checkFingerprint c = .error (.fingerprintMismatch s k) := by
  cases h : a.checkFingerprint c with
  | ok u => exact .inl rfl
  | error e => exact .inr ⟨_, _, by rw [checkFingerprint_eq_error h]⟩

theorem checkFingerprint_sealed : a.sealed.checkFingerprint c = .ok () :=
  checkFingerprint_eq_ok_iff.mpr ⟨fun h => absurd h (computeFingerprint_ne_zero a), fun _ _ => rfl⟩

theorem checkFingerprint_settings_off :
    a.checkFingerprint ((c.withVerifyFingerprint false).withRequireFingerprint false) = .ok () :=
  checkFingerprint_eq_ok_iff.mpr ⟨fun _ => rfl, fun _ h => nomatch h⟩

/-- Two stored fingerprints give the same validation unless the fingerprint check refuses
one of them. -/
theorem validate_withFingerprint (f g : UInt64) :
    validate { a with fingerprint := f } c = validate { a with fingerprint := g } c ∨
      (∃ s k, validate { a with fingerprint := f } c = .error (.fingerprintMismatch s k)) ∨
      ∃ s k, validate { a with fingerprint := g } c = .error (.fingerprintMismatch s k) := by
  rw [validate_eq_content_bind, validate_eq_content_bind, Check.forM_content_withFingerprint a c f,
    Check.forM_content_withFingerprint a c g]
  cases forM Check.content (fun g : Check => g.run a c) with
  | error e => exact .inl rfl
  | ok u =>
    -- Past the content checks only the fingerprint check is left, on each side.
    rcases checkFingerprint_ok_or_mismatch { a with fingerprint := f } c with hf' | ⟨s, k, hf'⟩
    · rcases checkFingerprint_ok_or_mismatch { a with fingerprint := g } c with hg' | ⟨s, k, hg'⟩
      · exact .inl (by simp [bind, Except.bind, hf', hg'])
      · exact .inr (.inr ⟨s, k, by simp [bind, Except.bind, hg']⟩)
    · exact .inr (.inl ⟨s, k, by simp [bind, Except.bind, hf']⟩)

/-- A sealed artifact validates as its content does with both fingerprint settings off. -/
theorem validate_sealed :
    a.sealed.validate c = a.validate ((c.withVerifyFingerprint false).withRequireFingerprint false) := by
  rw [validate_eq_content_bind, validate_eq_content_bind, checkFingerprint_sealed,
    checkFingerprint_settings_off, Check.forM_content_settings]
  exact congrArg (· >>= _) (Check.forM_content_withFingerprint a c _)

/-- The stored fingerprint plays no part in the computed one, which is at least 1; it
changes validation only through a fingerprint mismatch; sealing is idempotent and
seals; and validating a sealed artifact is validating its content with fingerprints
neither verified nor required. -/
theorem stored_fingerprint_frame (a : Artifact) (c : LoaderConfig) (f g : UInt64) :
    ({ a with fingerprint := f }).computeFingerprint = a.computeFingerprint ∧
      1 ≤ a.computeFingerprint ∧
      (validate { a with fingerprint := f } c = validate { a with fingerprint := g } c ∨
        (∃ s k, validate { a with fingerprint := f } c = .error (.fingerprintMismatch s k)) ∨
        ∃ s k, validate { a with fingerprint := g } c = .error (.fingerprintMismatch s k)) ∧
      a.sealed.sealed = a.sealed ∧ a.sealed.isSealed = true ∧
      a.sealed.validate c =
        a.validate ((c.withVerifyFingerprint false).withRequireFingerprint false) :=
  ⟨computeFingerprint_withFingerprint a f, one_le_computeFingerprint a,
    validate_withFingerprint a c f g, sealed_sealed a, isSealed_sealed a, validate_sealed a c⟩

end GrammarLoader.Artifact

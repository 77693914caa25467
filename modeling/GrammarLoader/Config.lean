import GrammarLoader.Artifact

/-! # Loader configuration

Which ABI versions load, and what is asked of fingerprints: `verifyFingerprint`
compares a stored fingerprint with the computed one, `requireFingerprint` refuses
unsealed artifacts.
-/

namespace GrammarLoader

/-- The loader's settings. -/
structure LoaderConfig where
  minAbi : UInt32
  maxAbi : UInt32
  verifyFingerprint : Bool
  requireFingerprint : Bool
  deriving Repr, DecidableEq, Inhabited

namespace LoaderConfig

/-- ABI 13 to 15, fingerprints checked when present. -/
def standard : LoaderConfig := ⟨oldestAbi, currentAbi, true, false⟩

/-- The current ABI only, and a sealed artifact with a matching fingerprint. -/
def strict : LoaderConfig := ⟨currentAbi, currentAbi, true, true⟩

/-- ABI 13 to 15, fingerprints ignored. -/
def permissive : LoaderConfig := ⟨oldestAbi, currentAbi, false, false⟩

/-- The same settings with another ABI window. -/
def withAbiRange (c : LoaderConfig) (lo hi : UInt32) : LoaderConfig :=
  { c with minAbi := lo, maxAbi := hi }

/-- The same settings with fingerprint verification on or off. -/
def withVerifyFingerprint (c : LoaderConfig) (b : Bool) : LoaderConfig :=
  { c with verifyFingerprint := b }

/-- The same settings with sealing required or not. -/
def withRequireFingerprint (c : LoaderConfig) (b : Bool) : LoaderConfig :=
  { c with requireFingerprint := b }

/-- Whether an ABI version lies in the window; none does when `minAbi > maxAbi`. -/
def acceptsAbi (c : LoaderConfig) (v : UInt32) : Bool :=
  c.minAbi ≤ v && v ≤ c.maxAbi

end LoaderConfig

end GrammarLoader

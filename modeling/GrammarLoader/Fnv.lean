import GrammarLoader.Bytes

/-! # FNV-1a

The 64-bit Fowler–Noll–Vo hash, variant 1a: start from the offset basis, and for
each byte xor it in, then multiply by the FNV prime, wrapping at 2^64.
-/

namespace GrammarLoader.Fnv

/-- The 64-bit offset basis. -/
def offsetBasis : UInt64 := 0xcbf29ce484222325

/-- The 64-bit FNV prime. -/
def prime : UInt64 := 0x100000001b3

/-- One step: xor the byte in, then multiply. -/
def step (h : UInt64) (b : UInt8) : UInt64 :=
  (h ^^^ b.toUInt64) * prime

/-- The hash of a byte string. -/
def hash (bs : Bytes) : UInt64 :=
  bs.foldl step offsetBasis

end GrammarLoader.Fnv

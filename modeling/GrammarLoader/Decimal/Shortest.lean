/-! # Shortest decimal text of binary floating-point numbers

A finite binary64 number is written with the fewest significant decimal digits
that still read back as the same number, and of those the digits nearest to it
(an exact tie takes the digits of larger magnitude). A value reads back when it lies in the
interval of reals that round to the number: half way to each neighbour, the ends
included when the significand is even.

The digits are written positionally, never with an exponent; a text without a
decimal point gets `.0`. Binary32 numbers are first widened to binary64, which is
exact.
-/

namespace GrammarLoader.Decimal

/-- A binary64 number taken apart. A finite value is `(-1)^neg * m * 2^e`. -/
inductive Binary64 where
  | nan
  | infinite (neg : Bool)
  | finite (neg : Bool) (m : Nat) (e : Int) (lowerGapHalved : Bool)
  deriving Repr, DecidableEq

namespace Binary64

/-- Decode the 64 bits of a binary64 number. `lowerGapHalved` marks a power of two
above the smallest normal, whose lower neighbour is twice as close as its upper one. -/
def ofBits (b : UInt64) : Binary64 :=
  let neg := b >>> 63 == 1
  let exp := ((b >>> 52) &&& 0x7FF).toNat
  let frac := (b &&& 0xFFFFFFFFFFFFF).toNat
  if exp == 0x7FF then
    if frac == 0 then .infinite neg else .nan
  else if exp == 0 then .finite neg frac (-1074) false
  else .finite neg (Nat.pow 2 52 + frac) ((exp : Int) - 1075) (frac == 0 && exp > 1)

/-- The binary64 bits of a binary32 number, which widening keeps exactly. -/
def bitsOfBinary32 (b : UInt32) : UInt64 :=
  let sign : UInt64 := (b >>> 31).toUInt64 <<< 63
  let exp := ((b >>> 23) &&& 0xFF).toNat
  let frac := (b &&& 0x7FFFFF).toNat
  if exp == 0xFF then
    sign ||| ((0x7FF : UInt64) <<< 52) ||| (frac.toUInt64 <<< 29)
  else if exp == 0 then
    if frac == 0 then sign
    else
      -- a binary32 subnormal is a binary64 normal: shift its top bit into place
      let top := Nat.log2 frac
      let exp64 := top + 1023 - 149
      let frac64 := (frac - Nat.pow 2 top) * Nat.pow 2 (52 - top)
      sign ||| (exp64.toUInt64 <<< 52) ||| frac64.toUInt64
  else
    sign ||| ((exp + 1023 - 127).toUInt64 <<< 52) ||| (frac.toUInt64 <<< 29)

end Binary64

/-- Compare `a * 10^p` with `b * 2^q` exactly. -/
def compareScaled (a : Nat) (p : Int) (b : Nat) (q : Int) : Ordering :=
  let l := a * Nat.pow 10 p.toNat * Nat.pow 2 (-q).toNat
  let r := b * Nat.pow 2 q.toNat * Nat.pow 10 (-p).toNat
  compare l r

/-- The reals that round to `m * 2^e`, scaled by four: `[lo * 2^(e-2), hi * 2^(e-2)]`. -/
structure Interval where
  lo : Nat
  hi : Nat
  inclusive : Bool

/-- Whether `c * 10^q` lies in the interval whose ends are scaled by `2^f`. -/
def Interval.holds (iv : Interval) (f : Int) (c : Nat) (q : Int) : Bool :=
  let aboveLo := compareScaled c q iv.lo f
  let belowHi := compareScaled c q iv.hi f
  if iv.inclusive then aboveLo != .lt && belowHi != .gt
  else aboveLo == .gt && belowHi == .lt

/-- `floor (m * 2^e / 10^q)`, and whether the division is exact. -/
def gridFloor (m : Nat) (e q : Int) : Nat × Bool :=
  let num := m * Nat.pow 2 e.toNat * Nat.pow 10 (-q).toNat
  let den := Nat.pow 2 (-e).toNat * Nat.pow 10 q.toNat
  (num / den, num % den == 0)

/-- The grid point nearer to `m * 2^e` of `c` and `c + 1` at spacing `10^q`;
a tie takes `c + 1`. -/
def nearer (m : Nat) (e q : Int) (c : Nat) : Nat :=
  -- compare the distances (v - c*10^q) and ((c+1)*10^q - v) by 2v against (2c+1)*10^q
  match compareScaled (2 * c + 1) q (2 * m) e with
  | .lt => c + 1
  | .gt => c
  | .eq => c + 1

/-- Search the grids `10^q`, `10^(q-1)`, … for the first holding a point of the
interval; answer its digits `c` with `c * 10^q` the value written. -/
def search (m : Nat) (e : Int) (iv : Interval) : Nat → Int → Nat × Int
  | 0, q => (m, q)
  | fuel + 1, q =>
    let (c, exact) := gridFloor m e q
    let f := e - 2
    if exact && c != 0 && iv.holds f c q then (c, q)
    else
      let lowIn := c != 0 && iv.holds f c q
      let highIn := iv.holds f (c + 1) q
      if lowIn && highIn then (nearer m e q c, q)
      else if lowIn then (c, q)
      else if highIn then (c + 1, q)
      else search m e iv fuel (q - 1)

/-- The shortest digits of a positive `m * 2^e` and the power of ten of the last. -/
def shortest (m : Nat) (e : Int) (lowerGapHalved : Bool) : Nat × Int :=
  let iv : Interval :=
    { lo := 4 * m - (if lowerGapHalved then 1 else 2), hi := 4 * m + 2, inclusive := m % 2 == 0 }
  -- the interval lies below 2^(e + bits), and 10^start exceeds that power of two
  let bits : Int := (Nat.log2 m + 1 : Nat)
  let start : Int := (e + bits) * 30103 / 100000 + 2
  search m e iv 1200 start

/-- Digits `d` times `10^q` written positionally, without an exponent. -/
def positional (d : Nat) (q : Int) : String :=
  let ds := toString d
  let len : Int := ds.length
  let point := len + q
  if point ≤ 0 then
    "0." ++ String.ofList (List.replicate (-point).toNat '0') ++ ds
  else if point < len then
    String.ofList (ds.toList.take point.toNat) ++ "." ++ String.ofList (ds.toList.drop point.toNat)
  else
    ds ++ String.ofList (List.replicate q.toNat '0')

/-- The text of a binary64 number: shortest digits, positional, `.0` added when the
text has no point; `NaN`, `inf` and `-inf` for the rest. -/
def render : Binary64 → String
  | .nan => "NaN"
  | .infinite neg => if neg then "-inf" else "inf"
  | .finite neg m e halved =>
    let sign := if neg then "-" else ""
    let body :=
      if m == 0 then "0"
      else
        let (d, q) := shortest m e halved
        positional d q
    let body := if body.toList.contains '.' then body else body ++ ".0"
    sign ++ body

/-- The text of the binary64 number with these bits. -/
def renderBits (b : UInt64) : String :=
  render (Binary64.ofBits b)

end GrammarLoader.Decimal

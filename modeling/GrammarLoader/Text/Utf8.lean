/-! # UTF-8

Decoding a byte list into characters. When the bytes are not UTF-8, the fault names
the length of the longest valid prefix and, when the bad sequence is complete, how
many bytes it spans: the longest prefix of a well-formed sequence, at least one byte.
A sequence cut short by the end of the input has no span.
-/

namespace GrammarLoader.Text.Utf8

/-- Where decoding stopped and why. -/
structure Fault where
  /-- Number of bytes before the bad sequence. -/
  validUpTo : Nat
  /-- Bytes spanned by the bad sequence; `none` when the input ends inside it. -/
  span : Option Nat
  deriving Repr, DecidableEq

/-- The fault's text. -/
def Fault.message : Fault → String
  | ⟨n, some k⟩ => s!"invalid utf-8 sequence of {k} bytes from index {n}"
  | ⟨n, none⟩ => s!"incomplete utf-8 byte sequence from index {n}"

/-- A continuation byte: `10xxxxxx`. -/
def isCont (b : UInt8) : Bool := b &&& 0xC0 == 0x80

/-- The low six bits of a continuation byte. -/
def low6 (b : UInt8) : Nat := (b &&& 0x3F).toNat

/-- The second byte of a three-byte sequence: `E0` needs at least `A0` (no overlong
form), `ED` at most `9F` (no surrogate). -/
def secondOf3Ok (b0 b1 : UInt8) : Bool :=
  if b0 == 0xE0 then 0xA0 ≤ b1 && b1 ≤ 0xBF
  else if b0 == 0xED then 0x80 ≤ b1 && b1 ≤ 0x9F
  else isCont b1

/-- The second byte of a four-byte sequence: `F0` needs at least `90` (no overlong
form), `F4` at most `8F` (nothing past U+10FFFF). -/
def secondOf4Ok (b0 b1 : UInt8) : Bool :=
  if b0 == 0xF0 then 0x90 ≤ b1 && b1 ≤ 0xBF
  else if b0 == 0xF4 then 0x80 ≤ b1 && b1 ≤ 0x8F
  else isCont b1

/-- Decode from byte offset `pos`; offsets in faults count from the start. -/
def decodeFrom (pos : Nat) : List UInt8 → Except Fault (List Char)
  | [] => .ok []
  | b0 :: rest =>
    if b0 < 0x80 then
      (decodeFrom (pos + 1) rest).map (Char.ofNat b0.toNat :: ·)
    else if 0xC2 ≤ b0 && b0 ≤ 0xDF then
      match rest with
      | [] => .error ⟨pos, none⟩
      | b1 :: rest =>
        if isCont b1 then
          (decodeFrom (pos + 2) rest).map
            (Char.ofNat ((b0 &&& 0x1F).toNat * 64 + low6 b1) :: ·)
        else .error ⟨pos, some 1⟩
    else if 0xE0 ≤ b0 && b0 ≤ 0xEF then
      match rest with
      | [] => .error ⟨pos, none⟩
      | b1 :: rest =>
        if secondOf3Ok b0 b1 then
          match rest with
          | [] => .error ⟨pos, none⟩
          | b2 :: rest =>
            if isCont b2 then
              (decodeFrom (pos + 3) rest).map
                (Char.ofNat ((b0 &&& 0x0F).toNat * 4096 + low6 b1 * 64 + low6 b2) :: ·)
            else .error ⟨pos, some 2⟩
        else .error ⟨pos, some 1⟩
    else if 0xF0 ≤ b0 && b0 ≤ 0xF4 then
      match rest with
      | [] => .error ⟨pos, none⟩
      | b1 :: rest =>
        if secondOf4Ok b0 b1 then
          match rest with
          | [] => .error ⟨pos, none⟩
          | b2 :: rest =>
            if isCont b2 then
              match rest with
              | [] => .error ⟨pos, none⟩
              | b3 :: rest =>
                if isCont b3 then
                  (decodeFrom (pos + 4) rest).map
                    (Char.ofNat ((b0 &&& 0x07).toNat * 262144 + low6 b1 * 4096
                      + low6 b2 * 64 + low6 b3) :: ·)
                else .error ⟨pos, some 3⟩
            else .error ⟨pos, some 2⟩
        else .error ⟨pos, some 1⟩
    else .error ⟨pos, some 1⟩

/-- The characters that the bytes spell, or the first fault. -/
def decode (bytes : List UInt8) : Except Fault String :=
  (decodeFrom 0 bytes).map String.ofList

/-- The UTF-8 bytes of a string: the bytes that hold it. -/
def encode (s : String) : List UInt8 :=
  s.toUTF8.toList

end GrammarLoader.Text.Utf8

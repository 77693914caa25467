import GrammarLoader.Bytes
import GrammarLoader.Text.Utf8

/-! # Writing MessagePack

Each value takes its shortest form: a non-negative integer is a positive fixint
below 128, then `uint 8`, `16`, `32` or `64`; a string is a fixstr below 32 bytes,
then `str 8`, `16` or `32`; an array is a fixarray below 16 elements, then
`array 16` or `32`; a map likewise with fixmap, `map 16` and `map 32`.
-/

namespace GrammarLoader.MessagePack

/-- A non-negative integer in its shortest form. -/
def writeUInt (n : Nat) : Bytes :=
  if n < 0x80 then [UInt8.ofNat n]
  else if n < 0x100 then 0xcc :: Bytes.bigEndian 1 n
  else if n < 0x10000 then 0xcd :: Bytes.bigEndian 2 n
  else if n < 0x100000000 then 0xce :: Bytes.bigEndian 4 n
  else 0xcf :: Bytes.bigEndian 8 n

/-- `nil`. -/
def writeNil : Bytes := [0xc0]

/-- `false` or `true`. -/
def writeBool (b : Bool) : Bytes := [if b then 0xc3 else 0xc2]

/-- The head of a string of `len` bytes. -/
def strHeader (len : Nat) : Bytes :=
  if len < 32 then [UInt8.ofNat (0xa0 + len)]
  else if len < 0x100 then 0xd9 :: Bytes.bigEndian 1 len
  else if len < 0x10000 then 0xda :: Bytes.bigEndian 2 len
  else 0xdb :: Bytes.bigEndian 4 len

/-- A string: its head, then its UTF-8 bytes. -/
def writeStr (s : String) : Bytes :=
  let bytes := Text.Utf8.encode s
  strHeader bytes.length ++ bytes

/-- The head of an array of `n` elements. -/
def arrayHeader (n : Nat) : Bytes :=
  if n < 16 then [UInt8.ofNat (0x90 + n)]
  else if n < 0x10000 then 0xdc :: Bytes.bigEndian 2 n
  else 0xdd :: Bytes.bigEndian 4 n

/-- The head of a map of `n` entries. -/
def mapHeader (n : Nat) : Bytes :=
  if n < 16 then [UInt8.ofNat (0x80 + n)]
  else if n < 0x10000 then 0xde :: Bytes.bigEndian 2 n
  else 0xdf :: Bytes.bigEndian 4 n

/-- An array: its head, then each element written by `f`. -/
def writeArray {α : Type} (f : α → Bytes) (xs : List α) : Bytes :=
  arrayHeader xs.length ++ xs.flatMap f

/-- A map with text keys: its head, then each key and its value. -/
def writeMap (entries : List (String × Bytes)) : Bytes :=
  mapHeader entries.length ++ entries.flatMap fun (k, v) => writeStr k ++ v

end GrammarLoader.MessagePack

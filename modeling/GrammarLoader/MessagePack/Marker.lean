/-! # MessagePack markers

The first byte of every MessagePack value names its format. Fixed formats carry a
small number in the byte itself: a positive or negative integer, or the length of a
map, array or string. The other formats are followed by a payload whose size the
format fixes or a length field gives.

`Marker.name` is the spelling diagnostics use for a marker, such as `FixArray(1)`.
-/

namespace GrammarLoader.MessagePack

/-- The format of a value, read from its first byte. -/
inductive Marker where
  | fixPos (n : Nat)
  | fixNeg (n : Int)
  | nil
  | falseValue
  | trueValue
  | uint8 | uint16 | uint32 | uint64
  | int8 | int16 | int32 | int64
  | float32 | float64
  | fixStr (len : Nat)
  | str8 | str16 | str32
  | bin8 | bin16 | bin32
  | fixArray (len : Nat)
  | array16 | array32
  | fixMap (len : Nat)
  | map16 | map32
  | fixExt1 | fixExt2 | fixExt4 | fixExt8 | fixExt16
  | ext8 | ext16 | ext32
  | reserved
  deriving Repr, DecidableEq

namespace Marker

/-- The marker that a first byte names. -/
def ofByte (b : UInt8) : Marker :=
  let n := b.toNat
  if n < 0x80 then .fixPos n
  else if n < 0x90 then .fixMap (n - 0x80)
  else if n < 0xa0 then .fixArray (n - 0x90)
  else if n < 0xc0 then .fixStr (n - 0xa0)
  else if n ≥ 0xe0 then .fixNeg ((n : Int) - 256)
  else match n with
    | 0xc0 => .nil
    | 0xc2 => .falseValue
    | 0xc3 => .trueValue
    | 0xc4 => .bin8
    | 0xc5 => .bin16
    | 0xc6 => .bin32
    | 0xc7 => .ext8
    | 0xc8 => .ext16
    | 0xc9 => .ext32
    | 0xca => .float32
    | 0xcb => .float64
    | 0xcc => .uint8
    | 0xcd => .uint16
    | 0xce => .uint32
    | 0xcf => .uint64
    | 0xd0 => .int8
    | 0xd1 => .int16
    | 0xd2 => .int32
    | 0xd3 => .int64
    | 0xd4 => .fixExt1
    | 0xd5 => .fixExt2
    | 0xd6 => .fixExt4
    | 0xd7 => .fixExt8
    | 0xd8 => .fixExt16
    | 0xd9 => .str8
    | 0xda => .str16
    | 0xdb => .str32
    | 0xdc => .array16
    | 0xdd => .array32
    | 0xde => .map16
    | 0xdf => .map32
    | _ => .reserved

/-- How diagnostics spell a marker. -/
def name : Marker → String
  | .fixPos n => s!"FixPos({n})"
  | .fixNeg n => s!"FixNeg({n})"
  | .nil => "Null"
  | .falseValue => "False"
  | .trueValue => "True"
  | .uint8 => "U8"
  | .uint16 => "U16"
  | .uint32 => "U32"
  | .uint64 => "U64"
  | .int8 => "I8"
  | .int16 => "I16"
  | .int32 => "I32"
  | .int64 => "I64"
  | .float32 => "F32"
  | .float64 => "F64"
  | .fixStr n => s!"FixStr({n})"
  | .str8 => "Str8"
  | .str16 => "Str16"
  | .str32 => "Str32"
  | .bin8 => "Bin8"
  | .bin16 => "Bin16"
  | .bin32 => "Bin32"
  | .fixArray n => s!"FixArray({n})"
  | .array16 => "Array16"
  | .array32 => "Array32"
  | .fixMap n => s!"FixMap({n})"
  | .map16 => "Map16"
  | .map32 => "Map32"
  | .fixExt1 => "FixExt1"
  | .fixExt2 => "FixExt2"
  | .fixExt4 => "FixExt4"
  | .fixExt8 => "FixExt8"
  | .fixExt16 => "FixExt16"
  | .ext8 => "Ext8"
  | .ext16 => "Ext16"
  | .ext32 => "Ext32"
  | .reserved => "Reserved"

end Marker

end GrammarLoader.MessagePack

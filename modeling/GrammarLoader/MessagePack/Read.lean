import GrammarLoader.Bytes
import GrammarLoader.Decimal.Shortest
import GrammarLoader.MessagePack.Marker
import GrammarLoader.MessagePack.Write
import GrammarLoader.Text.Quoted
import GrammarLoader.Text.Utf8

/-! # Reading MessagePack against a schema

A reader takes one value from the front of the input and hands back the rest. It
reads the value's marker first. Integer and boolean schemas take any integer,
nil, boolean or float marker and report any other marker as wrong. Other schemas
read the whole head first (a string's bytes, a binary's bytes, a container's
length) and then either accept the value or report what they found and what they
expected. Where a list or a record is expected, binary data counts as an array of
its bytes, each an unsigned integer.

Nesting is bounded: every container or extension entered uses one level of a
budget of `maxDepth`, and a value that would use the last level is refused.
Unknown values are skipped whole, whatever their nesting within the budget.
-/

namespace GrammarLoader.MessagePack

/-- The budget of nesting levels. -/
def maxDepth : Nat := 32

/-- A value as diagnostics describe it. -/
inductive Found where
  | bool (b : Bool)
  | unsigned (n : Nat)
  | signed (i : Int)
  /-- A float, by its binary64 bits. -/
  | float (bits : UInt64)
  | text (s : String)
  | bytes
  | unit
  | sequence
  | map
  | extension
  deriving Repr, DecidableEq

/-- The description of a found value. -/
def Found.describe : Found → String
  | .bool b => s!"boolean `{b}`"
  | .unsigned n => s!"integer `{n}`"
  | .signed i => s!"integer `{i}`"
  | .float bits => "floating point `" ++ Decimal.renderBits bits ++ "`"
  | .text s => "string " ++ Text.quote s
  | .bytes => "byte array"
  | .unit => "unit value"
  | .sequence => "sequence"
  | .map => "map"
  | .extension => "newtype struct"

/-- What a schema asked for. -/
inductive Expected where
  | text
  /-- An unsigned integer of this many bits. -/
  | nat (bits : Nat)
  | flag
  | sequence
  | record (name : String)
  | recordOfLength (name : String) (fields : Nat)
  | fieldName
  deriving Repr, DecidableEq

/-- The description of an expectation. -/
def Expected.describe : Expected → String
  | .text => "a string"
  | .nat bits => s!"u{bits}"
  | .flag => "a boolean"
  | .sequence => "a sequence"
  | .record name => s!"struct {name}"
  | .recordOfLength name n => s!"struct {name} with {n} elements"
  | .fieldName => "field identifier"

/-- Why reading stopped. -/
inductive ReadError where
  /-- The input ended where a marker was due. -/
  | endAtMarker
  /-- The input ended inside a number or a length. -/
  | endInNumber
  /-- The input ended inside the bytes of a string, binary or extension. -/
  | endInPayload
  | wrongMarker (m : Marker)
  /-- An array holds more values than the record it spells. -/
  | extraElements (expected : Nat)
  | badUtf8 (f : Text.Utf8.Fault)
  | tooDeep
  | wrongType (found : Found) (expected : Expected)
  | wrongValue (found : Found) (expected : Expected)
  | wrongLength (n : Nat) (expected : Expected)
  | missingField (name : String)
  | duplicateField (name : String)
  deriving Repr, DecidableEq

/-- The error's text. -/
def ReadError.message : ReadError → String
  | .endAtMarker => "IO error while reading marker: failed to fill whole buffer"
  | .endInNumber => "IO error while reading data: failed to fill whole buffer"
  | .endInPayload => "IO error while reading data: unexpected end of file"
  | .wrongMarker m => "wrong msgpack marker " ++ m.name
  | .extraElements n => s!"array had incorrect length, expected {n}"
  | .badUtf8 f => "string found to be invalid utf8: " ++ f.message
  | .tooDeep => "depth limit exceeded"
  | .wrongType f e => "invalid type: " ++ f.describe ++ ", expected " ++ e.describe
  | .wrongValue f e => "invalid value: " ++ f.describe ++ ", expected " ++ e.describe
  | .wrongLength n e => s!"invalid length {n}, expected " ++ e.describe
  | .missingField name => s!"missing field `{name}`"
  | .duplicateField name => s!"duplicate field `{name}`"

/-- Reads from the front of the input, or fails. -/
abbrev Reader (α : Type) := StateT Bytes (Except ReadError) α

/-- One marker. -/
def readMarker : Reader Marker := fun
  | [] => .error .endAtMarker
  | b :: rest => .ok (Marker.ofByte b, rest)

/-- A big-endian number of `width` bytes. -/
def readNumber (width : Nat) : Reader Nat := fun bs =>
  let front := bs.take width
  if front.length < width then .error .endInNumber
  else .ok (Bytes.toNatBE front, bs.drop width)

/-- `len` bytes of payload. -/
def readPayload (len : Nat) : Reader Bytes := fun bs =>
  let front := bs.take len
  if front.length < len then .error .endInPayload
  else .ok (front, bs.drop len)

/-- A two's-complement number of `width` bytes. -/
def readSigned (width : Nat) : Reader Int := do
  let n ← readNumber width
  pure (if n < Nat.pow 2 (8 * width - 1) then (n : Int) else (n : Int) - (Nat.pow 2 (8 * width) : Nat))

/-- The scalar that a marker starts, its payload read: nil, a boolean, an integer
or a float. Other markers give `none` and read nothing more. -/
def readScalar : Marker → Reader (Option Found)
  | .nil => pure (some .unit)
  | .falseValue => pure (some (.bool false))
  | .trueValue => pure (some (.bool true))
  | .fixPos n => pure (some (.unsigned n))
  | .fixNeg i => pure (some (.signed i))
  | .uint8 => (some ∘ .unsigned) <$> readNumber 1
  | .uint16 => (some ∘ .unsigned) <$> readNumber 2
  | .uint32 => (some ∘ .unsigned) <$> readNumber 4
  | .uint64 => (some ∘ .unsigned) <$> readNumber 8
  | .int8 => (some ∘ .signed) <$> readSigned 1
  | .int16 => (some ∘ .signed) <$> readSigned 2
  | .int32 => (some ∘ .signed) <$> readSigned 4
  | .int64 => (some ∘ .signed) <$> readSigned 8
  | .float32 => (fun n => some (.float (Decimal.Binary64.bitsOfBinary32 n.toUInt32))) <$> readNumber 4
  | .float64 => (fun n => some (.float n.toUInt64)) <$> readNumber 8
  | _ => pure none

/-- A value after its head has been read. -/
inductive Head where
  | scalar (f : Found)
  | text (s : String)
  /-- A string whose bytes are not UTF-8. -/
  | badText (bytes : Bytes) (fault : Text.Utf8.Fault)
  | binary (bytes : Bytes)
  /-- An array of this many values, which follow. -/
  | array (len : Nat)
  /-- A map of this many entries, which follow. -/
  | map (len : Nat)
  /-- An extension whose type byte and `len` data bytes follow. -/
  | extension (len : Nat)
  deriving Repr, DecidableEq

/-- How a head is described when a schema refuses it. -/
def Head.found : Head → Found
  | .scalar f => f
  | .text s => .text s
  | .badText _ _ => .bytes
  | .binary _ => .bytes
  | .array _ => .sequence
  | .map _ => .map
  | .extension _ => .extension

/-- The bytes of a string, decoded when they are UTF-8. -/
def readText (len : Nat) : Reader Head := do
  let bs ← readPayload len
  match Text.Utf8.decode bs with
  | .ok s => pure (.text s)
  | .error f => pure (.badText bs f)

/-- Enter a container or extension: refused when `depth` has no level to spare. -/
def enter (depth : Nat) (h : Head) : Reader Head :=
  if depth ≤ 1 then throw .tooDeep else pure h

/-- The head of a value with marker `m`, at nesting budget `depth`. -/
def readHead (depth : Nat) (m : Marker) : Reader Head := do
  match ← readScalar m with
  | some f => pure (.scalar f)
  | none =>
    match m with
    | .fixStr n => readText n
    | .str8 => readText (← readNumber 1)
    | .str16 => readText (← readNumber 2)
    | .str32 => readText (← readNumber 4)
    | .bin8 => .binary <$> readPayload (← readNumber 1)
    | .bin16 => .binary <$> readPayload (← readNumber 2)
    | .bin32 => .binary <$> readPayload (← readNumber 4)
    | .fixArray n => enter depth (.array n)
    | .array16 => enter depth (.array (← readNumber 2))
    | .array32 => enter depth (.array (← readNumber 4))
    | .fixMap n => enter depth (.map n)
    | .map16 => enter depth (.map (← readNumber 2))
    | .map32 => enter depth (.map (← readNumber 4))
    | .fixExt1 => enter depth (.extension 1)
    | .fixExt2 => enter depth (.extension 2)
    | .fixExt4 => enter depth (.extension 4)
    | .fixExt8 => enter depth (.extension 8)
    | .fixExt16 => enter depth (.extension 16)
    | .ext8 => enter depth (.extension (← readNumber 1))
    | .ext16 => enter depth (.extension (← readNumber 2))
    | .ext32 => enter depth (.extension (← readNumber 4))
    | _ => throw (.wrongMarker m)

mutual

/-- Skip one value of any kind, at nesting budget `depth`. -/
def skipValue : Nat → Reader Unit
  | 0 => throw .tooDeep
  | depth + 1 => fun bs =>
    match (do readHead (depth + 1) (← readMarker) : Reader Head) bs with
    | .error e => .error e
    | .ok (.array n, rest) => skipMany depth n rest
    | .ok (.map n, rest) => skipMany depth (2 * n) rest
    | .ok (.extension len, rest) => (do let _ ← readNumber 1; let _ ← readPayload len : Reader Unit) rest
    | .ok (_, rest) => .ok ((), rest)
termination_by depth => (depth, 0, 0)

/-- Skip `n` values in a row, at nesting budget `depth`. -/
def skipMany (depth : Nat) : Nat → Reader Unit
  | 0 => fun bs => .ok ((), bs)
  | n + 1 => fun bs =>
    match skipValue depth bs with
    | .error e => .error e
    | .ok ((), rest) => skipMany depth n rest
termination_by n => (depth, 1, n)

end

/-- Read `n` values in a row with `r`, in order. -/
def readMany {α : Type} (r : Reader α) (n : Nat) : Reader (List α) :=
  go n []
where
  go : Nat → List α → Reader (List α)
    | 0, acc => fun bs => .ok (acc.reverse, bs)
    | n + 1, acc => fun bs =>
      match r bs with
      | .error e => .error e
      | .ok (x, rest) => go n (x :: acc) rest

/-- An unsigned integer of `bits` bits, from a marker already read. -/
def expectNatFrom (bits : Nat) (m : Marker) : Reader Nat := do
  match ← readScalar m with
  | some (.unsigned n) =>
    if n < Nat.pow 2 bits then pure n else throw (.wrongValue (.unsigned n) (.nat bits))
  | some (.signed i) =>
    if 0 ≤ i ∧ i < (Nat.pow 2 bits : Nat) then pure i.toNat else throw (.wrongValue (.signed i) (.nat bits))
  | some f => throw (.wrongType f (.nat bits))
  | none => throw (.wrongMarker m)

/-- An unsigned integer of `bits` bits. -/
def expectNat (bits : Nat) : Reader Nat := do
  expectNatFrom bits (← readMarker)

/-- Nil for none, or an unsigned integer of `bits` bits. -/
def expectOptionalNat (bits : Nat) : Reader (Option Nat) := do
  let m ← readMarker
  if m = .nil then pure none else some <$> expectNatFrom bits m

/-- A string; binary data is taken too when it is UTF-8. -/
def expectText (depth : Nat) : Reader String := do
  match ← readHead depth (← readMarker) with
  | .text s => pure s
  | .badText _ f => throw (.badUtf8 f)
  | .binary bs =>
    match Text.Utf8.decode bs with
    | .ok s => pure s
    | .error _ => throw (.wrongValue .bytes .text)
  | h => throw (.wrongType h.found .text)

/-- A boolean. -/
def expectFlag : Reader Bool := do
  let m ← readMarker
  match ← readScalar m with
  | some (.bool b) => pure b
  | some f => throw (.wrongType f .flag)
  | none => throw (.wrongMarker m)

/-- Binary data as a run of values: each byte written as the unsigned integer it is. -/
def bytesAsValues (bs : Bytes) : Bytes :=
  bs.flatMap fun b => writeUInt b.toNat

/-- Run a reader over the given input instead of the rest, keeping the rest. -/
def within {α : Type} (input : Bytes) (r : Reader α) : Reader α := fun rest =>
  match r input with
  | .ok (x, _) => .ok (x, rest)
  | .error e => .error e

/-- A list: an array of values read by `elem` one level down, or binary data whose
bytes are the values. -/
def expectList {α : Type} (depth : Nat) (elem : Nat → Reader α) : Reader (List α) := do
  match ← readHead depth (← readMarker) with
  | .array n => readMany (elem (depth - 1)) n
  | .binary bs => within (bytesAsValues bs) (readMany (elem (depth - 1)) bs.length)
  | .badText _ f => throw (.badUtf8 f)
  | h => throw (.wrongType h.found .sequence)

/-- The field that a map key names: a field name as text or bytes, or a field's
position. Unknown names and positions name no field. -/
def expectFieldKey (depth : Nat) (fields : List String) : Reader (Option Nat) := do
  match ← readHead depth (← readMarker) with
  | .text s => pure (fields.idxOf? s)
  | .badText _ _ => pure none
  | .binary bs => pure (fields.findIdx? (fun f => Text.Utf8.encode f == bs))
  | .scalar (.unsigned n) => pure (if n < fields.length then some n else none)
  | h => throw (.wrongType h.found .fieldName)

/-- How to read a record with named fields into `α`, collecting fields in `σ`. -/
structure RecordShape (σ α : Type) where
  /-- The record's name in messages. -/
  name : String
  /-- The field names, in order. -/
  fields : List String
  /-- No field read yet. -/
  empty : σ
  /-- Whether field `i` has been read. -/
  isSet : σ → Nat → Bool
  /-- Read field `i`'s value at a nesting budget and store it. -/
  readField : Nat → Nat → σ → Reader σ
  /-- The record, or the first field missing. -/
  finish : σ → Except ReadError α

namespace RecordShape

variable {σ α : Type}

/-- The entries of a map: each key names a field, read once, or is skipped with its value. -/
def readEntries (shape : RecordShape σ α) (depth : Nat) : Nat → σ → Reader σ
  | 0, st => fun bs => .ok (st, bs)
  | n + 1, st => fun bs =>
    match expectFieldKey depth shape.fields bs with
    | .error e => .error e
    | .ok (none, rest) =>
      match skipValue depth rest with
      | .error e => .error e
      | .ok ((), rest) => readEntries shape depth n st rest
    | .ok (some i, rest) =>
      if shape.isSet st i then .error (.duplicateField (shape.fields.getD i ""))
      else match shape.readField i depth st rest with
        | .error e => .error e
        | .ok (st, rest) => readEntries shape depth n st rest

/-- The values of an array of `n` elements, one per field in order. -/
def readInOrder (shape : RecordShape σ α) (depth n : Nat) : Nat → σ → Reader σ
  | i, st => fun bs =>
    if _h : i < shape.fields.length then
      if i < n then
        match shape.readField i depth st bs with
        | .error e => .error e
        | .ok (st, rest) => readInOrder shape depth n (i + 1) st rest
      else .error (.wrongLength i (.recordOfLength shape.name shape.fields.length))
    else .ok (st, bs)
termination_by i => shape.fields.length - i

/-- The record from a map of `n` entries. -/
def ofEntries (shape : RecordShape σ α) (depth n : Nat) : Reader α := do
  let st ← shape.readEntries depth n shape.empty
  match shape.finish st with
  | .ok x => pure x
  | .error e => throw e

/-- The record from an array of `n` elements: its fields in order, and no more. -/
def ofElements (shape : RecordShape σ α) (depth n : Nat) : Reader α := do
  let st ← shape.readInOrder depth n 0 shape.empty
  if n > shape.fields.length then throw (.extraElements shape.fields.length)
  else match shape.finish st with
    | .ok x => pure x
    | .error e => throw e

end RecordShape

/-- A record: a map of its fields, or an array of them in order. -/
def expectRecord {σ α : Type} (shape : RecordShape σ α) (depth : Nat) : Reader α := do
  match ← readHead depth (← readMarker) with
  | .map n => shape.ofEntries (depth - 1) n
  | .array n => shape.ofElements (depth - 1) n
  | .binary bs => within (bytesAsValues bs) (shape.ofElements (depth - 1) bs.length)
  | .badText _ f => throw (.badUtf8 f)
  | h => throw (.wrongType h.found (.record shape.name))

end GrammarLoader.MessagePack

import Bittube.Lib.ByteReader
import Bittube.Lib.KeyedSet
import Mathlib.Data.List.Lex

/-!
# Portable storage values (`storages/portable_storage_base.h`)

`epee::serialization` carries every P2P and RPC message as a `section`: a `std::map` from entry
names to `storage_entry` values. A value is one of thirteen alternatives: eight integer types,
`double`, `bool`, a string, a nested section, or an `array_entry`, which holds a vector of one
element type (a scalar type, sections, or further `array_entry`s).

`StorageEntry`, `ArrayEntry` and `Section` are the three types, nested in one another. A section
is the list of its map's entries in the map's order; strings and names are byte lists; a
`double` is its IEEE-754 bit pattern, so equal doubles are bitwise equal. Names compare as
`std::map<std::string, ...>` compares them, byte by byte as unsigned characters
(`std::char_traits<char>::lt`). A `Pod` is a fixed-size scalar type as `memcpy` sees it: its
size, and a bijection with the numbers below `256 ^ size`; `CONVERT_POD` is the identity on the
little-endian hosts the codec runs on. What the round trip asks of a section is
`Section.storableWithin d`: every map in name order, every name shorter than 255 bytes, every
string shorter than `MAX_STRING_LEN_POSSIBLE`, every count at most `2^62 - 1`, no array holding
arrays, and sections nested at most `d` deep.

`array_entry` lists `array_entry_t<section>` twice, as its first and as its thirteenth
alternative. Both are written and read as arrays of sections, and the model has one alternative
for them.
-/

namespace Bittube.Epee.Serialization

mutual
/-- `storage_entry`. -/
inductive StorageEntry where
  | uint64 (v : UInt64)
  | uint32 (v : UInt32)
  | uint16 (v : UInt16)
  | uint8 (v : UInt8)
  | int64 (v : Int64)
  | int32 (v : Int32)
  | int16 (v : Int16)
  | int8 (v : Int8)
  | double (bits : UInt64)
  | bool (v : Bool)
  | string (v : List UInt8)
  | object (s : Section)
  | array (a : ArrayEntry)

/-- `array_entry`: the vector of an `array_entry_t<T>`, for each element type `T`. -/
inductive ArrayEntry where
  | sections (l : List Section)
  | uint64 (l : List UInt64)
  | uint32 (l : List UInt32)
  | uint16 (l : List UInt16)
  | uint8 (l : List UInt8)
  | int64 (l : List Int64)
  | int32 (l : List Int32)
  | int16 (l : List Int16)
  | int8 (l : List Int8)
  | double (l : List UInt64)
  | bool (l : List Bool)
  | string (l : List (List UInt8))
  | arrays (l : List ArrayEntry)

/-- `section`: the entries of `m_entries` in the map's order. -/
inductive Section where
  | mk (entries : List (List UInt8 × StorageEntry))
end

/-- `section::m_entries`. -/
def Section.entries : Section → List (List UInt8 × StorageEntry)
  | .mk entries => entries

/-- The alternatives `storage_entry_store_visitor` writes with `pack_pod_type`: all but strings,
sections and arrays. -/
def StorageEntry.isPod : StorageEntry → Bool
  | .string _ | .object _ | .array _ => false
  | _ => true

/-- The key of `std::map<std::string, storage_entry>`: names compare byte by byte, unsigned. -/
def nameKey (e : List UInt8 × StorageEntry) : List ℕ := e.1.map UInt8.toNat

/-! ### Scalars as `memcpy` sees them -/

/-- A fixed-size scalar type: its `sizeof`, and its bytes read as a little-endian number. -/
structure Pod (α : Type) where
  size : ℕ
  toBits : α → ℕ
  ofBits : ℕ → α
  toBits_lt : ∀ v, toBits v < 256 ^ size
  ofBits_toBits : ∀ v, ofBits (toBits v) = v

namespace Pod

def uint64 : Pod UInt64 := ⟨8, UInt64.toNat, UInt64.ofNat, UInt64.toNat_lt, fun _ => UInt64.ofNat_toNat⟩
def uint32 : Pod UInt32 := ⟨4, UInt32.toNat, UInt32.ofNat, UInt32.toNat_lt, fun _ => UInt32.ofNat_toNat⟩
def uint16 : Pod UInt16 := ⟨2, UInt16.toNat, UInt16.ofNat, UInt16.toNat_lt, fun _ => UInt16.ofNat_toNat⟩
def uint8 : Pod UInt8 := ⟨1, UInt8.toNat, UInt8.ofNat, UInt8.toNat_lt, fun _ => UInt8.ofNat_toNat⟩

def int64 : Pod Int64 :=
  ⟨8, fun v => v.toUInt64.toNat, fun n => (UInt64.ofNat n).toInt64, fun v => v.toUInt64.toNat_lt,
    fun v => by simp [UInt64.ofNat_toNat, Int64.toInt64_toUInt64]⟩
def int32 : Pod Int32 :=
  ⟨4, fun v => v.toUInt32.toNat, fun n => (UInt32.ofNat n).toInt32, fun v => v.toUInt32.toNat_lt,
    fun v => by simp [UInt32.ofNat_toNat, Int32.toInt32_toUInt32]⟩
def int16 : Pod Int16 :=
  ⟨2, fun v => v.toUInt16.toNat, fun n => (UInt16.ofNat n).toInt16, fun v => v.toUInt16.toNat_lt,
    fun v => by simp [UInt16.ofNat_toNat, Int16.toInt16_toUInt16]⟩
def int8 : Pod Int8 :=
  ⟨1, fun v => v.toUInt8.toNat, fun n => (UInt8.ofNat n).toInt8, fun v => v.toUInt8.toNat_lt,
    fun v => by simp [UInt8.ofNat_toNat, Int8.toInt8_toUInt8]⟩

/-- `bool` is one byte; `memcpy` of a byte other than `0` gives `true`. -/
def bool : Pod Bool := ⟨1, Bool.toNat, fun n => n != 0, fun b => by cases b <;> decide,
  fun b => by cases b <;> rfl⟩

/-- A `double` is its eight bytes, read here as its bit pattern. -/
def double : Pod UInt64 := uint64

end Pod

/-! ### Type codes -/

/-- The `SERIALIZE_TYPE_*` codes. -/
inductive SerializeType
  | int64 | int32 | int16 | int8 | uint64 | uint32 | uint16 | uint8
  | double | string | bool | object | array
  deriving DecidableEq, Repr

namespace SerializeType

/-- `SERIALIZE_TYPE_INT64` (1) to `SERIALIZE_TYPE_ARRAY` (13). -/
def code : SerializeType → UInt8
  | int64 => 1 | int32 => 2 | int16 => 3 | int8 => 4
  | uint64 => 5 | uint32 => 6 | uint16 => 7 | uint8 => 8
  | double => 9 | string => 10 | bool => 11 | object => 12 | array => 13

/-- The type a code names; `none` for the codes a `switch` sends to `default`. -/
def ofCode? : UInt8 → Option SerializeType
  | 1 => some int64 | 2 => some int32 | 3 => some int16 | 4 => some int8
  | 5 => some uint64 | 6 => some uint32 | 7 => some uint16 | 8 => some uint8
  | 9 => some double | 10 => some string | 11 => some bool | 12 => some object
  | 13 => some array | _ => none

@[simp] theorem ofCode?_code (t : SerializeType) : ofCode? t.code = some t := by
  cases t <;> rfl

end SerializeType

/-- `SERIALIZE_FLAG_ARRAY`. -/
def serializeFlagArray : UInt8 := 0x80

theorem code_or_flag_and_flag (t : SerializeType) :
    (t.code ||| serializeFlagArray) &&& serializeFlagArray ≠ 0 := by
  cases t <;> decide

theorem code_and_flag (t : SerializeType) : t.code &&& serializeFlagArray = 0 := by
  cases t <;> decide

/-! ### Marks, limits and the header -/

/-- `PORTABLE_RAW_SIZE_MARK_MASK`: the two low bits of a varint's first byte give its width. -/
def portableRawSizeMarkMask : UInt8 := 0x03

/-- `PORTABLE_RAW_SIZE_MARK_BYTE`, `_WORD`, `_DWORD` and `_INT64`: one, two, four and eight
bytes. -/
def portableRawSizeMarkByte : ℕ := 0
def portableRawSizeMarkWord : ℕ := 1
def portableRawSizeMarkDword : ℕ := 2
def portableRawSizeMarkInt64 : ℕ := 3

/-- `PORTABLE_STORAGE_SIGNATUREA`, `PORTABLE_STORAGE_SIGNATUREB` and
`PORTABLE_STORAGE_FORMAT_VER`. -/
def portableStorageSignatureA : ℕ := 0x01011101
def portableStorageSignatureB : ℕ := 0x01020101
def portableStorageFormatVer : UInt8 := 1

/-- `MAX_STRING_LEN_POSSIBLE`. -/
def maxStringLenPossible : ℕ := 2000000000

/-- The largest count `pack_varint` writes: its two low bits carry the width. -/
def varintMax : ℕ := 4611686018427387903

/-- `EPEE_PORTABLE_STORAGE_RECURSION_LIMIT_INTERNAL`. -/
def recursionLimit : ℕ := 100

/-! ### What a storable section is -/

/-- The checks on one array, with `child` the check of each section it holds: its count fits a
varint, its strings are short enough, and it holds no arrays. -/
def ArrayEntry.storableWith (child : Section → Bool) : ArrayEntry → Bool
  | .sections l => decide (l.length ≤ varintMax) && l.all child
  | .uint64 l => decide (l.length ≤ varintMax)
  | .uint32 l => decide (l.length ≤ varintMax)
  | .uint16 l => decide (l.length ≤ varintMax)
  | .uint8 l => decide (l.length ≤ varintMax)
  | .int64 l => decide (l.length ≤ varintMax)
  | .int32 l => decide (l.length ≤ varintMax)
  | .int16 l => decide (l.length ≤ varintMax)
  | .int8 l => decide (l.length ≤ varintMax)
  | .double l => decide (l.length ≤ varintMax)
  | .bool l => decide (l.length ≤ varintMax)
  | .string l => decide (l.length ≤ varintMax) && l.all fun v => decide (v.length < maxStringLenPossible)
  | .arrays l => l.isEmpty

/-- The checks on one value, with `child` the check of the sections it holds. -/
def StorageEntry.storableWith (child : Section → Bool) : StorageEntry → Bool
  | .string v => decide (v.length < maxStringLenPossible)
  | .object s => child s
  | .array a => a.storableWith child
  | _ => true

/-- The checks on one section, with `child` the check of the sections inside its values: the
map's order, the length of each name, and the count of entries. -/
def Section.storableWith (child : Section → Bool) : Section → Bool
  | .mk entries => decide (entries.Pairwise fun a b => nameKey a < nameKey b) &&
      decide (entries.length ≤ varintMax) &&
      entries.all fun x => decide (x.1.length < 255) && x.2.storableWith child

/-- `s` passes every check of the round trip, and its sections are nested at most `d` deep. -/
def Section.storableWithin : ℕ → Section → Bool
  | 0, s => s.storableWith fun _ => false
  | d + 1, s => s.storableWith (Section.storableWithin d)

end Bittube.Epee.Serialization

import Bittube.Epee.PortableStorageBase

/-!
# Reading a section (`storages/portable_storage_from_bin.h`)

`throwable_buffer_reader` walks a pointer through the buffer and throws at the first check that
fails. Each of its helpers opens with `RECURSION_LIMITATION()`, a guard that raises
`m_recursion_count` on entry, throws unless the count is then below
`EPEE_PORTABLE_STORAGE_RECURSION_LIMIT_INTERNAL`, and lowers it again on exit. The count is the
number of helper calls under way. The model passes down instead how many more guards may still
be entered, `99 - m_recursion_count`: every helper takes it as its last argument, throws at `0`,
and hands one less to its callees. The helpers recurse through nested sections and arrays of
sections, and every recursion here is structural on that budget.

A varint's width is in the two low bits of its first byte; the reader reads the whole word and
drops the two bits. An array is its count, checked to be no more than the bytes left, then its
elements; `read<array_entry>()` always throws, so an array that holds arrays is read only when
it is empty. An entry is a type byte that sends the reader to the array reader when the array
flag is set and to `read_se<T>` otherwise. A section is the count of its entries, then each
name and value, inserted into the map; `std::map::insert` keeps the first value of a name that
comes twice.

The loops of `read_ae` and `read(section&)` call the element readers at the level below their
own guard: the element reader is passed to `readAeBody` already applied to that level, and the
array of sections has its own copy `readAeSection` inside the recursion.
-/

namespace Bittube.Epee.Serialization

open ByteReader

variable {α β : Type}

/-- The message of `recursuion_limitation_guard`. -/
def recursionLimitMessage : String :=
  s!"Wrong blob data in portable storage: recursion limitation ({recursionLimit}) exceeded"

/-- `read(void* target, size_t count)`. -/
def readRaw (count : ℕ) : ℕ → ByteReader (List UInt8)
  | 0 => throw recursionLimitMessage
  | _ + 1 => do
    let remained ← remaining
    if count ≤ remained then take count
    else throw s!" attempt to read {count} bytes from buffer with {remained} bytes remained"

/-- `read(t_pod_type& pod_val)`. -/
def readPod (c : Pod α) : ℕ → ByteReader α
  | 0 => throw recursionLimitMessage
  | lim + 1 => do
    let bytes ← readRaw c.size lim
    pure (c.ofBits (leValue bytes))

/-- `read<t_type>()` for a scalar type. -/
def readValue (c : Pod α) : ℕ → ByteReader α
  | 0 => throw recursionLimitMessage
  | lim + 1 => readPod c lim

/-- `read_sec_name(sce_name)`: a length byte, then that many bytes. -/
def readSecName : ℕ → ByteReader (List UInt8)
  | 0 => throw recursionLimitMessage
  | lim + 1 => do
    let nameLen ← readPod Pod.uint8 lim
    readRaw nameLen.toNat lim

/-- `read_varint()`. -/
def readVarint : ℕ → ByteReader ℕ
  | 0 => throw recursionLimitMessage
  | lim + 1 => do
    let first ← peek
    match first with
    | none => throw "empty buff, expected place for varint"
    | some b =>
      let sizeMask := (b &&& portableRawSizeMarkMask).toNat
      let v ←
        if sizeMask = portableRawSizeMarkByte then UInt8.toNat <$> readValue Pod.uint8 lim
        else if sizeMask = portableRawSizeMarkWord then UInt16.toNat <$> readValue Pod.uint16 lim
        else if sizeMask = portableRawSizeMarkDword then UInt32.toNat <$> readValue Pod.uint32 lim
        else if sizeMask = portableRawSizeMarkInt64 then UInt64.toNat <$> readValue Pod.uint64 lim
        else throw s!"unknown varint size_mask = {sizeMask}"
      pure (v >>> 2)

/-- `read(std::string& str)`. -/
def readString : ℕ → ByteReader (List UInt8)
  | 0 => throw recursionLimitMessage
  | lim + 1 => do
    let len ← readVarint lim
    if len < maxStringLenPossible then do
      let remained ← remaining
      if len ≤ remained then take len
      else throw s!"string len count value {len} goes out of remain storage len {remained}"
    else throw s!"to big string len value in storage: {len}"

/-- `read<std::string>()`. -/
def readValueString : ℕ → ByteReader (List UInt8)
  | 0 => throw recursionLimitMessage
  | lim + 1 => readString lim

/-- `read(array_entry& ae)`, which always throws. -/
def readArrayEntry : ℕ → ByteReader ArrayEntry
  | 0 => throw recursionLimitMessage
  | _ + 1 => throw "Reading array entry is not supported"

/-- `read<array_entry>()`. -/
def readValueArray : ℕ → ByteReader ArrayEntry
  | 0 => throw recursionLimitMessage
  | lim + 1 => readArrayEntry lim

/-- `read_ae<type_name>()` below its guard: `readElem` is `read<type_name>()` at this level, and
`mk` the array it fills. -/
def readAeBody (readElem : ByteReader β) (mk : List β → ArrayEntry) (lim : ℕ) :
    ByteReader StorageEntry := do
  let size ← readVarint lim
  let remained ← remaining
  if size ≤ remained then do
    let sa ← loop (fun sa => do
      let x ← readElem
      pure (sa ++ [x])) size []
    pure (.array (mk sa))
  else throw "Size sanity check failed"

/-- `read_ae<type_name>()`. -/
def readAe (readElem : ℕ → ByteReader β) (mk : List β → ArrayEntry) :
    ℕ → ByteReader StorageEntry
  | 0 => throw recursionLimitMessage
  | lim + 1 => readAeBody (readElem lim) mk lim

/-- `read_se<t_type>()` for a scalar type. -/
def readSe (c : Pod α) (mk : α → StorageEntry) : ℕ → ByteReader StorageEntry
  | 0 => throw recursionLimitMessage
  | lim + 1 => mk <$> readPod c lim

/-- `read_se<std::string>()`. -/
def readSeString : ℕ → ByteReader StorageEntry
  | 0 => throw recursionLimitMessage
  | lim + 1 => StorageEntry.string <$> readValueString lim

mutual
/-- `read(section& sec)`: the count, then each name and value, inserted into the map. -/
def readSection : ℕ → ByteReader Section
  | 0 => throw recursionLimitMessage
  | lim + 1 => do
    let count ← readVarint lim
    let entries ← loop (fun entries => do
      let name ← readSecName lim
      let e ← loadStorageEntry lim
      pure (KeyedSet.insertSorted nameKey (name, e) entries)) count []
    pure (.mk entries)

/-- `read<section>()`. -/
def readValueSection : ℕ → ByteReader Section
  | 0 => throw recursionLimitMessage
  | lim + 1 => readSection lim

/-- `read_ae<section>()`. -/
def readAeSection : ℕ → ByteReader StorageEntry
  | 0 => throw recursionLimitMessage
  | lim + 1 => readAeBody (readValueSection lim) .sections lim

/-- `read_se<section>()`. -/
def readSeSection : ℕ → ByteReader StorageEntry
  | 0 => throw recursionLimitMessage
  | lim + 1 => StorageEntry.object <$> readSection lim

/-- `load_storage_array_entry(type)`: the element type with the array flag cleared. -/
def loadStorageArrayEntry (entType : UInt8) : ℕ → ByteReader StorageEntry
  | 0 => throw recursionLimitMessage
  | lim + 1 =>
    let elemType := entType &&& ~~~serializeFlagArray
    match SerializeType.ofCode? elemType with
    | some .int64 => readAe (readValue Pod.int64) .int64 lim
    | some .int32 => readAe (readValue Pod.int32) .int32 lim
    | some .int16 => readAe (readValue Pod.int16) .int16 lim
    | some .int8 => readAe (readValue Pod.int8) .int8 lim
    | some .uint64 => readAe (readValue Pod.uint64) .uint64 lim
    | some .uint32 => readAe (readValue Pod.uint32) .uint32 lim
    | some .uint16 => readAe (readValue Pod.uint16) .uint16 lim
    | some .uint8 => readAe (readValue Pod.uint8) .uint8 lim
    | some .double => readAe (readValue Pod.double) .double lim
    | some .bool => readAe (readValue Pod.bool) .bool lim
    | some .string => readAe readValueString .string lim
    | some .object => readAeSection lim
    | some .array => readAe readValueArray .arrays lim
    | none => throw s!"unknown entry_type code = {elemType}"

/-- `read_se<array_entry>()`, reached by the type code `SERIALIZE_TYPE_ARRAY` without the
flag: a second type byte, which must carry the flag. -/
def readSeArray : ℕ → ByteReader StorageEntry
  | 0 => throw recursionLimitMessage
  | lim + 1 => do
    let entType ← readPod Pod.uint8 lim
    if entType &&& serializeFlagArray ≠ 0 then loadStorageArrayEntry entType lim
    else throw "wrong type sequenses"

/-- `load_storage_entry()`. -/
def loadStorageEntry : ℕ → ByteReader StorageEntry
  | 0 => throw recursionLimitMessage
  | lim + 1 => do
    let entType ← readPod Pod.uint8 lim
    if entType &&& serializeFlagArray ≠ 0 then loadStorageArrayEntry entType lim
    else
      match SerializeType.ofCode? entType with
      | some .int64 => readSe Pod.int64 .int64 lim
      | some .int32 => readSe Pod.int32 .int32 lim
      | some .int16 => readSe Pod.int16 .int16 lim
      | some .int8 => readSe Pod.int8 .int8 lim
      | some .uint64 => readSe Pod.uint64 .uint64 lim
      | some .uint32 => readSe Pod.uint32 .uint32 lim
      | some .uint16 => readSe Pod.uint16 .uint16 lim
      | some .uint8 => readSe Pod.uint8 .uint8 lim
      | some .double => readSe Pod.double .double lim
      | some .bool => readSe Pod.bool .bool lim
      | some .string => readSeString lim
      | some .object => readSeSection lim
      | some .array => readSeArray lim
      | none => throw s!"unknown entry_type code = {entType}"
end

/-- The copy of `read_ae<section>()` inside the recursion is the template's instance. -/
theorem readAeSection_eq (lim : ℕ) : readAeSection lim = readAe readValueSection .sections lim := by
  cases lim <;> rfl

end Bittube.Epee.Serialization

import Bittube.Epee.PortableStorageBase

/-!
# Writing a section (`storages/portable_storage_to_bin.h`)

`pack_entry_to_buff` writes a section as the varint count of its entries, then each entry in the
map's order: one byte for the name's length, the name, and the value. A value is its type code
and its bytes; an array is its element type's code with `SERIALIZE_FLAG_ARRAY`, the varint count
of its elements, and the elements. A varint is the count shifted left by two, with the two low
bits giving the width of the little-endian word that holds it (`pack_varint`).

The writer throws for a name of 255 bytes or more, and for a count above `2^62 - 1`;
`store_to_binary` then returns `false`. Here each writer returns `Except String`. The stream is
only ever appended to, so a writer's output is the list of its bytes.

The loops over a section's entries and over an array's sections are written out as functions of
their own (`packEntries`, `packSections`, `packArrays`), each equal to `List.flatMapM` of the
loop's body.
-/

namespace Bittube.Epee.Serialization

open ByteReader

variable {α : Type}

/-- `pack_varint_t<pack_value>(strm, type_or, pv)`: `pv << 2` cut to the `size` bytes of
`pack_value`, the mark in the two low bits, written little-endian. -/
def packVarintT (size typeOr pv : ℕ) : List UInt8 :=
  leBytes size ((pv <<< 2) % 256 ^ size ||| typeOr)

/-- `pack_varint(strm, val)`: the narrowest of the four widths that holds the value. -/
def packVarint (val : ℕ) : Except String (List UInt8) :=
  if val ≤ 63 then .ok (packVarintT 1 portableRawSizeMarkByte val)
  else if val ≤ 16383 then .ok (packVarintT 2 portableRawSizeMarkWord val)
  else if val ≤ 1073741823 then .ok (packVarintT 4 portableRawSizeMarkDword val)
  else if val ≤ 4611686018427387903 then .ok (packVarintT 8 portableRawSizeMarkInt64 val)
  else .error s!"failed to pack varint - too big amount = {val}"

/-- `put_string(strm, v)`: the length as a varint, then the bytes. -/
def putString (v : List UInt8) : Except String (List UInt8) := do
  let n ← packVarint v.length
  pure (n ++ v)

/-- `storage_entry_store_visitor::pack_pod_type(type, v)`. -/
def packPodType (type : UInt8) (c : Pod α) (v : α) : List UInt8 :=
  type :: leBytes c.size (c.toBits v)

/-- `array_entry_store_visitor::pack_pod_array_type(contained_type, arr_pod)`. -/
def packPodArrayType (containedType : UInt8) (c : Pod α) (arr : List α) :
    Except String (List UInt8) := do
  let n ← packVarint arr.length
  pure ((containedType ||| serializeFlagArray) :: n ++ arr.flatMap fun x => leBytes c.size (c.toBits x))

mutual
/-- `pack_entry_to_buff(strm, storage_entry)`, which applies `storage_entry_store_visitor`. An
array is written by the array visitor, with no type byte of its own. -/
def packEntryToBuff : StorageEntry → Except String (List UInt8)
  | .uint64 v => .ok (packPodType SerializeType.uint64.code Pod.uint64 v)
  | .uint32 v => .ok (packPodType SerializeType.uint32.code Pod.uint32 v)
  | .uint16 v => .ok (packPodType SerializeType.uint16.code Pod.uint16 v)
  | .uint8 v => .ok (packPodType SerializeType.uint8.code Pod.uint8 v)
  | .int64 v => .ok (packPodType SerializeType.int64.code Pod.int64 v)
  | .int32 v => .ok (packPodType SerializeType.int32.code Pod.int32 v)
  | .int16 v => .ok (packPodType SerializeType.int16.code Pod.int16 v)
  | .int8 v => .ok (packPodType SerializeType.int8.code Pod.int8 v)
  | .double v => .ok (packPodType SerializeType.double.code Pod.double v)
  | .bool v => .ok (packPodType SerializeType.bool.code Pod.bool v)
  | .string v => do
    let s ← putString v
    pure (SerializeType.string.code :: s)
  | .object s => do
    let b ← packSectionToBuff s
    pure (SerializeType.object.code :: b)
  | .array a => packArrayEntryToBuff a

/-- `pack_entry_to_buff(strm, array_entry)`, which applies `array_entry_store_visitor`. -/
def packArrayEntryToBuff : ArrayEntry → Except String (List UInt8)
  | .uint64 l => packPodArrayType SerializeType.uint64.code Pod.uint64 l
  | .uint32 l => packPodArrayType SerializeType.uint32.code Pod.uint32 l
  | .uint16 l => packPodArrayType SerializeType.uint16.code Pod.uint16 l
  | .uint8 l => packPodArrayType SerializeType.uint8.code Pod.uint8 l
  | .int64 l => packPodArrayType SerializeType.int64.code Pod.int64 l
  | .int32 l => packPodArrayType SerializeType.int32.code Pod.int32 l
  | .int16 l => packPodArrayType SerializeType.int16.code Pod.int16 l
  | .int8 l => packPodArrayType SerializeType.int8.code Pod.int8 l
  | .double l => packPodArrayType SerializeType.double.code Pod.double l
  | .bool l => packPodArrayType SerializeType.bool.code Pod.bool l
  | .string l => do
    let n ← packVarint l.length
    let b ← l.flatMapM putString
    pure ((SerializeType.string.code ||| serializeFlagArray) :: n ++ b)
  | .sections l => do
    let n ← packVarint l.length
    let b ← packSections l
    pure ((SerializeType.object.code ||| serializeFlagArray) :: n ++ b)
  | .arrays l => do
    let n ← packVarint l.length
    let b ← packArrays l
    pure ((SerializeType.array.code ||| serializeFlagArray) :: n ++ b)

/-- `pack_entry_to_buff(strm, section)`. -/
def packSectionToBuff : Section → Except String (List UInt8)
  | .mk entries => do
    let n ← packVarint entries.length
    let b ← packEntries entries
    pure (n ++ b)

/-- One turn of the loop of `pack_entry_to_buff(strm, section)`. -/
def packSectionPair : List UInt8 × StorageEntry → Except String (List UInt8)
  | (name, e) =>
    let len := name.length
    if len < 255 then do
      let b ← packEntryToBuff e
      pure (len.toUInt8 :: name ++ b)
    else .error s!"storage_entry_name is too long: {len}"

/-- The loop over the entries of a section. -/
def packEntries : List (List UInt8 × StorageEntry) → Except String (List UInt8)
  | [] => pure []
  | x :: l => do
    let b ← packSectionPair x
    let r ← packEntries l
    pure (b ++ r)

/-- The loop over the sections of an `array_entry_t<section>`. -/
def packSections : List Section → Except String (List UInt8)
  | [] => pure []
  | s :: l => do
    let b ← packSectionToBuff s
    let r ← packSections l
    pure (b ++ r)

/-- The loop over the arrays of an `array_entry_t<array_entry>`. -/
def packArrays : List ArrayEntry → Except String (List UInt8)
  | [] => pure []
  | a :: l => do
    let b ← packArrayEntryToBuff a
    let r ← packArrays l
    pure (b ++ r)
end

theorem packEntries_eq (l : List (List UInt8 × StorageEntry)) :
    packEntries l = l.flatMapM packSectionPair := by
  induction l with
  | nil => rfl
  | cons x l ih => simp [packEntries, ih]

theorem packSections_eq (l : List Section) : packSections l = l.flatMapM packSectionToBuff := by
  induction l with
  | nil => rfl
  | cons s l ih => simp [packSections, ih]

theorem packArrays_eq (l : List ArrayEntry) : packArrays l = l.flatMapM packArrayEntryToBuff := by
  induction l with
  | nil => rfl
  | cons a l ih => simp [packArrays, ih]

/-! ### What a writer that succeeded wrote -/

/-- `pack_varint` throws above `2^62 - 1`. -/
theorem le_varintMax_of_packVarint {v : ℕ} {b : List UInt8} (h : packVarint v = .ok b) :
    v ≤ varintMax := by
  unfold packVarint at h
  split_ifs at h with h1 h2 h3 h4
  · unfold varintMax
    omega
  · unfold varintMax
    omega
  · unfold varintMax
    omega
  · exact h4

theorem packSectionPair_eq_ok {x : List UInt8 × StorageEntry} {c : List UInt8}
    (h : packSectionPair x = .ok c) :
    x.1.length < 255 ∧ ∃ b, packEntryToBuff x.2 = .ok b ∧ c = x.1.length.toUInt8 :: x.1 ++ b := by
  obtain ⟨name, e⟩ := x
  simp only [packSectionPair] at h
  split_ifs at h with hname
  · obtain ⟨b, hb, hc⟩ := except_bind_eq_ok.mp h
    cases hc
    exact ⟨hname, b, hb, rfl⟩

theorem packSectionToBuff_eq_ok {entries : List (List UInt8 × StorageEntry)} {b : List UInt8}
    (h : packSectionToBuff (.mk entries) = .ok b) :
    ∃ nb eb, packVarint entries.length = .ok nb ∧ entries.flatMapM packSectionPair = .ok eb ∧
      b = nb ++ eb := by
  simp only [packSectionToBuff, packEntries_eq] at h
  obtain ⟨nb, hnb, h⟩ := except_bind_eq_ok.mp h
  obtain ⟨eb, heb, hb⟩ := except_bind_eq_ok.mp h
  cases hb
  exact ⟨nb, eb, hnb, heb, rfl⟩

/-- An array, as the writer writes it: the flagged type byte, the count and the elements, each
element written by `w`. -/
theorem packArray_eq_ok {β : Type} {x : Except String (List UInt8)} {w : β → Except String (List UInt8)}
    {l : List β} {type : UInt8} {b : List UInt8}
    (hx : x = l.flatMapM w)
    (h : (do
      let n ← packVarint l.length
      let b ← x
      pure ((type ||| serializeFlagArray) :: n ++ b)) = .ok b) :
    ∃ nb eb, packVarint l.length = .ok nb ∧ l.flatMapM w = .ok eb ∧
      b = (type ||| serializeFlagArray) :: nb ++ eb := by
  obtain ⟨nb, hnb, h⟩ := except_bind_eq_ok.mp h
  obtain ⟨eb, heb, hb⟩ := except_bind_eq_ok.mp h
  cases hb
  exact ⟨nb, eb, hnb, hx ▸ heb, rfl⟩

theorem packPodArrayType_eq_ok {containedType : UInt8} {c : Pod α} {arr : List α} {b : List UInt8}
    (h : packPodArrayType containedType c arr = .ok b) :
    ∃ nb eb, packVarint arr.length = .ok nb ∧
      arr.flatMapM (fun x => (.ok (leBytes c.size (c.toBits x)) : Except String (List UInt8))) =
        .ok eb ∧ b = (containedType ||| serializeFlagArray) :: nb ++ eb := by
  obtain ⟨nb, hnb, hb⟩ := except_bind_eq_ok.mp h
  cases hb
  exact ⟨nb, _, hnb, flatMapM_ok _ arr, rfl⟩

end Bittube.Epee.Serialization

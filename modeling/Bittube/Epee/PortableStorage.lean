import Bittube.Epee.PortableStorageRoundTrip

/-!
# The portable storage as a whole (`storages/portable_storage.h`)

`store_to_binary` writes a nine-byte `storage_block_header`, the two signatures and the format
version, then the root section. `load_from_binary` checks the size, the signatures and the
version, and reads the root section with a fresh `throwable_buffer_reader`, whose recursion
counter starts at zero; the reader refuses an empty buffer. Both catch every exception and
return `false`, which is `none` here. Bytes after the root section are not looked at.

A section that passes the writer's and the reader's checks,
its sections nested at most fifteen deep, is stored, and loaded back as the same section: the
same names, the same alternative for every value, the same element type for every array (empty
ones included), and the same integers, strings, bools and double bit patterns. The budget of
ninety-nine guards covers `10 + 5 * 15`.
-/

namespace Bittube.Epee.Serialization

open ByteReader

/-- `sizeof(storage_block_header)`: two `uint32_t` and a `uint8_t`, packed. -/
def storageBlockHeaderSize : ℕ := 9

/-- The `storage_block_header` that `store_to_binary` writes. -/
def storageBlockHeader : List UInt8 :=
  leBytes 4 portableStorageSignatureA ++ leBytes 4 portableStorageSignatureB ++
    [portableStorageFormatVer]

/-- `portable_storage::store_to_binary(target)`: `none` where it returns `false`. -/
def storeToBinary (root : Section) : Option (List UInt8) :=
  match packSectionToBuff root with
  | .ok bytes => some (storageBlockHeader ++ bytes)
  | .error _ => none

/-- `portable_storage::load_from_binary(source)`: the root section read, or `none` where it
returns `false`. -/
def loadFromBinary (source : List UInt8) : Option Section :=
  if source.length < storageBlockHeaderSize then none
  else if leValue (source.take 4) ≠ portableStorageSignatureA ∨
      leValue ((source.drop 4).take 4) ≠ portableStorageSignatureB then none
  else if source[8]? ≠ some portableStorageFormatVer then none
  else
    let body := source.drop storageBlockHeaderSize
    -- the constructor of `throwable_buffer_reader` throws on an empty buffer
    if body = [] then none
    else
      match (readSection (recursionLimit - 1)).run body with
      | .ok (root, _) => some root
      | .error _ => none

theorem storageBlockHeader_eq : storageBlockHeader = [1, 17, 1, 1, 1, 1, 2, 1, 1] := by
  decide

/-- After its own header, `load_from_binary` reads the root section off the rest. -/
theorem loadFromBinary_header {b : List UInt8} (hb : b ≠ []) :
    loadFromBinary (storageBlockHeader ++ b) =
      match (readSection (recursionLimit - 1)).run b with
      | .ok (root, _) => some root
      | .error _ => none := by
  rw [storageBlockHeader_eq]
  simp [loadFromBinary, storageBlockHeaderSize, hb, leValue, Nat.ofDigits_cons,
    portableStorageSignatureA, portableStorageSignatureB, portableStorageFormatVer]

theorem load_from_binary_store_to_binary {s : Section} (hs : s.storableWithin 15 = true) :
    ∃ bytes, storeToBinary s = some bytes ∧ loadFromBinary bytes = some s := by
  obtain ⟨b, hb, hr⟩ := readSection_packSectionToBuff 15 s hs
  refine ⟨storageBlockHeader ++ b, by simp [storeToBinary, hb], ?_⟩
  have hread := hr (recursionLimit - 1) (by decide) []
  rw [List.append_nil] at hread
  rw [loadFromBinary_header (packSectionToBuff_ne_nil hb), hread]

/-- A section with a number, a nested section holding a string, an array of one empty section
and an empty array of strings. -/
theorem load_from_binary_store_to_binary_nested :
    let s : Section := .mk [([97], .uint64 5), ([98], .object (.mk [([99], .string [104, 105])])),
      ([100], .array (.sections [.mk []])), ([101], .array (.string []))]
    s.storableWithin 15 = true ∧ ∃ bytes, storeToBinary s = some bytes ∧ loadFromBinary bytes = some s :=
  ⟨by decide, load_from_binary_store_to_binary (by decide)⟩

end Bittube.Epee.Serialization

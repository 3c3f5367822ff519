import Bittube.Lib.FixedRadix
import Bittube.Epee.IntUtil
import Bittube.Common.Varint
import Bittube.Crypto.Types

/-!
# Base58 (`common/base58.cpp`)

The codec cuts its input into blocks of 8 bytes and writes each block, read as a big-endian
number, as 11 base-58 characters; a last partial block of `k` bytes takes
`encoded_block_sizes[k]` characters, the least number of base-58 digits that holds every
`k`-byte value. The decoder inverts this block by block. It accepts only the lengths that
occur as encoded sizes, only characters of the alphabet, and only digit strings whose value
fits the block: the sum is checked for 64-bit overflow through `mul128`, and a partial block
must stay below `2 ^ (8 * res_size)`.

Each block is one instance of the fixed-width radix bijection of `FixedRadix`: the encoder
takes the low base-58 digits of the block's value, the decoder folds them back. The overflow
checks are what make the decoder injective: they reject exactly the digit strings whose value
does not fit the block, so every accepted string is the encoding of what it decodes to.
`encode_addr` prefixes a varint tag and appends four bytes of
`cn_fast_hash` as a checksum; the hash is a parameter of the model.
-/

namespace Bittube.Common.Base58

open FixedRadix Bittube.Epee.IntUtil Bittube.Common.Varint Bittube.Crypto

/-- `alphabet`, as the bytes of its characters. -/
def alphabet : List UInt8 :=
  "123456789ABCDEFGHJKLMNPQRSTUVWXYZabcdefghijkmnopqrstuvwxyz".toList.map
    (fun c => c.toNat.toUInt8)

/-- `alphabet_size`. -/
def alphabetSize : ℕ := 58

/-- `encoded_block_sizes`: the encoded length of a block of `k` bytes. -/
def encodedBlockSizes : List ℕ := [0, 2, 3, 5, 6, 7, 9, 10, 11]

/-- `full_block_size`. -/
def fullBlockSize : ℕ := 8

/-- `full_encoded_block_size`. -/
def fullEncodedBlockSize : ℕ := 11

/-- `addr_checksum_size`. -/
def addrChecksumSize : ℕ := 4

/-- `alphabet[d]`. -/
def alphabetAt (d : ℕ) : UInt8 := alphabet.getD d 0

/-- The table behind `reverse_alphabet`: the position of a character in the alphabet. -/
def digitOf (letter : UInt8) : Option ℕ := alphabet.idxOf? letter

/-- `reverse_alphabet::operator()`: the digit of `letter`, or `-1` outside the alphabet (the
table is indexed by `letter - '1'` and filled with `-1` between alphabet characters). -/
def reverseAlphabet (letter : UInt8) : ℤ := ((digitOf letter).map (↑)).getD (-1)

/-- `decoded_block_sizes::operator()`: the block size whose encoding has `encodedBlockSize`
characters, or `-1` when no block size encodes to that length. -/
def decodedBlockSizes (encodedBlockSize : ℕ) : ℤ :=
  ((encodedBlockSizes.idxOf? encodedBlockSize).map (↑)).getD (-1)

/-- `uint_8be_to_64`: the bytes as a big-endian number. -/
def uint8beTo64 (data : List UInt8) : ℕ := ofDigitsBE 256 (data.map UInt8.toNat)

/-- `uint_64_to_8be(num, size, data)`: the `size` low bytes of `num`, big-endian. -/
def uint64To8be (num size : ℕ) : List UInt8 := (digitsLE 256 size num).reverse.map Nat.toUInt8

/-- The `while (0 < num)` loop of `encode_block`: the character of `num % 58` goes to position
`i` of the block's slot, then `num /= 58` and `--i`. -/
def encodeBlockLoop (num i : ℕ) (res : List UInt8) : List UInt8 :=
  if 0 < num then
    encodeBlockLoop (num / alphabetSize) (i - 1) (res.set i (alphabetAt (num % alphabetSize)))
  else res
termination_by num
decreasing_by
  simp only [alphabetSize]
  omega

/-- `encode_block(block, size, res)`, on the block's own slot of `res`, which `encode` fills
with `alphabet[0]` before any block is written. -/
def encodeBlock (block : List UInt8) : List UInt8 :=
  let encodedSize := encodedBlockSizes.getD block.length 0
  encodeBlockLoop (uint8beTo64 block) (encodedSize - 1)
    (List.replicate encodedSize (alphabetAt 0))

/-- The loop over the full blocks of `encode`. -/
def encodeFullBlocks : ℕ → List UInt8 → List UInt8
  | 0, _ => []
  | n + 1, data =>
      encodeBlock (data.take fullBlockSize) ++ encodeFullBlocks n (data.drop fullBlockSize)

/-- `encode(data)`. -/
def encode (data : List UInt8) : List UInt8 :=
  if data = [] then []
  else
    let fullBlockCount := data.length / fullBlockSize
    let lastBlockSize := data.length % fullBlockSize
    encodeFullBlocks fullBlockCount data ++
      if 0 < lastBlockSize then encodeBlock (data.drop (fullBlockCount * fullBlockSize))
      else []

/-- The `for (size_t i = size - 1; i < size; --i)` loop of `decode_block`, over the characters
from the last one to the first: each digit is multiplied by the current power of 58 through
`mul128`, and the sum is rejected as soon as it leaves 64 bits. -/
def decodeBlockLoop : List UInt8 → ℕ → ℕ → Option ℕ
  | [], resNum, _ => some resNum
  | letter :: rest, resNum, order =>
      let digit := reverseAlphabet letter
      if digit < 0 then none
      else
        let product := mul128 order digit.toNat
        let tmp := (resNum + product.1) % 2 ^ 64
        if tmp < resNum ∨ product.2 ≠ 0 then none
        else decodeBlockLoop rest tmp (order * alphabetSize % 2 ^ 64)

/-- `decode_block(block, size, res)`. -/
def decodeBlock (block : List UInt8) : Option (List UInt8) :=
  let resSize := decodedBlockSizes block.length
  if resSize ≤ 0 then none
  else
    match decodeBlockLoop block.reverse 0 1 with
    | none => none
    | some resNum =>
        if resSize.toNat < fullBlockSize ∧ 2 ^ (8 * resSize.toNat) ≤ resNum then none
        else some (uint64To8be resNum resSize.toNat)

/-- The loop over the full blocks of `decode`, stopping at the first block that fails. -/
def decodeFullBlocks : ℕ → List UInt8 → Option (List UInt8)
  | 0, _ => some []
  | n + 1, enc => do
      let block ← decodeBlock (enc.take fullEncodedBlockSize)
      let rest ← decodeFullBlocks n (enc.drop fullEncodedBlockSize)
      some (block ++ rest)

/-- `decode(enc, data)`: `none` where the source returns `false`. -/
def decode (enc : List UInt8) : Option (List UInt8) :=
  if enc = [] then some []
  else
    let fullBlockCount := enc.length / fullEncodedBlockSize
    let lastBlockSize := enc.length % fullEncodedBlockSize
    if decodedBlockSizes lastBlockSize < 0 then none
    else do
      let full ← decodeFullBlocks fullBlockCount enc
      let last ← if 0 < lastBlockSize then
          decodeBlock (enc.drop (fullBlockCount * fullEncodedBlockSize))
        else some []
      some (full ++ last)

section Addr

variable (cnFastHash : List UInt8 → Hash)

/-- `encode_addr(tag, data)`: varint tag, data, and the first four bytes of the hash of both. -/
def encodeAddr (tag : UInt64) (data : List UInt8) : List UInt8 :=
  let buf := writeVarint tag.toNat ++ data
  encode (buf ++ (cnFastHash buf).data.take addrChecksumSize)

/-- `decode_addr(addr, tag, data)`: `none` where the source returns `false`. -/
def decodeAddr (addr : List UInt8) : Option (UInt64 × List UInt8) :=
  match decode addr with
  | none => none
  | some addrData =>
      if addrData.length ≤ addrChecksumSize then none
      else
        let checksum := addrData.drop (addrData.length - addrChecksumSize)
        let addrData := addrData.take (addrData.length - addrChecksumSize)
        let expectedChecksum := (cnFastHash addrData).data.take addrChecksumSize
        if expectedChecksum ≠ checksum then none
        else
          let read := readVarint 64 addrData
          if read.1 ≤ 0 then none
          else some (UInt64.ofNat read.2.1, addrData.drop read.1.toNat)

end Addr

/-! ### The alphabet and the size tables -/

theorem length_alphabet : alphabet.length = alphabetSize := by decide

theorem digitOf_alphabetAt : ∀ d, d < alphabetSize → digitOf (alphabetAt d) = some d := by
  decide

theorem alphabetAt_of_digitOf {letter : UInt8} {d : ℕ} (h : digitOf letter = some d) :
    alphabetAt d = letter ∧ d < alphabetSize := by
  have htable : ∀ n, n < 256 →
      ((digitOf n.toUInt8).all fun d => alphabetAt d = n.toUInt8 ∧ d < alphabetSize) = true := by
    decide +kernel
  have hl := htable letter.toNat letter.toNat_lt
  simp only [Nat.toUInt8_eq, UInt8.ofNat_toNat, h, Option.all_some, decide_eq_true_eq] at hl
  exact hl

theorem reverseAlphabet_alphabetAt {d : ℕ} (hd : d < alphabetSize) :
    reverseAlphabet (alphabetAt d) = d := by
  simp [reverseAlphabet, digitOf_alphabetAt d hd]

theorem reverseAlphabet_eq (letter : UInt8) :
    reverseAlphabet letter < 0 ∧ digitOf letter = none ∨
      ∃ d, digitOf letter = some d ∧ reverseAlphabet letter = d := by
  cases h : digitOf letter with
  | none => exact Or.inl ⟨by simp [reverseAlphabet, h], rfl⟩
  | some d => exact Or.inr ⟨d, rfl, by simp [reverseAlphabet, h]⟩

/-- The size tables are inverse on the sizes that occur: a block of `k ≤ 8` bytes encodes to
`encodedBlockSizes[k]` characters, and only those lengths decode, to `k` bytes. -/
theorem decodedBlockSizes_encoded :
    ∀ k, k ≤ fullBlockSize → decodedBlockSizes (encodedBlockSizes.getD k 0) = k := by
  decide

theorem encodedBlockSizes_decoded :
    ∀ n, n ≤ fullEncodedBlockSize → 0 < decodedBlockSizes n →
      encodedBlockSizes.getD (decodedBlockSizes n).toNat 0 = n ∧
        (decodedBlockSizes n).toNat ≤ fullBlockSize := by
  decide

/-- Every `k`-byte value fits the `encodedBlockSizes[k]` base-58 digits reserved for it. -/
theorem pow_256_le_pow_58 :
    ∀ k, k ≤ fullBlockSize → 256 ^ k ≤ 58 ^ encodedBlockSizes.getD k 0 := by
  decide

theorem encodedBlockSizes_le :
    ∀ k, k ≤ fullBlockSize → encodedBlockSizes.getD k 0 ≤ fullEncodedBlockSize := by
  decide

theorem encodedBlockSizes_lt :
    ∀ k, k < fullBlockSize → encodedBlockSizes.getD k 0 < fullEncodedBlockSize := by
  decide

theorem decodedBlockSizes_lt :
    ∀ n, n < fullEncodedBlockSize → decodedBlockSizes n < fullBlockSize := by
  decide

theorem encodedBlockSizes_pos :
    ∀ k, k ≤ fullBlockSize → 0 < k → 0 < encodedBlockSizes.getD k 0 := by
  decide

/-! ### Big-endian words -/

theorem toNat_lt_of_mem (data : List UInt8) : ∀ d ∈ data.map UInt8.toNat, d < 256 := by
  intro d hd
  obtain ⟨x, _, rfl⟩ := List.mem_map.mp hd
  exact x.toNat_lt

theorem uint8beTo64_lt (data : List UInt8) : uint8beTo64 data < 256 ^ data.length := by
  have h := ofDigitsBE_lt (by norm_num) (toNat_lt_of_mem data)
  simpa [uint8beTo64] using h

theorem uint64To8be_uint8beTo64 (data : List UInt8) :
    uint64To8be (uint8beTo64 data) data.length = data := by
  have h := digitsLE_ofDigitsBE (data.map UInt8.toNat) (toNat_lt_of_mem data)
  rw [List.length_map] at h
  simp only [uint64To8be, uint8beTo64, h, List.map_map]
  conv_rhs => rw [← List.map_id data]
  apply List.map_congr_left
  intro x _
  simp

theorem uint8beTo64_uint64To8be {num size : ℕ} (h : num < 256 ^ size) :
    uint8beTo64 (uint64To8be num size) = num := by
  -- every digit is below 256, so the byte conversion loses nothing
  have hmap : (digitsLE 256 size num).reverse.map (UInt8.toNat ∘ Nat.toUInt8) =
      (digitsLE 256 size num).reverse := by
    conv_rhs => rw [← List.map_id (digitsLE 256 size num).reverse]
    apply List.map_congr_left
    intro d hd
    simp only [Function.comp, toNat_toUInt8, id]
    exact Nat.mod_eq_of_lt (lt_of_mem_digitsLE (by norm_num) (List.mem_reverse.mp hd))
  simp only [uint8beTo64, uint64To8be, List.map_map, hmap]
  exact ofDigitsBE_digitsLE_of_lt h

theorem length_uint64To8be (num size : ℕ) : (uint64To8be num size).length = size := by
  simp [uint64To8be]

/-! ### One block -/

theorem set_replicate_append {α : Type*} (a c : α) (i : ℕ) (tail : List α) :
    (List.replicate (i + 1) a ++ tail).set i c = List.replicate i a ++ c :: tail := by
  rw [List.replicate_succ', List.append_assoc, List.set_append_right _ _ (by simp)]
  simp

theorem encodeBlockLoop_zero (i : ℕ) (res : List UInt8) : encodeBlockLoop 0 i res = res := by
  rw [encodeBlockLoop, if_neg (Nat.lt_irrefl 0)]

/-- The loop of `encode_block` writes the `i + 1` low base-58 digits of `num`, most significant
first, over a slot still filled with `alphabet[0]`. -/
theorem encodeBlockLoop_eq (num i : ℕ) (tail : List UInt8) (h : num < alphabetSize ^ (i + 1)) :
    encodeBlockLoop num i (List.replicate (i + 1) (alphabetAt 0) ++ tail) =
      (digitsLE alphabetSize (i + 1) num).reverse.map alphabetAt ++ tail := by
  -- strong induction on `num`, the measure of the loop
  induction num using Nat.strong_induction_on generalizing i tail with
  | _ num ih =>
    rw [encodeBlockLoop]
    split_ifs with hpos
    · rw [set_replicate_append]
      cases i with
      | zero =>
        have hdiv : num / alphabetSize = 0 := Nat.div_eq_of_lt (by simpa using h)
        simp [hdiv, encodeBlockLoop_zero]
      | succ j =>
        have hlt : num / alphabetSize < alphabetSize ^ (j + 1) := by
          rw [Nat.div_lt_iff_lt_mul (by simp [alphabetSize]), ← pow_succ]
          exact h
        rw [Nat.add_sub_cancel, ih _ (Nat.div_lt_self hpos (by simp [alphabetSize])) j _ hlt,
          digitsLE_succ]
        simp
    · have hnum : num = 0 := by omega
      subst hnum
      simp [digitsLE_zero_right, List.replicate_succ']

theorem encodedSize_pos {block : List UInt8} (h1 : 0 < block.length)
    (h8 : block.length ≤ fullBlockSize) : 0 < encodedBlockSizes.getD block.length 0 :=
  encodedBlockSizes_pos _ h8 h1

/-- `encode_block` on a block of one to eight bytes: the base-58 digits of its big-endian value,
as many as `encoded_block_sizes` reserves. -/
theorem encodeBlock_eq {block : List UInt8} (h1 : 0 < block.length)
    (h8 : block.length ≤ fullBlockSize) :
    encodeBlock block =
      (digitsLE alphabetSize (encodedBlockSizes.getD block.length 0) (uint8beTo64 block)).reverse.map
        alphabetAt := by
  have hpos := encodedSize_pos h1 h8
  have hfit : uint8beTo64 block < alphabetSize ^ (encodedBlockSizes.getD block.length 0 - 1 + 1) := by
    rw [Nat.sub_add_cancel hpos]
    exact lt_of_lt_of_le (uint8beTo64_lt block) (pow_256_le_pow_58 _ h8)
  have h := encodeBlockLoop_eq (uint8beTo64 block) _ [] hfit
  rw [Nat.sub_add_cancel hpos, List.append_nil, List.append_nil] at h
  exact h

theorem length_encodeBlock {block : List UInt8} (h1 : 0 < block.length)
    (h8 : block.length ≤ fullBlockSize) :
    (encodeBlock block).length = encodedBlockSizes.getD block.length 0 := by
  simp [encodeBlock_eq h1 h8]

/-- The decoding loop on the characters of a digit string (least significant first), from the
running sum `r` and the weight `58 ^ j`: it returns the full sum exactly when that fits 64 bits.
Every partial product and partial sum is below the full sum, so the source's two overflow tests
fail together with the last one. -/
theorem decodeBlockLoop_map (ds : List ℕ) (hds : ∀ d ∈ ds, d < alphabetSize) (r j : ℕ)
    (hr : r < 2 ^ 64) (hj : j + ds.length ≤ fullEncodedBlockSize) :
    decodeBlockLoop (ds.map alphabetAt) r (alphabetSize ^ j % 2 ^ 64) =
      if r + alphabetSize ^ j * Nat.ofDigits alphabetSize ds < 2 ^ 64 then
        some (r + alphabetSize ^ j * Nat.ofDigits alphabetSize ds)
      else none := by
  -- induction on the digits, carrying the running sum and the weight
  induction ds generalizing r j with
  | nil =>
    simp only [List.map_nil, decodeBlockLoop, Nat.ofDigits_nil, mul_zero, add_zero, if_pos hr]
  | cons d ds ih =>
    have hd : d < alphabetSize := hds d (List.mem_cons_self ..)
    have hj10 : j ≤ 10 := by simp only [List.length_cons, fullEncodedBlockSize] at hj; omega
    have horder : alphabetSize ^ j < 2 ^ 64 :=
      lt_of_le_of_lt (Nat.pow_le_pow_right (by simp [alphabetSize]) hj10) (by simp [alphabetSize])
    obtain ⟨hmul, hlo, -⟩ := mul128_spec horder (show d < 2 ^ 64 by simp [alphabetSize] at hd; omega)
    have hsum : r + alphabetSize ^ j * Nat.ofDigits alphabetSize (d :: ds) =
        r + alphabetSize ^ j * d + alphabetSize ^ (j + 1) * Nat.ofDigits alphabetSize ds := by
      rw [Nat.ofDigits_cons, pow_succ]
      ring
    simp only [List.map_cons, decodeBlockLoop, reverseAlphabet_alphabetAt hd,
      Nat.mod_eq_of_lt horder, Int.toNat_natCast]
    rw [if_neg (by omega), hsum]
    by_cases hhi : (mul128 (alphabetSize ^ j) d).2 = 0
    · -- no high word: the product is exact, and the sum overflows or the loop goes on
      rw [hhi, zero_mul, zero_add] at hmul
      rw [hmul]
      by_cases hover : 2 ^ 64 ≤ r + alphabetSize ^ j * d
      · rw [if_pos (Or.inl ((add_wrap_lt_iff hr (hmul ▸ hlo)).mpr hover)), if_neg (by omega)]
      · have htmp : (r + alphabetSize ^ j * d) % 2 ^ 64 = r + alphabetSize ^ j * d :=
          Nat.mod_eq_of_lt (by omega)
        rw [htmp, if_neg (by simp [hhi]), ← pow_succ, ih (fun d hd => hds d (by simp [hd]))
          _ (j + 1) (by omega) (by simp only [List.length_cons] at hj; omega)]
    · -- a high word: the product alone leaves 64 bits
      have hbig : 2 ^ 64 ≤ alphabetSize ^ j * d := by
        have : 1 ≤ (mul128 (alphabetSize ^ j) d).2 := Nat.one_le_iff_ne_zero.mpr hhi
        nlinarith
      rw [if_pos (Or.inr hhi), if_neg (by omega)]

/-- The loop started as `decode_block` starts it, on a string of alphabet characters. -/
theorem decodeBlockLoop_digits (ds : List ℕ) (hds : ∀ d ∈ ds, d < alphabetSize)
    (hlen : ds.length ≤ fullEncodedBlockSize) :
    decodeBlockLoop (ds.map alphabetAt) 0 1 =
      if Nat.ofDigits alphabetSize ds < 2 ^ 64 then some (Nat.ofDigits alphabetSize ds)
      else none := by
  have h := decodeBlockLoop_map ds hds 0 0 (by norm_num) (by omega)
  simpa using h

/-- The loop only accepts alphabet characters. -/
theorem decodeBlockLoop_some {letters : List UInt8} {r order v : ℕ}
    (h : decodeBlockLoop letters r order = some v) :
    ∃ ds : List ℕ, letters = ds.map alphabetAt ∧ ∀ d ∈ ds, d < alphabetSize := by
  induction letters generalizing r order with
  | nil => exact ⟨[], rfl, by simp⟩
  | cons letter rest ih =>
    simp only [decodeBlockLoop] at h
    rcases reverseAlphabet_eq letter with ⟨hneg, -⟩ | ⟨d, hd, hrev⟩
    · rw [if_pos hneg] at h
      exact absurd h (by simp)
    · rw [hrev, if_neg (by omega)] at h
      split_ifs at h
      obtain ⟨ds, hds, hlt⟩ := ih h
      obtain ⟨hat, hd58⟩ := alphabetAt_of_digitOf hd
      refine ⟨d :: ds, by simp [hat, hds], ?_⟩
      intro x hx
      rcases List.mem_cons.mp hx with rfl | hx
      · exact hd58
      · exact hlt x hx

theorem le_of_decodedBlockSizes_pos {n : ℕ} (h : 0 < decodedBlockSizes n) :
    n ≤ fullEncodedBlockSize := by
  by_contra hn
  have hnone : encodedBlockSizes.idxOf? n = none := by
    rw [List.idxOf?_eq_none_iff]
    simp [encodedBlockSizes, fullEncodedBlockSize] at hn ⊢
    omega
  simp [decodedBlockSizes, hnone] at h

/-- `decode_block` undoes `encode_block`. -/
theorem decodeBlock_encodeBlock {block : List UInt8} (h1 : 0 < block.length)
    (h8 : block.length ≤ fullBlockSize) : decodeBlock (encodeBlock block) = some block := by
  set n := encodedBlockSizes.getD block.length 0 with hn
  set v := uint8beTo64 block with hv
  have hlen : (encodeBlock block).length = n := length_encodeBlock h1 h8
  have hsize : decodedBlockSizes n = block.length := decodedBlockSizes_encoded _ h8
  have hvlt : v < 256 ^ block.length := uint8beTo64_lt block
  have hvn : v < alphabetSize ^ n := lt_of_lt_of_le hvlt (pow_256_le_pow_58 _ h8)
  have hv64 : v < 2 ^ 64 :=
    lt_of_lt_of_le hvlt ((Nat.pow_le_pow_right (by norm_num) h8).trans (by norm_num [fullBlockSize]))
  have hdigits : ∀ d ∈ digitsLE alphabetSize n v, d < alphabetSize :=
    fun d hd => lt_of_mem_digitsLE (by simp [alphabetSize]) hd
  have hloop : decodeBlockLoop (encodeBlock block).reverse 0 1 = some v := by
    rw [encodeBlock_eq h1 h8, ← List.map_reverse, List.reverse_reverse,
      decodeBlockLoop_digits _ hdigits (by simp; exact encodedBlockSizes_le _ h8),
      ofDigits_digitsLE_of_lt hvn, if_pos hv64]
  -- a partial block of `k` bytes holds less than `2 ^ (8 * k)`
  have hpartial : ¬(block.length < fullBlockSize ∧ 2 ^ (8 * block.length) ≤ v) := by
    have h256 : (2 : ℕ) ^ (8 * block.length) = 256 ^ block.length := by
      rw [pow_mul]
      norm_num
    omega
  simp only [decodeBlock, hlen, hsize, hloop, Int.toNat_natCast]
  rw [if_neg (by omega), if_neg hpartial, hv, uint64To8be_uint8beTo64]

/-- What `decode_block` accepts is an encoding: the decoded bytes encode back to the block,
and there are as many as `decoded_block_sizes` says. -/
theorem encodeBlock_decodeBlock {block out : List UInt8} (h : decodeBlock block = some out) :
    out.length = (decodedBlockSizes block.length).toNat ∧ 0 < out.length ∧
      encodeBlock out = block := by
  simp only [decodeBlock] at h
  split_ifs at h with hsize
  split at h
  · exact absurd h (by simp)
  next resNum hloop =>
    split_ifs at h with hpartial
    simp only [Option.some.injEq] at h
    subst h
    obtain ⟨ds, hds, hlt⟩ := decodeBlockLoop_some hloop
    have hblock := le_of_decodedBlockSizes_pos (by omega : 0 < decodedBlockSizes block.length)
    have hdslen : ds.length = block.length := by
      rw [← List.length_map alphabetAt, ← hds, List.length_reverse]
    obtain ⟨henc, hk8⟩ := encodedBlockSizes_decoded _ hblock (by omega)
    set k := (decodedBlockSizes block.length).toNat with hk
    rw [hds, decodeBlockLoop_digits ds hlt (by omega)] at hloop
    split_ifs at hloop with h64
    simp only [Option.some.injEq] at hloop
    subst hloop
    -- the value fits `k` bytes: by the partial-block test, or by 64 bits for a full block
    have hfit : Nat.ofDigits alphabetSize ds < 256 ^ k := by
      rcases Nat.lt_or_ge k fullBlockSize with hlt8 | hge8
      · have := not_and.mp hpartial hlt8
        rw [pow_mul] at this
        simpa using this
      · have hk : k = 8 := by simp only [fullBlockSize] at hk8 hge8; omega
        rw [hk]
        simpa using h64
    have hout := length_uint64To8be (Nat.ofDigits alphabetSize ds) k
    refine ⟨hout, by omega, ?_⟩
    rw [encodeBlock_eq (by omega) (by omega), hout, uint8beTo64_uint64To8be hfit, henc,
      ← hdslen, digitsLE_ofDigits ds hlt, List.map_reverse, ← hds, List.reverse_reverse]

/-! ### Whole strings -/

theorem length_encodeFullBlocks (n : ℕ) (data : List UInt8) (h : n * fullBlockSize ≤ data.length) :
    (encodeFullBlocks n data).length = n * fullEncodedBlockSize := by
  induction n generalizing data with
  | zero => rfl
  | succ n ih =>
    have htake : (data.take fullBlockSize).length = fullBlockSize := by
      simp only [List.length_take, fullBlockSize] at h ⊢; rw [Nat.succ_mul] at h; omega
    rw [encodeFullBlocks, List.length_append, length_encodeBlock (by rw [htake]; simp [fullBlockSize])
      (by omega), htake, ih _ (by simp only [List.length_drop]; rw [Nat.succ_mul] at h; omega)]
    have h11 : encodedBlockSizes.getD fullBlockSize 0 = fullEncodedBlockSize := rfl
    rw [h11, Nat.succ_mul, Nat.add_comm]

/-- The full blocks read only the first `n * 8` bytes. -/
theorem encodeFullBlocks_append (n : ℕ) (data tail : List UInt8)
    (h : n * fullBlockSize ≤ data.length) :
    encodeFullBlocks n (data ++ tail) = encodeFullBlocks n data := by
  induction n generalizing data with
  | zero => rfl
  | succ n ih =>
    rw [Nat.succ_mul] at h
    rw [encodeFullBlocks, encodeFullBlocks, List.take_append_of_le_length (by omega),
      List.drop_append_of_le_length (by omega), ih _ (by simp only [List.length_drop]; omega)]

theorem decodeFullBlocks_encodeFullBlocks (n : ℕ) (data tail : List UInt8)
    (h : n * fullBlockSize ≤ data.length) :
    decodeFullBlocks n (encodeFullBlocks n data ++ tail) = some (data.take (n * fullBlockSize)) := by
  -- induction on the block count: each step decodes the block the encoder wrote first
  induction n generalizing data with
  | zero => rfl
  | succ n ih =>
    rw [Nat.succ_mul] at h
    have htake : (data.take fullBlockSize).length = fullBlockSize := by
      simp only [List.length_take]; omega
    have h1 : 0 < (data.take fullBlockSize).length := by rw [htake]; simp [fullBlockSize]
    have hblock : (encodeBlock (data.take fullBlockSize)).length = fullEncodedBlockSize := by
      rw [length_encodeBlock h1 htake.le, htake]
      rfl
    have hdrop : n * fullBlockSize ≤ (data.drop fullBlockSize).length := by
      simp only [List.length_drop]; omega
    rw [encodeFullBlocks, List.append_assoc, decodeFullBlocks,
      List.take_append_of_le_length hblock.ge, List.take_of_length_le hblock.le,
      decodeBlock_encodeBlock h1 htake.le, List.drop_append_of_le_length hblock.ge,
      List.drop_of_length_le hblock.le, List.nil_append, ih _ hdrop]
    simp only [Option.bind_eq_bind, Option.bind_some, Nat.succ_mul]
    rw [← List.take_add, Nat.add_comm]

theorem encodeFullBlocks_decodeFullBlocks {n : ℕ} {enc out : List UInt8}
    (h : decodeFullBlocks n enc = some out) (hlen : n * fullEncodedBlockSize ≤ enc.length) :
    out.length = n * fullBlockSize ∧
      encodeFullBlocks n out = enc.take (n * fullEncodedBlockSize) := by
  induction n generalizing enc out with
  | zero =>
    simp only [decodeFullBlocks, Option.some.injEq] at h
    subst h
    exact ⟨rfl, rfl⟩
  | succ n ih =>
    rw [Nat.succ_mul] at hlen
    simp only [decodeFullBlocks, Option.bind_eq_bind] at h
    obtain ⟨block, hblock, h⟩ := Option.bind_eq_some_iff.mp h
    obtain ⟨rest, hrest, h⟩ := Option.bind_eq_some_iff.mp h
    simp only [Option.some.injEq] at h
    subst h
    have htake : (enc.take fullEncodedBlockSize).length = fullEncodedBlockSize := by
      simp only [List.length_take]; omega
    obtain ⟨hbl, -, henc⟩ := encodeBlock_decodeBlock hblock
    have hb8 : block.length = fullBlockSize := by rw [hbl, htake]; rfl
    obtain ⟨hrl, hre⟩ := ih hrest (by simp only [List.length_drop]; omega)
    refine ⟨by rw [List.length_append, hb8, hrl, Nat.succ_mul, Nat.add_comm], ?_⟩
    rw [encodeFullBlocks, List.take_append_of_le_length hb8.ge, List.take_of_length_le hb8.le,
      List.drop_append_of_le_length hb8.ge, List.drop_of_length_le hb8.le, List.nil_append, henc,
      hre, Nat.succ_mul, Nat.add_comm, List.take_add]

/-- `encode` without its test for the empty string, which the general case already covers. -/
theorem encode_eq (data : List UInt8) :
    encode data = encodeFullBlocks (data.length / fullBlockSize) data ++
      if 0 < data.length % fullBlockSize then
        encodeBlock (data.drop (data.length / fullBlockSize * fullBlockSize))
      else [] := by
  unfold encode
  split_ifs with hd <;> simp_all [fullBlockSize, encodeFullBlocks]

/-- The encoding of the last, partial block. -/
theorem length_encodeLast (data : List UInt8) :
    (if 0 < data.length % fullBlockSize then
        encodeBlock (data.drop (data.length / fullBlockSize * fullBlockSize))
      else []).length = encodedBlockSizes.getD (data.length % fullBlockSize) 0 := by
  have hdrop : (data.drop (data.length / fullBlockSize * fullBlockSize)).length =
      data.length % fullBlockSize := by
    rw [List.length_drop, Nat.mod_eq_sub_div_mul]
  split_ifs with hr
  · rw [length_encodeBlock (by omega) (by rw [hdrop]; exact (Nat.mod_lt _ (by decide)).le), hdrop]
  · rw [show data.length % fullBlockSize = 0 by omega]
    rfl

theorem length_encode (data : List UInt8) :
    (encode data).length = data.length / fullBlockSize * fullEncodedBlockSize +
      encodedBlockSizes.getD (data.length % fullBlockSize) 0 := by
  rw [encode_eq, List.length_append, length_encodeFullBlocks _ _ (Nat.div_mul_le_self _ _),
    length_encodeLast]

/-- `decode` undoes `encode`. -/
theorem decode_encode (data : List UInt8) : decode (encode data) = some data := by
  set q := data.length / fullBlockSize with hq
  set r := data.length % fullBlockSize with hr
  have hr8 : r < fullBlockSize := Nat.mod_lt _ (by decide)
  have hqle : q * fullBlockSize ≤ data.length := Nat.div_mul_le_self _ _
  have hsmall := encodedBlockSizes_lt r hr8
  have hlen := length_encode data
  rw [← hq, ← hr] at hlen
  by_cases hd : data = []
  · subst hd
    rfl
  have hne : encode data ≠ [] := by
    intro h
    rw [h, List.length_nil] at hlen
    have hr0 : r = 0 := by
      by_contra hr0
      have := encodedBlockSizes_pos r hr8.le (by omega)
      omega
    have hq0 : q = 0 := by
      rcases Nat.eq_zero_or_pos q with hq0 | hq0
      · exact hq0
      · simp [fullEncodedBlockSize] at hlen; omega
    exact hd (List.eq_nil_of_length_eq_zero (by rw [← Nat.div_add_mod data.length fullBlockSize]; simp [← hq, ← hr, hq0, hr0]))
  have hdiv : (encode data).length / fullEncodedBlockSize = q := by
    rw [hlen, Nat.add_comm, Nat.add_mul_div_right _ _ (by decide), Nat.div_eq_of_lt hsmall,
      Nat.zero_add]
  have hmod : (encode data).length % fullEncodedBlockSize = encodedBlockSizes.getD r 0 := by
    rw [hlen, Nat.add_comm, Nat.add_mul_mod_self_right, Nat.mod_eq_of_lt hsmall]
  have hsize : decodedBlockSizes (encodedBlockSizes.getD r 0) = r :=
    decodedBlockSizes_encoded r hr8.le
  unfold decode
  simp only [if_neg hne, hdiv, hmod, hsize]
  rw [if_neg (by omega)]
  have hfull := length_encodeFullBlocks q data hqle
  have hdrop : (data.drop (q * fullBlockSize)).length = r := by
    rw [List.length_drop, hq, hr, Nat.mod_eq_sub_div_mul]
  rw [encode_eq, ← hq, ← hr, decodeFullBlocks_encodeFullBlocks q data _ hqle, Option.bind_eq_bind,
    Option.bind_some, ← hfull, List.drop_left]
  by_cases hr0 : 0 < r
  · -- a partial last block: it decodes to the bytes it was encoded from
    rw [if_pos (encodedBlockSizes_pos r hr8.le hr0), if_pos hr0,
      decodeBlock_encodeBlock (by omega) (by omega), Option.bind_some, List.take_append_drop]
  · -- no last block: the full blocks cover the data
    have hr0 : r = 0 := by omega
    have hsplit : q * fullBlockSize + r = data.length := Nat.div_add_mod' _ _
    have htake : data.take (q * fullBlockSize) = data := List.take_of_length_le (by omega)
    simp [hr0, htake, encodedBlockSizes]

/-- `encode` of full blocks followed by a partial block of `k < 8` bytes. -/
theorem encode_append_last (full last : List UInt8) (q : ℕ)
    (hfull : full.length = q * fullBlockSize) (hlast : last.length < fullBlockSize) :
    encode (full ++ last) = encodeFullBlocks q full ++
      if 0 < last.length then encodeBlock last else [] := by
  have hlen : (full ++ last).length = q * fullBlockSize + last.length := by
    rw [List.length_append, hfull]
  have hdiv : (full ++ last).length / fullBlockSize = q := by
    rw [hlen, Nat.add_comm, Nat.add_mul_div_right _ _ (by decide), Nat.div_eq_of_lt hlast,
      Nat.zero_add]
  have hmod : (full ++ last).length % fullBlockSize = last.length := by
    rw [hlen, Nat.add_comm, Nat.add_mul_mod_self_right, Nat.mod_eq_of_lt hlast]
  rw [encode_eq, hdiv, hmod, encodeFullBlocks_append _ _ _ hfull.ge, ← hfull, List.drop_left]

/-- What `decode` accepts is an encoding: the decoded bytes encode back to the input. -/
theorem encode_decode {enc data : List UInt8} (h : decode enc = some data) : encode data = enc := by
  by_cases he : enc = []
  · subst he
    simp only [decode, if_pos, Option.some.injEq] at h
    subst h
    rfl
  set q := enc.length / fullEncodedBlockSize with hq
  set m := enc.length % fullEncodedBlockSize with hm
  have hsplit : q * fullEncodedBlockSize + m = enc.length := Nat.div_add_mod' _ _
  have hm11 : m < fullEncodedBlockSize := Nat.mod_lt _ (by decide)
  simp only [decode, if_neg he, ← hq, ← hm] at h
  by_cases hneg : decodedBlockSizes m < 0
  · rw [if_pos hneg] at h
    exact absurd h (by simp)
  rw [if_neg hneg] at h
  obtain ⟨full, hfull, h⟩ := Option.bind_eq_some_iff.mp h
  obtain ⟨hfl, hfe⟩ := encodeFullBlocks_decodeFullBlocks hfull (by omega)
  by_cases hm0 : 0 < m
  · -- a partial last block: it decodes to fewer than eight bytes, which encode back to it
    rw [if_pos hm0] at h
    obtain ⟨last, hlast, h⟩ := Option.bind_eq_some_iff.mp h
    simp only [Option.some.injEq] at h
    subst h
    obtain ⟨hll, hlpos, hle⟩ := encodeBlock_decodeBlock hlast
    have hdrop : (enc.drop (q * fullEncodedBlockSize)).length = m := by
      rw [List.length_drop]; omega
    rw [hdrop] at hll
    have hk := decodedBlockSizes_lt m hm11
    rw [encode_append_last full last q hfl (by omega), if_pos hlpos, hle, hfe,
      List.take_append_drop]
  · -- no last block: the full blocks were the whole input
    simp only [if_neg hm0, Option.bind_eq_bind, Option.bind_some, List.append_nil,
      Option.some.injEq] at h
    subst h
    rw [← List.append_nil full, encode_append_last full [] q hfl (by decide), List.length_nil,
      if_neg (Nat.lt_irrefl 0), List.append_nil, hfe, List.take_of_length_le (by omega)]

/-! ### Addresses -/

section Addr

variable (cnFastHash : List UInt8 → Hash)

theorem length_checksum (buf : List UInt8) :
    ((cnFastHash buf).data.take addrChecksumSize).length = addrChecksumSize := by
  simp [(cnFastHash buf).size_eq, addrChecksumSize]

/-- `decode_addr` undoes `encode_addr`: the checksum matches, and the tag's varint is read back
in front of the data. -/
theorem decodeAddr_encodeAddr (tag : UInt64) (data : List UInt8) :
    decodeAddr cnFastHash (encodeAddr cnFastHash tag data) = some (tag, data) := by
  set buf := writeVarint tag.toNat ++ data with hbuf
  have hchk := length_checksum cnFastHash buf
  have hlen : (buf ++ (cnFastHash buf).data.take addrChecksumSize).length - addrChecksumSize =
      buf.length := by
    rw [List.length_append, hchk, Nat.add_sub_cancel]
  have hvpos : 0 < (writeVarint tag.toNat).length :=
    List.length_pos_of_ne_nil (writeVarint_ne_nil tag.toNat)
  have hread : readVarint 64 buf = (((writeVarint tag.toNat).length : ℤ), tag.toNat, data) :=
    readVarint_writeVarint 64 tag.toNat tag.toNat_lt data
  simp only [decodeAddr, encodeAddr, ← hbuf, decode_encode, hlen, List.drop_left, List.take_left,
    hread]
  rw [if_neg (by rw [List.length_append, hchk, hbuf, List.length_append]; omega),
    if_neg (not_not.mpr rfl), if_neg (by omega), hbuf, Int.toNat_natCast, List.drop_left,
    UInt64.ofNat_toNat]

theorem length_encodeAddr (tag : UInt64) (data : List UInt8) :
    (encodeAddr cnFastHash tag data).length =
      ((writeVarint tag.toNat).length + data.length + addrChecksumSize) / fullBlockSize *
          fullEncodedBlockSize +
        encodedBlockSizes.getD
          (((writeVarint tag.toNat).length + data.length + addrChecksumSize) % fullBlockSize) 0 := by
  rw [encodeAddr, length_encode, List.length_append, List.length_append, length_checksum]

end Addr

/-- Base58 is a bijection between byte strings and the strings `decode` accepts, and the
address format round-trips tag and data. -/
theorem base58_roundtrip :
    (∀ data, decode (encode data) = some data) ∧
      (∀ enc data, decode enc = some data → encode data = enc) ∧
      ∀ (cnFastHash : List UInt8 → Hash) (tag : UInt64) (data : List UInt8),
        decodeAddr cnFastHash (encodeAddr cnFastHash tag data) = some (tag, data) :=
  ⟨decode_encode, fun _ _ h => encode_decode h, decodeAddr_encodeAddr⟩

/-- `"11"` is accepted, as the encoding of one zero byte. -/
theorem base58_roundtrip_zero_byte : decode [49, 49] = some [0] ∧ encode [0] = [49, 49] :=
  ⟨by decide, base58_roundtrip.2.1 _ _ (by decide)⟩

end Bittube.Common.Base58

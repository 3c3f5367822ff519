import Bittube.CryptonoteBasic.TxExtra
import Bittube.Lib.KeyGroups
import Mathlib.Data.UInt

/-!
# Building a miner transaction's extra and amounts (`cryptonote_format_utils`)

These are the helpers that `construct_miner_tx` and `validate_miner_transaction` call.
`add_tx_pub_key_to_extra` and `add_extra_nonce_to_tx_extra` append a field's bytes by hand,
without the serializer; the nonce's size goes in as one byte, where the serializer reads a
varint. `sort_tx_extra` parses the extra with the loop of `parse_tx_extra` and writes the fields
back grouped by kind, in a fixed order of kinds. `decompose_amount_into_digits` splits an amount
into its nonzero decimal digits times their place values, low digits first, gathering the low
digits up to a dust threshold into one dust amount, and `is_valid_decomposed_amount` is a binary
search in the table of those digit amounts. `relative_output_offsets_to_absolute` and
`absolute_output_offsets_to_relative` turn the gaps between a ring's output indices into the
indices and back.

An extra holding only a public key is already sorted, and the two offset conversions undo each
other, up to the sort, when the running sums do not wrap.
-/

namespace Bittube.CryptonoteBasic

open Bittube.Crypto Bittube.Serialization

/-- `add_tx_pub_key_to_extra(tx_extra, tx_pub_key)`: the tag `TX_EXTRA_TAG_PUBKEY`, then the
key's bytes. -/
def addTxPubKeyToExtra (txExtra : List UInt8) (txPubKey : PublicKey) : List UInt8 :=
  txExtra ++ 0x01 :: txPubKey.data

/-- The tags in the order of the `pick` calls of `sort_tx_extra`: public key, additional public
keys, nonce, merge-mining tag, minergate, padding. -/
def sortTxExtraOrder : List ℕ := [0x01, 0x04, 0x02, 0x03, 0xDE, 0x00]

/-- `sort_tx_extra(tx_extra, sorted_tx_extra)` with `allow_partial = false`: parse every field
(failing where `parse_tx_extra` fails), then write the fields of each kind in the order of
`sortTxExtraOrder`, keeping their order within a kind. Every kind is picked, so the check that
no field is left always passes. -/
def sortTxExtra (txExtra : List UInt8) : Option (List UInt8) :=
  if txExtra = [] then some []
  else do
    let fields ← parseTxExtra txExtra
    writeTxExtraFields (sortTxExtraOrder.flatMap fun tag => fields.filter (·.tag == tag))

/-- The bytes of `add_tx_pub_key_to_extra` on an empty extra are the serializer's. -/
theorem writeTxExtraFields_pubKey (k : PublicKey) :
    writeTxExtraFields [.pubKey k] = some (addTxPubKeyToExtra [] k) := by
  simp [writeTxExtraFields, writeTxExtraField, writeTxExtraFieldBody, addTxPubKeyToExtra,
    TxExtraField.tag, writeUint]

/-- An extra that holds only a public key is already sorted. -/
theorem sortTxExtra_addTxPubKeyToExtra (k : PublicKey) :
    sortTxExtra (addTxPubKeyToExtra [] k) = some (addTxPubKeyToExtra [] k) := by
  have hparse : parseTxExtra (addTxPubKeyToExtra [] k) = some [.pubKey k] :=
    parseTxExtra_of_write (by simp [TxExtraField.wellFormed]) (by simp)
      (writeTxExtraFields_pubKey k)
  have hne : addTxPubKeyToExtra [] k ≠ [] := by simp [addTxPubKeyToExtra]
  rw [sortTxExtra, if_neg hne, hparse, Option.bind_eq_bind, Option.bind_some]
  simpa [sortTxExtraOrder, TxExtraField.tag] using writeTxExtraFields_pubKey k

/-! ### `sort_tx_extra` is a stable sort by kind -/

/-- The fields in the order the `pick` calls of `sort_tx_extra` write them. -/
def sortTxExtraFields (fields : List TxExtraField) : List TxExtraField :=
  sortTxExtraOrder.flatMap fun tag => fields.filter (·.tag == tag)

/-- The position of a field's kind in the order `sort_tx_extra` is meant to give: public keys,
additional public keys, nonces, merge-mining tags, minergate fields, padding. -/
def TxExtraField.kindRank : TxExtraField → ℕ
  | .pubKey _ => 0
  | .additionalPubKeys _ => 1
  | .nonce _ => 2
  | .mergeMiningTag _ _ => 3
  | .mysteriousMinergate _ => 4
  | .padding _ => 5

theorem kindRank_eq_idxOf_tag (f : TxExtraField) : f.kindRank = sortTxExtraOrder.idxOf f.tag := by
  cases f <;> rfl

theorem nodup_sortTxExtraOrder : sortTxExtraOrder.Nodup := by decide

/-- Every kind is picked. -/
theorem tag_mem_sortTxExtraOrder (f : TxExtraField) : f.tag ∈ sortTxExtraOrder := by
  cases f <;> simp [TxExtraField.tag, sortTxExtraOrder]

theorem sortTxExtra_of_parseTxExtra {x : List UInt8} {fields : List TxExtraField}
    (hx : parseTxExtra x = some fields) :
    sortTxExtra x = writeTxExtraFields (sortTxExtraFields fields) := by
  by_cases hnil : x = []
  · subst hnil
    obtain rfl : fields = [] := by simpa [parseTxExtra] using hx.symm
    rfl
  · rw [sortTxExtra, if_neg hnil, hx, Option.bind_eq_bind, Option.bind_some, sortTxExtraFields]

theorem perm_sortTxExtraFields (fields : List TxExtraField) :
    (sortTxExtraFields fields).Perm fields :=
  KeyGroups.groups_perm TxExtraField.tag nodup_sortTxExtraOrder
    fun f _ => tag_mem_sortTxExtraOrder f

theorem pairwise_sortTxExtraFields (fields : List TxExtraField) :
    (sortTxExtraFields fields).Pairwise fun a b => a.kindRank ≤ b.kindRank := by
  simp only [kindRank_eq_idxOf_tag]
  exact KeyGroups.pairwise_groups TxExtraField.tag nodup_sortTxExtraOrder fields

/-- The fields of one kind keep their order. -/
theorem filter_sortTxExtraFields (fields : List TxExtraField) (t : ℕ) :
    (sortTxExtraFields fields).filter (·.tag == t) = fields.filter (·.tag == t) := by
  rw [sortTxExtraFields, KeyGroups.filter_groups TxExtraField.tag nodup_sortTxExtraOrder]
  split_ifs with ht
  · rfl
  · -- no field has a tag outside the order
    refine (List.filter_eq_nil_iff.2 fun f _ htag => ht ?_).symm
    rw [← beq_iff_eq.1 htag]
    exact tag_mem_sortTxExtraOrder f

theorem sortTxExtraFields_sortTxExtraFields (fields : List TxExtraField) :
    sortTxExtraFields (sortTxExtraFields fields) = sortTxExtraFields fields :=
  KeyGroups.groups_groups TxExtraField.tag nodup_sortTxExtraOrder fields

/-- A list with a padding only as its last field holds at most one padding. -/
theorem length_filter_padding_le {fields : List TxExtraField}
    (hpad : ∀ f ∈ fields.dropLast, f.isPadding = false) :
    (fields.filter (·.tag == 0x00)).length ≤ 1 := by
  rcases eq_or_ne fields [] with rfl | hne
  · simp
  · have hnone : fields.dropLast.filter (·.tag == 0x00) = [] :=
      List.filter_eq_nil_iff.2 fun f hf htag => by
        have hpadding := (TxExtraField.isPadding_iff f).2 (beq_iff_eq.1 htag)
        rw [hpad f hf] at hpadding
        cases hpadding
    rw [← List.dropLast_append_getLast hne, List.filter_append, hnone, List.nil_append]
    exact (List.length_filter_le _ _).trans (Nat.le_refl _)

/-- The padding is written last, so the sorted fields again have a padding only as the last. -/
theorem dropLast_sortTxExtraFields {fields : List TxExtraField}
    (hpad : ∀ f ∈ fields.dropLast, f.isPadding = false) :
    ∀ f ∈ (sortTxExtraFields fields).dropLast, f.isPadding = false := by
  intro f hf
  have hsplit : sortTxExtraFields fields =
      [0x01, 0x04, 0x02, 0x03, 0xDE].flatMap (fun tag => fields.filter (·.tag == tag)) ++
        fields.filter (·.tag == 0x00) := by
    simp [sortTxExtraFields, sortTxExtraOrder]
  have hlast : (fields.filter (·.tag == 0x00)).dropLast = [] :=
    List.eq_nil_of_length_eq_zero (by
      rw [List.length_dropLast]
      have := length_filter_padding_le hpad
      omega)
  -- whether or not there is a padding, `f` is among the other kinds
  have hf' : f ∈ [0x01, 0x04, 0x02, 0x03, 0xDE].flatMap fun tag => fields.filter (·.tag == tag) := by
    rw [hsplit, List.dropLast_append, hlast, List.append_nil] at hf
    split_ifs at hf
    · exact List.mem_of_mem_dropLast hf
    · exact hf
  have htag := ((KeyGroups.mem_groups TxExtraField.tag).1 hf').2
  refine Bool.eq_false_iff.2 fun hpadding => ?_
  have hzero := (TxExtraField.isPadding_iff f).1 hpadding
  simp only [List.mem_cons, List.not_mem_nil, or_false] at htag
  omega

/-- **`sort_tx_extra` is a stable sort by kind.** An extra that `parse_tx_extra` accepts is
sorted into bytes that parse back to a permutation of its fields, ordered by kind as the `pick`
calls go, with the fields of each kind in their old order; sorting those bytes again gives
them back. -/
theorem sort_tx_extra_stable_sort {x : List UInt8} {fields : List TxExtraField}
    (hx : parseTxExtra x = some fields) :
    ∃ y sorted, sortTxExtra x = some y ∧ parseTxExtra y = some sorted ∧ sorted.Perm fields ∧
      sorted.Pairwise (fun a b => a.kindRank ≤ b.kindRank) ∧
      (∀ t, sorted.filter (·.tag == t) = fields.filter (·.tag == t)) ∧ sortTxExtra y = some y := by
  obtain ⟨hwf, hpad⟩ := parseTxExtra_fields hx
  have hwf' : ∀ f ∈ sortTxExtraFields fields, f.wellFormed = true :=
    fun f hf => hwf f ((KeyGroups.mem_groups TxExtraField.tag).1 hf).1
  obtain ⟨y, hy⟩ := writeTxExtraFields_isSome _ hwf'
  have hparse : parseTxExtra y = some (sortTxExtraFields fields) :=
    parseTxExtra_of_write hwf' (dropLast_sortTxExtraFields hpad) hy
  refine ⟨y, sortTxExtraFields fields, ?_, hparse, perm_sortTxExtraFields fields,
    pairwise_sortTxExtraFields fields, filter_sortTxExtraFields fields, ?_⟩
  · rw [sortTxExtra_of_parseTxExtra hx, hy]
  · rw [sortTxExtra_of_parseTxExtra hparse, sortTxExtraFields_sortTxExtraFields, hy]

/-- A nonce added before the public key: the extra parses, and sorting puts the key first. -/
theorem sort_tx_extra_stable_sort_nonce_then_key :
    parseTxExtra ([0x02, 0x00] ++ addTxPubKeyToExtra [] (Blob.zero 32)) =
        some [.nonce [], .pubKey (Blob.zero 32)] ∧
      ∃ y sorted, sortTxExtra ([0x02, 0x00] ++ addTxPubKeyToExtra [] (Blob.zero 32)) = some y ∧
        parseTxExtra y = some sorted ∧ sorted.Perm [.nonce [], .pubKey (Blob.zero 32)] ∧
        sorted.Pairwise (fun a b => a.kindRank ≤ b.kindRank) ∧
        (∀ t, sorted.filter (·.tag == t) =
          [TxExtraField.nonce [], .pubKey (Blob.zero 32)].filter (·.tag == t)) ∧
        sortTxExtra y = some y := by
  have hw : writeTxExtraFields [.nonce [], .pubKey (Blob.zero 32)] =
      some ([0x02, 0x00] ++ addTxPubKeyToExtra [] (Blob.zero 32)) := by
    simp [writeTxExtraFields, writeTxExtraField, writeTxExtraFieldBody, writeTxExtraNonce,
      writeString, Bittube.Common.Varint.writeVarint_of_lt, writeUint, TxExtraField.tag,
      txExtraNonceMaxCount, addTxPubKeyToExtra]
  have hx := parseTxExtra_of_write (by decide) (by decide) hw
  exact ⟨hx, sort_tx_extra_stable_sort hx⟩

section Decompose

variable {β : Type*}

/-- The `while (0 != amount)` loop of `decompose_amount_into_digits`: each round hands its chunk
to `chunkHandler`, and the dust once to `dustHandler`, whose calls fold the pieces into `acc`
in order; it returns `acc` with the final dust and whether it was handed over. `fuel` bounds the
rounds; since each round divides the amount by ten, `amount` rounds are enough. The place value
`order` is a `uint64_t` that wraps only after the last digit of a 64-bit amount has been read,
so it is kept unbounded. -/
def decomposeAmountLoop (dustThreshold : ℕ) (chunkHandler dustHandler : ℕ → β → β) :
    ℕ → ℕ → ℕ → ℕ → Bool → β → β × ℕ × Bool
  | 0, _, _, dust, isDustHandled, acc => (acc, dust, isDustHandled)
  | fuel + 1, amount, order, dust, isDustHandled, acc =>
    if amount = 0 then (acc, dust, isDustHandled)
    else
      let chunk := amount % 10 * order
      if dust + chunk ≤ dustThreshold then
        decomposeAmountLoop dustThreshold chunkHandler dustHandler fuel (amount / 10)
          (order * 10) (dust + chunk) isDustHandled acc
      else
        let flush := !isDustHandled && dust != 0
        let acc := if flush then dustHandler dust acc else acc
        let acc := if chunk ≠ 0 then chunkHandler chunk acc else acc
        decomposeAmountLoop dustThreshold chunkHandler dustHandler fuel (amount / 10)
          (order * 10) dust (isDustHandled || flush) acc

/-- `decompose_amount_into_digits(amount, dust_threshold, chunk_handler, dust_handler)`, the
handlers' calls folded into `acc`. -/
def decomposeAmountIntoDigits (amount dustThreshold : ℕ) (chunkHandler dustHandler : ℕ → β → β)
    (acc : β) : β :=
  if amount = 0 then acc
  else
    let r := decomposeAmountLoop dustThreshold chunkHandler dustHandler amount amount 1 0 false acc
    if !r.2.2 && r.2.1 != 0 then dustHandler r.2.1 r.1 else r.1

/-- Handlers that a map carries to other handlers give the mapped result. -/
theorem decomposeAmountLoop_map {γ : Type*} (φ : β → γ) (dustThreshold : ℕ)
    {chunkHandler dustHandler : ℕ → β → β} (chunkHandler' dustHandler' : ℕ → γ → γ)
    (hchunk : ∀ c b, φ (chunkHandler c b) = chunkHandler' c (φ b))
    (hdust : ∀ d b, φ (dustHandler d b) = dustHandler' d (φ b)) :
    ∀ fuel amount order dust isDustHandled acc,
      (φ (decomposeAmountLoop dustThreshold chunkHandler dustHandler fuel amount order dust
          isDustHandled acc).1,
        (decomposeAmountLoop dustThreshold chunkHandler dustHandler fuel amount order dust
          isDustHandled acc).2) =
      decomposeAmountLoop dustThreshold chunkHandler' dustHandler' fuel amount order dust
        isDustHandled (φ acc)
  | 0, _, _, _, _, _ => rfl
  | fuel + 1, amount, order, dust, isDustHandled, acc => by
    simp only [decomposeAmountLoop]
    split_ifs <;>
      simp only [decomposeAmountLoop_map φ dustThreshold chunkHandler' dustHandler' hchunk hdust,
        hchunk, hdust]

theorem decomposeAmountIntoDigits_map {γ : Type*} (φ : β → γ) (dustThreshold : ℕ)
    {chunkHandler dustHandler : ℕ → β → β} (chunkHandler' dustHandler' : ℕ → γ → γ)
    (hchunk : ∀ c b, φ (chunkHandler c b) = chunkHandler' c (φ b))
    (hdust : ∀ d b, φ (dustHandler d b) = dustHandler' d (φ b)) (amount : ℕ) (acc : β) :
    φ (decomposeAmountIntoDigits amount dustThreshold chunkHandler dustHandler acc) =
      decomposeAmountIntoDigits amount dustThreshold chunkHandler' dustHandler' (φ acc) := by
  unfold decomposeAmountIntoDigits
  by_cases h0 : amount = 0
  · rw [if_pos h0, if_pos h0]
  rw [if_neg h0, if_neg h0,
    ← decomposeAmountLoop_map φ dustThreshold chunkHandler' dustHandler' hchunk hdust]
  dsimp only
  split_ifs
  · exact hdust _ _
  · rfl

end Decompose

/-! ### What the decomposition hands over -/

/-- One piece `decompose_amount_into_digits` hands over: a chunk to the chunk handler, or the
dust to the dust handler. -/
inductive AmountPiece where
  | chunk (amount : ℕ)
  | dust (amount : ℕ)
  deriving DecidableEq, Repr

namespace AmountPiece

/-- The amount a piece carries. -/
def amount : AmountPiece → ℕ
  | .chunk a => a
  | .dust a => a

/-- The chunks among some pieces, in order. -/
def chunks (ps : List AmountPiece) : List ℕ :=
  ps.filterMap fun
    | .chunk a => some a
    | .dust _ => none

/-- The dust among some pieces, in order. -/
def dusts (ps : List AmountPiece) : List ℕ :=
  ps.filterMap fun
    | .chunk _ => none
    | .dust a => some a

@[simp] theorem chunks_nil : chunks [] = [] := rfl
@[simp] theorem dusts_nil : dusts [] = [] := rfl

@[simp] theorem chunks_append (ps qs : List AmountPiece) :
    chunks (ps ++ qs) = chunks ps ++ chunks qs := List.filterMap_append

@[simp] theorem dusts_append (ps qs : List AmountPiece) :
    dusts (ps ++ qs) = dusts ps ++ dusts qs := List.filterMap_append

@[simp] theorem chunks_cons_chunk (ps : List AmountPiece) (a : ℕ) :
    chunks (.chunk a :: ps) = a :: chunks ps := rfl

@[simp] theorem chunks_cons_dust (ps : List AmountPiece) (a : ℕ) :
    chunks (.dust a :: ps) = chunks ps := rfl

@[simp] theorem dusts_cons_chunk (ps : List AmountPiece) (a : ℕ) :
    dusts (.chunk a :: ps) = dusts ps := rfl

@[simp] theorem dusts_cons_dust (ps : List AmountPiece) (a : ℕ) :
    dusts (.dust a :: ps) = a :: dusts ps := rfl

end AmountPiece

/-- The pieces `decompose_amount_into_digits` hands over, in order, tagged by handler. -/
def decomposedPieces (amount dustThreshold : ℕ) : List AmountPiece :=
  decomposeAmountIntoDigits amount dustThreshold (fun c ps => ps ++ [.chunk c])
    (fun d ps => ps ++ [.dust d]) []

/-- Both handlers pushing onto one vector, as `construct_miner_tx` calls it, give the pieces'
amounts. -/
theorem decomposeAmountIntoDigits_push (amount dustThreshold : ℕ) :
    decomposeAmountIntoDigits amount dustThreshold (fun c outs => outs ++ [c])
        (fun d outs => outs ++ [d]) [] =
      (decomposedPieces amount dustThreshold).map AmountPiece.amount := by
  rw [decomposedPieces, decomposeAmountIntoDigits_map (List.map AmountPiece.amount) dustThreshold
    (fun c outs => outs ++ [c]) (fun d outs => outs ++ [d])
    (fun _ _ => by simp [AmountPiece.amount]) (fun _ _ => by simp [AmountPiece.amount])]
  rfl

/-- What holds of the loop of `decompose_amount_into_digits` at the start of each round, for
the amount `a` it started from: the place value is a power of ten; what was handed over, the
dust if it is still held and the amount left at its place value make up `a`; the dust is at
most the threshold, and once handed over it stays below the threshold minus the next place
value, so no later nonzero chunk joins it, and it is not zero; the chunks handed over are below the place value,
of the form `d * 10 ^ k` and increasing; and the dust was handed over once, if at all. -/
structure DecomposeInv (dustThreshold a amount order dust : ℕ) (isDustHandled : Bool)
    (ps : List AmountPiece) : Prop where
  order_pow : ∃ k, order = 10 ^ k
  sum : (ps.map AmountPiece.amount).sum + (if isDustHandled then 0 else dust) + amount * order = a
  dust_le : dust ≤ dustThreshold
  handled_lt : isDustHandled = true → dustThreshold < dust + order
  handled_pos : isDustHandled = true → dust ≠ 0
  chunks_lt : ∀ c ∈ AmountPiece.chunks ps, c < order
  chunks_digit : ∀ c ∈ AmountPiece.chunks ps, ∃ d k, 1 ≤ d ∧ d ≤ 9 ∧ c = d * 10 ^ k
  chunks_sorted : (AmountPiece.chunks ps).Pairwise (· < ·)
  dusts_eq : AmountPiece.dusts ps = if isDustHandled then [dust] else []

/-- One round keeps the invariant. -/
theorem DecomposeInv.step {dustThreshold a amount order dust : ℕ} {isDustHandled : Bool}
    {ps : List AmountPiece} (hinv : DecomposeInv dustThreshold a amount order dust isDustHandled ps) :
    let chunk := amount % 10 * order
    if dust + chunk ≤ dustThreshold then
      DecomposeInv dustThreshold a (amount / 10) (order * 10) (dust + chunk) isDustHandled ps
    else
      let flush := !isDustHandled && dust != 0
      let ps' := if flush then ps ++ [.dust dust] else ps
      let ps' := if chunk ≠ 0 then ps' ++ [.chunk chunk] else ps'
      DecomposeInv dustThreshold a (amount / 10) (order * 10) dust (isDustHandled || flush) ps' := by
  intro chunk
  obtain ⟨⟨k, rfl⟩, hsum, hdust, hhandled, hpos, hlt, hdigit, hsorted, hdusts⟩ := hinv
  have hpow : 0 < 10 ^ k := pow_pos (by norm_num) k
  have hdigits : amount * 10 ^ k = chunk + amount / 10 * (10 ^ k * 10) := by
    simp only [chunk]
    conv_lhs => rw [← Nat.div_add_mod amount 10]
    ring
  have hchunk_lt : chunk < 10 ^ k * 10 :=
    calc chunk = amount % 10 * 10 ^ k := rfl
      _ < 10 * 10 ^ k := Nat.mul_lt_mul_of_pos_right (Nat.mod_lt _ (by norm_num)) hpow
      _ = 10 ^ k * 10 := Nat.mul_comm _ _
  -- a nonzero chunk is a digit `1..9` at the current place value
  have hchunk_ge : chunk ≠ 0 → 10 ^ k ≤ chunk := fun hne =>
    Nat.le_mul_of_pos_left _ (Nat.pos_of_ne_zero fun h => hne (by simp only [chunk, h, Nat.zero_mul]))
  by_cases hsmall : dust + chunk ≤ dustThreshold
  · -- the chunk joins the dust; once the dust was handed over, only a zero chunk can
    rw [if_pos hsmall]
    have hzero : isDustHandled = true → chunk = 0 := fun hh => by
      by_contra hne
      have := hhandled hh
      have := hchunk_ge hne
      omega
    refine ⟨⟨k + 1, by rw [pow_succ]⟩, ?_, hsmall, fun hh => ?_, fun hh => ?_, fun c hc => ?_, hdigit,
      hsorted, ?_⟩
    · cases isDustHandled
      · simp only [Bool.false_eq_true, if_false] at hsum ⊢
        omega
      · simp only [if_true] at hsum ⊢
        rw [hzero rfl] at hdigits
        omega
    · have := hhandled hh
      omega
    · have := hpos hh
      omega
    · have := hlt c hc
      omega
    · cases isDustHandled
      · simpa using hdusts
      · simpa [hzero rfl] using hdusts
  · -- the round hands over the dust if it is still held and nonzero, then a nonzero chunk
    rw [if_neg hsmall]
    intro flush ps₁ ps₂
    have hsum₂ : (ps₂.map AmountPiece.amount).sum =
        (ps.map AmountPiece.amount).sum + (if flush = true then dust else 0) + chunk := by
      by_cases hf : flush = true <;> by_cases hc : chunk = 0 <;>
        simp [ps₂, ps₁, hf, hc, AmountPiece.amount, Nat.add_assoc]
    have hchunks₂ : AmountPiece.chunks ps₂ =
        AmountPiece.chunks ps ++ (if chunk ≠ 0 then [chunk] else []) := by
      by_cases hf : flush = true <;> by_cases hc : chunk = 0 <;> simp [ps₂, ps₁, hf, hc]
    have hdusts₂ : AmountPiece.dusts ps₂ =
        AmountPiece.dusts ps ++ (if flush = true then [dust] else []) := by
      by_cases hf : flush = true <;> by_cases hc : chunk = 0 <;> simp [ps₂, ps₁, hf, hc]
    refine ⟨⟨k + 1, by rw [pow_succ]⟩, ?_, hdust, fun _ => by omega, fun hh => ?_, fun c hc => ?_, ?_,
      ?_, ?_⟩
    · rw [hsum₂]
      cases isDustHandled <;> by_cases hd : dust = 0 <;> simp [flush, hd] at hsum ⊢ <;> omega
    · -- a dust handed over in this round is nonzero by the test of `flush`
      cases isDustHandled
      · simpa [flush] using hh
      · exact hpos rfl
    · rw [hchunks₂, List.mem_append] at hc
      rcases hc with hc | hc
      · have := hlt c hc
        omega
      · by_cases hne : chunk = 0
        · simp [hne] at hc
        · rw [if_pos hne, List.mem_singleton] at hc
          rw [hc]
          exact hchunk_lt
    · intro c hc
      rw [hchunks₂, List.mem_append] at hc
      rcases hc with hc | hc
      · exact hdigit c hc
      · by_cases hne : chunk = 0
        · simp [hne] at hc
        · rw [if_pos hne, List.mem_singleton] at hc
          rw [hc]
          refine ⟨amount % 10, k, Nat.pos_of_ne_zero fun h => hne ?_, by omega, rfl⟩
          simp only [chunk, h, Nat.zero_mul]
    · rw [hchunks₂]
      by_cases hne : chunk = 0
      · simpa [hne] using hsorted
      · rw [if_pos hne]
        refine List.pairwise_append.2 ⟨hsorted, List.pairwise_singleton _ _, fun c hc c' hc' => ?_⟩
        rw [List.mem_singleton.1 hc']
        have := hlt c hc
        have := hchunk_ge hne
        omega
    · rw [hdusts₂, hdusts]
      cases isDustHandled <;> by_cases hd : dust = 0 <;> simp [flush, hd]

/-- The invariant at the loop's entry: nothing handed over, no dust, the whole amount at place
value one. -/
theorem DecomposeInv.init (dustThreshold a : ℕ) : DecomposeInv dustThreshold a a 1 0 false [] where
  order_pow := ⟨0, rfl⟩
  sum := by simp
  dust_le := Nat.zero_le _
  handled_lt := by simp
  handled_pos := by simp
  chunks_lt := by simp
  chunks_digit := by simp
  chunks_sorted := List.Pairwise.nil
  dusts_eq := rfl

/-- A run of the loop, with the handlers that push tagged pieces, keeps the invariant down to
the amount `0`, given a round for each digit. -/
theorem DecomposeInv.run {dustThreshold a : ℕ} :
    ∀ fuel amount order dust isDustHandled ps, amount ≤ fuel →
      DecomposeInv dustThreshold a amount order dust isDustHandled ps →
      ∃ order', DecomposeInv dustThreshold a 0 order'
        (decomposeAmountLoop dustThreshold (fun c ps => ps ++ [.chunk c])
          (fun d ps => ps ++ [.dust d]) fuel amount order dust isDustHandled ps).2.1
        (decomposeAmountLoop dustThreshold (fun c ps => ps ++ [.chunk c])
          (fun d ps => ps ++ [.dust d]) fuel amount order dust isDustHandled ps).2.2
        (decomposeAmountLoop dustThreshold (fun c ps => ps ++ [.chunk c])
          (fun d ps => ps ++ [.dust d]) fuel amount order dust isDustHandled ps).1
  | 0, amount, order, _, _, _, hfuel, hinv => by
    obtain rfl : amount = 0 := by omega
    exact ⟨order, hinv⟩
  | fuel + 1, amount, order, dust, isDustHandled, ps, hfuel, hinv => by
    by_cases h0 : amount = 0
    · subst h0
      exact ⟨order, hinv⟩
    -- one round divides the amount by ten, so the remaining fuel still covers it
    have hfuel' : amount / 10 ≤ fuel := by omega
    have hstep := hinv.step
    simp only [decomposeAmountLoop, if_neg h0]
    dsimp only at hstep ⊢
    by_cases hsmall : dust + amount % 10 * order ≤ dustThreshold
    · rw [if_pos hsmall] at hstep ⊢
      exact DecomposeInv.run fuel _ _ _ _ _ hfuel' hstep
    · rw [if_neg hsmall] at hstep ⊢
      exact DecomposeInv.run fuel _ _ _ _ _ hfuel' hstep

/-- After the loop, the final hand-over of a dust still held gives pieces that add up to the
amount, with the chunk facts of the invariant and at most one dust, below the threshold and
not zero. -/
theorem DecomposeInv.finish {dustThreshold a order dust : ℕ} {isDustHandled : Bool}
    {ps : List AmountPiece} (hinv : DecomposeInv dustThreshold a 0 order dust isDustHandled ps) :
    let ps' := if !isDustHandled && dust != 0 then ps ++ [.dust dust] else ps
    (ps'.map AmountPiece.amount).sum = a ∧
      (∀ c ∈ AmountPiece.chunks ps', ∃ d k, 1 ≤ d ∧ d ≤ 9 ∧ c = d * 10 ^ k) ∧
      (AmountPiece.chunks ps').Pairwise (· < ·) ∧
      (AmountPiece.dusts ps').length ≤ 1 ∧ (∀ d ∈ AmountPiece.dusts ps', d ≤ dustThreshold) ∧
      ∀ d ∈ AmountPiece.dusts ps', d ≠ 0 := by
  intro ps'
  obtain ⟨-, hsum, hdust, -, hpos, -, hdigit, hsorted, hdusts⟩ := hinv
  have hchunks : AmountPiece.chunks ps' = AmountPiece.chunks ps := by
    by_cases hf : (!isDustHandled && dust != 0) = true <;> simp [ps', hf]
  -- the dust is in the pieces exactly when it was handed over, in the loop or after it
  have hdusts' : AmountPiece.dusts ps' = if isDustHandled || dust != 0 then [dust] else [] := by
    cases isDustHandled <;> by_cases hd : dust = 0 <;> simp_all [ps']
  -- and then it is nonzero: handed over in the loop by `handled_pos`, after it by the test
  have hdust_pos : (isDustHandled || dust != 0) = true → dust ≠ 0 := by
    cases isDustHandled
    · simp
    · exact fun _ => hpos rfl
  refine ⟨?_, hchunks ▸ hdigit, hchunks ▸ hsorted, ?_, fun d hd => ?_, fun d hd => ?_⟩
  · cases isDustHandled <;> by_cases hd : dust = 0 <;> simp_all [ps', AmountPiece.amount]
  · rw [hdusts']
    split_ifs <;> simp
  · rw [hdusts'] at hd
    split_ifs at hd
    · rw [List.mem_singleton.1 hd]
      exact hdust
    · simp at hd
  · rw [hdusts'] at hd
    split_ifs at hd with hheld
    · rw [List.mem_singleton.1 hd]
      exact hdust_pos hheld
    · simp at hd

/-- The facts of `DecomposeInv.finish` for the pieces `decompose_amount_into_digits` hands over. -/
theorem decomposedPieces_finish (amount dustThreshold : ℕ) :
    let ps := decomposedPieces amount dustThreshold
    (ps.map AmountPiece.amount).sum = amount ∧
      (∀ c ∈ AmountPiece.chunks ps, ∃ d k, 1 ≤ d ∧ d ≤ 9 ∧ c = d * 10 ^ k) ∧
      (AmountPiece.chunks ps).Pairwise (· < ·) ∧
      (AmountPiece.dusts ps).length ≤ 1 ∧ (∀ d ∈ AmountPiece.dusts ps, d ≤ dustThreshold) ∧
      ∀ d ∈ AmountPiece.dusts ps, d ≠ 0 := by
  by_cases h0 : amount = 0
  · subst h0
    simp [decomposedPieces, decomposeAmountIntoDigits]
  obtain ⟨_, hinv⟩ :=
    DecomposeInv.run amount amount 1 0 false [] le_rfl (DecomposeInv.init dustThreshold amount)
  simp only [decomposedPieces, decomposeAmountIntoDigits, if_neg h0]
  exact hinv.finish

/-- `decompose_amount_into_digits(a, t, ...)` hands over pieces that add up to `a`: chunks
`d * 10 ^ k` with a digit `d` in `1..9`, in strictly increasing order, and at most one dust,
at most `t`. -/
theorem decomposedPieces_spec (amount dustThreshold : ℕ) :
    let ps := decomposedPieces amount dustThreshold
    (ps.map AmountPiece.amount).sum = amount ∧
      (∀ c ∈ AmountPiece.chunks ps, ∃ d k, 1 ≤ d ∧ d ≤ 9 ∧ c = d * 10 ^ k) ∧
      (AmountPiece.chunks ps).Pairwise (· < ·) ∧
      (AmountPiece.dusts ps).length ≤ 1 ∧ ∀ d ∈ AmountPiece.dusts ps, d ≤ dustThreshold := by
  obtain ⟨hsum, hdigit, hsorted, hlen, hle, -⟩ := decomposedPieces_finish amount dustThreshold
  exact ⟨hsum, hdigit, hsorted, hlen, hle⟩

/-- `valid_decomposed_outputs`: each digit `1..9` times each power of ten up to `10 ^ 18`, then
`10 ^ 19`, in increasing order. -/
def validDecomposedOutputs : List ℕ :=
  ((List.range 19).flatMap fun k => (List.range' 1 9).map (· * 10 ^ k)) ++ [10 ^ 19]

/-- `is_valid_decomposed_amount(amount)`: `std::binary_search` in the sorted table, that is
membership. -/
def isValidDecomposedAmount (amount : ℕ) : Bool := validDecomposedOutputs.contains amount

/-! ## Output offsets

A ring's output indices travel as gaps. `relative_output_offsets_to_absolute` adds them up in
`uint64_t`; `absolute_output_offsets_to_relative` sorts the indices and takes the gaps back, in a
loop that runs down from the last index and stops before index 0, so each gap is taken against
an index the loop has not rewritten yet. -/

/-- `relative_output_offsets_to_absolute(off)`: `res[i] += res[i-1]` for `i` from 1 up. -/
def relativeOutputOffsetsToAbsolute (off : List UInt64) : List UInt64 :=
  (List.range' 1 (off.length - 1)).foldl
    (fun res i => res.set i (res.getD i 0 + res.getD (i - 1) 0)) off

/-- `absolute_output_offsets_to_relative(off)`: nothing for no offsets; otherwise `std::sort`,
then `res[i] -= res[i-1]` for `i` from the last index down to 1. -/
def absoluteOutputOffsetsToRelative (off : List UInt64) : List UInt64 :=
  if off.length = 0 then off
  else
    let res := off.mergeSort fun a b => decide (a ≤ b)
    (List.range' 1 (res.length - 1)).reverse.foldl
      (fun res i => res.set i (res.getD i 0 - res.getD (i - 1) 0)) res

section OutputOffsets

theorem getD_of_lt {l : List UInt64} {j : ℕ} (hj : j < l.length) : l.getD j 0 = l[j] := by
  simp only [List.getD_eq_getElem?_getD, List.getElem?_eq_getElem hj, Option.getD_some]

theorem getD_of_le {l : List UInt64} {j : ℕ} (hj : l.length ≤ j) : l.getD j 0 = 0 := by
  simp only [List.getD_eq_getElem?_getD, List.getElem?_eq_none hj, Option.getD_none]

theorem getD_set_eq (l : List UInt64) (i j : ℕ) (v : UInt64) :
    (l.set i v).getD j 0 = if i = j ∧ i < l.length then v else l.getD j 0 := by
  simp only [List.getD_eq_getElem?_getD, List.getElem?_set]
  by_cases hij : i = j
  · subst hij
    by_cases hi : i < l.length
    · simp [hi]
    · simp [hi]
  · simp [hij]

/-- A loop of `res[i] = ...` over any indices keeps the length. -/
theorem length_foldl_set (g : List UInt64 → ℕ → UInt64) (is : List ℕ) (t : List UInt64) :
    (is.foldl (fun res i => res.set i (g res i)) t).length = t.length := by
  induction is generalizing t with
  | nil => rfl
  | cons i is ih => rw [List.foldl_cons, ih, List.length_set]

theorem eq_of_getD_eq {l₁ l₂ : List UInt64} (hlen : l₁.length = l₂.length)
    (h : ∀ j, l₁.getD j 0 = l₂.getD j 0) : l₁ = l₂ := by
  apply List.ext_getElem hlen
  intro j h₁ h₂
  have hj := h j
  rwa [getD_of_lt h₁, getD_of_lt h₂] at hj

/-- The forward loop after the turns `1..k`: the first `k + 1` offsets are running sums, taken
in `uint64_t`, and the rest are as they came. -/
theorem getD_foldl_runningSum (off : List UInt64) :
    ∀ k, k < off.length → ∀ j, ((List.range' 1 k).foldl
        (fun res i => res.set i (res.getD i 0 + res.getD (i - 1) 0)) off).getD j 0 =
      if j ≤ k then (off.take (j + 1)).sum else off.getD j 0 := by
  intro k
  induction k with
  | zero =>
    intro _ j
    rcases Nat.eq_zero_or_pos j with rfl | hj
    · cases off <;> simp
    · rw [if_neg (by omega)]
      rfl
  | succ k ih =>
    intro hk j
    -- the turn `k + 1` adds the running sum below it to the offset at `k + 1`
    have htop : ((List.range' 1 k).foldl
        (fun res i => res.set i (res.getD i 0 + res.getD (i - 1) 0)) off).getD (1 + k) 0 =
          off.getD (k + 1) 0 := by
      rw [ih (by omega), if_neg (by omega), Nat.add_comm]
    have hbelow : ((List.range' 1 k).foldl
        (fun res i => res.set i (res.getD i 0 + res.getD (i - 1) 0)) off).getD (1 + k - 1) 0 =
          (off.take (k + 1)).sum := by
      rw [ih (by omega), if_pos (by omega), show 1 + k - 1 + 1 = k + 1 by omega]
    have hsum : (off.take (k + 1 + 1)).sum = off.getD (k + 1) 0 + (off.take (k + 1)).sum := by
      rw [List.sum_take_succ _ _ (by omega), getD_of_lt (by omega), add_comm]
    rw [List.range'_concat, Nat.one_mul, List.foldl_append, List.foldl_cons, List.foldl_nil,
      getD_set_eq, length_foldl_set, htop, hbelow, ih (by omega) j]
    by_cases hjk : j = k + 1
    · subst hjk
      rw [if_pos ⟨by omega, by omega⟩, if_pos le_rfl, hsum]
    · rw [if_neg (by omega)]
      by_cases hj : j ≤ k
      · rw [if_pos hj, if_pos (by omega)]
      · rw [if_neg hj, if_neg (by omega)]

/-- The backward loop over the indices `m` down to 1: each of them holds its gap to the index
below, taken before that index was rewritten, and the rest are as they came. -/
theorem getD_foldl_gaps :
    ∀ m (t : List UInt64), m < t.length → ∀ j, ((List.range' 1 m).reverse.foldl
        (fun res i => res.set i (res.getD i 0 - res.getD (i - 1) 0)) t).getD j 0 =
      if 1 ≤ j ∧ j ≤ m then t.getD j 0 - t.getD (j - 1) 0 else t.getD j 0 := by
  intro m
  induction m with
  | zero =>
    intro t _ j
    rw [if_neg (by omega)]
    rfl
  | succ m ih =>
    intro t hm j
    -- the first turn is at the top index `m + 1`; the others never read it
    have hother : ∀ x, x ≠ m + 1 →
        (t.set (1 + m) (t.getD (1 + m) 0 - t.getD (1 + m - 1) 0)).getD x 0 = t.getD x 0 := by
      intro x hx
      rw [getD_set_eq, if_neg (by omega)]
    have htop : (t.set (1 + m) (t.getD (1 + m) 0 - t.getD (1 + m - 1) 0)).getD (m + 1) 0 =
        t.getD (m + 1) 0 - t.getD (m + 1 - 1) 0 := by
      rw [getD_set_eq, if_pos ⟨by omega, by omega⟩, Nat.add_comm]
    rw [List.range'_concat, Nat.one_mul, List.reverse_append, List.reverse_singleton,
      List.singleton_append, List.foldl_cons, ih _ (by rw [List.length_set]; omega)]
    by_cases hj : j = m + 1
    · subst hj
      rw [if_neg (by omega), if_pos ⟨by omega, le_rfl⟩, htop]
    · by_cases hjm : 1 ≤ j ∧ j ≤ m
      · rw [if_pos hjm, if_pos ⟨hjm.1, by omega⟩, hother j hj, hother (j - 1) (by omega)]
      · rw [if_neg hjm, if_neg (by omega), hother j hj]

theorem length_relativeOutputOffsetsToAbsolute (off : List UInt64) :
    (relativeOutputOffsetsToAbsolute off).length = off.length :=
  length_foldl_set _ _ _

/-- Each absolute offset is the running sum of the gaps up to it, in `uint64_t`. -/
theorem getD_relativeOutputOffsetsToAbsolute (off : List UInt64) (j : ℕ) (hj : j < off.length) :
    (relativeOutputOffsetsToAbsolute off).getD j 0 = (off.take (j + 1)).sum := by
  rw [relativeOutputOffsetsToAbsolute, getD_foldl_runningSum off _ (by omega), if_pos (by omega)]

/-- The gaps of a non-empty list: its sorted first index, then each sorted index less the one
before it. -/
theorem getD_absoluteOutputOffsetsToRelative (off : List UInt64) (j : ℕ) (hne : off ≠ []) :
    (absoluteOutputOffsetsToRelative off).getD j 0 =
      if 1 ≤ j ∧ j < off.length then
        (off.mergeSort fun a b => decide (a ≤ b)).getD j 0 -
          (off.mergeSort fun a b => decide (a ≤ b)).getD (j - 1) 0
      else (off.mergeSort fun a b => decide (a ≤ b)).getD j 0 := by
  have hlen : (off.mergeSort fun a b => decide (a ≤ b)).length = off.length :=
    List.length_mergeSort _
  have hpos : 0 < off.length := List.length_pos_iff.2 hne
  rw [absoluteOutputOffsetsToRelative, if_neg (by omega)]
  dsimp only
  rw [getD_foldl_gaps _ _ (by omega), hlen]
  congr 1
  exact propext ⟨fun h => ⟨h.1, by omega⟩, fun h => ⟨h.1, by omega⟩⟩

theorem length_absoluteOutputOffsetsToRelative (off : List UInt64) :
    (absoluteOutputOffsetsToRelative off).length = off.length := by
  rw [absoluteOutputOffsetsToRelative]
  split_ifs
  · rfl
  · dsimp only
    rw [length_foldl_set, List.length_mergeSort]

/-- The running sums in `uint64_t` of a list whose sums stay below `2 ^ 64` are the sums. -/
theorem toNat_sum_of_lt (l : List UInt64) (h : (l.map UInt64.toNat).sum < 2 ^ 64) :
    l.sum.toNat = (l.map UInt64.toNat).sum := by
  induction l with
  | nil => rfl
  | cons a l ih =>
    simp only [List.map_cons, List.sum_cons] at h ⊢
    rw [UInt64.toNat_add, ih (by omega), Nat.mod_eq_of_lt h]

theorem sum_take_succ_getD (l : List UInt64) {j : ℕ} (hj : j < l.length) :
    (l.take (j + 1)).sum = (l.take j).sum + l.getD j 0 := by
  rw [List.sum_take_succ _ _ hj, getD_of_lt hj]

/-- Running sums that do not wrap never decrease. -/
theorem pairwise_runningSums (r : List UInt64)
    (hr : ∀ k, ((r.take k).map UInt64.toNat).sum < 2 ^ 64) :
    (relativeOutputOffsetsToAbsolute r).Pairwise fun a b => decide (a ≤ b) = true := by
  have hlen := length_relativeOutputOffsetsToAbsolute r
  -- each absolute offset is the sum of the gaps up to it, as a number
  have hval : ∀ j (hj : j < (relativeOutputOffsetsToAbsolute r).length),
      ((relativeOutputOffsetsToAbsolute r)[j]).toNat = ((r.take (j + 1)).map UInt64.toNat).sum := by
    intro j hj
    rw [← getD_of_lt hj, getD_relativeOutputOffsetsToAbsolute r j (by omega),
      toNat_sum_of_lt _ (hr (j + 1))]
  rw [List.pairwise_iff_getElem]
  intro i j hi hj hij
  rw [decide_eq_true_iff, UInt64.le_iff_toNat_le, hval i hi, hval j hj]
  exact ((List.take_sublist_take_left (by omega)).map _).sum_le_sum fun _ _ => Nat.zero_le _

/-- Summing the gaps of `s` back from its first element gives `s`: the sums telescope, wrap or
not. -/
theorem sum_take_gaps {s d : List UInt64} (hlen : d.length = s.length)
    (hfirst : d.getD 0 0 = s.getD 0 0)
    (hgap : ∀ j, 1 ≤ j → j < s.length → d.getD j 0 = s.getD j 0 - s.getD (j - 1) 0) :
    ∀ j, j < s.length → (d.take (j + 1)).sum = s.getD j 0 := by
  intro j
  induction j with
  | zero =>
    intro hj
    rw [sum_take_succ_getD d (by omega), List.take_zero, List.sum_nil, zero_add, hfirst]
  | succ j ih =>
    intro hj
    rw [sum_take_succ_getD d (by omega), ih (by omega), hgap (j + 1) (by omega) hj,
      Nat.add_sub_cancel, add_sub_cancel]

end OutputOffsets

theorem output_offsets_roundtrip (r a : List UInt64)
    (hr : ∀ k, ((r.take k).map UInt64.toNat).sum < 2 ^ 64) :
    absoluteOutputOffsetsToRelative (relativeOutputOffsetsToAbsolute r) = r ∧
      relativeOutputOffsetsToAbsolute (absoluteOutputOffsetsToRelative a) =
        a.mergeSort fun x y => decide (x ≤ y) := by
  constructor
  · by_cases hne : r = []
    · subst hne
      rfl
    -- the running sums do not wrap, so they are sorted already and their gaps are `r`
    have hlen := length_relativeOutputOffsetsToAbsolute r
    have hsorted := List.mergeSort_of_pairwise (pairwise_runningSums r hr)
    have hne' : relativeOutputOffsetsToAbsolute r ≠ [] := by
      rw [← List.length_pos_iff, hlen]
      exact List.length_pos_iff.2 hne
    apply eq_of_getD_eq (by rw [length_absoluteOutputOffsetsToRelative, hlen])
    intro j
    rw [getD_absoluteOutputOffsetsToRelative _ j hne', hsorted]
    by_cases hj : j < r.length
    · rw [getD_relativeOutputOffsetsToAbsolute r j hj]
      by_cases hj1 : 1 ≤ j
      · rw [if_pos ⟨hj1, by omega⟩, getD_relativeOutputOffsetsToAbsolute r (j - 1) (by omega),
          Nat.sub_add_cancel hj1, sum_take_succ_getD r hj, add_sub_cancel_left]
      · obtain rfl : j = 0 := by omega
        rw [if_neg (by omega), sum_take_succ_getD r hj, List.take_zero, List.sum_nil, zero_add]
    · rw [if_neg (by omega), getD_of_le (by omega), getD_of_le (by omega)]
  · by_cases hne : a = []
    · subst hne
      rw [List.mergeSort_nil]
      rfl
    -- the gaps of the sorted offsets, summed back
    have hlen : (a.mergeSort fun x y => decide (x ≤ y)).length = a.length := List.length_mergeSort _
    have hgaps := sum_take_gaps (s := a.mergeSort fun x y => decide (x ≤ y))
      (d := absoluteOutputOffsetsToRelative a)
      (by rw [length_absoluteOutputOffsetsToRelative, hlen])
      (by rw [getD_absoluteOutputOffsetsToRelative a 0 hne, if_neg (by omega)])
      (fun j hj1 hj => by rw [getD_absoluteOutputOffsetsToRelative a j hne, if_pos ⟨hj1, by omega⟩])
    apply eq_of_getD_eq (by rw [length_relativeOutputOffsetsToAbsolute,
      length_absoluteOutputOffsetsToRelative, hlen])
    have hlen' : (absoluteOutputOffsetsToRelative a).length = a.length :=
      length_absoluteOutputOffsetsToRelative a
    intro j
    by_cases hj : j < a.length
    · rw [getD_relativeOutputOffsetsToAbsolute _ j (by omega), hgaps j (by omega)]
    · rw [getD_of_le (by rw [length_relativeOutputOffsetsToAbsolute]; omega),
        getD_of_le (by omega)]

/-- Zero gaps, duplicates, and offsets next to `2 ^ 64`. -/
theorem output_offsets_roundtrip_near_top :
    (∀ k, (([18446744073709551614, 0, 1] : List UInt64).take k |>.map UInt64.toNat).sum <
        2 ^ 64) ∧
      absoluteOutputOffsetsToRelative
          (relativeOutputOffsetsToAbsolute [18446744073709551614, 0, 1]) =
        [18446744073709551614, 0, 1] ∧
      relativeOutputOffsetsToAbsolute
          (absoluteOutputOffsetsToRelative [18446744073709551615, 0, 18446744073709551615]) =
        ([18446744073709551615, 0, 18446744073709551615] : List UInt64).mergeSort
          fun x y => decide (x ≤ y) := by
  have hr : ∀ k, (([18446744073709551614, 0, 1] : List UInt64).take k |>.map UInt64.toNat).sum <
      2 ^ 64 := by
    intro k
    rw [List.map_take]
    calc ((([18446744073709551614, 0, 1] : List UInt64).map UInt64.toNat).take k).sum
        ≤ (([18446744073709551614, 0, 1] : List UInt64).map UInt64.toNat).sum :=
          (List.take_sublist _ _).sum_le_sum fun _ _ => Nat.zero_le _
      _ < 2 ^ 64 := by decide
  exact ⟨hr, output_offsets_roundtrip _ [18446744073709551615, 0, 18446744073709551615] hr⟩

end Bittube.CryptonoteBasic

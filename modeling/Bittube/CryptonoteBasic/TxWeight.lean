import Bittube.CryptonoteBasic.TxSerialization
import Mathlib.Data.Nat.Log

/-!
# Transaction weights (`cryptonote_format_utils.cpp`)

The weight of a transaction is the size of its blob, plus for the bulletproof types a clawback
that charges an aggregated bulletproof as if it were one proof per padded output
(`get_transaction_weight_clawback`). A pruned node no longer has the prunable data, and
`get_pruned_transaction_weight` rebuilds the weight from the pruned blob and the sizes the
prunable data has in canonical form: a one-byte count, one bulletproof with
`log2(pad(outputs)) + 6` rounds, one MLSAG per input of the first input's ring size and one
pseudo-output per input.

Where the source throws, the model returns `none`; where a check returns
`std::numeric_limits<uint64_t>::max()`, it returns that value. The cached `blob_size` is not
modelled: the weight is taken of the bytes the writer puts out. The padding loop computes
`Nat.clog 2`, and the blob of a version-2 transaction is its pruned blob followed by its
prunable bytes, so for a canonical `RCTTypeBulletproof2` transaction that the writer writes
whole the pruned weight equals the full weight. Without the writer's checks, seventeen outputs
make the pruned weight throw where the full weight does not.
-/

namespace Bittube.CryptonoteBasic

open Bittube.Crypto Bittube.Serialization Bittube.Common.Varint Bittube.Ringct

/-- The loop `while ((1u << nlr) < n) ++nlr;` from `nlr`, with `fuel` shifts left before the
`unsigned` shift reaches 32 bits: `none` there, where the source's shift is undefined. -/
def nextPowerLoop (n : ℕ) : ℕ → ℕ → Option ℕ
  | 0, _ => none
  | fuel + 1, nlr => if 2 ^ nlr < n then nextPowerLoop n fuel (nlr + 1) else some nlr

/-- The padding loop from `nlr = 0`: the exponent of the power of two that pads `n`. -/
def nextPowerLog (n : ℕ) : Option ℕ := nextPowerLoop n 32 0

/-- `uint64_t`'s largest value, which the weight functions return where a check fails. -/
def uint64Max : ℕ := 2 ^ 64 - 1

/-- `get_transaction_weight_clawback(tx, n_padded_outputs)`: `none` where it throws. -/
def getTransactionWeightClawback (tx : Transaction) (nPaddedOutputs : ℕ) : Option ℕ :=
  let bpBase := 368
  if nPaddedOutputs ≤ 2 then some 0
  else do
    let nlr ← nextPowerLog nPaddedOutputs
    let bpSize := 32 * (9 + 2 * (nlr + 6))
    if bulletproofMaxOutputs < tx.vout.length then none
    else if bpBase * nPaddedOutputs < bpSize then none
    else some ((bpBase * nPaddedOutputs - bpSize) * 4 / 5)

/-- `get_transaction_weight(tx, blob_size)`. -/
def getTransactionWeight (tx : Transaction) (blobSize : ℕ) : Option ℕ :=
  if tx.pruned then some uint64Max
  else if tx.version < 2 then some blobSize
  else if tx.rctSignatures.type ≠ rctTypeBulletproof ∧ tx.rctSignatures.type ≠ rctTypeBulletproof2
  then some blobSize
  else do
    let nPaddedOutputs := nBulletproofMaxAmounts tx.rctSignatures.p.bulletproofs
    let bpClawback ← getTransactionWeightClawback tx nPaddedOutputs
    if uint64Max - blobSize < bpClawback then none else some (blobSize + bpClawback)

/-- `get_transaction_weight(tx)`: the weight of the bytes the writer puts out. -/
def getTransactionWeightOfTx (tx : Transaction) : Option ℕ :=
  getTransactionWeight tx (txToBlob tx).length

/-- `get_pruned_transaction_weight(tx)`: the pruned blob, a byte for the count of bulletproofs,
and the canonical sizes of the bulletproof, the MLSAGs and the pseudo-outputs. -/
def getPrunedTransactionWeight (tx : Transaction) : Option ℕ :=
  if !tx.pruned then some uint64Max
  else if tx.version < 2 then some uint64Max
  else if tx.rctSignatures.type < rctTypeBulletproof2 then some uint64Max
  else
    match tx.vin with
    | .toKey txin :: _ => do
      let weight := (txToBlob tx).length + 1
      let nrl ← nextPowerLog tx.vout.length
      let nPaddedOutputs := 2 ^ nrl
      let weight := weight + (32 * (9 + 2 * (nrl + 6)) + 2)
      let ringSize := txin.keyOffsets.length
      let weight := weight + tx.vin.length * (ringSize * (1 + 1) * 32 + 32)
      let weight := weight + 32 * tx.vin.length
      let bpClawback ← getTransactionWeightClawback tx nPaddedOutputs
      if uint64Max - weight < bpClawback then none else some (weight + bpClawback)
    | _ => some uint64Max

/-! ## The padding loop -/

/-- From an exponent at most the padding one, with shifts to spare, the loop stops at
`Nat.clog 2 n`. -/
theorem nextPowerLoop_eq_clog {n : ℕ} : ∀ (fuel nlr : ℕ), nlr ≤ Nat.clog 2 n →
    Nat.clog 2 n < nlr + fuel → nextPowerLoop n fuel nlr = some (Nat.clog 2 n)
  | 0, nlr, _, hfuel => by omega
  | fuel + 1, nlr, hle, hfuel => by
    unfold nextPowerLoop
    by_cases hlt : 2 ^ nlr < n
    · -- the power is still below `n`, so the padding exponent is above `nlr`
      rw [if_pos hlt]
      have hnext : nlr < Nat.clog 2 n := (Nat.lt_clog_iff_pow_lt (by norm_num)).2 hlt
      exact nextPowerLoop_eq_clog fuel (nlr + 1) hnext (by omega)
    · rw [if_neg hlt, le_antisymm hle (Nat.clog_le_of_le_pow (not_lt.1 hlt))]

/-- Below `2 ^ 31` the loop computes the exponent of the power of two that pads `n`. -/
theorem nextPowerLog_eq_clog {n : ℕ} (hn : n ≤ 2 ^ 31) : nextPowerLog n = some (Nat.clog 2 n) := by
  have hclog : Nat.clog 2 n ≤ 31 := Nat.clog_le_of_le_pow hn
  exact nextPowerLoop_eq_clog 32 0 (Nat.zero_le _) (by omega)

/-! ## The blob without its prunable data -/

/-- The MLSAG rows the writer checks: `mixin + 1` in `size_t`, which is the first ring's size. -/
theorem mixinOf_add_one_mod (txin : TxinToKey) (vin : List TxinV) :
    (mixinOf (.toKey txin :: vin) + 1) % 2 ^ 64 = txin.keyOffsets.length % 2 ^ 64 := by
  simp only [mixinOf]
  omega

/-- A version-2 transaction with inputs that the writer writes whole: the prunable writer
succeeds, and the blob is the blob of the pruned transaction (any prunable data in it) followed
by the prunable bytes. -/
theorem writeTransaction_prunable_of_ok {tx : Transaction} (p : RctSigPrunable)
    (hv : ¬tx.version ≤ 1) (hvin : ¬tx.vin.isEmpty = true) (hpruned : tx.pruned = false)
    (hnull : tx.rctSignatures.type ≠ rctTypeNull) (hok : (writeTransaction tx).ok = true) :
    (tx.rctSignatures.p.writeRctsigPrunable tx.rctSignatures.type tx.vin.length tx.vout.length
        (mixinOf tx.vin)).ok = true ∧
      (txToBlob tx).length =
        (txToBlob { tx with pruned := true, rctSignatures := { tx.rctSignatures with p } }).length +
          (tx.rctSignatures.p.writeRctsigPrunable tx.rctSignatures.type tx.vin.length
            tx.vout.length (mixinOf tx.vin)).bytes.length := by
  have hwrite : (!tx.pruned && tx.rctSignatures.type != rctTypeNull) = true := by
    simp [hpruned, hnull]
  unfold txToBlob writeTransaction at *
  simp only [if_neg hv, if_neg hvin, hwrite, if_true, Written.andThen_ok,
    Bool.and_eq_true] at hok ⊢
  obtain ⟨hpreOk, hbaseOk, hprunOk⟩ := hok
  refine ⟨hprunOk, ?_⟩
  -- the pruned transaction has the same prefix and base, and writes no prunable data
  simp only [Written.andThen_bytes hpreOk, Written.andThen_bytes hbaseOk, Bool.not_true,
    Bool.false_eq_true, false_and, if_false, Written.put_bytes, List.append_nil,
    List.length_append]
  omega

/-! ## Pruned and full weights -/

/-- `get_pruned_transaction_weight` charges the size the canonical prunable data of a
`RCTTypeBulletproof2` transaction has: for a transaction the writer writes whole, whose first
input is a `txin_to_key` and whose one bulletproof has `log2(pad(outputs)) + 6` rounds, the
weight of its pruned form, whatever prunable data that keeps, is its full weight. -/
theorem pruned_weight_eq_full_weight (tx : Transaction) (p : RctSigPrunable)
    (hversion : tx.version = 2) (htype : tx.rctSignatures.type = rctTypeBulletproof2)
    (hpruned : tx.pruned = false) (hok : (writeTransaction tx).ok = true)
    (hring : ∃ txin vin, tx.vin = .toKey txin :: vin ∧ txin.keyOffsets.length < 2 ^ 64)
    (hcanon : ∃ proof, tx.rctSignatures.p.bulletproofs = [proof] ∧
      proof.L.length = Nat.clog 2 tx.vout.length + 6) :
    getPrunedTransactionWeight
        { tx with pruned := true, rctSignatures := { tx.rctSignatures with p } } =
      getTransactionWeightOfTx tx := by
  obtain ⟨txin, vin, hvin, hringLt⟩ := hring
  obtain ⟨proof, hproofs, hL⟩ := hcanon
  have hv : ¬tx.version ≤ 1 := by omega
  have hvinNe : ¬tx.vin.isEmpty = true := by simp [hvin]
  have hnull : tx.rctSignatures.type ≠ rctTypeNull := by rw [htype]; decide
  obtain ⟨hprunOk, hblob⟩ := writeTransaction_prunable_of_ok p hv hvinNe hpruned hnull hok
  rw [htype] at hprunOk hblob
  -- the prunable data has its canonical size
  have hrows : (mixinOf tx.vin + 1) % 2 ^ 64 = txin.keyOffsets.length := by
    rw [hvin, mixinOf_add_one_mod, Nat.mod_eq_of_lt hringLt]
  rw [length_writeRctsigPrunable_bulletproof2 hprunOk hproofs, hrows, hL] at hblob
  have hweight : (txToBlob tx).length =
      (txToBlob { tx with pruned := true, rctSignatures := { tx.rctSignatures with p } }).length +
        1 + (32 * (9 + 2 * (Nat.clog 2 tx.vout.length + 6)) + 2) +
        tx.vin.length * (txin.keyOffsets.length * (1 + 1) * 32 + 32) + 32 * tx.vin.length := by
    omega
  -- the proof pads the outputs to the power of two the loop computes
  obtain ⟨-, hrange, -⟩ := writeRctsigPrunable_of_ok hprunOk (by decide)
  obtain ⟨hone, hcover, -⟩ := writeRangeProofs_bulletproof2_of_ok hrange hproofs
  have hcovers : proof.nBulletproofMaxAmounts ≠ 0 := by omega
  obtain ⟨-, hL10, -, hmax⟩ := Bulletproof.nBulletproofMaxAmounts_of_ne_zero hcovers
  have hpad : nBulletproofMaxAmounts tx.rctSignatures.p.bulletproofs =
      2 ^ Nat.clog 2 tx.vout.length := by
    rw [hproofs, nBulletproofMaxAmounts_singleton, hmax, hL, Nat.add_sub_cancel]
  have hvout : tx.vout.length ≤ 2 ^ 4 := hcover.trans proof.nBulletproofMaxAmounts_le
  have hlog : nextPowerLog tx.vout.length = some (Nat.clog 2 tx.vout.length) :=
    nextPowerLog_eq_clog (by omega)
  have hlt : ¬rctTypeBulletproof2 < rctTypeBulletproof2 := by decide
  unfold getPrunedTransactionWeight getTransactionWeightOfTx getTransactionWeight
  simp only [Bool.not_true, Bool.false_eq_true, if_false, hversion, htype, hpruned, hlt,
    hlog, hpad, some_bind, if_neg (by decide : ¬(2 < 2)), ne_eq, not_true_eq_false, and_false,
    hweight, hvin]
  -- the pruned transaction keeps the outputs, and with them the clawback
  congr 1

/-- A canonical `RCTTypeBulletproof2` transaction: one input of ring size 1, one output, and one
bulletproof of 6 rounds. -/
def oneOutputTx : Transaction :=
  { version := 2, unlockTime := 0, isMmTx := false,
    vin := [.toKey ⟨0, [0], Blob.zero 32⟩], vout := [⟨0, .toKey (Blob.zero 32)⟩], extra := [],
    signatures := [],
    rctSignatures :=
      ⟨⟨rctTypeBulletproof2, [], [EcdhTuple.zero], [CtKey.zero], 0⟩,
        ⟨[], [oneAmountProof], [⟨[[Blob.zero 32, Blob.zero 32]], Blob.zero 32⟩], [Blob.zero 32]⟩⟩,
    pruned := false, unprunableSize := 0, prefixSize := 0 }

/-- Its prunable data stripped, `oneOutputTx` weighs what it weighs whole. -/
theorem pruned_weight_eq_full_weight_oneOutput :
    (writeTransaction oneOutputTx).ok = true ∧
      getPrunedTransactionWeight
          { oneOutputTx with
            pruned := true
            rctSignatures := { oneOutputTx.rctSignatures with p := ⟨[], [], [], []⟩ } } =
        getTransactionWeightOfTx oneOutputTx := by
  have hok : (writeTransaction oneOutputTx).ok = true := by decide
  refine ⟨hok, pruned_weight_eq_full_weight oneOutputTx ⟨[], [], [], []⟩ rfl rfl rfl hok
    ⟨_, _, rfl, by decide⟩ ⟨oneAmountProof, rfl, ?_⟩⟩
  simp [oneOutputTx, oneAmountProof]

/-- A bulletproof of 11 rounds, the rounds of seventeen outputs padded to 32. -/
def elevenRoundProof : Bulletproof :=
  { Bulletproof.zero with L := List.replicate 11 (Blob.zero 32), R := List.replicate 11 (Blob.zero 32) }

/-- `oneOutputTx` with seventeen outputs, and that bulletproof. -/
def seventeenOutputTx : Transaction :=
  { oneOutputTx with
    vout := List.replicate 17 ⟨0, .toKey (Blob.zero 32)⟩,
    rctSignatures :=
      ⟨⟨rctTypeBulletproof2, [], List.replicate 17 EcdhTuple.zero, List.replicate 17 CtKey.zero, 0⟩,
        ⟨[], [elevenRoundProof], [⟨[[Blob.zero 32, Blob.zero 32]], Blob.zero 32⟩], [Blob.zero 32]⟩⟩ }

/-- A bulletproof of more than 10 rounds covers no amount, so the full weight has no clawback
and is the size of whatever blob there is. -/
theorem getTransactionWeight_seventeenOutputTx (blobSize : ℕ) :
    getTransactionWeight seventeenOutputTx blobSize = some blobSize := by
  have hpad : nBulletproofMaxAmounts seventeenOutputTx.rctSignatures.p.bulletproofs = 0 := by
    simp [seventeenOutputTx, elevenRoundProof, nBulletproofMaxAmounts, nBulletproofAmountsLoop,
      Bulletproof.nBulletproofMaxAmounts]
  unfold getTransactionWeight
  simp only [hpad, getTransactionWeightClawback]
  simp [seventeenOutputTx, oneOutputTx, rctTypeBulletproof2]

/-- **The pruned weight can throw where the full weight does not.** `seventeenOutputTx` is of
version 2 and type `RCTTypeBulletproof2`, not pruned, with one input and one bulletproof of
`log2(pad(17)) + 6` rounds in `L` and `R`; its full weight is a number, and its pruned weight
throws on the seventeen outputs, more than `BULLETPROOF_MAX_OUTPUTS`. -/
theorem pruned_weight_seventeen_outputs_differs :
    seventeenOutputTx.version = 2 ∧ seventeenOutputTx.rctSignatures.type = rctTypeBulletproof2 ∧
      seventeenOutputTx.pruned = false ∧
      (∃ txin, seventeenOutputTx.vin = [.toKey txin]) ∧
      (∃ proof, seventeenOutputTx.rctSignatures.p.bulletproofs = [proof] ∧
        proof.L.length = Nat.clog 2 seventeenOutputTx.vout.length + 6 ∧
        proof.R.length = proof.L.length) ∧
      getPrunedTransactionWeight
          { seventeenOutputTx with
            pruned := true
            rctSignatures := { seventeenOutputTx.rctSignatures with p := ⟨[], [], [], []⟩ } } =
        none ∧
      getTransactionWeightOfTx seventeenOutputTx = some (txToBlob seventeenOutputTx).length := by
  have hclog : Nat.clog 2 17 = 5 :=
    le_antisymm (Nat.clog_le_of_le_pow (by norm_num))
      ((Nat.lt_clog_iff_pow_lt (by norm_num)).2 (by norm_num))
  have hlog : nextPowerLog 17 = some 5 := by decide
  have hmax : bulletproofMaxOutputs < 17 := by decide
  refine ⟨rfl, rfl, rfl, ⟨_, rfl⟩, ⟨_, rfl, by simp [seventeenOutputTx, elevenRoundProof, hclog], rfl⟩, ?_,
    getTransactionWeight_seventeenOutputTx _⟩
  unfold getPrunedTransactionWeight getTransactionWeightClawback
  simp [seventeenOutputTx, oneOutputTx, hlog, hmax, rctTypeBulletproof2, some_bind]

end Bittube.CryptonoteBasic

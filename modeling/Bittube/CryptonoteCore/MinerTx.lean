import Bittube.CryptonoteCore.TxUtils
import Bittube.Epee.MiscLanguage
import Bittube.Lib.CountedWindow

/-!
# Checking the miner transaction (`Blockchain::validate_miner_transaction`)

A block's miner transaction may mint at most the block reward, which the validator recomputes
from the same inputs as the builder. From `BLOCK_MAJOR_VERSION_4` the validator also finds the
share outputs by counting back from the end of the outputs and checks each one's amount and
deterministic key. Up to `BLOCK_MAJOR_VERSION_4` the full reward must be paid; later a miner may
take less, and the reward is then lowered to what was paid (`partial_block_reward`).

Before the reward checks, the validator asks every output amount to be a valid decomposed
amount (only at `BLOCK_MAJOR_VERSION_FUTURE`) and, from `HF_VERSION_EOL`, for an RSA signature
in the extra; that signature check calls OpenSSL and is a parameter here.

The validator's share loop accepts outputs that carry each share's amount and key. So what
`construct_miner_tx` builds passes the reward checks with the same inputs and pays the full
reward, on the networks whose share wallets parse; on the others each side's shares go to the
uninitialised bytes of its own `address_parse_info`. With fewer outputs than shares the index of
the share loop wraps, and its first read is past the outputs.
-/

namespace Bittube.CryptonoteCore

open Bittube.Crypto Bittube.CryptonoteBasic Bittube.Epee.MiscUtils CountedWindow

/-- What `validate_miner_transaction` reads of the blockchain besides the block: the weights of
the stored blocks (their number is `m_db->height()`), `m_current_block_cumul_weight_median` and
`m_nettype`. -/
structure MinerTxChainState where
  blockWeights : List ℕ
  currentBlockCumulWeightMedian : ℕ
  nettype : NetworkType

namespace MinerTxChainState

/-- `m_db->height()`. -/
def height (chain : MinerTxChainState) : ℕ := chain.blockWeights.length

/-- `get_last_n_blocks_weights(weights, count)`: the weights of the last `count` blocks, or of
all of them on a shorter chain. -/
def getLastNBlocksWeights (chain : MinerTxChainState) (count : ℕ) : List ℕ :=
  lastN count chain.blockWeights

/-- The median that `validate_miner_transaction` passes to `get_block_reward`. -/
def rewardMedianWeight (chain : MinerTxChainState) (version : UInt8) : ℕ :=
  if version ≥ hfVersionEffectiveShortTermMedianInPenalty then chain.currentBlockCumulWeightMedian
  else median (chain.getLastNBlocksWeights cryptonoteRewardBlocksWindow)

end MinerTxChainState

section Crypto

variable (crypto : CryptoOps)

/-- The share loop of `validate_miner_transaction`, from output `idx`: each share's output has
the share's amount and a `txout_to_key` target whose key `validate_shared_reward_key` accepts.
A target of another kind makes `boost::get` throw; a read past the last output is unchecked in
the source. Both fail here. -/
def checkRewardShares (shareKey : Keypair) (vout : List TxOut) :
    ℕ → List BlockRewardShare → Bool
  | _, [] => true
  | idx, share :: shares =>
    match vout[idx]? with
    | none => false
    | some out =>
      out.amount == share.amount &&
        (match out.target with
          | .toKey key => validateSharedRewardKey crypto shareKey idx share.address key
          | _ => false) &&
        checkRewardShares shareKey vout (idx + 1) shares

/-- `size_t idx = b.miner_tx.vout.size() - shares.size()`: the index of the first share output,
a `size_t` difference that wraps when there are fewer outputs than shares. -/
def shareOutputsStart (voutSize sharesSize : ℕ) : ℕ := (voutSize + 2 ^ 64 - sharesSize) % 2 ^ 64

/-- The reward checks of `validate_miner_transaction(b, cumulative_block_weight, fee,
base_reward, already_generated_coins, partial_block_reward, version)`: the base reward and
`partial_block_reward` it sets, or `none` where it returns `false`. `info` is what the
uninitialised `address_parse_info` of its `get_block_reward_shares` call holds. -/
def validateMinerTransactionReward (minerTx : TransactionPrefix)
    (cumulativeBlockWeight fee alreadyGeneratedCoins : ℕ) (version : UInt8)
    (chain : MinerTxChainState) (info : AddressParseInfo) : Option (ℕ × Bool) := do
  let moneyInUse := getOutsMoneyAmount minerTx.vout
  let baseReward ← getBlockReward (chain.rewardMedianWeight version) cumulativeBlockWeight
    alreadyGeneratedCoins fee version
  if version ≥ blockMajorVersion4 then
    let shareKey := getDeterministicKeypairFromHeight crypto chain.height
    let shares := getBlockRewardShares crypto baseReward version chain.nettype info
    guard (checkRewardShares crypto shareKey minerTx.vout
      (shareOutputsStart minerTx.vout.length shares.length) shares)
  if baseReward < moneyInUse then none
  else if version ≤ blockMajorVersion4 then
    if baseReward ≠ moneyInUse then none else some (baseReward, false)
  else
    -- a miner may claim less: the reward becomes what was paid
    some (moneyInUse, baseReward ≠ moneyInUse)

/-- `validate_miner_transaction`: the decomposed-amount check at `BLOCK_MAJOR_VERSION_FUTURE`,
the signature check from `HF_VERSION_EOL` (`get_signature_from_extra` and `RSA_verify` of the
transaction key with the fixed public key, as `minerTxSignatureValid`), then the reward. -/
def validateMinerTransaction (minerTxSignatureValid : List UInt8 → Bool)
    (minerTx : TransactionPrefix) (cumulativeBlockWeight fee alreadyGeneratedCoins : ℕ)
    (version : UInt8) (chain : MinerTxChainState) (info : AddressParseInfo) :
    Option (ℕ × Bool) := do
  if version ≥ blockMajorVersionFuture then
    guard (minerTx.vout.all fun o => isValidDecomposedAmount o.amount)
  if version ≥ hfVersionEol then
    guard (minerTxSignatureValid minerTx.extra)
  validateMinerTransactionReward crypto minerTx cumulativeBlockWeight fee alreadyGeneratedCoins
    version chain info

/-- The share loop fails when its first read is past the last output. -/
theorem checkRewardShares_of_length_le (shareKey : Keypair) {vout : List TxOut} {idx : ℕ}
    {shares : List BlockRewardShare} (hidx : vout.length ≤ idx) (hne : shares ≠ []) :
    checkRewardShares crypto shareKey vout idx shares = false := by
  obtain ⟨share, rest, rfl⟩ := List.exists_cons_of_ne_nil hne
  simp [checkRewardShares, List.getElem?_eq_none hidx]

/-- **The share loop reads past the outputs.** Every block from `BLOCK_MAJOR_VERSION_4` whose
reward `get_block_reward` accepts reaches the share loop; when its miner transaction has fewer
outputs than the version has shares, `vout.size() - shares.size()` wraps and the loop's first
read `b.miner_tx.vout[idx]` is past the last output, which `std::vector::operator[]` does not
check. The model's checked read fails, so the block is rejected here, where the source reads
out of bounds. -/
theorem validate_miner_transaction_share_index_out_of_bounds (minerTx : TransactionPrefix)
    (cumulativeBlockWeight fee alreadyGeneratedCoins : ℕ) (version : UInt8)
    (chain : MinerTxChainState) (info : AddressParseInfo) (baseReward : ℕ)
    (hversion : version ≥ blockMajorVersion4)
    (hreward : getBlockReward (chain.rewardMedianWeight version) cumulativeBlockWeight
      alreadyGeneratedCoins fee version = some baseReward)
    (hshort : minerTx.vout.length <
      (getBlockRewardShares crypto baseReward version chain.nettype info).length) :
    minerTx.vout.length ≤ shareOutputsStart minerTx.vout.length
        (getBlockRewardShares crypto baseReward version chain.nettype info).length ∧
      validateMinerTransactionReward crypto minerTx cumulativeBlockWeight fee alreadyGeneratedCoins
        version chain info = none := by
  set shares := getBlockRewardShares crypto baseReward version chain.nettype info
  have hshares : shares.length ≤ 6 := length_getBlockRewardShares_le crypto _ _ _ _
  -- with fewer outputs than shares, the `size_t` difference is `2 ^ 64` less what is missing
  have hstart : shareOutputsStart minerTx.vout.length shares.length =
      minerTx.vout.length + 2 ^ 64 - shares.length :=
    Nat.mod_eq_of_lt (by omega)
  have hpast : minerTx.vout.length ≤ shareOutputsStart minerTx.vout.length shares.length := by
    rw [hstart]
    omega
  have hcheck := checkRewardShares_of_length_le crypto
    (getDeterministicKeypairFromHeight crypto chain.height) hpast
    (List.ne_nil_of_length_pos (Nat.zero_lt_of_lt hshort))
  refine ⟨hpast, ?_⟩
  simp only [shares] at hcheck
  simp [validateMinerTransactionReward, hreward, hversion, hcheck]

/-- A version 4 block whose miner transaction has no outputs, on a chain whose one block weighs
the full reward zone: the two shares put the first read at `2 ^ 64 - 2`. -/
theorem validate_miner_transaction_share_index_out_of_bounds_empty_vout :
    let crypto : CryptoOps :=
      ⟨fun _ => nullHash, fun _ => true, fun sec => ⟨sec, sec⟩, fun pub _ => some pub,
        fun derivation _ _ => some derivation⟩
    let minerTx : TransactionPrefix := ⟨2, 11, false, [], [], []⟩
    let chain : MinerTxChainState := ⟨[1000000], 0, .fakechain⟩
    let info : AddressParseInfo := ⟨⟨nullHash, nullHash⟩, false, false, Blob.zero 8⟩
    (4 : UInt8) ≥ blockMajorVersion4 ∧
      getBlockReward (chain.rewardMedianWeight 4) 0 0 0 4 = some 47683715820 ∧
      minerTx.vout.length < (getBlockRewardShares crypto 47683715820 4 chain.nettype info).length ∧
      minerTx.vout.length ≤ shareOutputsStart minerTx.vout.length
          (getBlockRewardShares crypto 47683715820 4 chain.nettype info).length ∧
        validateMinerTransactionReward crypto minerTx 0 0 0 4 chain info = none := by
  intro crypto minerTx chain info
  have hversion : (4 : UInt8) ≥ blockMajorVersion4 := by decide
  have hreward : getBlockReward (chain.rewardMedianWeight 4) 0 0 0 4 = some 47683715820 := by
    decide
  have hshort : minerTx.vout.length <
      (getBlockRewardShares crypto 47683715820 4 chain.nettype info).length := by
    decide
  exact ⟨hversion, hreward, hshort,
    validate_miner_transaction_share_index_out_of_bounds crypto minerTx 0 0 0 4 chain info _
      hversion hreward hshort⟩
end Crypto

end Bittube.CryptonoteCore

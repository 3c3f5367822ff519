import Bittube.CryptonoteBasic.Address
import Bittube.CryptonoteBasic.BasicImpl
import Bittube.CryptonoteBasic.FormatUtils
import Bittube.CryptonoteBasic.Transaction

/-!
# Building the miner transaction (`cryptonote_core/cryptonote_tx_utils.cpp`)

From `BLOCK_MAJOR_VERSION_4` until `HF_VERSION_EOL` part of each block reward goes to fixed
wallets (development, marketing, airtime, community developers, moderators and referrals), a
percentage of the reward each, depending on the version. `get_block_reward_shares` lists them;
`construct_miner_tx` pays the rest of the reward to the miner in decomposed amounts, merged
down to `max_outs` outputs, then one output per share, whose key is derived from a keypair
fixed by the block height, so that anyone can check it.

The curve and hash primitives are the fields of `CryptoOps`: deterministic functions of their
inputs, as the two sides of the miner transaction (this module and `validate_miner_transaction`)
rely on. The random transaction key of `keypair::generate` is an argument.

`get_block_reward_shares` starts from an `address_parse_info` it leaves uninitialised, and only
the wallet getters write it; where the network's share wallet strings parse, the shares do not
depend on what it held. A share is at most its fraction of the reward, whatever the `uint64_t`
product does. The output loops produce one output per amount, keyed for its index, and the
outputs are the miner's, then the shares', adding up to the reward.
-/

namespace Bittube.CryptonoteCore

open Bittube.Crypto Bittube.CryptonoteBasic Bittube.Serialization

/-- The primitives of `crypto.h` that the miner transaction code calls. -/
structure CryptoOps where
  /-- `cn_fast_hash`. -/
  cnFastHash : List UInt8 → Hash
  /-- `check_key`. -/
  checkKey : PublicKey → Bool
  /-- `generate_keys(pub, sec, recovery_key, true)`: the keypair recovered from a secret. -/
  generateKeys : SecretKey → Keypair
  /-- `generate_key_derivation`, `none` where it returns `false`. -/
  generateKeyDerivation : PublicKey → SecretKey → Option KeyDerivation
  /-- `derive_public_key`, `none` where it returns `false`. -/
  derivePublicKey : KeyDerivation → ℕ → PublicKey → Option PublicKey

/-- One share of a block reward (`block_reward_share`). -/
structure BlockRewardShare where
  type : String
  amount : ℕ
  address : AccountPublicAddress
  deriving DecidableEq, Repr

section Crypto

variable (crypto : CryptoOps)

/-! ## The share wallets -/

/-- The `switch (nettype)` of each `get_*_wallet_address`: parse the network's address string
into `info` (whose result the callers do not check: a failed parse leaves `info` as it was) and
return `true`, or return `false` for a network without share wallets. -/
def getWalletAddress (address : ShareWalletAddresses → String) (nettype : NetworkType)
    (info : AddressParseInfo) : Bool × AddressParseInfo :=
  let parse (wallets : ShareWalletAddresses) : AddressParseInfo :=
    (getAccountAddressFromStr crypto.cnFastHash crypto.checkKey info nettype
      (address wallets).toUTF8.toList).getD info
  match nettype with
  | .stagenet => (true, parse stagenetShareWallets)
  | .testnet => (true, parse testnetShareWallets)
  | .mainnet => (true, parse mainnetShareWallets)
  | _ => (false, info)

/-- `get_development_wallet_address`. -/
def getDevelopmentWalletAddress :=
  getWalletAddress crypto ShareWalletAddresses.developmentWalletAddress

/-- `get_marketing_wallet_address`. -/
def getMarketingWalletAddress :=
  getWalletAddress crypto ShareWalletAddresses.marketingWalletAddress

/-- `get_airtime_wallet_address`. -/
def getAirtimeWalletAddress :=
  getWalletAddress crypto ShareWalletAddresses.airtimeWalletAddress

/-- `get_airtime_wallet_address_2`. -/
def getAirtimeWalletAddress2 :=
  getWalletAddress crypto ShareWalletAddresses.airtimeWalletAddress2

/-- `get_community_devs_wallet_address`. -/
def getCommunityDevsWalletAddress :=
  getWalletAddress crypto ShareWalletAddresses.communityDevsWalletAddress

/-- `get_community_mods_wallet_address`. -/
def getCommunityModsWalletAddress :=
  getWalletAddress crypto ShareWalletAddresses.communityModsWalletAddress

/-- `get_community_ref_wallet_address`. -/
def getCommunityRefWalletAddress :=
  getWalletAddress crypto ShareWalletAddresses.communityRefWalletAddress

end Crypto

/-- `block_reward * num / den` with the product in `uint64_t`. -/
def rewardFraction (blockReward num den : ℕ) : ℕ := blockReward * num % 2 ^ 64 / den

/-- `get_development_reward`: 5% after `BLOCK_MAJOR_VERSION_5`, 1.5% before. -/
def getDevelopmentReward (blockReward : ℕ) (version : UInt8) : ℕ :=
  if version > blockMajorVersion5 then rewardFraction blockReward 50 1000
  else rewardFraction blockReward 15 1000

/-- `get_marketing_reward`: 5% after `BLOCK_MAJOR_VERSION_5`, 1.5% before. -/
def getMarketingReward (blockReward : ℕ) (version : UInt8) : ℕ :=
  if version > blockMajorVersion5 then rewardFraction blockReward 50 1000
  else rewardFraction blockReward 15 1000

/-- `get_airtime_reward`: 45% after `BLOCK_MAJOR_VERSION_5`, 27% before. -/
def getAirtimeReward (blockReward : ℕ) (version : UInt8) : ℕ :=
  if version > blockMajorVersion5 then rewardFraction blockReward 45 100
  else rewardFraction blockReward 27 100

/-- `get_community_devs_reward`: 3%. -/
def getCommunityDevsReward (blockReward : ℕ) (_version : UInt8) : ℕ :=
  rewardFraction blockReward 30 1000

/-- `get_community_mods_reward`: 1%. -/
def getCommunityModsReward (blockReward : ℕ) (_version : UInt8) : ℕ :=
  rewardFraction blockReward 10 1000

/-- `get_community_ref_reward`: 1%. -/
def getCommunityRefReward (blockReward : ℕ) (_version : UInt8) : ℕ :=
  rewardFraction blockReward 10 1000

/-- A share is at most its fraction of the reward: the `uint64_t` product can only lose. -/
theorem rewardFraction_le (blockReward num den : ℕ) :
    rewardFraction blockReward num den ≤ blockReward * num / den :=
  Nat.div_le_div_right (Nat.mod_le _ _)

/-- A share is at most any larger fraction of the reward. -/
theorem rewardFraction_le_of_le {blockReward num num' : ℕ} (den : ℕ) (h : num ≤ num') :
    rewardFraction blockReward num den ≤ blockReward * num' / den :=
  (rewardFraction_le _ _ _).trans (Nat.div_le_div_right (Nat.mul_le_mul_left _ h))

/-! Each share at most its largest fraction, whatever the version. -/

theorem getDevelopmentReward_le (blockReward : ℕ) (version : UInt8) :
    getDevelopmentReward blockReward version ≤ blockReward * 50 / 1000 := by
  unfold getDevelopmentReward
  split_ifs
  · exact rewardFraction_le _ _ _
  · exact rewardFraction_le_of_le _ (by norm_num)

theorem getMarketingReward_le (blockReward : ℕ) (version : UInt8) :
    getMarketingReward blockReward version ≤ blockReward * 50 / 1000 := by
  unfold getMarketingReward
  split_ifs
  · exact rewardFraction_le _ _ _
  · exact rewardFraction_le_of_le _ (by norm_num)

theorem getAirtimeReward_le (blockReward : ℕ) (version : UInt8) :
    getAirtimeReward blockReward version ≤ blockReward * 45 / 100 := by
  unfold getAirtimeReward
  split_ifs
  · exact rewardFraction_le _ _ _
  · exact rewardFraction_le_of_le _ (by norm_num)

section Crypto

variable (crypto : CryptoOps)

/-- One `shares.emplace_back` of `get_block_reward_shares`, after the wallet getter has updated
the shared `info`. -/
def pushShare (getter : NetworkType → AddressParseInfo → Bool × AddressParseInfo) (type : String)
    (amount : ℕ) (nettype : NetworkType) (s : List BlockRewardShare × AddressParseInfo) :
    List BlockRewardShare × AddressParseInfo :=
  let info := (getter nettype s.2).2
  (s.1 ++ [⟨type, amount, info.address⟩], info)

/-- `get_block_reward_shares(block_reward, version, nettype)`. Its `address_parse_info info;`
is left uninitialised and only the getters write it, on the networks with share wallets and
where the string parses; `info` is what its bytes hold on entry. -/
def getBlockRewardShares (blockReward : ℕ) (version : UInt8) (nettype : NetworkType)
    (info : AddressParseInfo) : List BlockRewardShare :=
  if version < blockMajorVersion4 then []
  else if version ≥ hfVersionEol then []
  else
    let s : List BlockRewardShare × AddressParseInfo := ([], info)
    let s :=
      if version ≥ hfVersionDevReward then
        pushShare (getMarketingWalletAddress crypto) "marketing"
          (getMarketingReward blockReward version) nettype
          (pushShare (getDevelopmentWalletAddress crypto) "development"
            (getDevelopmentReward blockReward version) nettype s)
      else s
    let s :=
      if version ≥ hfVersionAirtimeReward then
        pushShare (if version ≥ hfVersionAirtime2 then getAirtimeWalletAddress2 crypto
          else getAirtimeWalletAddress crypto) "airtime" (getAirtimeReward blockReward version)
          nettype s
      else s
    let s :=
      if version ≥ hfVersionCommunityDevs then
        pushShare (getCommunityDevsWalletAddress crypto) "community_developers"
          (getCommunityDevsReward blockReward version) nettype s
      else s
    let s :=
      if version ≥ hfVersionCommunityMods then
        pushShare (getCommunityModsWalletAddress crypto) "community_moderators"
          (getCommunityModsReward blockReward version) nettype s
      else s
    let s :=
      if version ≥ hfVersionCommunityRef then
        pushShare (getCommunityRefWalletAddress crypto) "community_referrals"
          (getCommunityRefReward blockReward version) nettype s
      else s
    s.1

/-- A conditional `shares.emplace_back` adds at most the new share's weight to the shares'
total weight (their amounts, or their number). -/
theorem pushShare_ite_sum_le (weight : BlockRewardShare → ℕ) {c : Prop} [Decidable c]
    {getter : NetworkType → AddressParseInfo → Bool × AddressParseInfo} {type : String}
    {amount : ℕ} {nettype : NetworkType} {s : List BlockRewardShare × AddressParseInfo}
    {r bound : ℕ}
    (h : (s.1.map weight).sum + (weight ⟨type, amount, (getter nettype s.2).2.address⟩ + r) ≤
      bound) :
    ((if c then pushShare getter type amount nettype s else s).1.map weight).sum + r ≤ bound := by
  split_ifs
  · simpa [pushShare, Nat.add_assoc] using h
  · omega

/-- The development and marketing shares, pushed together under one condition. -/
theorem pushShare_ite_two_sum_le (weight : BlockRewardShare → ℕ) {c : Prop} [Decidable c]
    {getter getter' : NetworkType → AddressParseInfo → Bool × AddressParseInfo}
    {type type' : String} {amount amount' : ℕ} {nettype : NetworkType}
    {s : List BlockRewardShare × AddressParseInfo} {r bound : ℕ}
    (h : (s.1.map weight).sum + (weight ⟨type, amount, (getter nettype s.2).2.address⟩ +
      (weight ⟨type', amount', (getter' nettype (getter nettype s.2).2).2.address⟩ + r)) ≤
      bound) :
    ((if c then pushShare getter' type' amount' nettype (pushShare getter type amount nettype s)
      else s).1.map weight).sum + r ≤ bound := by
  split_ifs
  · simpa [pushShare, Nat.add_assoc] using h
  · omega

/-- The shares of a reward add up, without wrapping, to at most the reward: at most 60% of it
at any version. -/
theorem getBlockRewardShares_sum_le (blockReward : ℕ) (version : UInt8) (nettype : NetworkType)
    (info : AddressParseInfo) :
    ((getBlockRewardShares crypto blockReward version nettype info).map
      BlockRewardShare.amount).sum ≤ blockReward := by
  have hdev := getDevelopmentReward_le blockReward version
  have hmarketing := getMarketingReward_le blockReward version
  have hairtime := getAirtimeReward_le blockReward version
  have hdevs := rewardFraction_le blockReward 30 1000
  have hmods := rewardFraction_le blockReward 10 1000
  have href := rewardFraction_le blockReward 10 1000
  unfold getBlockRewardShares
  by_cases h4 : version < blockMajorVersion4
  · simp [h4]
  by_cases heol : version ≥ hfVersionEol
  · simp [h4, heol]
  rw [if_neg h4, if_neg heol, ← Nat.add_zero (List.sum _)]
  dsimp only
  -- peel the pushes off from the last (referrals) to the first (development and marketing)
  apply pushShare_ite_sum_le
  apply pushShare_ite_sum_le
  apply pushShare_ite_sum_le
  apply pushShare_ite_sum_le
  apply pushShare_ite_two_sum_le
  simp only [List.map_nil, List.sum_nil, getCommunityDevsReward, getCommunityModsReward,
    getCommunityRefReward]
  omega

/-- There are at most six shares. -/
theorem length_getBlockRewardShares_le (blockReward : ℕ) (version : UInt8)
    (nettype : NetworkType) (info : AddressParseInfo) :
    (getBlockRewardShares crypto blockReward version nettype info).length ≤ 6 := by
  -- count the shares as their total weight, each of weight one
  have hcount : ∀ l : List BlockRewardShare, (l.map fun _ => 1).sum = l.length := fun l => by simp
  rw [← hcount]
  unfold getBlockRewardShares
  by_cases h4 : version < blockMajorVersion4
  · simp [h4]
  by_cases heol : version ≥ hfVersionEol
  · simp [h4, heol]
  rw [if_neg h4, if_neg heol, ← Nat.add_zero (List.sum _)]
  dsimp only
  apply pushShare_ite_sum_le
  apply pushShare_ite_sum_le
  apply pushShare_ite_sum_le
  apply pushShare_ite_sum_le
  apply pushShare_ite_two_sum_le
  simp

/-- `get_deterministic_keypair_from_height(height)`: the height's eight little-endian bytes,
zero-padded to a secret key, recovered to a keypair. -/
def getDeterministicKeypairFromHeight (height : ℕ) : Keypair :=
  crypto.generateKeys (Blob.ofList 32 (writeUint 8 height))

/-- `get_deterministic_output_key(address, tx_key, output_index, output_key)`. -/
def getDeterministicOutputKey (address : AccountPublicAddress) (txKey : Keypair)
    (outputIndex : ℕ) : Option PublicKey := do
  let derivation ← crypto.generateKeyDerivation address.mViewPublicKey txKey.sec
  crypto.derivePublicKey derivation outputIndex address.mSpendPublicKey

/-- `validate_shared_reward_key(share_key, output_index, address, output_key)`. -/
def validateSharedRewardKey (shareKey : Keypair) (outputIndex : ℕ)
    (address : AccountPublicAddress) (outputKey : PublicKey) : Bool :=
  match getDeterministicOutputKey crypto address shareKey outputIndex with
  | none => false
  | some correctKey => correctKey == outputKey

end Crypto

/-! ## The outputs -/

/-- The `while (max_outs < out_amounts.size())` loop of `construct_miner_tx`: add the first
amount into the second and drop the first, while there are more than `max_outs`. `fuel` bounds
the rounds; each shortens the list, so its length is enough. -/
def mergeOutAmounts (maxOuts : ℕ) : ℕ → List ℕ → List ℕ
  | 0, outAmounts => outAmounts
  | fuel + 1, outAmounts =>
    if maxOuts < outAmounts.length then
      mergeOutAmounts maxOuts fuel
        (match outAmounts with
          | a :: b :: rest => (b + a) % 2 ^ 64 :: rest
          | _ => outAmounts)
    else outAmounts

/-- A round of the merge loop with at least two amounts whose sum fits in `uint64_t`. -/
theorem mergeOutAmounts_succ_cons {maxOuts fuel a b : ℕ} {rest : List ℕ}
    (hmore : maxOuts < (a :: b :: rest).length) (hab : b + a < 2 ^ 64) :
    mergeOutAmounts maxOuts (fuel + 1) (a :: b :: rest) =
      mergeOutAmounts maxOuts fuel ((b + a) :: rest) := by
  rw [mergeOutAmounts, if_pos hmore, Nat.mod_eq_of_lt hab]

/-- The merge loop, with a round for each amount over `max_outs`, leaves
`min (count, max_outs)` amounts with the same total, as long as the total fits in `uint64_t`
(so that no `+=` wraps). -/
theorem mergeOutAmounts_spec {maxOuts : ℕ} (hmax : 1 ≤ maxOuts) :
    ∀ fuel (outAmounts : List ℕ), outAmounts.length ≤ fuel + maxOuts →
      outAmounts.sum < 2 ^ 64 →
      (mergeOutAmounts maxOuts fuel outAmounts).sum = outAmounts.sum ∧
        (mergeOutAmounts maxOuts fuel outAmounts).length = min outAmounts.length maxOuts
  | 0, outAmounts, hlen, _ => by
    rw [mergeOutAmounts]
    omega
  | fuel + 1, outAmounts, hlen, hsum => by
    by_cases hmore : maxOuts < outAmounts.length
    · -- more amounts than `max_outs ≥ 1`, so the first two are there to merge
      obtain ⟨a, b, rest, rfl⟩ : ∃ a b rest, outAmounts = a :: b :: rest := by
        rcases outAmounts with _ | ⟨a, _ | ⟨b, rest⟩⟩
        · simp at hmore
        · simp at hmore
          omega
        · exact ⟨a, b, rest, rfl⟩
      simp only [List.sum_cons, List.length_cons] at hsum hlen hmore
      rw [mergeOutAmounts_succ_cons (by simpa using hmore) (by omega)]
      obtain ⟨hs, hl⟩ := mergeOutAmounts_spec hmax fuel ((b + a) :: rest)
        (by simp only [List.length_cons]; omega) (by simp only [List.sum_cons]; omega)
      rw [hs, hl]
      simp only [List.sum_cons, List.length_cons]
      omega
    · unfold mergeOutAmounts
      rw [if_neg hmore]
      omega

section Crypto

variable (crypto : CryptoOps)

/-- The miner's amounts in `construct_miner_tx`: the reward decomposed into digits (with the
dust threshold before `BLOCK_MAJOR_VERSION_2`), then merged down to `max_outs` amounts at the
genesis block and from `BLOCK_MAJOR_VERSION_4`, and refused above `max_outs` otherwise. -/
def minerOutAmounts (height minerReward maxOuts : ℕ) (hardForkVersion : UInt8) :
    Option (List ℕ) := do
  let outAmounts := decomposeAmountIntoDigits minerReward
    (if hardForkVersion ≥ blockMajorVersion2 then 0 else defaultDustThreshold)
    (fun chunk outs => outs ++ [chunk]) (fun dust outs => outs ++ [dust]) []
  guard (1 ≤ maxOuts)
  -- the genesis block was not decomposed, for unknown reasons
  if height = 0 ∨ hardForkVersion ≥ blockMajorVersion4 then
    some (mergeOutAmounts maxOuts outAmounts.length outAmounts)
  else if maxOuts ≥ outAmounts.length then some outAmounts
  else none

/-- The miner's amounts add up to the reward; where they are merged, there are as many as
the decomposed amounts, capped at `max_outs`. -/
theorem minerOutAmounts_spec {height minerReward maxOuts : ℕ} {version : UInt8}
    {outAmounts : List ℕ} (hreward : minerReward < 2 ^ 64)
    (h : minerOutAmounts height minerReward maxOuts version = some outAmounts) :
    outAmounts.sum = minerReward ∧
      (height = 0 ∨ version ≥ blockMajorVersion4 →
        outAmounts.length = min (decomposedPieces minerReward
          (if version ≥ blockMajorVersion2 then 0 else defaultDustThreshold)).length maxOuts) := by
  simp only [minerOutAmounts, decomposeAmountIntoDigits_push, Option.bind_eq_bind,
    Option.bind_eq_some_iff, Option.guard_eq_some'] at h
  obtain ⟨_, hmax, h⟩ := h
  set pieces := decomposedPieces minerReward
    (if version ≥ blockMajorVersion2 then 0 else defaultDustThreshold)
  have hsum : (pieces.map AmountPiece.amount).sum = minerReward := (decomposedPieces_spec _ _).1
  by_cases hmerge : height = 0 ∨ version ≥ blockMajorVersion4
  · rw [if_pos hmerge, Option.some.injEq] at h
    subst h
    obtain ⟨hs, hl⟩ := mergeOutAmounts_spec hmax (pieces.map AmountPiece.amount).length
      (pieces.map AmountPiece.amount) (Nat.le_add_right _ _) (hsum ▸ hreward)
    exact ⟨hs.trans hsum, fun _ => by rw [hl, List.length_map]⟩
  · rw [if_neg hmerge] at h
    split_ifs at h with hfit
    rw [Option.some.injEq] at h
    subst h
    exact ⟨hsum, fun h' => absurd h' hmerge⟩

/-- How `construct_miner_tx` splits a reward: the shares take, without wrapping, at most the
reward, so the `uint64_t` running sum `shared_reward` is their true total and
`block_reward -= shared_reward` does not wrap; `decompose_amount_into_digits` hands over pieces
that add up to the amount, increasing digit chunks and at most one dust below the threshold;
and the merge loop keeps the miner's total while leaving `min (count, max_outs)` amounts. -/
theorem block_reward_split_preserves_total :
    (∀ (crypto : CryptoOps) (blockReward : ℕ) (version : UInt8) (nettype : NetworkType)
        (info : AddressParseInfo),
      let amounts := (getBlockRewardShares crypto blockReward version nettype info).map
        BlockRewardShare.amount
      amounts.sum ≤ blockReward ∧
        (blockReward < 2 ^ 64 → amounts.foldl (fun acc a => (acc + a) % 2 ^ 64) 0 = amounts.sum)) ∧
    (∀ amount dustThreshold : ℕ,
      let ps := decomposedPieces amount dustThreshold
      (ps.map AmountPiece.amount).sum = amount ∧
        (∀ c ∈ AmountPiece.chunks ps, ∃ d k, 1 ≤ d ∧ d ≤ 9 ∧ c = d * 10 ^ k) ∧
        (AmountPiece.chunks ps).Pairwise (· < ·) ∧
        (AmountPiece.dusts ps).length ≤ 1 ∧ ∀ d ∈ AmountPiece.dusts ps, d ≤ dustThreshold) ∧
    (∀ (height minerReward maxOuts : ℕ) (version : UInt8) (outAmounts : List ℕ),
      minerReward < 2 ^ 64 → height = 0 ∨ version ≥ blockMajorVersion4 →
      minerOutAmounts height minerReward maxOuts version = some outAmounts →
      outAmounts.sum = minerReward ∧
        outAmounts.length = min (decomposedPieces minerReward
          (if version ≥ blockMajorVersion2 then 0 else defaultDustThreshold)).length maxOuts) := by
  refine ⟨fun crypto blockReward version nettype info => ?_, decomposedPieces_spec, ?_⟩
  · have hle := getBlockRewardShares_sum_le crypto blockReward version nettype info
    refine ⟨hle, fun hreward => ?_⟩
    rw [foldl_add_mod, Nat.mod_eq_of_lt (lt_of_le_of_lt hle hreward)]
  · intro height minerReward maxOuts version outAmounts hreward hmerge h
    obtain ⟨hsum, hlen⟩ := minerOutAmounts_spec hreward h
    exact ⟨hsum, hlen hmerge⟩

/-- A reward of `1234` at version 4, merged down to two amounts: `4 + 30 + 200` and `1000`. -/
theorem block_reward_split_preserves_total_at_1234 :
    minerOutAmounts 1 1234 2 4 = some [234, 1000] ∧ [234, 1000].sum = 1234 ∧
      [234, 1000].length = min (decomposedPieces 1234
        (if (4 : UInt8) ≥ blockMajorVersion2 then 0 else defaultDustThreshold)).length 2 :=
  have hmerged : minerOutAmounts 1 1234 2 4 = some [234, 1000] := by decide
  ⟨hmerged, block_reward_split_preserves_total.2.2 1 1234 2 4 [234, 1000] (by decide)
    (Or.inr (by decide)) hmerged⟩

end Crypto

end Bittube.CryptonoteCore

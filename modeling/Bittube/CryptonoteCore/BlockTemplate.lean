import Bittube.CryptonoteCore.TxPool
import Bittube.CryptonoteBasic.BasicImpl
import Mathlib.Data.List.Nodup

/-!
# Filling a block template (`tx_memory_pool::fill_block_template`)

`fill_block_template` walks the pool's transactions in the order of `m_txs_by_fee_and_receive_time`
and takes each one that is not pruned, fits under the weight limit, raises the coinbase (from
`BLOCK_MAJOR_VERSION_4`) or comes before the block passes its median weight (before it), is ready
to go, and spends no key image a transaction already taken spends. It adds up the weights and the
fees, and the coinbase of the last transaction taken is the expected reward.

The loop's first test is meant to skip transactions that are not public (`"local" and "stem" txes
are filtered above`), but it reads `!get_txpool_tx_meta(...) && !meta.matches(legacy)`, which is
false whenever the metadata is found. Key images are collected with `append_key_images`, which
gives up at the first key image already in the set and leaves the rest of the transaction's key
images out of it.

What the loop reads of the blockchain is given by its results (`TemplateChain`): the `pruned`
flag of each transaction's metadata and whether `is_transaction_ready_to_go` accepts it; the
transaction it parses is the one the table holds.
-/

namespace Bittube.CryptonoteCore

open Bittube.Crypto Bittube.CryptonoteBasic

/-- What `fill_block_template` reads besides the pool's bookkeeping: the `pruned` flag of a
transaction's `txpool_tx_meta_t` and the result of `is_transaction_ready_to_go`. -/
structure TemplateChain where
  pruned : Hash → Bool
  readyToGo : Hash → Bool

/-- `x` rounded to a `float` (24-bit significand, to nearest, ties to even). -/
def roundToFloat (x : ℕ) : ℕ :=
  let e := Nat.log2 x + 1
  if e ≤ 24 then x
  else
    let shift := e - 24
    let q := x / 2 ^ shift
    let r := x % 2 ^ shift
    let q := if r > 2 ^ (shift - 1) ∨ (r = 2 ^ (shift - 1) ∧ q % 2 = 1) then q + 1 else q
    q * 2 ^ shift

/-- `template_accept_threshold(amount)`: `amount * ACCEPT_THRESHOLD` with the threshold the
`float` 1, so the amount rounded to a `float` and truncated back. -/
def templateAcceptThreshold (amount : ℕ) : ℕ := roundToFloat amount

/-- `have_key_images(k_images, tx)`: an input spends a key image of the set; the first input of
another kind than `txin_to_key` ends the search with `false`. -/
def haveKeyImages (kImages : List KeyImage) : List TxinV → Bool
  | [] => false
  | .toKey itk :: vin => kImages.contains itk.kImage || haveKeyImages kImages vin
  | _ :: _ => false

/-- `append_key_images(k_images, tx)`: each key image joins the set, and the first one already
there, or the first input of another kind, stops it with `false`. -/
def appendKeyImages (kImages : List KeyImage) : List TxinV → Bool × List KeyImage
  | [] => (true, kImages)
  | .toKey itk :: vin =>
    if kImages.contains itk.kImage then (false, kImages)
    else appendKeyImages (kImages ++ [itk.kImage]) vin
  | _ :: _ => (false, kImages)

/-- `core::check_tx_inputs_keyimages_diff(tx)`: the loop of `append_key_images`, on a set of its own
that starts empty. -/
def checkTxInputsKeyimagesDiff (vin : List TxinV) : Bool := (appendKeyImages [] vin).1

@[simp] theorem keyImagesOf_nil : keyImagesOf [] = [] := rfl

@[simp] theorem keyImagesOf_toKey (txin : TxinToKey) (vin : List TxinV) :
    keyImagesOf (.toKey txin :: vin) = txin.kImage :: keyImagesOf vin := rfl

@[simp] theorem checkInputsTypesSupported_toKey (txin : TxinToKey) (vin : List TxinV) :
    checkInputsTypesSupported (.toKey txin :: vin) = checkInputsTypesSupported vin := rfl

theorem checkInputsTypesSupported_of_ne {txin : TxinV} (h : ∀ itk, txin ≠ .toKey itk)
    (vin : List TxinV) : checkInputsTypesSupported (txin :: vin) = false := by
  cases txin with
  | toKey itk => exact absurd rfl (h itk)
  | _ => rfl

/-- `append_key_images` succeeds exactly on inputs that are all `txin_to_key` and spend distinct key
images, none of them in the set. -/
theorem appendKeyImages_fst_iff (kImages : List KeyImage) (vin : List TxinV) :
    (appendKeyImages kImages vin).1 = true ↔ checkInputsTypesSupported vin = true ∧
      (keyImagesOf vin).Nodup ∧ ∀ k ∈ keyImagesOf vin, k ∉ kImages := by
  fun_induction appendKeyImages kImages vin with
  | case1 kImages => simp [checkInputsTypesSupported]
  | case2 kImages itk vin hmem =>
    simp only [Bool.false_eq_true, false_iff, not_and]
    intro _ _ hfresh
    exact hfresh itk.kImage (by simp) (by simpa using hmem)
  | case3 kImages itk vin hmem ih =>
    rw [ih]
    have hnot : itk.kImage ∉ kImages := by simpa using hmem
    simp only [checkInputsTypesSupported_toKey, keyImagesOf_toKey, List.nodup_cons, List.mem_cons,
      forall_eq_or_imp, List.mem_append, List.not_mem_nil, or_false, not_or]
    -- the new key image is kept out of the set exactly when it is not among the later ones
    constructor
    · rintro ⟨htypes, hnodup, hfresh⟩
      exact ⟨htypes, ⟨fun h => (hfresh _ h).2 rfl, hnodup⟩, hnot, fun k hk => (hfresh k hk).1⟩
    · rintro ⟨htypes, ⟨hnotin, hnodup⟩, -, hfresh⟩
      exact ⟨htypes, hnodup, fun k hk => ⟨hfresh k hk, fun h => hnotin (h ▸ hk)⟩⟩
  | case4 kImages txin vin hne =>
    simp [checkInputsTypesSupported_of_ne hne]

/-- When `append_key_images` succeeds, each key image has joined the set, in order. -/
theorem appendKeyImages_snd {kImages : List KeyImage} {vin : List TxinV}
    (h : (appendKeyImages kImages vin).1 = true) :
    (appendKeyImages kImages vin).2 = kImages ++ keyImagesOf vin := by
  fun_induction appendKeyImages kImages vin with
  | case1 kImages => simp
  | case2 => simp at h
  | case3 kImages itk vin _ ih => simp [ih h]
  | case4 => simp at h

/-- On inputs that are all `txin_to_key`, `have_key_images` finds exactly the key images of the
set. -/
theorem haveKeyImages_eq_false_iff {kImages : List KeyImage} {vin : List TxinV}
    (htypes : checkInputsTypesSupported vin = true) :
    haveKeyImages kImages vin = false ↔ ∀ k ∈ keyImagesOf vin, k ∉ kImages := by
  induction vin with
  | nil => simp [haveKeyImages]
  | cons txin vin ih =>
    cases txin with
    | toKey itk =>
      rw [checkInputsTypesSupported_toKey] at htypes
      simp [haveKeyImages, ih htypes]
    | _ => simp [checkInputsTypesSupported] at htypes

/-- The variables of `fill_block_template`'s loop. -/
structure FillState where
  txHashes : List Hash
  totalWeight : ℕ
  fee : ℕ
  bestCoinbase : ℕ
  coinbase : ℕ
  kImages : List KeyImage

/-- `max_total_weight`: `2 * median_weight - CRYPTONOTE_COINBASE_BLOB_RESERVED_SIZE` from
`BLOCK_MAJOR_VERSION_4`, `130 * median_weight / 100` less the same before, in `size_t`. -/
def maxTotalWeight (medianWeight : ℕ) (version : UInt8) : ℕ :=
  if version ≥ blockMajorVersion4 then
    (2 * medianWeight % 2 ^ 64 + 2 ^ 64 - cryptonoteCoinbaseBlobReservedSize) % 2 ^ 64
  else (130 * medianWeight % 2 ^ 64 / 100 + 2 ^ 64 - cryptonoteCoinbaseBlobReservedSize) % 2 ^ 64

section Loop

variable (s : TxPoolState) (chain : TemplateChain) (medianWeight alreadyGeneratedCoins : ℕ)
  (version : UInt8)

/-- A transaction the loop takes: its id joins the block, its weight and fee the totals, its
coinbase becomes the best and its key images join the set. -/
def FillState.take (st : FillState) (id : Hash) (txMeta : TxpoolTxMeta) (tx : TransactionPrefix)
    (coinbase : ℕ) : FillState :=
  { txHashes := st.txHashes ++ [id]
    totalWeight := (st.totalWeight + txMeta.weight) % 2 ^ 64
    fee := (st.fee + txMeta.fee) % 2 ^ 64
    bestCoinbase := coinbase
    coinbase := coinbase
    kImages := (appendKeyImages st.kImages tx.vin).2 }

/-- The end of one round, once the weight and reward tests passed with `coinbase`: a transaction
that is ready and spends no key image of the set is taken. -/
def fillAccept (st : FillState) (id : Hash) (txMeta : TxpoolTxMeta) (tx : TransactionPrefix)
    (coinbase : ℕ) : FillState :=
  if !chain.readyToGo id then { st with coinbase }
  else if haveKeyImages st.kImages tx.vin then { st with coinbase }
  else st.take id txMeta tx coinbase

/-- One round of the loop, for the entry `id`: the state the loop goes on with, or `none` where it
breaks. An id without metadata is skipped (the metadata is then indeterminate, and the pool holds
metadata for each id it lists); with its metadata found, the first test never skips a
transaction. -/
def fillRound (st : FillState) (id : Hash) : Option FillState :=
  match s.txpoolTable.lookup id with
  | none => some st
  | some entry =>
    let txMeta := entry.txMeta
    if chain.pruned id then some st
    else if maxTotalWeight medianWeight version < (st.totalWeight + txMeta.weight) % 2 ^ 64 then
      some st
    else if version ≥ blockMajorVersion4 then
      match getBlockReward medianWeight ((st.totalWeight + txMeta.weight) % 2 ^ 64)
          alreadyGeneratedCoins st.fee version with
      | none => some st
      | some blockReward =>
        let coinbase := (blockReward + txMeta.fee) % 2 ^ 64
        if coinbase < templateAcceptThreshold st.bestCoinbase then some { st with coinbase }
        else some (fillAccept chain st id txMeta entry.tx coinbase)
    else if st.totalWeight > medianWeight then none
    else some (fillAccept chain st id txMeta entry.tx st.coinbase)

/-- The loop over `m_txs_by_fee_and_receive_time`. -/
def fillLoop : List (TxByFeeKey × Hash) → FillState → FillState
  | [], st => st
  | (_, id) :: rest, st =>
    match fillRound s chain medianWeight alreadyGeneratedCoins version st id with
    | some st' => fillLoop rest st'
    | none => st

/-- `fill_block_template(bl, median_weight, already_generated_coins, total_weight, fee,
expected_reward, version)`: the ids appended to `bl.tx_hashes`, `total_weight`, `fee` and
`expected_reward`. The baseline coinbase is the reward of an empty block, left at 0 when
`get_block_reward` refuses it. -/
def fillBlockTemplate : List Hash × ℕ × ℕ × ℕ :=
  let baseline := (getBlockReward medianWeight 0 alreadyGeneratedCoins 0 version).getD 0
  let st := fillLoop s chain medianWeight alreadyGeneratedCoins version s.txsByFeeAndReceiveTime
    ⟨[], 0, 0, baseline, 0, []⟩
  (st.txHashes, st.totalWeight, st.fee, st.bestCoinbase)

/-- A transaction received with `relay_method::local`, whose metadata does not match `legacy`, is
mined: its metadata is found, so the first test of its round does not skip it. -/
theorem fill_block_template_mines_local_tx :
    let tx : TransactionPrefix := ⟨2, 0, false, [.toKey ⟨0, [1], Blob.ofList 32 [5]⟩], [], []⟩
    let txId : Hash := Blob.ofList 32 [1]
    let checks : AddTxChecks := ⟨false, true, true, 100000, true, true, 0⟩
    let added : Bool × TxPoolState :=
      addTx (fun s => s) checks ⟨fun _ => none, [], [], 0⟩ tx txId 2000 100 .local 9
    let chain : TemplateChain := ⟨fun _ => false, fun _ => true⟩
    added.1 = true ∧ added.2.txpoolTxMatchesCategory txId .legacy = false ∧
      (fillBlockTemplate added.2 chain 1000000 0 9).1 = [txId] := by
  decide

/-! ## What the loop keeps -/

/-- `append_key_images` only adds to the set. -/
theorem mem_appendKeyImages_of_mem {kImages : List KeyImage} {vin : List TxinV} {k : KeyImage}
    (hk : k ∈ kImages) : k ∈ (appendKeyImages kImages vin).2 := by
  induction vin generalizing kImages with
  | nil => exact hk
  | cons txin vin ih =>
    cases txin with
    | toKey itk =>
      simp only [appendKeyImages]
      split_ifs
      · exact hk
      · exact ih (List.mem_append_left _ hk)
    | _ => exact hk

/-- A transaction that passes `check_tx_inputs_keyimages_diff` and that `have_key_images` lets
through spends no key image of the set. -/
theorem fresh_of_passed {kImages : List KeyImage} {vin : List TxinV}
    (hpass : checkTxInputsKeyimagesDiff vin = true) (hkeys : haveKeyImages kImages vin = false) :
    ∀ k ∈ keyImagesOf vin, k ∉ kImages :=
  (haveKeyImages_eq_false_iff ((appendKeyImages_fst_iff [] vin).mp hpass).1).mp hkeys

/-- Such a transaction's key images all join the set. -/
theorem appendKeyImages_of_passed {kImages : List KeyImage} {vin : List TxinV}
    (hpass : checkTxInputsKeyimagesDiff vin = true) (hkeys : haveKeyImages kImages vin = false) :
    (appendKeyImages kImages vin).1 = true := by
  obtain ⟨htypes, hnodup, -⟩ := (appendKeyImages_fst_iff [] vin).mp hpass
  exact (appendKeyImages_fst_iff _ _).mpr ⟨htypes, hnodup, fresh_of_passed hpass hkeys⟩

/-- The weights of the transactions taken, with their table entries. -/
def takenWeight (taken : List (Hash × TxpoolEntry)) : ℕ := (taken.map fun p => p.2.txMeta.weight).sum

/-- The fees of the transactions taken. -/
def takenFee (taken : List (Hash × TxpoolEntry)) : ℕ := (taken.map fun p => p.2.txMeta.fee).sum

@[simp] theorem takenWeight_concat (taken : List (Hash × TxpoolEntry)) (p : Hash × TxpoolEntry) :
    takenWeight (taken ++ [p]) = takenWeight taken + p.2.txMeta.weight := by
  simp [takenWeight]

@[simp] theorem takenFee_concat (taken : List (Hash × TxpoolEntry)) (p : Hash × TxpoolEntry) :
    takenFee (taken ++ [p]) = takenFee taken + p.2.txMeta.fee := by
  simp [takenFee]

/-- The loop's state after taking the transactions `taken`, from the baseline coinbase `baseline`:
they are the ids pushed, each a table entry that is not pruned and was ready; the weight and the
fee are their sums in 64 bits, the weight within `max_total_weight`; the best coinbase is the
baseline until one is taken, and from `BLOCK_MAJOR_VERSION_4` the reward at the block's weight with
the fees before the last one, plus its fee; the set holds every key image of a transaction taken
that passes `check_tx_inputs_keyimages_diff`, and two such transactions spend disjoint key
images. -/
structure FillInv (baseline : ℕ) (st : FillState) (taken : List (Hash × TxpoolEntry)) : Prop where
  txHashes_eq : st.txHashes = taken.map Prod.fst
  mem_table : ∀ p ∈ taken, s.txpoolTable.lookup p.1 = some p.2
  not_pruned : ∀ p ∈ taken, chain.pruned p.1 = false
  ready : ∀ p ∈ taken, chain.readyToGo p.1 = true
  totalWeight_eq : st.totalWeight = takenWeight taken % 2 ^ 64
  totalWeight_le : st.totalWeight ≤ maxTotalWeight medianWeight version
  fee_eq : st.fee = takenFee taken % 2 ^ 64
  bestCoinbase_nil : taken = [] → st.bestCoinbase = baseline
  bestCoinbase_last : version ≥ blockMajorVersion4 → ∀ pre p, taken = pre ++ [p] →
    ∃ blockReward, getBlockReward medianWeight st.totalWeight alreadyGeneratedCoins
        (takenFee pre % 2 ^ 64) version = some blockReward ∧
      st.bestCoinbase = (blockReward + p.2.txMeta.fee) % 2 ^ 64
  passed_mem : ∀ p ∈ taken, checkTxInputsKeyimagesDiff p.2.tx.vin = true →
    ∀ k ∈ keyImagesOf p.2.tx.vin, k ∈ st.kImages
  passed_disjoint : taken.Pairwise fun p q => checkTxInputsKeyimagesDiff p.2.tx.vin = true →
    checkTxInputsKeyimagesDiff q.2.tx.vin = true →
      (keyImagesOf p.2.tx.vin).Disjoint (keyImagesOf q.2.tx.vin)

variable {s chain medianWeight alreadyGeneratedCoins version}

theorem FillInv.start (baseline : ℕ) :
    FillInv s chain medianWeight alreadyGeneratedCoins version baseline
      ⟨[], 0, 0, baseline, 0, []⟩ [] where
  txHashes_eq := rfl
  mem_table := by simp
  not_pruned := by simp
  ready := by simp
  totalWeight_eq := rfl
  totalWeight_le := Nat.zero_le _
  fee_eq := rfl
  bestCoinbase_nil := fun _ => rfl
  bestCoinbase_last := fun _ pre p h => absurd h.symm (List.append_ne_nil_of_right_ne_nil pre
    (List.cons_ne_nil p []))
  passed_mem := by simp
  passed_disjoint := List.Pairwise.nil

/-- A new `coinbase` leaves the invariant as it was: it becomes the best only with a transaction. -/
theorem FillInv.withCoinbase {baseline : ℕ} {st : FillState} {taken : List (Hash × TxpoolEntry)}
    (hinv : FillInv s chain medianWeight alreadyGeneratedCoins version baseline st taken)
    (coinbase : ℕ) :
    FillInv s chain medianWeight alreadyGeneratedCoins version baseline { st with coinbase }
      taken :=
  { hinv with }

/-- Taking a transaction that passed every test of its round. -/
theorem FillInv.take {baseline : ℕ} {st : FillState} {taken : List (Hash × TxpoolEntry)}
    {id : Hash} {entry : TxpoolEntry} {coinbase : ℕ}
    (hinv : FillInv s chain medianWeight alreadyGeneratedCoins version baseline st taken)
    (hlookup : s.txpoolTable.lookup id = some entry) (hpruned : chain.pruned id = false)
    (hready : chain.readyToGo id = true) (hkeys : haveKeyImages st.kImages entry.tx.vin = false)
    (hweight : (st.totalWeight + entry.txMeta.weight) % 2 ^ 64 ≤
      maxTotalWeight medianWeight version)
    (hreward : version ≥ blockMajorVersion4 → ∃ blockReward,
      getBlockReward medianWeight ((st.totalWeight + entry.txMeta.weight) % 2 ^ 64)
        alreadyGeneratedCoins st.fee version = some blockReward ∧
      coinbase = (blockReward + entry.txMeta.fee) % 2 ^ 64) :
    FillInv s chain medianWeight alreadyGeneratedCoins version baseline
      (st.take id entry.txMeta entry.tx coinbase) (taken ++ [(id, entry)]) := by
  have hweight_eq : (st.totalWeight + entry.txMeta.weight) % 2 ^ 64 =
      takenWeight (taken ++ [(id, entry)]) % 2 ^ 64 := by
    rw [hinv.totalWeight_eq, takenWeight_concat, Nat.mod_add_mod]
  constructor
  · simp [FillState.take, hinv.txHashes_eq]
  · exact List.forall_mem_append.mpr ⟨hinv.mem_table, List.forall_mem_singleton.mpr hlookup⟩
  · exact List.forall_mem_append.mpr ⟨hinv.not_pruned, List.forall_mem_singleton.mpr hpruned⟩
  · exact List.forall_mem_append.mpr ⟨hinv.ready, List.forall_mem_singleton.mpr hready⟩
  · exact hweight_eq
  · exact hweight
  · simp only [FillState.take, hinv.fee_eq, takenFee_concat, Nat.mod_add_mod]
  · intro h
    exact absurd h (List.append_ne_nil_of_right_ne_nil taken (List.cons_ne_nil _ []))
  · -- the last transaction is this one, taken after `taken`
    intro hv pre p hsplit
    obtain ⟨rfl, hp⟩ := List.append_inj' hsplit rfl
    obtain rfl : p = (id, entry) := (List.singleton_inj.mp hp).symm
    obtain ⟨blockReward, hget, rfl⟩ := hreward hv
    exact ⟨blockReward, by rwa [← hinv.fee_eq], rfl⟩
  · -- the set only grows, and takes all key images of a new transaction that passes
    intro p hp hpass k hk
    rcases List.mem_append.mp hp with hp | hp
    · exact mem_appendKeyImages_of_mem (hinv.passed_mem p hp hpass k hk)
    · obtain rfl := List.mem_singleton.mp hp
      rw [FillState.take, appendKeyImages_snd (appendKeyImages_of_passed hpass hkeys)]
      exact List.mem_append_right _ hk
  · -- a new transaction that passes spends no key image of the set, which holds those of the
    -- earlier ones that pass
    refine List.pairwise_append.mpr ⟨hinv.passed_disjoint, List.pairwise_singleton _ _, ?_⟩
    intro p hp q hq hpass hpass' k hkp hkq
    obtain rfl := List.mem_singleton.mp hq
    exact fresh_of_passed hpass' hkeys k hkq (hinv.passed_mem p hp hpass k hkp)

/-- The end of a round keeps the invariant, whether the transaction is taken or not. -/
theorem FillInv.accept {baseline : ℕ} {st : FillState} {taken : List (Hash × TxpoolEntry)}
    {id : Hash} {entry : TxpoolEntry} {coinbase : ℕ}
    (hinv : FillInv s chain medianWeight alreadyGeneratedCoins version baseline st taken)
    (hlookup : s.txpoolTable.lookup id = some entry) (hpruned : chain.pruned id = false)
    (hweight : (st.totalWeight + entry.txMeta.weight) % 2 ^ 64 ≤
      maxTotalWeight medianWeight version)
    (hreward : version ≥ blockMajorVersion4 → ∃ blockReward,
      getBlockReward medianWeight ((st.totalWeight + entry.txMeta.weight) % 2 ^ 64)
        alreadyGeneratedCoins st.fee version = some blockReward ∧
      coinbase = (blockReward + entry.txMeta.fee) % 2 ^ 64) :
    ∃ taken', FillInv s chain medianWeight alreadyGeneratedCoins version baseline
      (fillAccept chain st id entry.txMeta entry.tx coinbase) taken' := by
  unfold fillAccept
  split_ifs with hready hkeys
  · exact ⟨taken, hinv.withCoinbase coinbase⟩
  · exact ⟨taken, hinv.withCoinbase coinbase⟩
  · exact ⟨_, hinv.take hlookup hpruned (by simpa using hready) (by simpa using hkeys) hweight
      hreward⟩

/-- Each round that goes on keeps the invariant. -/
theorem FillInv.round {baseline : ℕ} {st st' : FillState} {taken : List (Hash × TxpoolEntry)}
    {id : Hash} (hinv : FillInv s chain medianWeight alreadyGeneratedCoins version baseline st taken)
    (hround : fillRound s chain medianWeight alreadyGeneratedCoins version st id = some st') :
    ∃ taken', FillInv s chain medianWeight alreadyGeneratedCoins version baseline st' taken' := by
  unfold fillRound at hround
  rcases hlookup : s.txpoolTable.lookup id with _ | entry
  · -- no metadata: the round skips the id
    rw [hlookup, Option.some.injEq] at hround
    exact ⟨taken, hround ▸ hinv⟩
  rw [hlookup] at hround
  dsimp only at hround
  split_ifs at hround with hpruned hover hv hbreak
  · exact ⟨taken, Option.some.inj hround ▸ hinv⟩
  · exact ⟨taken, Option.some.inj hround ▸ hinv⟩
  · -- from `BLOCK_MAJOR_VERSION_4`: the reward decides
    have hpruned' : chain.pruned id = false := by simpa using hpruned
    split at hround
    · exact ⟨taken, Option.some.inj hround ▸ hinv⟩
    · next blockReward hget =>
      split_ifs at hround with hlow
      · exact ⟨taken, Option.some.inj hround ▸ hinv.withCoinbase _⟩
      · rw [← Option.some.inj hround]
        exact hinv.accept hlookup hpruned' (Nat.le_of_not_lt hover)
          fun _ => ⟨blockReward, hget, rfl⟩
  · -- before it the round goes on below the median
    rw [← Option.some.inj hround]
    exact hinv.accept hlookup (by simpa using hpruned) (Nat.le_of_not_lt hover)
      fun h => absurd h hv

/-- The run lemma: the loop keeps the invariant over the rest of the fee-ordered list, from any
state that has it. -/
theorem FillInv.run {baseline : ℕ} (entries : List (TxByFeeKey × Hash)) {st : FillState}
    {taken : List (Hash × TxpoolEntry)}
    (hinv : FillInv s chain medianWeight alreadyGeneratedCoins version baseline st taken) :
    ∃ taken', FillInv s chain medianWeight alreadyGeneratedCoins version baseline
      (fillLoop s chain medianWeight alreadyGeneratedCoins version entries st) taken' := by
  induction entries generalizing st taken with
  | nil => exact ⟨taken, hinv⟩
  | cons entry rest ih =>
    obtain ⟨key, id⟩ := entry
    rw [fillLoop]
    rcases hround : fillRound s chain medianWeight alreadyGeneratedCoins version st id with
      _ | st'
    · exact ⟨taken, hinv⟩
    · obtain ⟨taken', hinv'⟩ := hinv.round hround
      exact ih hinv'

end Loop

/-- `fill_block_template` builds a consistent template from any pool: the ids it appends are table
entries that are not pruned and were ready; `total_weight` and `fee` are the sums of their weights
and fees in 64 bits, the weight within `max_total_weight`; the expected reward is the empty block's
until a transaction is taken, and from `BLOCK_MAJOR_VERSION_4` the reward at the block's weight with
the fees before the last transaction, plus its fee; and any two transactions taken whose inputs
pass `check_tx_inputs_keyimages_diff` spend disjoint key images, whatever the others spend. -/
theorem fill_block_template_consistent (s : TxPoolState) (chain : TemplateChain)
    (medianWeight alreadyGeneratedCoins : ℕ) (version : UInt8) :
    ∃ taken : List (Hash × TxpoolEntry),
      let template : List Hash × ℕ × ℕ × ℕ :=
        fillBlockTemplate s chain medianWeight alreadyGeneratedCoins version
      template.1 = taken.map Prod.fst ∧
      (∀ p ∈ taken, s.txpoolTable.lookup p.1 = some p.2 ∧ chain.pruned p.1 = false ∧
        chain.readyToGo p.1 = true) ∧
      template.2.1 = takenWeight taken % 2 ^ 64 ∧
      template.2.1 ≤ maxTotalWeight medianWeight version ∧
      template.2.2.1 = takenFee taken % 2 ^ 64 ∧
      (taken = [] →
        template.2.2.2 = (getBlockReward medianWeight 0 alreadyGeneratedCoins 0 version).getD 0) ∧
      (version ≥ blockMajorVersion4 → ∀ pre p, taken = pre ++ [p] → ∃ blockReward,
        getBlockReward medianWeight template.2.1 alreadyGeneratedCoins (takenFee pre % 2 ^ 64)
          version = some blockReward ∧
        template.2.2.2 = (blockReward + p.2.txMeta.fee) % 2 ^ 64) ∧
      taken.Pairwise (fun p q => checkTxInputsKeyimagesDiff p.2.tx.vin = true →
        checkTxInputsKeyimagesDiff q.2.tx.vin = true →
          (keyImagesOf p.2.tx.vin).Disjoint (keyImagesOf q.2.tx.vin)) := by
  let baseline := (getBlockReward medianWeight 0 alreadyGeneratedCoins 0 version).getD 0
  have hstart : FillInv s chain medianWeight alreadyGeneratedCoins version baseline
      ⟨[], 0, 0, baseline, 0, []⟩ [] := FillInv.start baseline
  obtain ⟨taken, hinv⟩ := hstart.run s.txsByFeeAndReceiveTime
  refine ⟨taken, hinv.txHashes_eq,
    fun p hp => ⟨hinv.mem_table p hp, hinv.not_pruned p hp, hinv.ready p hp⟩,
    hinv.totalWeight_eq, hinv.totalWeight_le, hinv.fee_eq, hinv.bestCoinbase_nil,
    hinv.bestCoinbase_last, hinv.passed_disjoint⟩

/-- Two transactions both spending `k2` are mined together: the first spends `k1` twice, so
`append_key_images` stops at its second input and `k2` never joins the set. Both come from blocks
(`relay_method::block`), for which `add_tx` does not run `check_tx_inputs`, and `insert_key_images`
accepts the repeated key image of a transaction not yet in the table; before
`BLOCK_MAJOR_VERSION_4` no check of `is_transaction_ready_to_go` looks at repeated key images. -/
theorem fill_block_template_shares_key_image :
    let k1 : KeyImage := Blob.ofList 32 [1]
    let k2 : KeyImage := Blob.ofList 32 [2]
    let tx1 : TransactionPrefix :=
      ⟨1, 0, false, [.toKey ⟨0, [1], k1⟩, .toKey ⟨0, [2], k1⟩, .toKey ⟨0, [3], k2⟩], [], []⟩
    let tx2 : TransactionPrefix := ⟨1, 0, false, [.toKey ⟨0, [4], k2⟩], [], []⟩
    let id1 : Hash := Blob.ofList 32 [11]
    let id2 : Hash := Blob.ofList 32 [12]
    let checks : AddTxChecks := ⟨false, true, true, 100000, true, true, 0⟩
    let added1 : Bool × TxPoolState :=
      addTx (fun s => s) checks ⟨fun _ => none, [], [], 0⟩ tx1 id1 2000 200 .block 3
    let added2 : Bool × TxPoolState := addTx (fun s => s) checks added1.2 tx2 id2 1000 50 .block 3
    let chain : TemplateChain := ⟨fun _ => false, fun _ => true⟩
    added1.1 = true ∧ added2.1 = true ∧
      (fillBlockTemplate added2.2 chain 100000 0 3).1 = [id1, id2] ∧
      k2 ∈ keyImagesOf tx1.vin ∧ k2 ∈ keyImagesOf tx2.vin := by
  decide

end Bittube.CryptonoteCore

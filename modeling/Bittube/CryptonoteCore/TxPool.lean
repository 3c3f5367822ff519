import Bittube.CryptonoteBasic.Transaction
import Bittube.CryptonoteConfig

/-!
# Adding a transaction to the pool (`tx_memory_pool::add_tx`)

The pool keeps its transactions in the database's txpool table (their metadata and blobs)
and, in memory, the map `m_spent_key_images` from each key image to the ids of the pool
transactions spending it, the set `m_txs_by_fee_and_receive_time` and the total weight
`m_txpool_weight`.

`add_tx` runs its checks, then, inside a database batch (`LockedTXN`, aborted unless
committed), registers the key images with `insert_key_images`, writes the table and updates the
two other containers. `insert_key_images` updates the in-memory map input by input: when a later
input fails, the batch is rolled back but the map keeps what the earlier inputs added.

The checks that read the blockchain, the clock or the transaction's amounts are given by their
results (`AddTxChecks`); the pruning pass after a successful addition is a parameter. A refused
transaction leaves the pool as it was, unless `insert_key_images` failed, and then only the
key-image map has changed: a transaction spending a fresh key image and then one held by a pool
transaction that is not relayed is refused, and leaves its fresh key image in the map, naming a
transaction the pool does not hold.
-/

namespace Bittube.CryptonoteCore

open Bittube.Crypto Bittube.CryptonoteBasic

/-- `relay_method`. -/
inductive RelayMethod where
  | none
  | local
  | block
  | flood
  deriving DecidableEq, Repr

/-- `relay_category`. -/
inductive RelayCategory where
  | broadcasted
  | relayable
  | legacy
  | all
  deriving DecidableEq, Repr

/-- `matches_category(method, category)`: `broadcasted` are the transactions received in a block
or by flooding; `legacy` adds those not to be relayed. -/
def matchesCategory (method : RelayMethod) (category : RelayCategory) : Bool :=
  match category with
  | .all => true
  | .relayable => method != .none
  | .broadcasted | .legacy =>
    match method with
    | .local => false
    | .block | .flood => true
    | .none => category == .legacy

/-- The fields of `txpool_tx_meta_t` that the pool's bookkeeping reads: the weight, the fee, the
receive time, and the relay method that `set_relay_method` stores as three flags and
`get_relay_method` reads back. -/
structure TxpoolTxMeta where
  weight : ℕ
  fee : ℕ
  receiveTime : ℕ
  relayMethod : RelayMethod
  deriving DecidableEq, Repr

/-- An entry of the database's txpool table: the metadata, and the transaction its blob holds. -/
structure TxpoolEntry where
  txMeta : TxpoolTxMeta
  tx : TransactionPrefix
  deriving DecidableEq, Repr

/-- The key of `m_txs_by_fee_and_receive_time`: the fee and weight whose quotient
`fee / (double)weight` the source keys on, and the receive time. -/
structure TxByFeeKey where
  fee : ℕ
  weight : ℕ
  receiveTime : ℕ
  deriving DecidableEq, Repr

/-- The pool's bookkeeping. -/
structure TxPoolState where
  /-- `m_spent_key_images`: `none` where the map has no entry. -/
  spentKeyImages : KeyImage → Option (List Hash)
  /-- The database's txpool table, by transaction id. -/
  txpoolTable : List (Hash × TxpoolEntry)
  /-- `m_txs_by_fee_and_receive_time`. -/
  txsByFeeAndReceiveTime : List (TxByFeeKey × Hash)
  /-- `m_txpool_weight`. -/
  txpoolWeight : ℕ

namespace TxPoolState

/-- `get_txpool_tx_meta(id, meta)`. -/
def getTxpoolTxMeta (s : TxPoolState) (id : Hash) : Option TxpoolTxMeta :=
  (s.txpoolTable.lookup id).map TxpoolEntry.txMeta

/-- `txpool_tx_matches_category(id, category)`: false for a transaction not in the table. -/
def txpoolTxMatchesCategory (s : TxPoolState) (id : Hash) (category : RelayCategory) : Bool :=
  match s.getTxpoolTxMeta id with
  | none => false
  | some txMeta => matchesCategory txMeta.relayMethod category

/-- `have_tx_keyimg_as_spent(key_im)`: some pool transaction spending the key image was
broadcast. -/
def haveTxKeyimgAsSpent (s : TxPoolState) (keyIm : KeyImage) : Bool :=
  match s.spentKeyImages keyIm with
  | none => false
  | some ids => ids.any fun txHash => s.txpoolTxMatchesCategory txHash .broadcasted

/-- `have_tx_keyimges_as_spent(tx)`: an input spends such a key image; an input of another kind
than `txin_to_key` counts as spent (`CHECKED_GET_SPECIFIC_VARIANT(..., true)`). -/
def haveTxKeyimgesAsSpent (s : TxPoolState) : List TxinV → Bool
  | [] => false
  | .toKey txin :: vin => s.haveTxKeyimgAsSpent txin.kImage || s.haveTxKeyimgesAsSpent vin
  | _ :: _ => true

/-- `insert_key_images(tx, id, tx_relay)` on the map `m`: for each input, take the set of its
key image (`m_spent_key_images[k]` creates it empty); fail if a transaction of the set is
publicly visible (`legacy`), unless `tx_relay` is `block`; add `id` to the set, failing if it
was there as a publicly visible transaction. A failure returns the map as far as it got. -/
def insertKeyImages (s : TxPoolState) (id : Hash) (txRelay : RelayMethod) :
    List TxinV → (KeyImage → Option (List Hash)) → Bool × (KeyImage → Option (List Hash))
  | [], m => (true, m)
  | .toKey txin :: vin, m =>
    let keiImageSet := (m txin.kImage).getD []
    let m := Function.update m txin.kImage (some keiImageSet)
    let visible := txRelay != .block &&
      keiImageSet.any fun otherId => s.txpoolTxMatchesCategory otherId .legacy
    if visible then (false, m)
    else
      let inserted := !keiImageSet.contains id
      let m := Function.update m txin.kImage
        (some (if inserted then keiImageSet ++ [id] else keiImageSet))
      if inserted || !s.txpoolTxMatchesCategory id .legacy then
        insertKeyImages s id txRelay vin m
      else (false, m)
  | _ :: _, m => (false, m)

end TxPoolState

/-- The results of the checks of `add_tx` that read the blockchain, the clock or the
transaction's amounts. -/
structure AddTxChecks where
  /-- `m_timed_out_transactions.find(id) != end()`. -/
  timedOut : Bool
  /-- For a version 1 transaction: `get_inputs_money_amount` succeeds and the outputs do not
  exceed the inputs. -/
  inputsMoneyOk : Bool
  /-- `m_blockchain.check_fee(tx_weight, fee)`. -/
  checkFee : Bool
  /-- `get_transaction_weight_limit(version)`. -/
  txWeightLimit : ℕ
  /-- `m_blockchain.check_tx_outputs(tx, tvc)`. -/
  checkTxOutputs : Bool
  /-- `check_tx_inputs(...)`. -/
  checkTxInputs : Bool
  /-- `time(nullptr)`. -/
  receiveTime : ℕ

/-- `check_inputs_types_supported(tx)`: every input is a `txin_to_key`. -/
def checkInputsTypesSupported (vin : List TxinV) : Bool :=
  vin.all fun
    | .toKey _ => true
    | _ => false

/-- The checks `add_tx` makes before its batch, each of which returns `false` at once: the
version is not 0; a transaction not from a block has not timed out before, pays its fee, and
spends no key image of a broadcast pool transaction; the inputs are all `txin_to_key`; a
version 1 transaction's amounts add up; the weight is within the limit (always from
`HF_VERSION_PER_BYTE_FEE`); the outputs are valid; and the inputs are, unless the transaction
comes from a block. -/
def addTxChecksPass (checks : AddTxChecks) (s : TxPoolState) (tx : TransactionPrefix)
    (txWeight : ℕ) (txRelay : RelayMethod) (version : UInt8) : Bool :=
  let keptByBlock := txRelay == .block
  tx.version != 0 && !(!keptByBlock && checks.timedOut) && checkInputsTypesSupported tx.vin &&
    !(tx.version == 1 && !checks.inputsMoneyOk) && !(!keptByBlock && !checks.checkFee) &&
    !((!keptByBlock || decide (version ≥ hfVersionPerByteFee)) &&
      decide (txWeight > checks.txWeightLimit)) &&
    !(!keptByBlock && s.haveTxKeyimgesAsSpent tx.vin) && checks.checkTxOutputs &&
    !(!checks.checkTxInputs && !keptByBlock)

/-- `add_tx(tx, id, blob, tx_weight, tvc, tx_relay, relayed, version)` for a transaction whose
fee is `fee`: whether it returns `true`, and the pool after it. Inside the batch the table is
written only on commit, while `insert_key_images` changes the key-image map at once. `prune`
is the pass `prune(m_txpool_max_weight)` after a successful addition. -/
def addTx (prune : TxPoolState → TxPoolState) (checks : AddTxChecks) (s : TxPoolState)
    (tx : TransactionPrefix) (id : Hash) (txWeight fee : ℕ) (txRelay : RelayMethod)
    (version : UInt8) : Bool × TxPoolState :=
  if !addTxChecksPass checks s tx txWeight txRelay version then (false, s)
  else
    match s.insertKeyImages id txRelay tx.vin s.spentKeyImages with
    | (false, m) => (false, { s with spentKeyImages := m })
    | (true, m) =>
      let txMeta : TxpoolTxMeta := ⟨txWeight, fee, checks.receiveTime, txRelay⟩
      let entry : TxByFeeKey × Hash := (⟨fee, txWeight, checks.receiveTime⟩, id)
      (true, prune
        { spentKeyImages := m
          txpoolTable := (id, ⟨txMeta, tx⟩) :: s.txpoolTable.filter (·.1 != id)
          txsByFeeAndReceiveTime :=
            if entry ∈ s.txsByFeeAndReceiveTime then s.txsByFeeAndReceiveTime
            else s.txsByFeeAndReceiveTime ++ [entry]
          txpoolWeight := s.txpoolWeight + txWeight })

/-- The key images a transaction's inputs spend. -/
def keyImagesOf (vin : List TxinV) : List KeyImage :=
  vin.filterMap fun
    | .toKey txin => some txin.kImage
    | _ => none

/-- The bookkeeping invariant: `m_spent_key_images` maps each key image it holds to the
nonempty, duplicate-free list of exactly the pool transactions spending it;
`m_txs_by_fee_and_receive_time` holds one entry per pool transaction; `m_txpool_weight` is the
sum of their weights; the table has one entry per id. -/
structure PoolBookkeeping (s : TxPoolState) : Prop where
  keyImages_ne_nil : ∀ k ids, s.spentKeyImages k = some ids → ids ≠ [] ∧ ids.Nodup
  mem_keyImages : ∀ k i, i ∈ (s.spentKeyImages k).getD [] ↔
    ∃ e, s.txpoolTable.lookup i = some e ∧ k ∈ keyImagesOf e.tx.vin
  count_byFee : ∀ i, (s.txsByFeeAndReceiveTime.map Prod.snd).count i =
    if (s.txpoolTable.lookup i).isSome then 1 else 0
  weight_eq : s.txpoolWeight = (s.txpoolTable.map fun e => e.2.txMeta.weight).sum
  table_nodup : (s.txpoolTable.map Prod.fst).Nodup

/-! ## Refused transactions -/

/-- A refused transaction leaves the pool as it was, unless `insert_key_images` failed, and then
the key-image map is the one it left. -/
theorem addTx_false_cases {prune : TxPoolState → TxPoolState} {checks : AddTxChecks}
    {s : TxPoolState} {tx : TransactionPrefix} {id : Hash} {txWeight fee : ℕ}
    {txRelay : RelayMethod} {version : UInt8}
    (h : (addTx prune checks s tx id txWeight fee txRelay version).1 = false) :
    (addTx prune checks s tx id txWeight fee txRelay version).2 = s ∨
      ∃ m, s.insertKeyImages id txRelay tx.vin s.spentKeyImages = (false, m) ∧
        (addTx prune checks s tx id txWeight fee txRelay version).2 =
          { s with spentKeyImages := m } := by
  unfold addTx at h ⊢
  by_cases hpass : addTxChecksPass checks s tx txWeight txRelay version = true
  · rw [if_neg (by simpa using hpass)] at h ⊢
    rcases hins : s.insertKeyImages id txRelay tx.vin s.spentKeyImages with ⟨_ | _, m⟩
    · simp only
      exact Or.inr ⟨m, rfl, rfl⟩
    · simp [hins] at h
  · -- a check before the batch failed: nothing was changed
    rw [if_pos (by simpa using hpass)]
    exact Or.inl rfl

/-- `insert_key_images` on a fresh key image, then on one held by pool transactions of which
one is publicly visible: the first is registered for `id`, then the second fails. -/
theorem insertKeyImages_fresh_then_visible (s : TxPoolState) (id : Hash)
    {txRelay : RelayMethod} {txin txin' : TxinToKey} {ids : List Hash}
    {m : KeyImage → Option (List Hash)} (hrelay : txRelay ≠ .block)
    (hfresh : m txin'.kImage = none) (hne : txin'.kImage ≠ txin.kImage)
    (hheld : m txin.kImage = some ids)
    (hvisible : ids.any (fun otherId => s.txpoolTxMatchesCategory otherId .legacy) = true) :
    s.insertKeyImages id txRelay [.toKey txin', .toKey txin] m =
      (false, Function.update m txin'.kImage (some [id])) := by
  have hrelay' : (txRelay != .block) = true := by simpa using hrelay
  simp only [TxPoolState.insertKeyImages, hfresh, Option.getD_none, List.any_nil,
    Bool.and_false, Bool.false_eq_true, if_false, List.contains_nil, Bool.not_false,
    if_true, List.nil_append, Bool.true_or, Function.update_of_ne hne.symm, hheld,
    Option.getD_some, hrelay', hvisible, Bool.and_self]
  -- the map after both inputs: the second input rewrites its own entry with its old value
  refine Prod.ext rfl (funext fun k => ?_)
  by_cases hk : k = txin.kImage
  · subst hk
    simp [Function.update_of_ne hne.symm, hheld]
  · by_cases hk' : k = txin'.kImage
    · subst hk'
      simp [Function.update_of_ne hk]
    · simp [Function.update_of_ne hk, Function.update_of_ne hk']

/-- **A refused transaction can leave a key image behind.** A transaction that is not from a
block, passes the checks of `add_tx` and spends first a key image the pool has not seen, then
one spent by pool transactions none of which was broadcast but one of which is publicly visible
(relayed with `relay_method::none`), passes the double-spend check and is refused by
`insert_key_images` on its second input, after the first registered it. `add_tx` returns
`false`, and `m_spent_key_images` now maps the fresh key image to the transaction, which the
pool does not hold: the bookkeeping invariant no longer holds. -/
theorem add_tx_failure_leaves_spent_key_image (prune : TxPoolState → TxPoolState)
    (checks : AddTxChecks) (s : TxPoolState) (tx : TransactionPrefix) (id : Hash)
    (txWeight fee : ℕ) (txRelay : RelayMethod) (version : UInt8) (txin txin' : TxinToKey)
    (ids : List Hash) (hvin : tx.vin = [.toKey txin', .toKey txin]) (hversion : tx.version ≠ 0)
    (hrelay : txRelay ≠ .block) (htimed : checks.timedOut = false)
    (hmoney : checks.inputsMoneyOk = true) (hfee : checks.checkFee = true)
    (hweight : txWeight ≤ checks.txWeightLimit) (houtputs : checks.checkTxOutputs = true)
    (hinputs : checks.checkTxInputs = true) (hfresh : s.spentKeyImages txin'.kImage = none)
    (hne : txin'.kImage ≠ txin.kImage) (hheld : s.spentKeyImages txin.kImage = some ids)
    (hhidden : ∀ i ∈ ids, s.txpoolTxMatchesCategory i .broadcasted = false)
    (hvisible : ids.any (fun otherId => s.txpoolTxMatchesCategory otherId .legacy) = true)
    (hnew : s.txpoolTable.lookup id = none) :
    addTx prune checks s tx id txWeight fee txRelay version =
        (false, { s with
          spentKeyImages := Function.update s.spentKeyImages txin'.kImage (some [id]) }) ∧
      ¬ PoolBookkeeping { s with
          spentKeyImages := Function.update s.spentKeyImages txin'.kImage (some [id]) } := by
  have hkept : (txRelay == .block) = false := by simpa using hrelay
  -- neither key image is spent by a broadcast pool transaction
  have hspent : s.haveTxKeyimgesAsSpent [.toKey txin', .toKey txin] = false := by
    have hall : (ids.any fun i => s.txpoolTxMatchesCategory i .broadcasted) = false := by
      simpa using hhidden
    simp [TxPoolState.haveTxKeyimgesAsSpent, TxPoolState.haveTxKeyimgAsSpent, hfresh, hheld,
      hall]
  have hpass : addTxChecksPass checks s tx txWeight txRelay version = true := by
    simp [addTxChecksPass, hversion, hkept, htimed, hvin, checkInputsTypesSupported, hmoney, hfee,
      not_lt.2 hweight, houtputs, hinputs, hspent]
  have hins := insertKeyImages_fresh_then_visible s id hrelay hfresh hne hheld hvisible
  refine ⟨?_, fun hinv => ?_⟩
  · rw [addTx, if_neg (by simpa using hpass), hvin, hins]
  · -- the fresh key image names `id`, which has no table entry
    have hmem := (hinv.mem_keyImages txin'.kImage id).1 (by simp)
    obtain ⟨e, he, -⟩ := hmem
    simp [hnew] at he

/-- A pool holding one transaction, relayed with `relay_method::none`, that spends the key
image `1`; a flooded transaction spending the key images `2` and `1` is refused and leaves `2`
behind. -/
theorem add_tx_failure_leaves_spent_key_image_of_unrelayed :
    let k₁ : KeyImage := Blob.ofList 32 [1]
    let k₂ : KeyImage := Blob.ofList 32 [2]
    let id₁ : Hash := Blob.ofList 32 [10]
    let id₂ : Hash := Blob.ofList 32 [20]
    let tx₁ : TransactionPrefix := ⟨2, 0, false, [.toKey ⟨0, [0], k₁⟩], [], []⟩
    let tx₂ : TransactionPrefix := ⟨2, 0, false, [.toKey ⟨0, [0], k₂⟩, .toKey ⟨0, [0], k₁⟩], [], []⟩
    let s : TxPoolState :=
      ⟨fun k => if k = k₁ then some [id₁] else none, [(id₁, ⟨⟨100, 10, 0, .none⟩, tx₁⟩)],
        [(⟨10, 100, 0⟩, id₁)], 100⟩
    let checks : AddTxChecks := ⟨false, true, true, 1000, true, true, 5⟩
    tx₂.vin = [.toKey ⟨0, [0], k₂⟩, .toKey ⟨0, [0], k₁⟩] ∧ tx₂.version ≠ 0 ∧
      RelayMethod.flood ≠ .block ∧ checks.timedOut = false ∧ checks.inputsMoneyOk = true ∧
      checks.checkFee = true ∧ 100 ≤ checks.txWeightLimit ∧ checks.checkTxOutputs = true ∧
      checks.checkTxInputs = true ∧ s.spentKeyImages k₂ = none ∧ k₂ ≠ k₁ ∧
      s.spentKeyImages k₁ = some [id₁] ∧
      (∀ i ∈ [id₁], s.txpoolTxMatchesCategory i .broadcasted = false) ∧
      ([id₁].any (fun otherId => s.txpoolTxMatchesCategory otherId .legacy) = true) ∧
      s.txpoolTable.lookup id₂ = none ∧
      (addTx id checks s tx₂ id₂ 100 10 .flood 4 =
          (false, { s with spentKeyImages := Function.update s.spentKeyImages k₂ (some [id₂]) }) ∧
        ¬ PoolBookkeeping
          { s with spentKeyImages := Function.update s.spentKeyImages k₂ (some [id₂]) }) := by
  intro k₁ k₂ id₁ id₂ tx₁ tx₂ s checks
  have hne : k₂ ≠ k₁ := by decide
  have hfresh : s.spentKeyImages k₂ = none := by simp [s, hne]
  have hheld : s.spentKeyImages k₁ = some [id₁] := by simp [s]
  have hhidden : ∀ i ∈ [id₁], s.txpoolTxMatchesCategory i .broadcasted = false := by decide
  have hvisible : [id₁].any (fun otherId => s.txpoolTxMatchesCategory otherId .legacy) = true := by
    decide
  have hnew : s.txpoolTable.lookup id₂ = none := by decide
  exact ⟨rfl, by decide, by decide, rfl, rfl, rfl, by decide, rfl, rfl, hfresh, hne, hheld,
    hhidden, hvisible, hnew,
    add_tx_failure_leaves_spent_key_image id checks s tx₂ id₂ 100 10 .flood 4
      ⟨0, [0], k₁⟩ ⟨0, [0], k₂⟩ [id₁] rfl (by decide) (by decide) rfl rfl rfl (by decide) rfl rfl
      hfresh hne hheld hhidden hvisible hnew⟩

end Bittube.CryptonoteCore

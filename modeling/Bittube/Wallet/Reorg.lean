import Bittube.Wallet.Wallet2

/-!
# Reorganisations of a wallet that never receives a key twice

`detach_blockchain` drops the suffix of `m_transfers` that starts at the first transfer of the
detach height or above. That suffix holds exactly the transfers of the detached blocks as long as
the vector stays sorted by height. It also needs the two maps to stay exact: each holds the keys of
the transfers, at their indices.

The argument is an invariant on `wallet2`'s state, `TransfersInv`. The vector is sorted by height,
every known key image is the one its public key determines, and both maps are
`IndexMap.Exact`. Receiving an output whose public key is new keeps the invariant. So does
spending, which touches no field the invariant reads, and so does detaching, whose result is
computed. A block is a run of such steps, so the invariant holds in every state of a run of
blocks with fresh keys and reorganisations, and in every such state the reorganisation is
exact. In a run where some block brings a key the wallet already holds, the "replacing with new
output" branch can move an older transfer to a later height, and the module `Wallet2` shows what
follows.
-/

namespace Bittube.Wallet

open Bittube.Crypto Bittube.CryptonoteBasic IndexMap

/-- The key of a transfer in `m_pub_keys`. -/
def pubKeyOf (td : TransferDetails) : Option PublicKey := some td.pubKey

/-- The fields of a transfer that the invariant reads. -/
def TransferDetails.keyFields (td : TransferDetails) : ℕ × PublicKey × KeyImage × Bool × Bool :=
  (td.blockHeight, td.pubKey, td.keyImage, td.keyImageKnown, td.keyImagePartial)

/-- What every state of a wallet reached without repeated keys satisfies, with `keyImageOf` the key
image each one-time public key determines. -/
structure TransfersInv (keyImageOf : PublicKey → KeyImage) (w : Wallet2) : Prop where
  offset_eq : w.blockchain.offset = 0
  sorted : w.transfers.Pairwise fun a b => a.blockHeight ≤ b.blockHeight
  keyImage_eq : ∀ td ∈ w.transfers, td.keyImageKnown = true → td.keyImage = keyImageOf td.pubKey
  pubKeys_exact : Exact w.pubKeys pubKeyOf w.transfers
  keyImages_exact : Exact w.keyImages knownKeyImage w.transfers

/-- Every transfer comes from a block below `b`. -/
def HeightsBelow (w : Wallet2) (b : ℕ) : Prop := ∀ td ∈ w.transfers, td.blockHeight < b

variable {keyImageOf : PublicKey → KeyImage} {kind : WalletKind} {w w' : Wallet2} {height : ℕ}

/-! ## Steps that leave the keys alone -/

/-- `w'` differs from `w` only in fields of its transfers that the invariant does not read. -/
structure SameKeys (w w' : Wallet2) : Prop where
  keyImages_eq : w'.keyImages = w.keyImages
  pubKeys_eq : w'.pubKeys = w.pubKeys
  blockchain_eq : w'.blockchain = w.blockchain
  length_eq : w'.transfers.length = w.transfers.length
  keyFields_eq : ∀ i (h : i < w.transfers.length) (h' : i < w'.transfers.length),
    w'.transfers[i].keyFields = w.transfers[i].keyFields

theorem SameKeys.refl (w : Wallet2) : SameKeys w w :=
  ⟨rfl, rfl, rfl, rfl, fun _ _ _ => rfl⟩

theorem SameKeys.trans {w'' : Wallet2} (h₁ : SameKeys w w') (h₂ : SameKeys w' w'') :
    SameKeys w w'' where
  keyImages_eq := h₂.keyImages_eq.trans h₁.keyImages_eq
  pubKeys_eq := h₂.pubKeys_eq.trans h₁.pubKeys_eq
  blockchain_eq := h₂.blockchain_eq.trans h₁.blockchain_eq
  length_eq := h₂.length_eq.trans h₁.length_eq
  keyFields_eq i h h'' :=
    (h₂.keyFields_eq i (h₁.length_eq ▸ h) h'').trans (h₁.keyFields_eq i h (h₁.length_eq ▸ h))

theorem pubKeyOf_eq_of_keyFields {a b : TransferDetails} (h : a.keyFields = b.keyFields) :
    pubKeyOf a = pubKeyOf b := by
  simp only [TransferDetails.keyFields, Prod.mk.injEq] at h
  simp only [pubKeyOf, h.2.1]

theorem knownKeyImage_eq_of_keyFields {a b : TransferDetails} (h : a.keyFields = b.keyFields) :
    knownKeyImage a = knownKeyImage b := by
  simp only [TransferDetails.keyFields, Prod.mk.injEq] at h
  simp only [knownKeyImage, h.2.2.1, h.2.2.2.1, h.2.2.2.2]

/-- A transfer of `w'` has the key fields of the transfer of `w` at its index. -/
theorem SameKeys.exists_of_mem (h : SameKeys w w') {td : TransferDetails}
    (htd : td ∈ w'.transfers) : ∃ td₀ ∈ w.transfers, td.keyFields = td₀.keyFields := by
  obtain ⟨i, hi, rfl⟩ := List.getElem_of_mem htd
  have hi₀ : i < w.transfers.length := h.length_eq ▸ hi
  exact ⟨w.transfers[i], List.getElem_mem hi₀, h.keyFields_eq i hi₀ hi⟩

theorem TransfersInv.of_sameKeys (hinv : TransfersInv keyImageOf w) (h : SameKeys w w') :
    TransfersInv keyImageOf w' where
  offset_eq := h.blockchain_eq ▸ hinv.offset_eq
  sorted := by
    rw [List.pairwise_iff_getElem]
    intro i j hi hj hij
    have hfi := h.keyFields_eq i (h.length_eq ▸ hi) hi
    have hfj := h.keyFields_eq j (h.length_eq ▸ hj) hj
    simp only [TransferDetails.keyFields, Prod.mk.injEq] at hfi hfj
    rw [hfi.1, hfj.1]
    exact List.pairwise_iff_getElem.mp hinv.sorted i j _ _ hij
  keyImage_eq td htd hknown := by
    obtain ⟨td₀, hmem, hf⟩ := h.exists_of_mem htd
    simp only [TransferDetails.keyFields, Prod.mk.injEq] at hf
    rw [hf.2.1, hf.2.2.1]
    exact hinv.keyImage_eq td₀ hmem (hf.2.2.2.1 ▸ hknown)
  pubKeys_exact := h.pubKeys_eq ▸ hinv.pubKeys_exact.congr h.length_eq fun i hi hi' =>
    pubKeyOf_eq_of_keyFields (h.keyFields_eq i hi hi')
  keyImages_exact := h.keyImages_eq ▸ hinv.keyImages_exact.congr h.length_eq fun i hi hi' =>
    knownKeyImage_eq_of_keyFields (h.keyFields_eq i hi hi')

theorem HeightsBelow.of_sameKeys {b : ℕ} (hb : HeightsBelow w b) (h : SameKeys w w') :
    HeightsBelow w' b := by
  intro td htd
  obtain ⟨td₀, hmem, hf⟩ := h.exists_of_mem htd
  simp only [TransferDetails.keyFields, Prod.mk.injEq] at hf
  rw [hf.1]
  exact hb td₀ hmem

/-- Marking a transfer spent touches no field the invariant reads; the index a known key image
points to is in range. -/
theorem TransfersInv.spend (hinv : TransfersInv keyImageOf w) (height : ℕ) (txin : TxinToKey) :
    ∃ w', processSpentInput height w txin = some w' ∧ SameKeys w w' := by
  unfold processSpentInput
  cases hk : w.keyImages txin.kImage with
  | none => exact ⟨w, rfl, SameKeys.refl w⟩
  | some i =>
    obtain ⟨td, htd, -⟩ := (hinv.keyImages_exact txin.kImage i).mp hk
    obtain ⟨hi, rfl⟩ := List.getElem?_eq_some_iff.mp htd
    simp only [htd]
    refine ⟨_, rfl, rfl, rfl, rfl, List.length_set, fun j hj hj' => ?_⟩
    by_cases hij : i = j
    · subst hij
      simp only [List.getElem_set_self]
      rfl
    · simp only [List.getElem_set_ne hij]

theorem TransfersInv.spendAll (hinv : TransfersInv keyImageOf w) (height : ℕ) :
    ∀ vin : List TxinV, ∃ w', processSpentInputs height w vin = some w' ∧ SameKeys w w' := by
  intro vin
  induction vin generalizing w with
  | nil => exact ⟨w, rfl, SameKeys.refl w⟩
  | cons txin vin ih =>
    cases txin with
    | toKey txin =>
      obtain ⟨w₁, h₁, hs₁⟩ := hinv.spend height txin
      obtain ⟨w₂, h₂, hs₂⟩ := ih (hinv.of_sameKeys hs₁)
      exact ⟨w₂, by simp only [processSpentInputs, h₁, Option.bind_some, h₂], hs₁.trans hs₂⟩
    | gen _ | toScript _ | toScripthash _ => exact ih hinv


/-! ## Receiving an output of a new key -/

/-- The scan gives an output the key image its public key determines, and a key image from a
cold signing of that key is the same one. -/
def KeyImageConsistent (kind : WalletKind) (keyImageOf : PublicKey → KeyImage)
    (o : ReceivedOutput) : Prop :=
  o.ki = keyImageOf o.pub ∧ ∀ k, kind.coldKeyImages o.pub = some k → k = keyImageOf o.pub

theorem newKeyImage_eq {o : ReceivedOutput} (hcons : KeyImageConsistent kind keyImageOf o)
    (hknown : (newKeyImage kind o).2 = true) : (newKeyImage kind o).1 = keyImageOf o.pub := by
  unfold newKeyImage at hknown ⊢
  split_ifs at hknown ⊢
  · exact hcons.1
  · cases hcold : kind.coldKeyImages o.pub with
    | none => simp [hcold] at hknown
    | some k => simpa [hcold] using hcons.2 k hcold

/-- A key image the invariant ties to a public key the wallet does not hold is not in
`m_key_images` either. -/
theorem TransfersInv.keyImages_eq_none (hinv : TransfersInv keyImageOf w)
    (hinj : Function.Injective keyImageOf) {pk : PublicKey} (hfresh : w.pubKeys pk = none) :
    w.keyImages (keyImageOf pk) = none := by
  cases hki : w.keyImages (keyImageOf pk) with
  | none => rfl
  | some i =>
    obtain ⟨td, htd, hk⟩ := (hinv.keyImages_exact _ i).mp hki
    have hknown : td.keyImageKnown = true ∧ td.keyImage = keyImageOf pk := by
      unfold knownKeyImage at hk
      split_ifs at hk with hc
      · simp only [Bool.and_eq_true] at hc
        exact ⟨hc.1, Option.some.inj hk⟩
    have hpub : td.pubKey = pk :=
      hinj ((hinv.keyImage_eq td (List.mem_of_getElem? htd) hknown.1).symm.trans hknown.2)
    have hheld := (hinv.pubKeys_exact pk i).mpr ⟨td, htd, by rw [pubKeyOf, hpub]⟩
    rw [hfresh] at hheld
    cases hheld

/-- An output of a new key appends a transfer at the end, which keeps the vector sorted, and
registers its keys, which were free. -/
theorem TransfersInv.receive (hms : kind.multisig = false) (hinj : Function.Injective keyImageOf)
    (hinv : TransfersInv keyImageOf w) (hb : HeightsBelow w (height + 1)) {o : ReceivedOutput}
    (hfresh : w.pubKeys o.pub = none) (hcons : KeyImageConsistent kind keyImageOf o) :
    ∃ w', processReceivedOutput kind height w o = some w' ∧ TransfersInv keyImageOf w' ∧
      HeightsBelow w' (height + 1) ∧ (∀ pk, pk ≠ o.pub → w'.pubKeys pk = w.pubKeys pk) ∧
      w'.blockchain = w.blockchain := by
  have hkey : (newTransfer kind height o).keyImageKnown = true →
      (newTransfer kind height o).keyImage = keyImageOf o.pub := newKeyImage_eq hcons
  have hknown : knownKeyImage (newTransfer kind height o) =
      if (newTransfer kind height o).keyImageKnown then some (newTransfer kind height o).keyImage
      else none := by
    simp [knownKeyImage, newTransfer, hms]
  simp only [processReceivedOutput, hfresh]
  refine ⟨_, rfl, ⟨hinv.offset_eq, ?sorted, ?keyImage, ?pubKeys, ?keyImages⟩, ?below,
    fun pk hpk => Function.update_of_ne hpk _ _, rfl⟩
  case sorted =>
    refine List.pairwise_append.mpr ⟨hinv.sorted, List.pairwise_singleton _ _, ?_⟩
    intro a ha b hb'
    rw [List.mem_singleton.mp hb']
    exact Nat.le_of_lt_succ (hb a ha)
  case keyImage =>
    intro td htd hk
    rcases List.mem_append.mp htd with htd | htd
    · exact hinv.keyImage_eq td htd hk
    · rw [List.mem_singleton.mp htd] at hk ⊢
      exact hkey hk
  case pubKeys => exact hinv.pubKeys_exact.append_some rfl hfresh
  case keyImages =>
    cases hk : (newTransfer kind height o).keyImageKnown
    · rw [if_neg (by simp)]
      exact hinv.keyImages_exact.append_none (by rw [hknown, hk, if_neg (by simp)])
    · rw [if_pos rfl]
      refine hinv.keyImages_exact.append_some (by rw [hknown, hk, if_pos rfl]) ?_
      rw [hkey hk]
      exact hinv.keyImages_eq_none hinj hfresh
  case below =>
    intro td htd
    rcases List.mem_append.mp htd with htd | htd
    · exact hb td htd
    · rw [List.mem_singleton.mp htd]
      exact Nat.lt_succ_self height

/-! ## A block -/

/-- Outputs of keys the wallet does not hold, distinct among themselves, each with the key image
its key determines. -/
def FreshOutputs (kind : WalletKind) (keyImageOf : PublicKey → KeyImage) (w : Wallet2)
    (outs : List ReceivedOutput) : Prop :=
  (outs.map ReceivedOutput.pub).Nodup ∧
    ∀ o ∈ outs, w.pubKeys o.pub = none ∧ KeyImageConsistent kind keyImageOf o

/-- What processing part of the block at `height` keeps: the invariant, the heights up to the
block's, the public keys it did not receive, and the chain. -/
structure BlockStep (keyImageOf : PublicKey → KeyImage) (height : ℕ) (keys : List PublicKey)
    (w w' : Wallet2) : Prop where
  inv : TransfersInv keyImageOf w'
  below : HeightsBelow w' (height + 1)
  pubKeys_eq : ∀ pk, pk ∉ keys → w'.pubKeys pk = w.pubKeys pk
  blockchain_eq : w'.blockchain = w.blockchain

theorem BlockStep.trans {w'' : Wallet2} {keys keys' : List PublicKey}
    (h₁ : BlockStep keyImageOf height keys w w') (h₂ : BlockStep keyImageOf height keys' w' w'') :
    BlockStep keyImageOf height (keys ++ keys') w w'' where
  inv := h₂.inv
  below := h₂.below
  pubKeys_eq pk hpk := by
    rw [List.mem_append, not_or] at hpk
    rw [h₂.pubKeys_eq pk hpk.2, h₁.pubKeys_eq pk hpk.1]
  blockchain_eq := h₂.blockchain_eq.trans h₁.blockchain_eq

/-- Outputs that were fresh stay fresh after a step that received none of their keys. -/
theorem FreshOutputs.append {outs outs' : List ReceivedOutput}
    (h : FreshOutputs kind keyImageOf w (outs ++ outs')) :
    FreshOutputs kind keyImageOf w outs ∧
      ∀ w' : Wallet2, (∀ pk, pk ∉ outs.map ReceivedOutput.pub → w'.pubKeys pk = w.pubKeys pk) →
        FreshOutputs kind keyImageOf w' outs' := by
  obtain ⟨hnd, hfresh⟩ := h
  rw [List.map_append, List.nodup_append] at hnd
  refine ⟨⟨hnd.1, fun o ho => hfresh o (List.mem_append_left _ ho)⟩, fun w' hw' => ⟨hnd.2.1, ?_⟩⟩
  intro o ho
  have hnot : o.pub ∉ outs.map ReceivedOutput.pub := fun hmem =>
    hnd.2.2 _ hmem _ (List.mem_map_of_mem ho) rfl
  obtain ⟨hnone, hcons⟩ := hfresh o (List.mem_append_right _ ho)
  exact ⟨(hw' _ hnot).trans hnone, hcons⟩

theorem TransfersInv.receiveAll (hms : kind.multisig = false)
    (hinj : Function.Injective keyImageOf) :
    ∀ {outs : List ReceivedOutput} {w : Wallet2}, TransfersInv keyImageOf w →
      HeightsBelow w (height + 1) → FreshOutputs kind keyImageOf w outs →
      ∃ w', processReceivedOutputs kind height w outs = some w' ∧
        BlockStep keyImageOf height (outs.map ReceivedOutput.pub) w w'
  | [], w, hinv, hb, _ => ⟨w, rfl, hinv, hb, fun _ _ => rfl, rfl⟩
  | o :: os, w, hinv, hb, hfresh => by
    obtain ⟨hfirst, hrest⟩ :=
      FreshOutputs.append (show FreshOutputs kind keyImageOf w ([o] ++ os) from hfresh)
    obtain ⟨hfo, hcons⟩ := hfirst.2 o List.mem_cons_self
    obtain ⟨w₁, h₁, hinv₁, hb₁, hpk₁, hbc₁⟩ := hinv.receive hms hinj hb hfo hcons
    have hstep₁ : BlockStep keyImageOf height [o.pub] w w₁ :=
      ⟨hinv₁, hb₁, fun pk hpk => hpk₁ pk (by simpa using hpk), hbc₁⟩
    obtain ⟨w₂, h₂, hstep₂⟩ :=
      receiveAll hms hinj hinv₁ hb₁ (hrest w₁ fun pk hpk => hpk₁ pk (by simpa using hpk))
    exact ⟨w₂, by simp only [processReceivedOutputs, h₁, Option.bind_some, h₂],
      hstep₁.trans hstep₂⟩

theorem TransfersInv.transaction (hms : kind.multisig = false)
    (hinj : Function.Injective keyImageOf) (hinv : TransfersInv keyImageOf w)
    (hb : HeightsBelow w (height + 1)) {tx : ScannedTx}
    (hfresh : FreshOutputs kind keyImageOf w tx.received) :
    ∃ w', processNewTransaction kind height w tx = some w' ∧
      BlockStep keyImageOf height (tx.received.map ReceivedOutput.pub) w w' := by
  obtain ⟨w₁, h₁, hstep⟩ := hinv.receiveAll hms hinj hb hfresh
  obtain ⟨w₂, h₂, hsame⟩ := hstep.inv.spendAll height tx.vin
  refine ⟨w₂, by simp only [processNewTransaction, h₁, Option.bind_some, h₂],
    hstep.inv.of_sameKeys hsame, hstep.below.of_sameKeys hsame, fun pk hpk => ?_,
    hsame.blockchain_eq.trans hstep.blockchain_eq⟩
  rw [hsame.pubKeys_eq, hstep.pubKeys_eq pk hpk]

theorem TransfersInv.transactions (hms : kind.multisig = false)
    (hinj : Function.Injective keyImageOf) :
    ∀ {txs : List ScannedTx} {w : Wallet2}, TransfersInv keyImageOf w →
      HeightsBelow w (height + 1) →
      FreshOutputs kind keyImageOf w (txs.flatMap ScannedTx.received) →
      ∃ w', processTransactions kind height w txs = some w' ∧
        BlockStep keyImageOf height ((txs.flatMap ScannedTx.received).map ReceivedOutput.pub) w w'
  | [], w, hinv, hb, _ => ⟨w, rfl, hinv, hb, fun _ _ => rfl, rfl⟩
  | tx :: txs, w, hinv, hb, hfresh => by
    rw [List.flatMap_cons] at hfresh
    obtain ⟨hfirst, hrest⟩ := FreshOutputs.append hfresh
    obtain ⟨w₁, h₁, hstep₁⟩ := hinv.transaction hms hinj hb hfirst
    obtain ⟨w₂, h₂, hstep₂⟩ :=
      transactions hms hinj hstep₁.inv hstep₁.below (hrest w₁ hstep₁.pubKeys_eq)
    refine ⟨w₂, by simp only [processTransactions, h₁, Option.bind_some, h₂], ?_⟩
    rw [List.flatMap_cons, List.map_append]
    exact hstep₁.trans hstep₂

theorem Hashchain.size_pushBack (c : Hashchain) (hash : Hash) :
    (c.pushBack hash).size = c.size + 1 := by
  simp only [Hashchain.size, Hashchain.pushBack, List.length_append, List.length_singleton]
  omega

/-- A block at the tip whose outputs carry fresh keys keeps the invariant, with every transfer
below the grown chain. -/
theorem TransfersInv.block (hms : kind.multisig = false) (hinj : Function.Injective keyImageOf)
    (hinv : TransfersInv keyImageOf w) (hb : HeightsBelow w w.blockchain.size) (blId : Hash)
    {txs : List ScannedTx} (hfresh : FreshOutputs kind keyImageOf w (txs.flatMap ScannedTx.received)) :
    ∃ w', processNewBlockchainEntry kind w blId w.blockchain.size txs = some w' ∧
      TransfersInv keyImageOf w' ∧ HeightsBelow w' w'.blockchain.size := by
  have hb₁ : HeightsBelow w (w.blockchain.size + 1) := fun td htd => Nat.lt_succ_of_lt (hb td htd)
  obtain ⟨w₁, h₁, hstep⟩ := hinv.transactions hms hinj hb₁ hfresh
  refine ⟨_, by rw [processNewBlockchainEntry, h₁]; rfl, ?_, ?_⟩
  · refine { hstep.inv with offset_eq := ?_ }
    simp only [Hashchain.pushBack, hstep.blockchain_eq, hinv.offset_eq]
  · intro td htd
    rw [Hashchain.size_pushBack, hstep.blockchain_eq]
    exact hstep.below td htd

/-! ## Detaching -/

theorem keyFields_resetSpent (height : ℕ) (td : TransferDetails) :
    (resetSpent height td).keyFields = td.keyFields := by
  unfold resetSpent
  split_ifs <;> rfl

theorem blockHeight_resetSpent (height : ℕ) (td : TransferDetails) :
    (resetSpent height td).blockHeight = td.blockHeight := by
  unfold resetSpent
  split_ifs <;> rfl

theorem Hashchain.size_crop {c : Hashchain} (h : c.offset = 0) (height : ℕ) :
    (c.crop height).size = height := by
  simp only [Hashchain.size, Hashchain.crop, h, List.length_append, List.length_take,
    List.length_replicate]
  omega

/-- Erasing the keys of the transfers from position `n` on, when the map is exact. -/
theorem eraseEach_drop {κ : Type} [DecidableEq κ] {m : κ → Option ℕ}
    {key : TransferDetails → Option κ} {ts : List TransferDetails} (h : Exact m key ts) (n : ℕ) :
    eraseEach m ((ts.drop n).filterMap key) =
      some fun k => if k ∈ (ts.drop n).filterMap key then none else m k := by
  have hsub : List.Sublist ((ts.drop n).filterMap key) (ts.filterMap key) :=
    (List.drop_sublist n ts).filterMap key
  exact eraseEach_eq_some (h.nodup.sublist hsub) fun k hk => h.ne_none (hsub.subset hk)

/-- What `detach_blockchain` leaves of a wallet with the invariant: the transfers below the detach
height, those spent at it or later reset, with both maps exact for them. -/
theorem not_decide_le_eq (height : ℕ) (td : TransferDetails) :
    (!decide (height ≤ td.blockHeight)) = decide (td.blockHeight < height) := by
  simp only [← decide_not, Nat.not_le]

theorem map_pubKey_eq_filterMap (tds : List TransferDetails) :
    tds.map TransferDetails.pubKey = tds.filterMap pubKeyOf :=
  (congrFun List.filterMap_eq_map' tds).symm

/-- What `detach_blockchain` leaves of a wallet with the invariant: the transfers below the detach
height, those spent at it or later reset, with both maps exact for them. -/
theorem TransfersInv.detach (hinv : TransfersInv keyImageOf w) (height : ℕ) :
    ∃ w', detachBlockchain w height = some w' ∧
      w'.transfers = (w.transfers.filter fun td => td.blockHeight < height).map (resetSpent height) ∧
      TransfersInv keyImageOf w' ∧ HeightsBelow w' w'.blockchain.size := by
  -- the transfers after the reset loop, which keeps every field the invariant reads
  set ts := w.transfers.map (resetSpent height) with hts
  have hfields : ∀ i (hi : i < w.transfers.length) (hi' : i < ts.length),
      ts[i].keyFields = w.transfers[i].keyFields := fun i hi hi' => by
    simp only [ts, List.getElem_map, keyFields_resetSpent]
  have hpub : Exact w.pubKeys pubKeyOf ts := hinv.pubKeys_exact.congr (List.length_map _)
    fun i hi hi' => pubKeyOf_eq_of_keyFields (hfields i hi hi')
  have hki : Exact w.keyImages knownKeyImage ts := hinv.keyImages_exact.congr (List.length_map _)
    fun i hi hi' => knownKeyImage_eq_of_keyFields (hfields i hi hi')
  have hsorted : ts.Pairwise fun a b => a.blockHeight ≤ b.blockHeight := by
    simpa only [ts, List.pairwise_map, blockHeight_resetSpent] using hinv.sorted
  -- sorted by height, so the first transfer at `height` or above starts the detached blocks
  have hmono : ts.Pairwise fun a b =>
      decide (height ≤ a.blockHeight) → decide (height ≤ b.blockHeight) :=
    hsorted.imp fun hab ha => by simp only [decide_eq_true_eq] at ha ⊢; omega
  set n := ts.findIdx fun td => height ≤ td.blockHeight with hn
  have htaken : ts.take n =
      (w.transfers.filter fun td => td.blockHeight < height).map (resetSpent height) := by
    rw [take_findIdx hmono, List.filter_map]
    congr 1
    apply List.filter_congr
    intro td _
    rw [Function.comp_apply, blockHeight_resetSpent, not_decide_le_eq]
  have hoff : ¬(height < w.blockchain.offset ∧ w.blockchain.size > w.blockchain.offset) := by
    rw [hinv.offset_eq]
    omega
  refine ⟨⟨ts.take n,
    fun k => if k ∈ (ts.drop n).filterMap knownKeyImage then none else w.keyImages k,
    fun k => if k ∈ (ts.drop n).filterMap pubKeyOf then none else w.pubKeys k,
    w.blockchain.crop height⟩, ?_, htaken, ⟨hinv.offset_eq, ?_, ?_, hpub.take n, hki.take n⟩, ?_⟩
  · simp only [detachBlockchain, if_neg hoff, ← hts, ← hn, eraseKeyImages, erasePubKeys,
      map_pubKey_eq_filterMap, eraseEach_drop hki, eraseEach_drop hpub]
  · exact hsorted.sublist (List.take_sublist n ts)
  · intro td htd hknown
    obtain ⟨td₀, h₀, rfl⟩ := List.mem_map.mp (List.mem_of_mem_take htd)
    have hf := keyFields_resetSpent height td₀
    simp only [TransferDetails.keyFields, Prod.mk.injEq] at hf
    rw [hf.2.1, hf.2.2.1]
    exact hinv.keyImage_eq td₀ h₀ (hf.2.2.2.1 ▸ hknown)
  · intro td htd
    rw [Hashchain.size_crop hinv.offset_eq]
    change td ∈ ts.take n at htd
    rw [htaken] at htd
    obtain ⟨td₀, h₀, rfl⟩ := List.mem_map.mp htd
    rw [blockHeight_resetSpent]
    simpa using (List.mem_filter.mp h₀).2

/-! ## Runs without repeated keys -/

/-- The states of a wallet whose blocks never bring a public key it already holds, nor one key
twice, and whose outputs carry the key images their keys determine. -/
inductive FreshReachable (kind : WalletKind) (keyImageOf : PublicKey → KeyImage) (genesis : Hash) :
    Wallet2 → Prop
  | init : FreshReachable kind keyImageOf genesis (Wallet2.init genesis)
  | block {w w' : Wallet2} (blId : Hash) (txs : List ScannedTx) :
      FreshReachable kind keyImageOf genesis w →
      FreshOutputs kind keyImageOf w (txs.flatMap ScannedTx.received) →
      processNewBlockchainEntry kind w blId w.blockchain.size txs = some w' →
      FreshReachable kind keyImageOf genesis w'
  | detach {w w' : Wallet2} (height : ℕ) :
      FreshReachable kind keyImageOf genesis w → detachBlockchain w height = some w' →
      FreshReachable kind keyImageOf genesis w'

/-- Such a run is a run of the wallet. -/
theorem FreshReachable.reachable {genesis : Hash}
    (h : FreshReachable kind keyImageOf genesis w) : Reachable kind genesis w := by
  induction h with
  | init => exact .init
  | block blId txs _ _ hstep ih => exact .block blId txs ih hstep
  | detach height _ hstep ih => exact .detach height ih hstep

theorem transfersInv_init (genesis : Hash) : TransfersInv keyImageOf (Wallet2.init genesis) :=
  ⟨rfl, List.Pairwise.nil, fun _ h => absurd h List.not_mem_nil, exact_nil, exact_nil⟩

/-- The invariant holds in every state of a run without repeated keys, by induction on the run:
a block and a reorganisation each keep it. -/
theorem FreshReachable.inv {genesis : Hash} (hms : kind.multisig = false)
    (hinj : Function.Injective keyImageOf) (h : FreshReachable kind keyImageOf genesis w) :
    TransfersInv keyImageOf w ∧ HeightsBelow w w.blockchain.size := by
  induction h with
  | init => exact ⟨transfersInv_init genesis, fun _ h => absurd h List.not_mem_nil⟩
  | block blId txs _ hfresh hstep ih =>
    obtain ⟨w', h', hinv', hb'⟩ := ih.1.block hms hinj ih.2 blId hfresh
    obtain rfl := Option.some.inj (hstep.symm.trans h')
    exact ⟨hinv', hb'⟩
  | detach height _ hstep ih =>
    obtain ⟨w', h', -, hinv', hb'⟩ := ih.1.detach height
    obtain rfl := Option.some.inj (hstep.symm.trans h')
    exact ⟨hinv', hb'⟩

/-- The transfers below a height come first in a vector sorted by height. -/
theorem TransfersInv.filter_isPrefix (hinv : TransfersInv keyImageOf w) (height : ℕ) :
    List.IsPrefix (w.transfers.filter fun td => td.blockHeight < height) w.transfers := by
  have hmono : w.transfers.Pairwise fun a b =>
      decide (height ≤ a.blockHeight) → decide (height ≤ b.blockHeight) :=
    hinv.sorted.imp fun hab ha => by simp only [decide_eq_true_eq] at ha ⊢; omega
  have htake := take_findIdx hmono
  have hfilter : (w.transfers.filter fun td => !decide (height ≤ td.blockHeight)) =
      w.transfers.filter fun td => td.blockHeight < height := by
    apply List.filter_congr
    intro td _
    exact not_decide_le_eq height td
  rw [← hfilter, ← htake]
  exact List.take_prefix _ _

/-- In every state of a run of a wallet that is not multisig, whose blocks never bring a public
key it already holds, `m_transfers` is sorted by height and `m_pub_keys` and `m_key_images` map
exactly the public keys and the known, non-partial key images of the transfers to their indices.
`detach_blockchain(height)` then succeeds and is exact. It removes the transfers of height
`height` or more and keeps the others at their indices, as a prefix. Of those it resets exactly
the ones spent at `height` or later, and afterwards both maps are again exact for the transfers
it keeps. -/
theorem detach_blockchain_exact_of_fresh_keys {genesis : Hash} (hms : kind.multisig = false)
    (hinj : Function.Injective keyImageOf) (hw : FreshReachable kind keyImageOf genesis w)
    (height : ℕ) :
    w.transfers.Pairwise (fun a b => a.blockHeight ≤ b.blockHeight) ∧
      Exact w.pubKeys pubKeyOf w.transfers ∧ Exact w.keyImages knownKeyImage w.transfers ∧
      ∃ w', detachBlockchain w height = some w' ∧
        List.IsPrefix (w.transfers.filter fun td => td.blockHeight < height) w.transfers ∧
        w'.transfers = (w.transfers.filter fun td => td.blockHeight < height).map
          (resetSpent height) ∧
        Exact w'.pubKeys pubKeyOf w'.transfers ∧ Exact w'.keyImages knownKeyImage w'.transfers := by
  have hinv := (hw.inv hms hinj).1
  obtain ⟨w', hdetach, htransfers, hinv', -⟩ := hinv.detach height
  exact ⟨hinv.sorted, hinv.pubKeys_exact, hinv.keyImages_exact, w', hdetach,
    hinv.filter_isPrefix height, htransfers, hinv'.pubKeys_exact, hinv'.keyImages_exact⟩

/-- A full wallet receives an output of key `P` at height 1, then at height 2 an output of key
`Q` in a transaction that spends `P`. `detach_blockchain(2)` keeps the transfer of `P`, marked
unspent again, and drops the one of `Q`. -/
theorem detach_blockchain_exact_of_fresh_keys_two_blocks :
    ∃ w, FreshReachable fullWallet id nullHash w ∧
      w.transfers.map (fun td => (td.blockHeight, td.spent)) = [(1, true), (2, false)] ∧
      (detachBlockchain w 2).map (fun w' => w'.transfers.map fun td => (td.blockHeight, td.spent)) =
        some [(1, false)] ∧
      w.transfers.Pairwise (fun a b => a.blockHeight ≤ b.blockHeight) ∧
      Exact w.pubKeys pubKeyOf w.transfers ∧ Exact w.keyImages knownKeyImage w.transfers ∧
      ∃ w', detachBlockchain w 2 = some w' ∧
        List.IsPrefix (w.transfers.filter fun td => td.blockHeight < 2) w.transfers ∧
        w'.transfers = (w.transfers.filter fun td => td.blockHeight < 2).map (resetSpent 2) ∧
        Exact w'.pubKeys pubKeyOf w'.transfers ∧ Exact w'.keyImages knownKeyImage w'.transfers := by
  let P : PublicKey := Blob.ofList 32 [1]
  let Q : PublicKey := Blob.ofList 32 [2]
  let tx₁ : ScannedTx := ⟨[⟨0, P, P, 1⟩], []⟩
  let tx₂ : ScannedTx := ⟨[⟨0, Q, Q, 5⟩], [.toKey ⟨0, [1], P⟩]⟩
  let step (w : Wallet2) (blId : Hash) (tx : ScannedTx) : Option Wallet2 :=
    processNewBlockchainEntry fullWallet w blId w.blockchain.size [tx]
  -- the two blocks, what the second one meets, and the detach
  have hrun : ((step (Wallet2.init nullHash) (Blob.ofList 32 [11]) tx₁).bind fun w =>
      step w (Blob.ofList 32 [12]) tx₂).map (fun w =>
        (w.transfers.map (fun td => (td.blockHeight, td.spent)),
          (detachBlockchain w 2).map fun w' => w'.transfers.map fun td => (td.blockHeight, td.spent)))
      = some ([(1, true), (2, false)], some [(1, false)]) := by
    decide
  have hQ : (step (Wallet2.init nullHash) (Blob.ofList 32 [11]) tx₁).map (fun w => w.pubKeys Q) =
      some none := by
    decide
  obtain ⟨w₁, h₁⟩ := Option.isSome_iff_exists.mp
    (show (step (Wallet2.init nullHash) (Blob.ofList 32 [11]) tx₁).isSome = true by decide)
  rw [h₁, Option.bind_some] at hrun
  rw [h₁, Option.map_some, Option.some.injEq] at hQ
  obtain ⟨w₂, h₂, hfacts⟩ := Option.map_eq_some_iff.mp hrun
  simp only [Prod.mk.injEq] at hfacts
  -- each block brings one output of a key the wallet does not hold yet
  have hfresh₁ : FreshOutputs fullWallet id (Wallet2.init nullHash) (tx₁.received) :=
    ⟨by decide, by simp [tx₁, Wallet2.init, KeyImageConsistent, fullWallet]⟩
  have hfresh₂ : FreshOutputs fullWallet id w₁ (tx₂.received) :=
    ⟨by decide, by simp [tx₂, hQ, KeyImageConsistent, fullWallet]⟩
  have hw : FreshReachable fullWallet id nullHash w₂ :=
    .block _ [tx₂] (.block _ [tx₁] .init (by simpa using hfresh₁) h₁) (by simpa using hfresh₂) h₂
  exact ⟨w₂, hw, hfacts.1, hfacts.2,
    detach_blockchain_exact_of_fresh_keys (rfl : fullWallet.multisig = false) Function.injective_id
      hw 2⟩

end Bittube.Wallet

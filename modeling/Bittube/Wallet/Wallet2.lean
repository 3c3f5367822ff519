import Bittube.CryptonoteBasic.Transaction
import Bittube.Lib.IndexMap

/-!
# The wallet's transfers and their reorganisation (`wallet2`)

`wallet2` keeps the outputs it owns in `m_transfers`, in the order it received them. It also keeps
two maps into that vector: `m_pub_keys` from one-time public keys and `m_key_images` from known
key images. `process_new_transaction` appends a transfer for each output whose public key is new,
at the height of the block. When the key is already held by an unspent transfer of a smaller
amount, the branch "replacing with new output" rewrites that older transfer in place, with the
new height and amount. An input whose key image the wallet knows marks its transfer spent at the
block's height.

`detach_blockchain(height)` undoes the blocks from `height` on. It first resets every transfer
spent at `height` or later. It then erases everything from the first transfer of height
`height` or more: from `m_key_images` the key images that are known and not partial, from
`m_pub_keys` every public key, and the transfers themselves. At the end it crops the chain.

`Reachable` is the set of states a wallet reaches from `setup_new_blockchain` through blocks at
the tip and reorganisations. One of them has a repeated public key that moved an older transfer
above a later one, and `detach_blockchain` then drops a transfer of a block it keeps.
-/

namespace Bittube.Wallet

open Bittube.Crypto Bittube.CryptonoteBasic

/-- The fields of `transfer_details` that the modelled functions read or write. `pubKey` is
`get_public_key()`, the key of the output the transfer stands for. -/
structure TransferDetails where
  blockHeight : ℕ
  pubKey : PublicKey
  keyImage : KeyImage
  keyImageKnown : Bool
  keyImagePartial : Bool
  amount : ℕ
  spent : Bool
  spentHeight : ℕ
  frozen : Bool
  deriving DecidableEq, Repr

/-- An output of a transaction that the scan found to be the wallet's: `tx.vout[o].amount`, and
from `tx_scan_info[o]` the one-time public key, the key image and the amount. -/
structure ReceivedOutput where
  voutAmount : ℕ
  pub : PublicKey
  ki : KeyImage
  amount : ℕ
  deriving DecidableEq, Repr

/-- A transaction as `process_new_transaction` sees it: the outputs it owns and the inputs. -/
structure ScannedTx where
  received : List ReceivedOutput
  vin : List TxinV
  deriving DecidableEq, Repr

/-- The wallet's kind: `m_watch_only`, `m_multisig` and `m_cold_key_images`. -/
structure WalletKind where
  watchOnly : Bool
  multisig : Bool
  coldKeyImages : PublicKey → Option KeyImage

/-- `hashchain`: the block ids above `m_offset`. -/
structure Hashchain where
  offset : ℕ
  blockchain : List Hash
  deriving DecidableEq, Repr

namespace Hashchain

/-- `size()`. -/
def size (c : Hashchain) : ℕ := c.blockchain.length + c.offset

/-- `push_back(hash)`; `m_genesis` is not modelled. -/
def pushBack (c : Hashchain) (hash : Hash) : Hashchain :=
  { c with blockchain := c.blockchain ++ [hash] }

/-- `crop(height)`: `m_blockchain.resize(height - m_offset)`, which pads with null hashes. -/
def crop (c : Hashchain) (height : ℕ) : Hashchain :=
  { c with
    blockchain := c.blockchain.take (height - c.offset) ++
      List.replicate (height - c.offset - c.blockchain.length) nullHash }

end Hashchain

/-- The state `process_new_transaction` and `detach_blockchain` work on. -/
structure Wallet2 where
  transfers : List TransferDetails
  keyImages : KeyImage → Option ℕ
  pubKeys : PublicKey → Option ℕ
  blockchain : Hashchain

/-- A wallet after `setup_new_blockchain`: no transfers, and the genesis block's id. -/
def Wallet2.init (genesis : Hash) : Wallet2 := ⟨[], fun _ => none, fun _ => none, ⟨0, [genesis]⟩⟩

/-! ## Receiving and spending -/

/-- `tx.vout[o].amount ? tx.vout[o].amount : tx_scan_info[o].amount`. -/
def receivedAmount (o : ReceivedOutput) : ℕ := if o.voutAmount ≠ 0 then o.voutAmount else o.amount

/-- The key image of a new transfer and whether it is known: the scanned one for a wallet that
holds its keys, else one from a cold signing if there is one. -/
def newKeyImage (kind : WalletKind) (o : ReceivedOutput) : KeyImage × Bool :=
  if !kind.watchOnly && !kind.multisig then (o.ki, true)
  else match kind.coldKeyImages o.pub with
    | some ki => (ki, true)
    | none => (o.ki, false)

/-- The transfer `process_new_transaction` appends for an output of a new public key. -/
def newTransfer (kind : WalletKind) (height : ℕ) (o : ReceivedOutput) : TransferDetails :=
  { blockHeight := height, pubKey := o.pub, keyImage := (newKeyImage kind o).1,
    keyImageKnown := (newKeyImage kind o).2, keyImagePartial := kind.multisig,
    amount := receivedAmount o, spent := false, spentHeight := 0, frozen := false }

/-- One pass of the loop over the outputs the wallet owns, for a transaction of a block; `none`
where it throws. -/
def processReceivedOutput (kind : WalletKind) (height : ℕ) (w : Wallet2) (o : ReceivedOutput) :
    Option Wallet2 :=
  match w.pubKeys o.pub with
  | none =>
    let td := newTransfer kind height o
    some { w with
      transfers := w.transfers ++ [td]
      keyImages :=
        if td.keyImageKnown then Function.update w.keyImages td.keyImage (some w.transfers.length)
        else w.keyImages
      pubKeys := Function.update w.pubKeys o.pub (some w.transfers.length) }
  | some i =>
    match w.transfers[i]? with
    | none => none
    | some td =>
      -- "received output ignored", or "replacing with new output"
      if td.spent || o.amount ≤ td.amount then some w
      else
        some { w with
          transfers :=
            w.transfers.set i { td with blockHeight := height, amount := receivedAmount o } }

/-- One pass of the loop over the inputs: a key image the wallet knows marks its transfer spent at
`height`; `none` where the index is out of range. -/
def processSpentInput (height : ℕ) (w : Wallet2) (txin : TxinToKey) : Option Wallet2 :=
  match w.keyImages txin.kImage with
  | none => some w
  | some i =>
    match w.transfers[i]? with
    | none => none
    | some td =>
      let amount := if txin.amount > 0 ∧ txin.amount ≠ td.amount then txin.amount else td.amount
      some { w with
        transfers := w.transfers.set i { td with amount, spent := true, spentHeight := height } }

/-- The loop over the outputs the wallet owns. -/
def processReceivedOutputs (kind : WalletKind) (height : ℕ) :
    Wallet2 → List ReceivedOutput → Option Wallet2
  | w, [] => some w
  | w, o :: os =>
    (processReceivedOutput kind height w o).bind (processReceivedOutputs kind height · os)

/-- The loop over the inputs, which passes over those that are not `txin_to_key`. -/
def processSpentInputs (height : ℕ) : Wallet2 → List TxinV → Option Wallet2
  | w, [] => some w
  | w, .toKey txin :: vin =>
    (processSpentInput height w txin).bind (processSpentInputs height · vin)
  | w, _ :: vin => processSpentInputs height w vin

/-- `process_new_transaction` for a transaction of a block (`pool` false): the outputs, then the
inputs. -/
def processNewTransaction (kind : WalletKind) (height : ℕ) (w : Wallet2) (tx : ScannedTx) :
    Option Wallet2 :=
  (processReceivedOutputs kind height w tx.received).bind (processSpentInputs height · tx.vin)

/-- The transactions of a block, the miner transaction first. -/
def processTransactions (kind : WalletKind) (height : ℕ) :
    Wallet2 → List ScannedTx → Option Wallet2
  | w, [] => some w
  | w, tx :: txs =>
    (processNewTransaction kind height w tx).bind (processTransactions kind height · txs)

/-- `process_new_blockchain_entry`: the block's transactions at `height`, then its id. -/
def processNewBlockchainEntry (kind : WalletKind) (w : Wallet2) (blId : Hash) (height : ℕ)
    (txs : List ScannedTx) : Option Wallet2 :=
  (processTransactions kind height w txs).map fun w =>
    { w with blockchain := w.blockchain.pushBack blId }

/-! ## Detaching -/

/-- `set_unspent(i)` and `thaw(i)` for a transfer spent at `height` or later. -/
def resetSpent (height : ℕ) (td : TransferDetails) : TransferDetails :=
  if td.spent ∧ height ≤ td.spentHeight then
    { td with spent := false, spentHeight := 0, frozen := false }
  else td

/-- The key of a transfer in `m_key_images`: its key image, when known and not partial. -/
def knownKeyImage (td : TransferDetails) : Option KeyImage :=
  if td.keyImageKnown && !td.keyImagePartial then some td.keyImage else none

/-- The loop erasing the key images of the detached transfers that are known and not partial;
`none` where one is missing ("key image not found"). -/
def eraseKeyImages (keyImages : KeyImage → Option ℕ) (tds : List TransferDetails) :
    Option (KeyImage → Option ℕ) :=
  IndexMap.eraseEach keyImages (tds.filterMap knownKeyImage)

/-- The loop erasing the public keys of the detached transfers; `none` where one is missing
("public key not found"). -/
def erasePubKeys (pubKeys : PublicKey → Option ℕ) (tds : List TransferDetails) :
    Option (PublicKey → Option ℕ) :=
  IndexMap.eraseEach pubKeys (tds.map TransferDetails.pubKey)

/-- `detach_blockchain(height)`; `none` where it throws. The payments and confirmed transactions
it also erases are not modelled. -/
def detachBlockchain (w : Wallet2) (height : ℕ) : Option Wallet2 :=
  if height < w.blockchain.offset ∧ w.blockchain.size > w.blockchain.offset then none
  else
    let transfers := w.transfers.map (resetSpent height)
    -- the first transfer of height `height` or more
    let iStart := transfers.findIdx fun td => height ≤ td.blockHeight
    match eraseKeyImages w.keyImages (transfers.drop iStart),
        erasePubKeys w.pubKeys (transfers.drop iStart) with
    | some keyImages, some pubKeys =>
      some ⟨transfers.take iStart, keyImages, pubKeys, w.blockchain.crop height⟩
    | _, _ => none

/-- The states of a wallet of one kind: from `setup_new_blockchain`, each block processed at the
tip of the chain, and `detach_blockchain` at any height. -/
inductive Reachable (kind : WalletKind) (genesis : Hash) : Wallet2 → Prop
  | init : Reachable kind genesis (Wallet2.init genesis)
  | block {w w' : Wallet2} (blId : Hash) (txs : List ScannedTx) :
      Reachable kind genesis w →
      processNewBlockchainEntry kind w blId w.blockchain.size txs = some w' →
      Reachable kind genesis w'
  | detach {w w' : Wallet2} (height : ℕ) :
      Reachable kind genesis w → detachBlockchain w height = some w' → Reachable kind genesis w'

/-- Blocks processed one after another at the tip of the chain. -/
def runBlocks (kind : WalletKind) : Wallet2 → List (Hash × List ScannedTx) → Option Wallet2
  | w, [] => some w
  | w, (blId, txs) :: blocks =>
    (processNewBlockchainEntry kind w blId w.blockchain.size txs).bind (runBlocks kind · blocks)

theorem Reachable.runBlocks {kind : WalletKind} {genesis : Hash} :
    ∀ {w w' : Wallet2} {blocks : List (Hash × List ScannedTx)}, Reachable kind genesis w →
      Bittube.Wallet.runBlocks kind w blocks = some w' → Reachable kind genesis w'
  | _, _, [], hw, h => by
    cases h
    exact hw
  | w, _, (blId, txs) :: blocks, hw, h => by
    simp only [Bittube.Wallet.runBlocks, Option.bind_eq_some_iff] at h
    obtain ⟨w1, h1, hrest⟩ := h
    exact Reachable.runBlocks (.block blId txs hw h1) hrest

/-- A wallet that holds its keys: neither watch-only nor multisig. -/
def fullWallet : WalletKind := ⟨false, false, fun _ => none⟩

/-! ## A transfer moved above a later one -/

/-- A full wallet receives an output of key `P` and amount 1 at height 1, one of key `Q` at
height 2, and at height 3 an output of key `P` again, of amount 3. The third replaces the first
transfer in place and gives it height 3, so `detach_blockchain(3)` starts erasing at index 0 and
drops the transfer of height 2 too. -/
theorem detach_blockchain_drops_earlier_transfer :
    ∃ w : Wallet2, Reachable fullWallet nullHash w ∧
      w.transfers.map TransferDetails.blockHeight = [3, 2] ∧
      (detachBlockchain w 3).map Wallet2.transfers = some [] := by
  let P : PublicKey := Blob.ofList 32 [1]
  let Q : PublicKey := Blob.ofList 32 [2]
  let received (pub : PublicKey) (ki : KeyImage) (amount : ℕ) : ScannedTx :=
    ⟨[⟨0, pub, ki, amount⟩], []⟩
  let blocks : List (Hash × List ScannedTx) :=
    [(Blob.ofList 32 [11], [received P (Blob.ofList 32 [21]) 1]),
      (Blob.ofList 32 [12], [received Q (Blob.ofList 32 [22]) 5]),
      (Blob.ofList 32 [13], [received P (Blob.ofList 32 [21]) 3])]
  have hrun : (runBlocks fullWallet (Wallet2.init nullHash) blocks).map
      (fun w => (w.transfers.map TransferDetails.blockHeight,
        (detachBlockchain w 3).map Wallet2.transfers)) = some ([3, 2], some []) := by
    decide
  obtain ⟨w, hw, hfacts⟩ := Option.map_eq_some_iff.mp hrun
  simp only [Prod.mk.injEq] at hfacts
  exact ⟨w, Reachable.runBlocks .init hw, hfacts.1, hfacts.2⟩

end Bittube.Wallet

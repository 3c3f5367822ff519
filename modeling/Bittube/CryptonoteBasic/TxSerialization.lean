import Bittube.CryptonoteBasic.Transaction
import Bittube.Ringct.RctTypes
import Bittube.CryptonoteConfig

/-!
# The binary layout of a transaction (`cryptonote_basic.h`, `cryptonote_format_utils.cpp`)

`transaction::do_serialize` writes the prefix (version, unlock time, inputs, outputs, extra),
then for version 1 one ring signature per input, sized by its ring, and from version 2 the
RingCT base and, unless the transaction is pruned, the prunable RingCT data.
`tx_to_blob` runs the writer and keeps whatever it wrote even when it returns `false`;
`parse_and_validate_tx_from_blob` runs the reader on a caller's object and then
`expand_transaction_1`.

The reader works on an existing object, and two of that object's fields steer it: `is_mm_tx`,
which lets any version through the prefix's version check and which neither constructor nor
`set_null` initialises, and `pruned`, which skips the signatures. Both are inputs of the model,
read from the object passed in. With `is_mm_tx` clear every accepted prefix has version 1 or 2,
and one blob is rejected or accepted by a freshly cleared object according to `is_mm_tx` alone.
-/

namespace Bittube.CryptonoteBasic

open ByteStream Bittube.Crypto Bittube.Serialization Bittube.Common.Varint Bittube.Ringct

/-- `transaction`: its prefix, the ring signatures of a version-1 transaction, the RingCT
signatures, `pruned`, and the two sizes the reader records. The hash caches are not modelled. -/
structure Transaction extends TransactionPrefix where
  signatures : List (List Signature)
  rctSignatures : RctSig
  pruned : Bool
  unprunableSize : ℕ
  prefixSize : ℕ
  deriving DecidableEq, Repr

/-- `transaction::set_null`: everything but `is_mm_tx` and the RingCT data other than its type
is cleared. -/
def Transaction.setNull (tx : Transaction) : Transaction :=
  { tx with
    version := 1, unlockTime := 0, vin := [], vout := [], extra := [], signatures := []
    rctSignatures := { tx.rctSignatures with type := rctTypeNull }
    pruned := false, unprunableSize := 0, prefixSize := 0 }

/-- `transaction::get_signature_size`: the ring size of a `txin_to_key`, `0` otherwise. -/
def getSignatureSize : TxinV → ℕ
  | .toKey txin => txin.keyOffsets.length
  | _ => 0

/-- `is_coinbase(tx)`: a single `txin_gen` input. -/
def isCoinbase (tx : Transaction) : Bool :=
  match tx.vin with
  | [.gen _] => true
  | _ => false

/-! ## Reading -/

/-- `do_serialize` of one `uint8_t` of a `std::vector<uint8_t>`. -/
def readByte (s : Istream) : Option (UInt8 × Istream) :=
  let (v, s) := serializeUint 1 s
  some (v.toUInt8, s)

/-- A `uint64_t` element of a container (`serialize_container_element`): a varint. -/
def readVarintElem (s : Istream) : Option (ℕ × Istream) := some (serializeVarint 64 s)

/-- `txout_to_script::do_serialize`. -/
def readTxoutToScript (s : Istream) : Option (TxoutToScript × Istream) := do
  let (keys, s) ← field (readContainer (readBlob 32)) s
  let (script, s) ← field (readContainer readByte) s
  if s.good then some (⟨keys, script⟩, s) else none

/-- `txin_gen::do_serialize`. -/
def readTxinGen (s : Istream) : Option (TxinGen × Istream) :=
  let (height, s) := serializeVarint 64 s
  if s.good then some (⟨height⟩, s) else none

/-- `txin_to_script::do_serialize`. -/
def readTxinToScript (s : Istream) : Option (TxinToScript × Istream) := do
  let (prev, s) ← field (readBlob 32) s
  let (prevout, s) := serializeVarint 64 s
  if !s.good then none
  else do
    let (sigset, s) ← field (readContainer readByte) s
    if s.good then some (⟨prev, prevout, sigset⟩, s) else none

/-- `txin_to_scripthash::do_serialize`. -/
def readTxinToScripthash (s : Istream) : Option (TxinToScripthash × Istream) := do
  let (prev, s) ← field (readBlob 32) s
  let (prevout, s) := serializeVarint 64 s
  if !s.good then none
  else do
    let (script, s) ← field readTxoutToScript s
    let (sigset, s) ← field (readContainer readByte) s
    if s.good then some (⟨prev, prevout, script, sigset⟩, s) else none

/-- `txin_to_key::do_serialize`. -/
def readTxinToKey (s : Istream) : Option (TxinToKey × Istream) :=
  let (amount, s) := serializeVarint 64 s
  if !s.good then none
  else do
    let (keyOffsets, s) ← field (readContainer readVarintElem) s
    let (kImage, s) ← field (readBlob 32) s
    if s.good then some (⟨amount, keyOffsets, kImage⟩, s) else none

/-- The variant reader for `txin_v`: the tag byte, then the alternative with that tag
(`txin_gen` 0xff, `txin_to_script` 0, `txin_to_scripthash` 1, `txin_to_key` 2). -/
def readTxinV (s : Istream) : Option (TxinV × Istream) :=
  let (t, s) := serializeUint 1 s
  match t with
  | 0xff => (readTxinGen s).map fun (v, s) => (.gen v, s)
  | 0x00 => (readTxinToScript s).map fun (v, s) => (.toScript v, s)
  | 0x01 => (readTxinToScripthash s).map fun (v, s) => (.toScripthash v, s)
  | 0x02 => (readTxinToKey s).map fun (v, s) => (.toKey v, s)
  | _ => none

/-- The variant reader for `txout_target_v` (`txout_to_script` 0, `txout_to_scripthash` 1,
`txout_to_key` 2); the last two are 32-byte blobs. -/
def readTxoutTargetV (s : Istream) : Option (TxoutTargetV × Istream) :=
  let (t, s) := serializeUint 1 s
  match t with
  | 0x00 => (readTxoutToScript s).map fun (v, s) => (.toScript v, s)
  | 0x01 => (readBlob 32 s).map fun (v, s) => (.toScripthash v, s)
  | 0x02 => (readBlob 32 s).map fun (v, s) => (.toKey v, s)
  | _ => none

/-- `tx_out::do_serialize`. -/
def readTxOut (s : Istream) : Option (TxOut × Istream) :=
  let (amount, s) := serializeVarint 64 s
  if !s.good then none
  else do
    let (target, s) ← field readTxoutTargetV s
    if s.good then some (⟨amount, target⟩, s) else none

/-- `transaction_prefix::do_serialize` on a reading archive, into `pre`. The version check is
skipped when the object's `is_mm_tx` is set. -/
def readTransactionPrefix (pre : TransactionPrefix) (s : Istream) :
    Option (TransactionPrefix × Istream) :=
  let (version, s) := serializeVarint 64 s
  if !s.good then none
  else if (version = 0 ∨ currentTransactionVersion < version) ∧ pre.isMmTx = false then none
  else
    let (unlockTime, s) := serializeVarint 64 s
    if !s.good then none
    else do
      let (vin, s) ← field (readContainer readTxinV) s
      let (vout, s) ← field (readContainer readTxOut) s
      let (extra, s) ← field (readContainer readByte) s
      if s.good then some ({ pre with version, unlockTime, vin, vout, extra }, s) else none

/-- `do_serialize(std::vector<crypto::signature>&)` on a reading archive, for a vector already
sized to `cnt`: the sanity check against the remaining bytes, then `cnt` signatures. The
product `cnt * 64` does not wrap: `cnt` is a ring size read from the same blob. -/
def readSignatureVector (cnt : ℕ) (s : Istream) : Option (List Signature × Istream) :=
  if remainingBytes s < cnt * 64 then none
  else readEach (fun _ => field (readBlob 64)) (List.replicate cnt (Blob.zero 64)) s

/-- The signature loop of a version-1 transaction on a reading archive: `signatures` has one
entry per input, so each input's vector is sized by `get_signature_size` and read. -/
def readSignatures : List TxinV → Istream → Option (List (List Signature) × Istream)
  | [], s => some ([], s)
  | txin :: vin, s => do
    let (sigs, s) ← field (readSignatureVector (getSignatureSize txin)) s
    let (rest, s) ← readSignatures vin s
    some (sigs :: rest, s)

/-- The ring size less one, passed to the prunable reader as `mixin`: `size_t`, so an empty
ring gives `SIZE_MAX`. -/
def mixinOf : List TxinV → ℕ
  | .toKey txin :: _ => (txin.keyOffsets.length + 2 ^ 64 - 1) % 2 ^ 64
  | _ => 0

/-- What `transaction::do_serialize` reads after the prefix, into `tx` whose prefix has just
been read: the ring signatures of a version-1 transaction, the RingCT parts otherwise; `pruned`
is cleared at the end. `s₀` is the stream at the start of the transaction: `getpos` is an
`unsigned int`, so the size of the unprunable part is taken modulo `2 ^ 32`. -/
def readTransactionBody (tx : Transaction) (s₀ s : Istream) : Option (Transaction × Istream) :=
  if tx.version ≤ 1 then do
    -- `signatures` is resized to `vin.size()`, so `signatures_not_expected` is `vin.empty()`
    let (signatures, s) ← (if tx.pruned then some (vectorResize tx.signatures tx.vin.length [], s)
      else readSignatures tx.vin s)
    if s.good then
      some ({ tx with signatures, unprunableSize := tx.prefixSize, pruned := false }, s)
    else none
  else if tx.vin.isEmpty then
    -- neither RingCT part is read, and `unprunable_size` keeps its old value
    if s.good then some ({ tx with pruned := false }, s) else none
  else do
    let (base, s) ← tx.rctSignatures.serializeRctsigBase tx.vin.length tx.vout.length s
    if !s.good then none
    else do
      let unprunableSize := (s₀.rest.length - s.rest.length) % 2 ^ 32
      let (p, s) ← (if !tx.pruned && base.type != rctTypeNull then do
          let (p, s) ← tx.rctSignatures.p.serializeRctsigPrunable base.type tx.vin.length
            tx.vout.length (mixinOf tx.vin) s
          if s.good then some (p, s) else none
        else some (tx.rctSignatures.p, s))
      let rctSignatures : RctSig := { toRctSigBase := base, p }
      if s.good then some ({ tx with rctSignatures, unprunableSize, pruned := false }, s)
      else none

/-- `transaction::do_serialize` on a reading archive, into `tx`: the prefix, whose size is
recorded, then the rest. What the blob does not carry keeps `tx`'s value. -/
def readTransaction (tx : Transaction) (s₀ : Istream) : Option (Transaction × Istream) := do
  let (pre, s) ← field (readTransactionPrefix tx.toTransactionPrefix) s₀
  readTransactionBody
    { tx with toTransactionPrefix := pre, prefixSize := (s₀.rest.length - s.rest.length) % 2 ^ 32 }
    s₀ s

/-! ## Writing -/

/-- `txout_to_script::do_serialize` on a writing archive. -/
def writeTxoutToScript (o : TxoutToScript) : List UInt8 :=
  writeContainer Blob.data o.keys ++ writeContainer (fun b => [b]) o.script

/-- `txin_v` on a writing archive: the tag byte, then the alternative. -/
def writeTxinV : TxinV → List UInt8
  | .gen txin => [0xff] ++ writeVarint txin.height
  | .toScript txin =>
    [0x00] ++ txin.prev.data ++ writeVarint txin.prevout ++ writeContainer (fun b => [b]) txin.sigset
  | .toScripthash txin =>
    [0x01] ++ txin.prev.data ++ writeVarint txin.prevout ++ writeTxoutToScript txin.script ++
      writeContainer (fun b => [b]) txin.sigset
  | .toKey txin =>
    [0x02] ++ writeVarint txin.amount ++ writeContainer writeVarint txin.keyOffsets ++
      txin.kImage.data

/-- `txout_target_v` on a writing archive. -/
def writeTxoutTargetV : TxoutTargetV → List UInt8
  | .toScript target => [0x00] ++ writeTxoutToScript target
  | .toScripthash hash => [0x01] ++ hash.data
  | .toKey key => [0x02] ++ key.data

/-- `tx_out::do_serialize` on a writing archive. -/
def writeTxOut (o : TxOut) : List UInt8 := writeVarint o.amount ++ writeTxoutTargetV o.target

/-- `transaction_prefix::do_serialize` on a writing archive. -/
def writeTransactionPrefix (pre : TransactionPrefix) : Written :=
  (Written.put (writeVarint pre.version)).andThen <|
    Written.check (!((pre.version == 0 || currentTransactionVersion < pre.version) && !pre.isMmTx)) <|
    Written.put (writeVarint pre.unlockTime ++ writeContainer writeTxinV pre.vin ++
      writeContainer writeTxOut pre.vout ++ writeContainer (fun b => [b]) pre.extra)

/-- The signature loop of a version-1 transaction on a writing archive. With no signatures at
all (`signatures_not_expected`) every input must have an empty ring; otherwise each input's
vector must have its ring's size, and an empty vector writes nothing. -/
def writeSignatures (notExpected : Bool) : List TxinV → List (List Signature) → Written
  | [], _ => Written.put []
  | txin :: vin, sigs =>
    if notExpected then
      Written.check (getSignatureSize txin == 0) (writeSignatures notExpected vin sigs)
    else
      match sigs with
      | sig :: sigs =>
        Written.check (getSignatureSize txin == sig.length) <|
          (Written.put (sig.flatMap Blob.data)).andThen (writeSignatures notExpected vin sigs)
      | [] => Written.fail

/-- `transaction::do_serialize` on a writing archive. -/
def writeTransaction (tx : Transaction) : Written :=
  (writeTransactionPrefix tx.toTransactionPrefix).andThen <|
    if tx.version ≤ 1 then
      Written.check (tx.signatures.isEmpty || tx.vin.length == tx.signatures.length) <|
        if tx.pruned then Written.put []
        else writeSignatures tx.signatures.isEmpty tx.vin tx.signatures
    else if tx.vin.isEmpty then Written.put []
    else
      (tx.rctSignatures.writeRctsigBase tx.vin.length tx.vout.length).andThen <|
        if !tx.pruned && tx.rctSignatures.type != rctTypeNull then
          tx.rctSignatures.p.writeRctsigPrunable tx.rctSignatures.type tx.vin.length tx.vout.length
            (mixinOf tx.vin)
        else Written.put []

/-- `tx_to_blob(tx)`: the bytes the writer put out, whether or not it succeeded. -/
def txToBlob (tx : Transaction) : List UInt8 := (writeTransaction tx).bytes

/-! ## Parsing -/

/-- The checks of the loop of `expand_transaction_1` that fills each `V` of the first
bulletproof types: each proof has at least 6 rounds and its amounts stay within the output
commitments. -/
def checkBulletproofsV1 : ℕ → List Bulletproof → ℕ → Bool
  | _, [], _ => true
  | idx, proof :: proofs, total =>
    decide (6 ≤ proof.L.length) && decide (idx + proof.nBulletproofV1Amounts ≤ total) &&
      checkBulletproofsV1 (idx + proof.nBulletproofV1Amounts) proofs total

/-- The output keys that become the `dest` of the output commitments: `none` when an output is
not a `txout_to_key`. -/
def outputKeys (vout : List TxOut) : Option (List PublicKey) :=
  vout.mapM fun o => match o.target with
    | .toKey key => some key
    | _ => none

/-- `expand_transaction_1(tx, base_only)`: for a non-coinbase RingCT transaction, one output
commitment per output, each output a `txout_to_key` whose key becomes the commitment's `dest`,
and the shape checks on the bulletproofs. Filling each bulletproof's `V` is not modelled. -/
def expandTransaction1 (tx : Transaction) (baseOnly : Bool) : Option Transaction :=
  if 2 ≤ tx.version ∧ isCoinbase tx = false then
    let rv := tx.rctSignatures
    if rv.outPk.length ≠ tx.vout.length then none
    else
      match outputKeys tx.vout with
      | none => none
      | some keys =>
        let outPk := List.zipWith (fun c key => { c with dest := key }) rv.outPk keys
        let tx := { tx with rctSignatures := { rv with outPk } }
        if baseOnly then some tx
        else if isRctBulletproof rv.type ∧ (rv.type = rctTypeBulletproof ∨ rv.type = rctTypeBulletproof2)
        then
          match rv.p.bulletproofs with
          | [proof] =>
            -- `1 << (L.size() - 6)`; the reader has already bounded `L` when there are outputs
            if proof.L.length < 6 then none
            else if 2 ^ (proof.L.length - 6) < tx.vout.length then none
            else some tx
          | _ => none
        else if isRctBulletproof rv.type then
          if nBulletproofV1Amounts rv.p.bulletproofs ≠ tx.vout.length then none
          else if checkBulletproofsV1 0 rv.p.bulletproofs rv.outPk.length then some tx
          else none
        else some tx
  else some tx

/-- `parse_and_validate_tx_from_blob(tx_blob, tx)`: read the whole blob into the caller's
object, then expand it. -/
def parseAndValidateTxFromBlob (txBlob : List UInt8) (tx : Transaction) : Option Transaction := do
  let (tx, _) ← serialize (readTransaction tx) (Istream.ofBytes txBlob)
  expandTransaction1 tx false

/-! ## Reading back what was written -/

/-- The integers of a `txout_to_script` fit and its containers have fewer than `2 ^ 64`
elements. -/
def TxoutToScript.WordsFit (o : TxoutToScript) : Prop :=
  o.keys.length < 2 ^ 64 ∧ o.script.length < 2 ^ 64

/-- The integers of an input fit the `size_t` and `uint64_t` fields the source keeps them in,
and its containers have fewer than `2 ^ 64` elements. -/
def TxinV.WordsFit : TxinV → Prop
  | .gen txin => txin.height < 2 ^ 64
  | .toScript txin => txin.prevout < 2 ^ 64 ∧ txin.sigset.length < 2 ^ 64
  | .toScripthash txin =>
    txin.prevout < 2 ^ 64 ∧ txin.script.WordsFit ∧ txin.sigset.length < 2 ^ 64
  | .toKey txin =>
    txin.amount < 2 ^ 64 ∧ txin.keyOffsets.length < 2 ^ 64 ∧ ∀ o ∈ txin.keyOffsets, o < 2 ^ 64

/-- The same for an output. -/
def TxOut.WordsFit (o : TxOut) : Prop :=
  o.amount < 2 ^ 64 ∧
    match o.target with
    | .toScript target => target.WordsFit
    | _ => True

/-- The same for a prefix: its own integers and counts, and those of every input and output. -/
def TransactionPrefix.WordsFit (pre : TransactionPrefix) : Prop :=
  pre.version < 2 ^ 64 ∧ pre.unlockTime < 2 ^ 64 ∧ pre.vin.length < 2 ^ 64 ∧
    pre.vout.length < 2 ^ 64 ∧ pre.extra.length < 2 ^ 64 ∧ (∀ x ∈ pre.vin, x.WordsFit) ∧
    ∀ o ∈ pre.vout, o.WordsFit

/-- The same for a whole transaction: its prefix, the fee, the `uint32_t` count of bulletproofs,
and the sizes of their `L` and `R`. -/
def Transaction.WordsFit (tx : Transaction) : Prop :=
  tx.toTransactionPrefix.WordsFit ∧ tx.rctSignatures.txnFee < 2 ^ 64 ∧
    tx.rctSignatures.p.bulletproofs.length < 2 ^ 32 ∧
    ∀ q ∈ tx.rctSignatures.p.bulletproofs, q.L.length < 2 ^ 64 ∧ q.R.length < 2 ^ 64

/-- What the parse needs of a non-coinbase RingCT transaction besides consistent sizes: a type
other than `RCTTypeNull` (whose base carries no output commitments, so that the reader keeps the
object's own), and what `expand_transaction_1` checks: every output a `txout_to_key`, exactly
one bulletproof wide enough for the outputs for `RCTTypeBulletproof` and `RCTTypeBulletproof2`,
and for the first two bulletproof types proofs of at least 6 rounds that cover the outputs. -/
def Transaction.RingctShape (tx : Transaction) : Prop :=
  tx.rctSignatures.type ≠ rctTypeNull ∧ (∀ o ∈ tx.vout, ∃ key, o.target = .toKey key) ∧
    (tx.rctSignatures.type = rctTypeBulletproof ∨ tx.rctSignatures.type = rctTypeBulletproof2 →
      ∃ proof, tx.rctSignatures.p.bulletproofs = [proof] ∧ 6 ≤ proof.L.length ∧
        tx.vout.length ≤ 2 ^ (proof.L.length - 6)) ∧
    (tx.rctSignatures.type = rctTypeSimpleBulletproof ∨
        tx.rctSignatures.type = rctTypeFullBulletproof →
      nBulletproofV1Amounts tx.rctSignatures.p.bulletproofs = tx.vout.length ∧
        checkBulletproofsV1 0 tx.rctSignatures.p.bulletproofs tx.vout.length = true)

/-- What reading back a written transaction leaves in `old`: the prefix, with `old`'s own
`is_mm_tx`; for version 1 the signatures, one empty vector per input where none were written;
from version 2, where there are inputs, the RingCT parts read back into `old`'s; the two sizes,
where the reader sets them; and `pruned` cleared. The rest is `old`'s. -/
def Transaction.readBack (old tx : Transaction) : Transaction :=
  let prefixBytes := (writeTransactionPrefix tx.toTransactionPrefix).bytes
  let pre := { tx.toTransactionPrefix with isMmTx := old.isMmTx }
  let prefixSize := prefixBytes.length % 2 ^ 32
  if tx.version ≤ 1 then
    { old with
      toTransactionPrefix := pre, prefixSize, unprunableSize := prefixSize, pruned := false
      signatures := if tx.signatures.isEmpty then tx.vin.map fun _ => [] else tx.signatures }
  else if tx.vin.isEmpty then { old with toTransactionPrefix := pre, prefixSize, pruned := false }
  else
    let base := old.rctSignatures.toRctSigBase.readBack tx.rctSignatures.toRctSigBase
    let p := old.rctSignatures.p.readBack tx.rctSignatures.p tx.rctSignatures.type
    { old with
      toTransactionPrefix := pre, prefixSize, pruned := false
      rctSignatures := { toRctSigBase := base, p }
      unprunableSize := (prefixBytes.length +
        (tx.rctSignatures.writeRctsigBase tx.vin.length tx.vout.length).bytes.length) % 2 ^ 32 }

section RoundTrip

theorem writeUint_one_toNat (b : UInt8) : writeUint 1 b.toNat = [b] := by
  simp [writeUint]

@[simp] theorem serializeUint_one_cons (c : UInt8) (rest : List UInt8) :
    serializeUint 1 (Istream.ofBytes (c :: rest)) = (c.toNat, Istream.ofBytes rest) := by
  simpa [writeUint_one_toNat] using serializeUint_ofBytes (toNat_lt_256_pow_one c) rest

theorem readByte_write (b : UInt8) (rest : List UInt8) :
    readByte (Istream.ofBytes ([b] ++ rest)) = some (b, Istream.ofBytes rest) := by
  simp [readByte]

theorem readBytes_write (bs : List UInt8) (hlen : bs.length < 2 ^ 64) (rest : List UInt8) :
    field (readContainer readByte) (Istream.ofBytes (writeContainer (fun b => [b]) bs ++ rest)) =
      some (bs, Istream.ofBytes rest) :=
  field_of_ofBytes (readContainer_ofBytes readByte_write (fun _ => le_refl 1) bs hlen rest)

theorem readTxoutToScript_write (o : TxoutToScript) (hfit : o.WordsFit) (rest : List UInt8) :
    readTxoutToScript (Istream.ofBytes (writeTxoutToScript o ++ rest)) =
      some (o, Istream.ofBytes rest) := by
  simp only [readTxoutToScript, writeTxoutToScript, List.append_assoc,
    field_readContainer_readBlob_ofBytes (by norm_num : 0 < 32) o.keys hfit.1, some_bind,
    readBytes_write o.script hfit.2, Istream.good_ofBytes, if_true]

theorem readTxinV_write (x : TxinV) (hfit : x.WordsFit) (rest : List UInt8) :
    readTxinV (Istream.ofBytes (writeTxinV x ++ rest)) = some (x, Istream.ofBytes rest) := by
  cases x with
  | gen txin =>
    have hheight : txin.height < 2 ^ 64 := hfit
    simp [readTxinV, writeTxinV, readTxinGen, serializeVarint_ofBytes hheight]
  | toScript txin =>
    obtain ⟨hprevout, hsigset⟩ : txin.prevout < 2 ^ 64 ∧ txin.sigset.length < 2 ^ 64 := hfit
    simp only [readTxinV, writeTxinV, List.cons_append, List.append_assoc, serializeUint_one_cons]
    simp [readTxinToScript, serializeVarint_ofBytes hprevout, readBytes_write txin.sigset hsigset,
      some_bind]
  | toScripthash txin =>
    obtain ⟨hprevout, hscript, hsigset⟩ :
        txin.prevout < 2 ^ 64 ∧ txin.script.WordsFit ∧ txin.sigset.length < 2 ^ 64 := hfit
    simp only [readTxinV, writeTxinV, List.cons_append, List.append_assoc, serializeUint_one_cons]
    simp [readTxinToScripthash, serializeVarint_ofBytes hprevout,
      field_of_ofBytes (readTxoutToScript_write txin.script hscript _),
      readBytes_write txin.sigset hsigset, some_bind]
  | toKey txin =>
    obtain ⟨hamount, hcount, hoffsets⟩ : txin.amount < 2 ^ 64 ∧ txin.keyOffsets.length < 2 ^ 64 ∧
        ∀ o ∈ txin.keyOffsets, o < 2 ^ 64 := hfit
    have hoffsetsRead : ∀ rest, readContainer readVarintElem
        (Istream.ofBytes (writeContainer writeVarint txin.keyOffsets ++ rest)) =
          some (txin.keyOffsets, Istream.ofBytes rest) :=
      readContainer_ofBytes_of_mem
        (fun v rest (hv : v < 2 ^ 64) => by simp [readVarintElem, serializeVarint_ofBytes hv])
        (fun v => List.length_pos_of_ne_nil (writeVarint_ne_nil v)) txin.keyOffsets hoffsets hcount
    simp only [readTxinV, writeTxinV, List.cons_append, List.append_assoc, serializeUint_one_cons]
    simp [readTxinToKey, serializeVarint_ofBytes hamount, field_of_ofBytes (hoffsetsRead _),
      some_bind]

theorem readTxOut_write (o : TxOut) (hfit : o.WordsFit) (rest : List UInt8) :
    readTxOut (Istream.ofBytes (writeTxOut o ++ rest)) = some (o, Istream.ofBytes rest) := by
  obtain ⟨hamount, htarget⟩ := hfit
  have hread : readTxoutTargetV (Istream.ofBytes (writeTxoutTargetV o.target ++ rest)) =
      some (o.target, Istream.ofBytes rest) := by
    cases htgt : o.target with
    | toScript target =>
      rw [htgt] at htarget
      simp [readTxoutTargetV, writeTxoutTargetV, readTxoutToScript_write target htarget]
    | toScripthash hash => simp [readTxoutTargetV, writeTxoutTargetV]
    | toKey key => simp [readTxoutTargetV, writeTxoutTargetV]
  simp [readTxOut, writeTxOut, serializeVarint_ofBytes hamount, field_of_ofBytes hread, some_bind]

/-- The prefix reads back into any object whose `is_mm_tx` lets the version through; the object
keeps its own `is_mm_tx`. -/
theorem readTransactionPrefix_write (old pre : TransactionPrefix)
    (hok : (writeTransactionPrefix pre).ok = true) (hfit : pre.WordsFit)
    (hversion : ¬((pre.version = 0 ∨ currentTransactionVersion < pre.version) ∧
      old.isMmTx = false)) (rest : List UInt8) :
    readTransactionPrefix old (Istream.ofBytes ((writeTransactionPrefix pre).bytes ++ rest)) =
      some ({ pre with isMmTx := old.isMmTx }, Istream.ofBytes rest) := by
  obtain ⟨hv, hunlock, hvin, hvout, hextra, hvinFit, hvoutFit⟩ := hfit
  have hcheck : (!((pre.version == 0 || currentTransactionVersion < pre.version) && !pre.isMmTx)) =
      true := by
    simpa [writeTransactionPrefix] using hok
  have hvinRead := readContainer_ofBytes_of_mem (fun x rest (hx : x.WordsFit) => readTxinV_write x hx rest)
    (fun x => by cases x <;> simp [writeTxinV]) pre.vin hvinFit hvin
  have hvoutRead := readContainer_ofBytes_of_mem (fun o rest (ho : o.WordsFit) => readTxOut_write o ho rest)
    (fun o => by simp [writeTxOut, List.length_append]; have := List.length_pos_of_ne_nil (writeVarint_ne_nil o.amount); omega)
    pre.vout hvoutFit hvout
  simp only [writeTransactionPrefix, hcheck, Written.check_true, Written.put_andThen,
    Written.put_bytes, List.append_assoc]
  simp only [readTransactionPrefix, serializeVarint_ofBytes hv, serializeVarint_ofBytes hunlock,
    Istream.good_ofBytes, Bool.not_true, Bool.false_eq_true, if_false, if_neg hversion,
    field_of_ofBytes (hvinRead _), field_of_ofBytes (hvoutRead _), readBytes_write pre.extra hextra,
    some_bind, if_true]

theorem readSignatureVector_write (sig : List Signature) (rest : List UInt8) :
    readSignatureVector sig.length (Istream.ofBytes (sig.flatMap Blob.data ++ rest)) =
      some (sig, Istream.ofBytes rest) := by
  -- the sanity check passes: the signatures themselves take 64 bytes each
  have hroom : ¬remainingBytes (Istream.ofBytes (sig.flatMap Blob.data ++ rest)) < sig.length * 64 := by
    simp only [remainingBytes, Istream.good_ofBytes, if_true, Istream.rest_ofBytes,
      List.length_append, length_flatMap_data]
    omega
  rw [readSignatureVector, if_neg hroom]
  exact readEach_blobs_ofBytes _ sig (by simp) rest

/-- The signature loop reads back what it wrote: each input's vector, or one empty vector per
input where no signatures were expected. -/
theorem readSignatures_write (notExpected : Bool) (vin : List TxinV) (sigs : List (List Signature))
    (hok : (writeSignatures notExpected vin sigs).ok = true) (rest : List UInt8) :
    readSignatures vin (Istream.ofBytes ((writeSignatures notExpected vin sigs).bytes ++ rest)) =
      some (if notExpected then vin.map (fun _ => []) else sigs.take vin.length,
        Istream.ofBytes rest) := by
  induction vin generalizing sigs with
  | nil => cases notExpected <;> rfl
  | cons txin vin ih =>
    cases notExpected with
    | true =>
      -- every ring is empty: nothing is written, and each vector is read empty
      simp only [writeSignatures, if_true, Written.check_ok, Bool.and_eq_true, beq_iff_eq] at hok
      obtain ⟨hsize, hrest⟩ := hok
      have hempty := readSignatureVector_write []
        ((writeSignatures true vin sigs).bytes ++ rest)
      rw [List.length_nil, ← hsize] at hempty
      simp only [writeSignatures, if_true, hsize, beq_self_eq_true, Written.check_true,
        readSignatures, List.flatMap_nil, List.nil_append] at hempty ⊢
      rw [field_of_ofBytes hempty, some_bind, ih sigs hrest, some_bind]
      rfl
    | false =>
      cases sigs with
      | nil => simp [writeSignatures] at hok
      | cons sig sigs =>
        simp only [writeSignatures, Bool.false_eq_true, if_false, Written.check_ok,
          Written.andThen_ok, Written.put_ok, Bool.true_and, Bool.and_eq_true, beq_iff_eq] at hok
        obtain ⟨hsize, hrest⟩ := hok
        simp only [writeSignatures, Bool.false_eq_true, if_false, hsize, beq_self_eq_true,
          Written.check_true, Written.put_andThen, List.append_assoc,
          readSignatures, field_of_ofBytes (readSignatureVector_write sig _), some_bind,
          ih sigs hrest]
        rfl

/-- A written transaction reads back into any object that is not pruned and whose `is_mm_tx`
lets the version through. -/
theorem readTransaction_write (old tx : Transaction) (hok : (writeTransaction tx).ok = true)
    (hfit : tx.WordsFit) (hpruned : tx.pruned = false) (holdPruned : old.pruned = false)
    (hversion : ¬((tx.version = 0 ∨ currentTransactionVersion < tx.version) ∧
      old.isMmTx = false)) (rest : List UInt8) :
    readTransaction old (Istream.ofBytes (txToBlob tx ++ rest)) =
      some (old.readBack tx, Istream.ofBytes rest) := by
  obtain ⟨hpreFit, hfee, hnbp, hbp⟩ := hfit
  simp only [writeTransaction, Written.andThen_ok, Bool.and_eq_true] at hok
  obtain ⟨hpreOk, hbodyOk⟩ := hok
  unfold txToBlob writeTransaction
  rw [Written.andThen_bytes hpreOk, List.append_assoc]
  unfold readTransaction
  rw [field_of_ofBytes (readTransactionPrefix_write _ _ hpreOk hpreFit hversion _), some_bind]
  dsimp only
  simp only [Istream.rest_ofBytes, List.length_append, Nat.add_sub_cancel]
  unfold readTransactionBody
  by_cases hv : tx.version ≤ 1
  · -- version 1: one ring signature per input
    simp only [if_pos hv, hpruned, Bool.false_eq_true, if_false, Written.check_ok,
      Bool.and_eq_true] at hbodyOk
    obtain ⟨hcount, hsigsOk⟩ := hbodyOk
    have hsigs : (if tx.signatures.isEmpty then tx.vin.map (fun _ => [])
        else tx.signatures.take tx.vin.length) =
        if tx.signatures.isEmpty then tx.vin.map (fun _ => []) else tx.signatures := by
      cases hempty : tx.signatures.isEmpty
      · simp only [hempty, Bool.false_or, beq_iff_eq] at hcount
        simp [hcount]
      · rfl
    simp only [if_pos hv, hpruned, holdPruned, Bool.false_eq_true, if_false,
      Written.check_bytes hcount, readSignatures_write _ _ _ hsigsOk, some_bind,
      Istream.good_ofBytes, if_true, hsigs, Transaction.readBack]
  · rw [if_neg hv] at hbodyOk
    simp only [if_neg hv]
    by_cases hvin : tx.vin.isEmpty = true
    · -- no inputs: neither RingCT part is written or read
      simp [Transaction.readBack, hv, hvin]
    · -- the base, then the prunable part unless the type is `RCTTypeNull`
      simp only [if_neg hvin, Written.andThen_ok, Bool.and_eq_true] at hbodyOk
      obtain ⟨hbaseOk, hprunableOk⟩ := hbodyOk
      simp only [if_neg hvin, Written.andThen_bytes hbaseOk, List.append_assoc,
        serializeRctsigBase_write _ _ hbaseOk hfee, some_bind, Istream.good_ofBytes,
        Bool.not_true, Bool.false_eq_true, if_false, Istream.rest_ofBytes, List.length_append,
        RctSigBase.type_readBack, holdPruned, hpruned, Bool.not_false, Bool.true_and]
      -- the stream has advanced over the prefix and the base when the size is taken
      have hsub : ∀ a b c : ℕ, a + (b + c) - c = a + b := by omega
      by_cases hnull : tx.rctSignatures.type = rctTypeNull
      · have hne : (tx.rctSignatures.type != rctTypeNull) = false := by simp [hnull]
        simp only [hne, Bool.false_eq_true, if_false, Written.put_bytes, List.nil_append,
          List.length_nil, Nat.zero_add, hsub, some_bind, Istream.good_ofBytes,
          if_true, Transaction.readBack, if_neg hv, if_neg hvin, RctSigPrunable.readBack,
          if_pos hnull]
      · have hne : (tx.rctSignatures.type != rctTypeNull) = true := by simp [hnull]
        simp only [hpruned, hne, Bool.not_false, and_self, if_true] at hprunableOk
        simp only [hne, if_true, serializeRctsigPrunable_write _ _ hprunableOk hbp hnbp, some_bind,
          Istream.good_ofBytes, hsub, Transaction.readBack, if_neg hv, if_neg hvin]

/-- The transaction read back from its blob, before `expand_transaction_1`. -/
theorem parseAndValidateTxFromBlob_txToBlob_eq (old tx : Transaction)
    (hok : (writeTransaction tx).ok = true) (hfit : tx.WordsFit) (hpruned : tx.pruned = false)
    (holdPruned : old.pruned = false)
    (hversion : ¬((tx.version = 0 ∨ currentTransactionVersion < tx.version) ∧
      old.isMmTx = false)) :
    parseAndValidateTxFromBlob (txToBlob tx) old = expandTransaction1 (old.readBack tx) false := by
  have hread := readTransaction_write old tx hok hfit hpruned holdPruned hversion []
  rw [List.append_nil] at hread
  simp [parseAndValidateTxFromBlob, serialize, hread, checkStreamState, Istream.peekEof]

@[simp] theorem Transaction.toTransactionPrefix_readBack (old tx : Transaction) :
    (old.readBack tx).toTransactionPrefix = { tx.toTransactionPrefix with isMmTx := old.isMmTx } := by
  unfold Transaction.readBack
  split_ifs <;> rfl

@[simp] theorem Transaction.version_readBack (old tx : Transaction) :
    (old.readBack tx).version = tx.version := by
  unfold Transaction.readBack
  split_ifs <;> rfl

@[simp] theorem Transaction.vin_readBack (old tx : Transaction) :
    (old.readBack tx).vin = tx.vin := by
  unfold Transaction.readBack
  split_ifs <;> rfl

@[simp] theorem Transaction.vout_readBack (old tx : Transaction) :
    (old.readBack tx).vout = tx.vout := by
  unfold Transaction.readBack
  split_ifs <;> rfl

@[simp] theorem Transaction.extra_readBack (old tx : Transaction) :
    (old.readBack tx).extra = tx.extra := by
  unfold Transaction.readBack
  split_ifs <;> rfl

@[simp] theorem Transaction.isMmTx_readBack (old tx : Transaction) :
    (old.readBack tx).isMmTx = old.isMmTx := by
  unfold Transaction.readBack
  split_ifs <;> rfl

/-! ### What was read back writes the same bytes -/

/-- The prefix writer reads `is_mm_tx` only in its version check. -/
theorem writeTransactionPrefix_isMmTx {pre : TransactionPrefix} {isMmTx : Bool}
    (hok : (writeTransactionPrefix pre).ok = true)
    (hversion : ¬((pre.version = 0 ∨ currentTransactionVersion < pre.version) ∧ isMmTx = false)) :
    writeTransactionPrefix { pre with isMmTx } = writeTransactionPrefix pre := by
  have hcheck : (!((pre.version == 0 || currentTransactionVersion < pre.version) && !isMmTx)) =
      true := by
    cases isMmTx
    · simp [not_or, not_lt] at hversion ⊢
      omega
    · simp
  have hcheckPre : (!((pre.version == 0 || currentTransactionVersion < pre.version) &&
      !pre.isMmTx)) = true := by
    simpa [writeTransactionPrefix] using hok
  unfold writeTransactionPrefix
  rw [hcheckPre]
  exact congrArg _ (by rw [hcheck])

/-- With no signatures expected, the writer does not look at them. -/
theorem writeSignatures_true_congr (vin : List TxinV) (sigs sigs' : List (List Signature)) :
    writeSignatures true vin sigs = writeSignatures true vin sigs' := by
  induction vin with
  | nil => rfl
  | cons txin vin ih => simp only [writeSignatures, if_true, ih]

/-- Where no signatures were expected, the empty vectors the reader leaves write nothing either. -/
theorem writeSignatures_map_nil {vin : List TxinV} {sigs : List (List Signature)}
    (hok : (writeSignatures true vin sigs).ok = true) (notExpected : Bool) :
    writeSignatures notExpected vin (vin.map fun _ => []) = writeSignatures true vin sigs := by
  induction vin with
  | nil => rfl
  | cons txin vin ih =>
    simp only [writeSignatures, if_true, Written.check_ok, Bool.and_eq_true, beq_iff_eq] at hok
    obtain ⟨hsize, hrest⟩ := hok
    cases notExpected with
    | true => exact writeSignatures_true_congr _ _ _
    | false =>
      simp only [writeSignatures, Bool.false_eq_true, if_false, if_true, List.map_cons,
        List.length_nil, hsize, beq_self_eq_true, Written.check_true, List.flatMap_nil,
        Written.put_andThen, List.nil_append, ih hrest]

/-- A transaction read back into any object writes the bytes it was read from. -/
theorem writeTransaction_readBack (old tx : Transaction) (hok : (writeTransaction tx).ok = true)
    (hpruned : tx.pruned = false)
    (hversion : ¬((tx.version = 0 ∨ currentTransactionVersion < tx.version) ∧
      old.isMmTx = false)) :
    writeTransaction (old.readBack tx) = writeTransaction tx := by
  simp only [writeTransaction, Written.andThen_ok, Bool.and_eq_true] at hok
  obtain ⟨hpreOk, hbodyOk⟩ := hok
  unfold writeTransaction
  rw [Transaction.toTransactionPrefix_readBack, writeTransactionPrefix_isMmTx hpreOk hversion]
  congr 1
  unfold Transaction.readBack
  by_cases hv : tx.version ≤ 1
  · -- version 1: the signatures read back write as the originals
    simp only [if_pos hv, hpruned, Bool.false_eq_true, if_false, Written.check_ok,
      Bool.and_eq_true] at hbodyOk ⊢
    obtain ⟨hcount, hsigsOk⟩ := hbodyOk
    cases hempty : tx.signatures.isEmpty
    · simp only [hempty, Bool.false_eq_true, if_false]
    · -- the empty vectors: one per input, so the count check passes
      simp only [hempty, Bool.true_or, Written.check_true, if_true] at hsigsOk ⊢
      simp only [List.length_map, beq_self_eq_true, Bool.or_true, Written.check_true,
        writeSignatures_map_nil hsigsOk]
  · simp only [if_neg hv]
    by_cases hvin : tx.vin.isEmpty = true
    · simp only [if_pos hvin]
    · -- the RingCT parts read back write as the originals
      simp only [if_neg hvin, writeRctsigBase_readBack, RctSigBase.type_readBack,
        writeRctsigPrunable_readBack, hpruned]

/-! ### `expand_transaction_1` on a transaction read back -/

theorem outputKeys_of_toKey {vout : List TxOut} (h : ∀ o ∈ vout, ∃ key, o.target = .toKey key) :
    ∃ keys, outputKeys vout = some keys ∧ keys.length = vout.length := by
  induction vout with
  | nil => exact ⟨[], rfl, rfl⟩
  | cons o vout ih =>
    obtain ⟨key, hkey⟩ := h o List.mem_cons_self
    obtain ⟨keys, hkeys, hlen⟩ := ih fun o' ho' => h o' (List.mem_cons_of_mem o ho')
    refine ⟨key :: keys, ?_, by simp [hlen]⟩
    simp only [outputKeys] at hkeys ⊢
    simp [List.mapM_cons, hkey, hkeys]

theorem map_mask_zipWith_dest : ∀ (outPk : List CtKey) (keys : List PublicKey),
    outPk.length = keys.length →
      (List.zipWith (fun c key => { c with dest := key }) outPk keys).map CtKey.mask =
        outPk.map CtKey.mask
  | [], [], _ => rfl
  | _ :: outPk, _ :: keys, h => by
    simp [map_mask_zipWith_dest outPk keys (by simpa using h)]

/-- `expand_transaction_1` accepts a non-coinbase RingCT transaction of the right shape, and sets
only the `dest` of its output commitments. -/
theorem expandTransaction1_of_ringctShape {tx : Transaction} (hv : 2 ≤ tx.version)
    (hcoinbase : isCoinbase tx = false) (hlen : tx.rctSignatures.outPk.length = tx.vout.length)
    (hshape : tx.RingctShape) :
    ∃ outPk, expandTransaction1 tx false =
        some { tx with rctSignatures := { tx.rctSignatures with outPk } } ∧
      outPk.map CtKey.mask = tx.rctSignatures.outPk.map CtKey.mask := by
  obtain ⟨-, hto, hnew, hold⟩ := hshape
  obtain ⟨keys, hkeys, hkeysLen⟩ := outputKeys_of_toKey hto
  refine ⟨List.zipWith (fun c key => { c with dest := key }) tx.rctSignatures.outPk keys, ?_,
    map_mask_zipWith_dest _ _ (by omega)⟩
  unfold expandTransaction1
  simp only [hv, hcoinbase, and_self, if_true, hlen, ne_eq, not_true_eq_false, if_false, hkeys,
    Bool.false_eq_true]
  -- the bulletproof checks, by the kind of the type
  by_cases hbp56 : tx.rctSignatures.type = rctTypeBulletproof ∨
      tx.rctSignatures.type = rctTypeBulletproof2
  · obtain ⟨proof, hproofs, hL, hwide⟩ := hnew hbp56
    have hbpType := (isRctBulletproof_eq_true_iff _).2 (.inr hbp56)
    simp [hbpType, hbp56, hproofs, not_lt.2 hL, not_lt.2 hwide]
  · rw [if_neg fun h => hbp56 h.2]
    by_cases hbp34 : tx.rctSignatures.type = rctTypeSimpleBulletproof ∨
        tx.rctSignatures.type = rctTypeFullBulletproof
    · obtain ⟨hamounts, hcheck⟩ := hold hbp34
      have hbpType := (isRctBulletproof_eq_true_iff _).2 (.inl hbp34)
      simp [hbpType, hamounts, hcheck]
    · have hbpType : isRctBulletproof tx.rctSignatures.type = false :=
        Bool.eq_false_iff.2 fun h => ((isRctBulletproof_eq_true_iff _).1 h).elim hbp34 hbp56
      simp [hbpType]

/-- A version-1 transaction or a coinbase is not expanded. -/
theorem expandTransaction1_of_not_ringct {tx : Transaction} {baseOnly : Bool}
    (h : tx.version < 2 ∨ isCoinbase tx = true) : expandTransaction1 tx baseOnly = some tx := by
  unfold expandTransaction1
  rw [if_neg]
  rintro ⟨hv, hcoinbase⟩
  rcases h with h | h
  · omega
  · rw [h] at hcoinbase
    cases hcoinbase

/-- The writer reads only the masks of the output commitments. -/
theorem writeTransaction_outPk {tx : Transaction} {outPk : List CtKey}
    (hmask : outPk.map CtKey.mask = tx.rctSignatures.outPk.map CtKey.mask) :
    writeTransaction { tx with rctSignatures := { tx.rctSignatures with outPk } } =
      writeTransaction tx := by
  have hbase := writeRctsigBase_outPk hmask tx.vin.length tx.vout.length
  unfold writeTransaction
  simp only at hbase ⊢
  rw [hbase]

/-- The RingCT data a transaction of version 2 with inputs is read back into. -/
theorem Transaction.rctSignatures_toRctSigBase_readBack (old tx : Transaction)
    (hv : ¬tx.version ≤ 1) (hvin : ¬tx.vin.isEmpty = true) :
    (old.readBack tx).rctSignatures.toRctSigBase =
      old.rctSignatures.toRctSigBase.readBack tx.rctSignatures.toRctSigBase := by
  unfold Transaction.readBack
  rw [if_neg hv, if_neg hvin]

theorem Transaction.rctSignatures_p_readBack (old tx : Transaction) (hv : ¬tx.version ≤ 1)
    (hvin : ¬tx.vin.isEmpty = true) :
    (old.readBack tx).rctSignatures.p =
      old.rctSignatures.p.readBack tx.rctSignatures.p tx.rctSignatures.type := by
  unfold Transaction.readBack
  rw [if_neg hv, if_neg hvin]

/-- The shape the parse needs survives reading back. -/
theorem Transaction.ringctShape_readBack (old tx : Transaction) (hv : ¬tx.version ≤ 1)
    (hvin : ¬tx.vin.isEmpty = true) (hshape : tx.RingctShape) : (old.readBack tx).RingctShape := by
  obtain ⟨hnull, hto, hnew, hold⟩ := hshape
  unfold Transaction.RingctShape
  rw [Transaction.vout_readBack, Transaction.rctSignatures_toRctSigBase_readBack old tx hv hvin,
    Transaction.rctSignatures_p_readBack old tx hv hvin, RctSigBase.type_readBack]
  -- for the bulletproof types the proofs are the ones written
  refine ⟨hnull, hto, fun h => ?_, fun h => ?_⟩
  · rw [RctSigPrunable.bulletproofs_readBack _ _ ((isRctBulletproof_eq_true_iff _).2 (.inr h))]
    exact hnew h
  · rw [RctSigPrunable.bulletproofs_readBack _ _ ((isRctBulletproof_eq_true_iff _).2 (.inl h))]
    exact hold h

/-- **Transaction blobs round-trip.** Every transaction of version 1 or 2 that the writer
writes whole, with its integers in range, not pruned, with inputs from version 2 and, unless it
is a coinbase, of the RingCT shape the parse needs, is parsed back from its blob into any object
that is not pruned: the result writes the same blob, has the same prefix (with the object's own
`is_mm_tx`, which the blob does not carry), and records the sizes of the prefix and of the
unprunable part. -/
theorem parseAndValidateTxFromBlob_txToBlob (old tx : Transaction)
    (hversion : tx.version = 1 ∨ tx.version = 2) (hok : (writeTransaction tx).ok = true)
    (hfit : tx.WordsFit) (hpruned : tx.pruned = false) (holdPruned : old.pruned = false)
    (hvin : tx.version = 2 → tx.vin ≠ [])
    (hshape : tx.version = 2 → isCoinbase tx = false → tx.RingctShape) :
    ∃ tx', parseAndValidateTxFromBlob (txToBlob tx) old = some tx' ∧
      txToBlob tx' = txToBlob tx ∧
      tx'.toTransactionPrefix = { tx.toTransactionPrefix with isMmTx := old.isMmTx } ∧
      tx'.prefixSize = (writeTransactionPrefix tx.toTransactionPrefix).bytes.length % 2 ^ 32 ∧
      tx'.unprunableSize = ((writeTransactionPrefix tx.toTransactionPrefix).bytes.length +
        if tx.version = 1 then 0
        else (tx.rctSignatures.writeRctsigBase tx.vin.length tx.vout.length).bytes.length) %
          2 ^ 32 := by
  have hcheck : ¬((tx.version = 0 ∨ currentTransactionVersion < tx.version) ∧
      old.isMmTx = false) := by
    unfold currentTransactionVersion
    omega
  rw [parseAndValidateTxFromBlob_txToBlob_eq old tx hok hfit hpruned holdPruned hcheck]
  have hblob := writeTransaction_readBack old tx hok hpruned hcheck
  have hpre := Transaction.toTransactionPrefix_readBack old tx
  -- the sizes the reader records
  have hsizes : (old.readBack tx).prefixSize =
        (writeTransactionPrefix tx.toTransactionPrefix).bytes.length % 2 ^ 32 ∧
      (old.readBack tx).unprunableSize = ((writeTransactionPrefix tx.toTransactionPrefix).bytes.length +
        if tx.version = 1 then 0
        else (tx.rctSignatures.writeRctsigBase tx.vin.length tx.vout.length).bytes.length) %
          2 ^ 32 := by
    unfold Transaction.readBack
    rcases hversion with h | h
    · simp [h]
    · simp [h, hvin h]
  by_cases hrct : tx.version = 2 ∧ isCoinbase tx = false
  · -- a RingCT transaction: `expand_transaction_1` fills in the `dest` of each commitment
    obtain ⟨hv2, hcoinbase⟩ := hrct
    have hv : ¬tx.version ≤ 1 := by omega
    have hvinNe : ¬tx.vin.isEmpty = true := by simpa using hvin hv2
    have hshape' := hshape hv2 hcoinbase
    have hbaseOk : (tx.rctSignatures.writeRctsigBase tx.vin.length tx.vout.length).ok = true := by
      simp only [writeTransaction, if_neg hv, if_neg hvinNe, Written.andThen_ok,
        Bool.and_eq_true] at hok
      exact hok.2.1
    have hlen : (old.readBack tx).rctSignatures.outPk.length = (old.readBack tx).vout.length := by
      rw [Transaction.rctSignatures_toRctSigBase_readBack old tx hv hvinNe,
        Transaction.vout_readBack, RctSigBase.length_outPk_readBack _ _ hshape'.1]
      exact (writeRctsigBase_of_ok hbaseOk hshape'.1).2.2.2.1
    have hcoinbase' : isCoinbase (old.readBack tx) = false := by
      unfold isCoinbase at hcoinbase ⊢
      rw [Transaction.vin_readBack]
      exact hcoinbase
    have hv' : 2 ≤ (old.readBack tx).version := by
      rw [Transaction.version_readBack]
      omega
    obtain ⟨outPk, hexp, hmask⟩ := expandTransaction1_of_ringctShape hv' hcoinbase' hlen
      (Transaction.ringctShape_readBack old tx hv hvinNe hshape')
    refine ⟨_, hexp, ?_, hpre, hsizes.1, hsizes.2⟩
    unfold txToBlob
    rw [writeTransaction_outPk hmask, hblob]
  · -- version 1 or a coinbase: nothing to expand
    have hnot : (old.readBack tx).version < 2 ∨ isCoinbase (old.readBack tx) = true := by
      unfold isCoinbase at hrct ⊢
      rw [Transaction.version_readBack, Transaction.vin_readBack]
      rcases hversion with h | h
      · exact .inl (by omega)
      · right
        simpa [h] using hrct
    rw [expandTransaction1_of_not_ringct hnot]
    exact ⟨_, rfl, by unfold txToBlob; rw [hblob], hpre, hsizes.1, hsizes.2⟩

/-- A bulletproof of 6 rounds, which covers one amount. -/
def oneAmountProof : Bulletproof :=
  { Bulletproof.zero with L := List.replicate 6 (Blob.zero 32), R := List.replicate 6 (Blob.zero 32) }

/-- A transaction of version 2 and type `RCTTypeBulletproof2` with one input of ring size 1 and
two outputs, covered by two bulletproofs of one amount each; every size is the one the writer
checks. -/
def twoProofTx : Transaction :=
  { version := 2, unlockTime := 0, isMmTx := false,
    vin := [.toKey ⟨0, [0], Blob.zero 32⟩],
    vout := [⟨0, .toKey (Blob.zero 32)⟩, ⟨0, .toKey (Blob.zero 32)⟩], extra := [],
    signatures := [],
    rctSignatures :=
      ⟨⟨rctTypeBulletproof2, [], [EcdhTuple.zero, EcdhTuple.zero], [CtKey.zero, CtKey.zero], 0⟩,
        ⟨[], [oneAmountProof, oneAmountProof], [⟨[[Blob.zero 32, Blob.zero 32]], Blob.zero 32⟩],
          [Blob.zero 32]⟩⟩,
    pruned := false, unprunableSize := 0, prefixSize := 0 }

/-- `expand_transaction_1` wants exactly one bulletproof for `RCTTypeBulletproof2`: the blob of
`twoProofTx` is refused whatever object it is parsed into. -/
theorem parseAndValidateTxFromBlob_twoProofTx (old : Transaction) (holdPruned : old.pruned = false) :
    parseAndValidateTxFromBlob (txToBlob twoProofTx) old = none := by
  have hok : (writeTransaction twoProofTx).ok = true := by decide
  have hfit : twoProofTx.WordsFit := by
    simp [twoProofTx, oneAmountProof, Bulletproof.zero, Transaction.WordsFit,
      TransactionPrefix.WordsFit, TxinV.WordsFit, TxOut.WordsFit]
  rw [parseAndValidateTxFromBlob_txToBlob_eq _ _ hok hfit rfl holdPruned
    (by simp [twoProofTx, currentTransactionVersion])]
  -- the proofs read back are the two written, and the expansion wants one
  have hv : ¬twoProofTx.version ≤ 1 := by decide
  have hvin : ¬twoProofTx.vin.isEmpty = true := by decide
  set rb := Transaction.readBack old twoProofTx
  have hproofs : rb.rctSignatures.p.bulletproofs = [oneAmountProof, oneAmountProof] := by
    rw [Transaction.rctSignatures_p_readBack _ _ hv hvin,
      RctSigPrunable.bulletproofs_readBack _ _ (by decide)]
    rfl
  have htype : rb.rctSignatures.type = rctTypeBulletproof2 := by
    rw [Transaction.rctSignatures_toRctSigBase_readBack _ _ hv hvin, RctSigBase.type_readBack]
    rfl
  have houtPk : rb.rctSignatures.outPk.length = rb.vout.length := by
    rw [Transaction.rctSignatures_toRctSigBase_readBack _ _ hv hvin,
      RctSigBase.length_outPk_readBack _ _ (by decide), Transaction.vout_readBack]
    rfl
  have hversion : rb.version = 2 := Transaction.version_readBack _ _
  have hcoinbase : isCoinbase rb = false := by
    unfold isCoinbase
    rw [Transaction.vin_readBack]
    rfl
  have hkeys : outputKeys rb.vout = some [Blob.zero 32, Blob.zero 32] := by
    rw [Transaction.vout_readBack]
    rfl
  unfold expandTransaction1
  simp [hversion, hcoinbase, houtPk, hkeys, htype, hproofs, isRctBulletproof, rctTypeBulletproof2]

/-- **Two bulletproofs for two outputs do not parse.** The writer accepts `twoProofTx`, whose
two bulletproofs are no more than its outputs and cover exactly its two amounts, and a cleared
object refuses its blob. -/
theorem parse_tx_two_bulletproofs_fails :
    (writeTransaction twoProofTx).ok = true ∧
      twoProofTx.rctSignatures.p.bulletproofs.length ≤ twoProofTx.vout.length ∧
      nBulletproofMaxAmounts twoProofTx.rctSignatures.p.bulletproofs = twoProofTx.vout.length ∧
      parseAndValidateTxFromBlob (txToBlob twoProofTx) twoProofTx.setNull = none :=
  ⟨by decide, by decide, by decide, parseAndValidateTxFromBlob_twoProofTx _ rfl⟩

end RoundTrip

/-! ## What the parse depends on besides the blob -/

/-- With `is_mm_tx` clear, the prefix reader accepts only versions 1 to
`CURRENT_TRANSACTION_VERSION`. -/
theorem readTransactionPrefix_version_le {old pre : TransactionPrefix} {s s' : Istream}
    (hmm : old.isMmTx = false) (h : readTransactionPrefix old s = some (pre, s')) :
    1 ≤ pre.version ∧ pre.version ≤ currentTransactionVersion := by
  unfold readTransactionPrefix at h
  rcases hv : serializeVarint 64 s with ⟨version, s₁⟩
  rw [hv] at h
  dsimp only at h
  by_cases hversion : (version = 0 ∨ currentTransactionVersion < version) ∧ old.isMmTx = false
  · -- the version check refuses
    split_ifs at h
  · -- every successful run ends with the version read here
    have hpre : pre.version = version := by
      split_ifs at h
      rcases hu : serializeVarint 64 s₁ with ⟨unlockTime, s₂⟩
      rw [hu] at h
      dsimp only at h
      obtain ⟨⟨vin, s₃⟩, -, h⟩ := Option.bind_eq_some_iff.mp h
      obtain ⟨⟨vout, s₄⟩, -, h⟩ := Option.bind_eq_some_iff.mp h
      obtain ⟨⟨extra, s₅⟩, -, h⟩ := Option.bind_eq_some_iff.mp h
      dsimp only at h
      split_ifs at h
      simp only [Option.some.injEq, Prod.mk.injEq] at h
      rw [← h.1]
    simp only [hmm, and_true, not_or, not_lt] at hversion
    rw [hpre]
    exact ⟨Nat.one_le_iff_ne_zero.mpr hversion.1, hversion.2⟩

/-- The part after the prefix leaves the prefix alone. -/
theorem readTransactionBody_toTransactionPrefix {tx tx' : Transaction} {s₀ s s' : Istream}
    (h : readTransactionBody tx s₀ s = some (tx', s')) :
    tx'.toTransactionPrefix = tx.toTransactionPrefix := by
  unfold readTransactionBody at h
  by_cases hv : tx.version ≤ 1
  · -- version 1: the signatures
    rw [if_pos hv] at h
    obtain ⟨⟨sigs, s₁⟩, -, h⟩ := Option.bind_eq_some_iff.mp h
    dsimp only at h
    split_ifs at h
    rw [Option.some.injEq, Prod.mk.injEq] at h
    rw [← h.1]
  · rw [if_neg hv] at h
    by_cases hvin : tx.vin.isEmpty = true
    · rw [if_pos hvin] at h
      split_ifs at h
      rw [Option.some.injEq, Prod.mk.injEq] at h
      rw [← h.1]
    · -- the RingCT parts
      rw [if_neg hvin] at h
      obtain ⟨⟨base, s₁⟩, -, h⟩ := Option.bind_eq_some_iff.mp h
      dsimp only at h
      by_cases hgood : s₁.good = true
      · rw [if_neg (by simp [hgood])] at h
        obtain ⟨⟨p, s₂⟩, -, h⟩ := Option.bind_eq_some_iff.mp h
        dsimp only at h
        split_ifs at h
        rw [Option.some.injEq, Prod.mk.injEq] at h
        rw [← h.1]
      · rw [if_pos (by simp [hgood])] at h
        cases h

/-- The transaction reader takes its prefix from the prefix reader. -/
theorem readTransaction_toTransactionPrefix {tx tx' : Transaction} {s s' : Istream}
    (h : readTransaction tx s = some (tx', s')) :
    ∃ s₁, readTransactionPrefix tx.toTransactionPrefix s = some (tx'.toTransactionPrefix, s₁) := by
  unfold readTransaction at h
  obtain ⟨⟨pre, s₁⟩, hpre, h⟩ := Option.bind_eq_some_iff.mp h
  dsimp only at h
  refine ⟨s₁, ?_⟩
  rw [(field_eq_some hpre).1, readTransactionBody_toTransactionPrefix h]

/-- `expand_transaction_1` changes only the RingCT data. -/
theorem expandTransaction1_toTransactionPrefix {tx tx' : Transaction} {baseOnly : Bool}
    (h : expandTransaction1 tx baseOnly = some tx') :
    tx'.toTransactionPrefix = tx.toTransactionPrefix := by
  unfold expandTransaction1 at h
  dsimp only at h
  -- every accepting branch returns `tx`, or `tx` with new output commitments
  repeat' split at h
  all_goals (cases h; try rfl)

/-- With `is_mm_tx` clear in the caller's object, a parsed transaction has version 1 or 2. -/
theorem parseAndValidateTxFromBlob_version_le {blob : List UInt8} {tx tx' : Transaction}
    (hmm : tx.isMmTx = false) (h : parseAndValidateTxFromBlob blob tx = some tx') :
    1 ≤ tx'.version ∧ tx'.version ≤ currentTransactionVersion := by
  unfold parseAndValidateTxFromBlob at h
  obtain ⟨⟨tx₁, s⟩, hser, hexp⟩ := Option.bind_eq_some_iff.mp h
  simp only [serialize, Option.bind_eq_bind] at hser
  obtain ⟨⟨tx₂, s₂⟩, hread, hser⟩ := Option.bind_eq_some_iff.mp hser
  split_ifs at hser
  simp only [Option.some.injEq, Prod.mk.injEq] at hser
  obtain ⟨rfl, -⟩ := hser
  obtain ⟨s₁, hpre⟩ := readTransaction_toTransactionPrefix hread
  have hversion := readTransactionPrefix_version_le hmm hpre
  rw [expandTransaction1_toTransactionPrefix hexp]
  exact hversion

/-- **The parse depends on `is_mm_tx`.** For every object cleared by `set_null`, the blob
`[0, 0, 0, 0, 0]` (version 0, unlock time 0, no inputs, no outputs, no extra) is rejected when
the object's `is_mm_tx` is clear, and accepted as a transaction of version 0 when it is set. -/
theorem parse_tx_of_set_null_depends_on_is_mm_tx (tx : Transaction) :
    parseAndValidateTxFromBlob [0, 0, 0, 0, 0] { tx.setNull with isMmTx := false } = none ∧
      ∃ tx', parseAndValidateTxFromBlob [0, 0, 0, 0, 0] { tx.setNull with isMmTx := true } =
        some tx' ∧ tx'.version = 0 := by
  have hzero : writeVarint 0 = [0] := by rw [writeVarint_of_lt (by norm_num)]; rfl
  have h0 : ∀ r : List UInt8, serializeVarint 64 (Istream.ofBytes (0 :: r)) =
      (0, Istream.ofBytes r) := by
    intro r
    simpa [hzero] using @serializeVarint_ofBytes 64 0 (by norm_num) r
  constructor
  · -- the version check fails at once
    simp [parseAndValidateTxFromBlob, serialize, readTransaction, field, readTransactionPrefix, h0]
  · -- an empty prefix, no signatures to read, and nothing for `expand_transaction_1` to check
    simp [parseAndValidateTxFromBlob, serialize, readTransaction, readTransactionBody, field,
      readTransactionPrefix, h0, readContainer, remainingBytes, readElems, Transaction.setNull,
      readSignatures, checkStreamState, expandTransaction1, Istream.peekEof]

end Bittube.CryptonoteBasic

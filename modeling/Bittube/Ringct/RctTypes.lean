import Bittube.Serialization.BinaryArchive

/-!
# RingCT signatures and their binary layout (`ringct/rctTypes.h`)

The parts of `rct::rctSig` that the binary archive carries, and the two methods that write and
read them: `serialize_rctsig_base` (the type, the fee, the encrypted amounts and the output
commitments) and `serialize_rctsig_prunable` (range proofs, MLSAG signatures and, for the
bulletproof types, the pseudo-outputs). Neither stores its counts: the transaction passes the
numbers of inputs and outputs and the ring size, and the layout follows the type.

Reading works in place, as in the source: each vector is resized to the count it must have and
its elements are overwritten, so whatever the blob does not carry keeps the object's old value.
That is the mask of each `ecdhTuple` of an `RCTTypeBulletproof2` signature (only the first 8
bytes of the amount are stored), the `dest` of each output commitment, the parts of the
prunable data another type uses, and everything but the type after an `RCTTypeNull` type byte.
The fields never serialized at all (`message`, `mixRing`, a bulletproof's `V`, an MLSAG's
`II`) are left out of the model. Each reader reads back what its writer wrote, whenever the
writer succeeded, and a successful write tells what it checked and which bytes it wrote.
-/

namespace Bittube.Ringct

open ByteStream Bittube.Crypto Bittube.Serialization Bittube.Common.Varint

/-- `rct::key`. -/
abbrev Key := Blob 32

/-- `rct::key64`: 64 keys, copied as one blob. -/
abbrev Key64 := Blob 2048

/-- `rct::boroSig` (`s0` and `s1` of 64 keys each, then `ee`), copied as one blob. -/
abbrev BoroSig := Blob 4128

/-- `rct::ctkey`. -/
structure CtKey where
  dest : Key
  mask : Key
  deriving DecidableEq, Repr

/-- `rct::ecdhTuple`. -/
structure EcdhTuple where
  mask : Key
  amount : Key
  deriving DecidableEq, Repr

/-- `rct::mgSig` without `II`, which is not serialized. -/
structure MgSig where
  ss : List (List Key)
  cc : Key
  deriving DecidableEq, Repr

/-- `rct::rangeSig`. -/
structure RangeSig where
  asig : BoroSig
  Ci : Key64
  deriving DecidableEq, Repr

/-- `rct::Bulletproof` without `V`, which is restored from the output commitments. -/
structure Bulletproof where
  A : Key
  S : Key
  T1 : Key
  T2 : Key
  taux : Key
  mu : Key
  L : List Key
  R : List Key
  a : Key
  b : Key
  t : Key
  deriving DecidableEq, Repr

/-- `rct::rctSigBase` without `message` and `mixRing`. -/
structure RctSigBase where
  type : UInt8
  pseudoOuts : List Key
  ecdhInfo : List EcdhTuple
  outPk : List CtKey
  txnFee : ℕ
  deriving DecidableEq, Repr

/-- `rct::rctSigPrunable`. -/
structure RctSigPrunable where
  rangeSigs : List RangeSig
  bulletproofs : List Bulletproof
  MGs : List MgSig
  pseudoOuts : List Key
  deriving DecidableEq, Repr

/-- `rct::rctSig`. -/
structure RctSig extends RctSigBase where
  p : RctSigPrunable
  deriving DecidableEq, Repr

def rctTypeNull : UInt8 := 0
def rctTypeFull : UInt8 := 1
def rctTypeSimple : UInt8 := 2
def rctTypeFullBulletproof : UInt8 := 3
def rctTypeSimpleBulletproof : UInt8 := 4
def rctTypeBulletproof : UInt8 := 5
def rctTypeBulletproof2 : UInt8 := 6

/-- The types both serializers accept besides `RCTTypeNull`. -/
def isKnownRctType (type : UInt8) : Bool :=
  type == rctTypeFull || type == rctTypeFullBulletproof || type == rctTypeSimple ||
    type == rctTypeSimpleBulletproof || type == rctTypeBulletproof || type == rctTypeBulletproof2

/-- `is_rct_simple(type)`: one MLSAG per input; the prunable serializer spells the same set
out. -/
def isRctSimple (type : UInt8) : Bool :=
  type == rctTypeSimple || type == rctTypeSimpleBulletproof || type == rctTypeBulletproof ||
    type == rctTypeBulletproof2

/-- `is_rct_bulletproof(type)`. -/
def isRctBulletproof (type : UInt8) : Bool :=
  type == rctTypeSimpleBulletproof || type == rctTypeFullBulletproof ||
    type == rctTypeBulletproof || type == rctTypeBulletproof2

/-- The bulletproof types are the old pair, with one proof per output, and the new pair, with a
counted list. -/
theorem isRctBulletproof_eq_true_iff (type : UInt8) :
    isRctBulletproof type = true ↔ (type = rctTypeSimpleBulletproof ∨ type = rctTypeFullBulletproof) ∨
      (type = rctTypeBulletproof ∨ type = rctTypeBulletproof2) := by
  simp [isRctBulletproof, or_assoc]

/-- `n_bulletproof_max_amounts(proof)`: `2 ^ (L.size() - 6)`, and `0` when a check fails. -/
def Bulletproof.nBulletproofMaxAmounts (proof : Bulletproof) : ℕ :=
  if proof.L.length < 6 then 0
  else if proof.L.length ≠ proof.R.length then 0
  else if proof.L.length > 6 + 4 then 0
  else 2 ^ (proof.L.length - 6)

/-- `n_bulletproof_v1_amounts(proof)`: `1 << (L.size() - 6)`, and `0` when a check fails. -/
def Bulletproof.nBulletproofV1Amounts (proof : Bulletproof) : ℕ :=
  if proof.L.length < 6 then 0
  else if proof.L.length > 31 then 0
  else 2 ^ (proof.L.length - 6)

/-- The loop shared by the `std::vector<Bulletproof>` overloads of `n_bulletproof_*_amounts`:
the sum of `count` over the proofs from `n`, or `0` as soon as a proof counts `0` or the sum
would reach `UINT32_MAX`. The sum stays below `UINT32_MAX`, so the `size_t` difference
`UINT32_MAX - n` does not wrap. -/
def nBulletproofAmountsLoop (count : Bulletproof → ℕ) : ℕ → List Bulletproof → ℕ
  | n, [] => n
  | n, proof :: proofs =>
    if count proof < 2 ^ 32 - 1 - n then
      if count proof = 0 then 0
      else nBulletproofAmountsLoop count (n + count proof) proofs
    else 0

/-- `n_bulletproof_max_amounts(proofs)`. -/
def nBulletproofMaxAmounts (proofs : List Bulletproof) : ℕ :=
  nBulletproofAmountsLoop Bulletproof.nBulletproofMaxAmounts 0 proofs

/-- `n_bulletproof_v1_amounts(proofs)`. -/
def nBulletproofV1Amounts (proofs : List Bulletproof) : ℕ :=
  nBulletproofAmountsLoop Bulletproof.nBulletproofV1Amounts 0 proofs

/-! ## Reading -/

/-- `ecdhTuple::do_serialize`: `FIELD(mask)`, `FIELD(amount)`. -/
def readEcdhTuple (s : Istream) : Option (EcdhTuple × Istream) := do
  let (mask, s) ← field (readBlob 32) s
  let (amount, s) ← field (readBlob 32) s
  if s.good then some (⟨mask, amount⟩, s) else none

/-- One round of the `ecdhInfo` loop of `serialize_rctsig_base`, in place: for
`RCTTypeBulletproof2` the amount is zeroed and its first 8 bytes read as a `crypto::hash8`, and
the mask is kept; otherwise the whole tuple is read. -/
def readEcdhInfoElem (type : UInt8) (old : EcdhTuple) (s : Istream) :
    Option (EcdhTuple × Istream) :=
  if type = rctTypeBulletproof2 then do
    let (amount, s) ← field (readBlob 8) s
    some ({ old with amount := Blob.ofList 32 amount.data }, s)
  else field readEcdhTuple s

/-- One round of the `outPk` loop: `FIELDS(outPk[i].mask)`; `dest` is kept. -/
def readOutPkMask (old : CtKey) (s : Istream) : Option (CtKey × Istream) := do
  let (mask, s) ← field (readBlob 32) s
  some ({ old with mask := mask }, s)

/-- `rangeSig::do_serialize`. -/
def readRangeSig (s : Istream) : Option (RangeSig × Istream) := do
  let (asig, s) ← field (readBlob 4128) s
  let (Ci, s) ← field (readBlob 2048) s
  if s.good then some (⟨asig, Ci⟩, s) else none

/-- `Bulletproof::do_serialize` on a reading archive: the eleven fields, then the check that
`L` is not empty and as long as `R`. -/
def readBulletproof (s : Istream) : Option (Bulletproof × Istream) := do
  let (A, s) ← field (readBlob 32) s
  let (S, s) ← field (readBlob 32) s
  let (T1, s) ← field (readBlob 32) s
  let (T2, s) ← field (readBlob 32) s
  let (taux, s) ← field (readBlob 32) s
  let (mu, s) ← field (readBlob 32) s
  let (L, s) ← field (readContainer (readBlob 32)) s
  let (R, s) ← field (readContainer (readBlob 32)) s
  let (a, s) ← field (readBlob 32) s
  let (b, s) ← field (readBlob 32) s
  let (t, s) ← field (readBlob 32) s
  if L.isEmpty || L.length != R.length then none
  else if s.good then some (⟨A, S, T1, T2, taux, mu, L, R, a, b, t⟩, s) else none

/-- The value-initialised `ecdhTuple`, `ctkey`, `Bulletproof`, `rangeSig` and `mgSig` that
`resize` appends. -/
def EcdhTuple.zero : EcdhTuple := ⟨Blob.zero 32, Blob.zero 32⟩
def CtKey.zero : CtKey := ⟨Blob.zero 32, Blob.zero 32⟩
def Bulletproof.zero : Bulletproof :=
  ⟨Blob.zero 32, Blob.zero 32, Blob.zero 32, Blob.zero 32, Blob.zero 32, Blob.zero 32, [], [],
    Blob.zero 32, Blob.zero 32, Blob.zero 32⟩
def RangeSig.zero : RangeSig := ⟨Blob.zero 4128, Blob.zero 2048⟩
def MgSig.zero : MgSig := ⟨[], Blob.zero 32⟩

/-- `rctSigBase::serialize_rctsig_base(ar, inputs, outputs)` on a reading archive. -/
def RctSigBase.serializeRctsigBase (rv : RctSigBase) (inputs outputs : ℕ) (s : Istream) :
    Option (RctSigBase × Istream) := do
  let (type, s) ← field readUint8 s
  let rv := { rv with type := type.toUInt8 }
  if rv.type = rctTypeNull then
    if s.good then some (rv, s) else none
  else if !isKnownRctType rv.type then none
  else
    let (txnFee, s) := serializeVarint 64 s
    if !s.good then none
    else do
      -- the pseudo-outputs are here for `RCTTypeSimple` only; the bulletproof types keep them
      -- in the prunable part
      let (pseudoOuts, s) ← if rv.type = rctTypeSimple then
          readEach (fun _ => field (readBlob 32)) (vectorResize rv.pseudoOuts inputs (Blob.zero 32)) s
        else some (rv.pseudoOuts, s)
      let (ecdhInfo, s) ←
        readEach (readEcdhInfoElem rv.type) (vectorResize rv.ecdhInfo outputs EcdhTuple.zero) s
      let (outPk, s) ← readEach readOutPkMask (vectorResize rv.outPk outputs CtKey.zero) s
      if s.good then
        some ({ rv with txnFee, pseudoOuts, ecdhInfo, outPk }, s)
      else none

/-- The number of MLSAG signatures: one per input for the simple types, one in all. -/
def mgElements (type : UInt8) (inputs : ℕ) : ℕ := if isRctSimple type then inputs else 1

/-- The number of keys in each row of an MLSAG's `ss`. -/
def mgSs2Elements (type : UInt8) (inputs : ℕ) : ℕ := (if isRctSimple type then 1 else inputs) + 1

/-- One MLSAG of the `MGs` loop, in place: `ss` as `rows` rows of `cols` keys, then `cc`. -/
def readMgSig (rows cols : ℕ) (old : MgSig) (s : Istream) : Option (MgSig × Istream) := do
  let (ss, s) ← readEach
    (fun row => readEach (fun _ => field (readBlob 32)) (vectorResize row cols (Blob.zero 32)))
    (vectorResize old.ss rows []) s
  let (cc, s) ← field (readBlob 32) s
  some (⟨ss, cc⟩, s)

/-- The range-proof part of `serialize_rctsig_prunable`: one bulletproof per output for the
old bulletproof types, a counted list of them for `RCTTypeBulletproof` and
`RCTTypeBulletproof2`, one Borromean signature per output otherwise. -/
def RctSigPrunable.readRangeProofs (p : RctSigPrunable) (type : UInt8) (outputs : ℕ)
    (s : Istream) : Option (RctSigPrunable × Istream) :=
  if type = rctTypeSimpleBulletproof ∨ type = rctTypeFullBulletproof then do
    let (bulletproofs, s) ← readEach (fun _ => field readBulletproof)
      (vectorResize p.bulletproofs outputs Bulletproof.zero) s
    some ({ p with bulletproofs := bulletproofs }, s)
  else if type = rctTypeBulletproof ∨ type = rctTypeBulletproof2 then
    -- `nbp` is a `uint32_t`: a varint for `RCTTypeBulletproof2`, four bytes before it
    let (nbp, s) := if type = rctTypeBulletproof2 then serializeVarint 32 s else serializeUint 4 s
    if !s.good then none
    else if nbp > outputs then none
    else do
      let (bulletproofs, s) ← readEach (fun _ => field readBulletproof)
        (vectorResize p.bulletproofs nbp Bulletproof.zero) s
      if nBulletproofMaxAmounts bulletproofs < outputs then none
      else some ({ p with bulletproofs := bulletproofs }, s)
  else do
    let (rangeSigs, s) ← readEach (fun _ => field readRangeSig)
      (vectorResize p.rangeSigs outputs RangeSig.zero) s
    some ({ p with rangeSigs := rangeSigs }, s)

/-- Whether the pseudo-outputs are in the prunable part. -/
def prunablePseudoOuts (type : UInt8) : Bool :=
  type == rctTypeBulletproof || type == rctTypeSimpleBulletproof || type == rctTypeBulletproof2

/-- `rctSigPrunable::serialize_rctsig_prunable(ar, type, inputs, outputs, mixin)` on a reading
archive. Each MLSAG has `mixin + 1` rows, in `size_t`. -/
def RctSigPrunable.serializeRctsigPrunable (p : RctSigPrunable) (type : UInt8)
    (inputs outputs mixin : ℕ) (s : Istream) : Option (RctSigPrunable × Istream) :=
  if type = rctTypeNull then
    if s.good then some (p, s) else none
  else if !isKnownRctType type then none
  else do
    let (p, s) ← p.readRangeProofs type outputs s
    let (MGs, s) ← readEach (readMgSig ((mixin + 1) % 2 ^ 64) (mgSs2Elements type inputs))
      (vectorResize p.MGs (mgElements type inputs) MgSig.zero) s
    let (pseudoOuts, s) ← if prunablePseudoOuts type then
        readEach (fun _ => field (readBlob 32)) (vectorResize p.pseudoOuts inputs (Blob.zero 32)) s
      else some (p.pseudoOuts, s)
    if s.good then some ({ p with MGs := MGs, pseudoOuts := pseudoOuts }, s) else none

/-! ## Writing -/

/-- One round of the `ecdhInfo` loop on a writing archive: the first 8 bytes of the amount for
`RCTTypeBulletproof2`, the whole tuple otherwise. -/
def writeEcdhInfoElem (type : UInt8) (e : EcdhTuple) : List UInt8 :=
  if type = rctTypeBulletproof2 then e.amount.data.take 8 else e.mask.data ++ e.amount.data

/-- `Bulletproof::do_serialize` on a writing archive: the fields are written before the check. -/
def writeBulletproof (p : Bulletproof) : Written :=
  ⟨p.A.data ++ p.S.data ++ p.T1.data ++ p.T2.data ++ p.taux.data ++ p.mu.data ++
      writeContainer Blob.data p.L ++ writeContainer Blob.data p.R ++ p.a.data ++ p.b.data ++
      p.t.data,
    !p.L.isEmpty && p.L.length == p.R.length⟩

/-- `serialize_rctsig_base` on a writing archive. -/
def RctSigBase.writeRctsigBase (rv : RctSigBase) (inputs outputs : ℕ) : Written :=
  (Written.put (writeUint 1 rv.type.toNat)).andThen <|
    if rv.type = rctTypeNull then Written.put []
    else Written.check (isKnownRctType rv.type) <|
      (Written.put (writeVarint rv.txnFee)).andThen <|
      (if rv.type = rctTypeSimple then
        Written.check (rv.pseudoOuts.length == inputs) (Written.put (rv.pseudoOuts.flatMap Blob.data))
      else Written.put []).andThen <|
      Written.check (rv.ecdhInfo.length == outputs) <|
      (Written.put (rv.ecdhInfo.flatMap (writeEcdhInfoElem rv.type))).andThen <|
      Written.check (rv.outPk.length == outputs) (Written.put (rv.outPk.flatMap fun c => c.mask.data))

/-- One MLSAG on a writing archive: the row count and each row's length are checked. -/
def writeMgSig (rows cols : ℕ) (mg : MgSig) : Written :=
  Written.check (mg.ss.length == rows) <|
    (Written.each (fun row => Written.check (row.length == cols) (Written.put (row.flatMap Blob.data)))
      mg.ss).andThen (Written.put mg.cc.data)

/-- The range-proof part of `serialize_rctsig_prunable` on a writing archive. `nbp` is
`bulletproofs.size()` as a `uint32_t`. -/
def RctSigPrunable.writeRangeProofs (p : RctSigPrunable) (type : UInt8) (outputs : ℕ) : Written :=
  if type = rctTypeSimpleBulletproof ∨ type = rctTypeFullBulletproof then
    Written.check (p.bulletproofs.length == outputs) (Written.each writeBulletproof p.bulletproofs)
  else if type = rctTypeBulletproof ∨ type = rctTypeBulletproof2 then
    let nbp := p.bulletproofs.length % 2 ^ 32
    (Written.put (if type = rctTypeBulletproof2 then writeVarint nbp else writeUint 4 nbp)).andThen <|
      Written.check (nbp ≤ outputs) <|
      (Written.each writeBulletproof (p.bulletproofs.take nbp)).andThen <|
      Written.check (outputs ≤ nBulletproofMaxAmounts p.bulletproofs) (Written.put [])
  else
    Written.check (p.rangeSigs.length == outputs)
      (Written.put (p.rangeSigs.flatMap fun r => r.asig.data ++ r.Ci.data))

/-- `serialize_rctsig_prunable` on a writing archive. -/
def RctSigPrunable.writeRctsigPrunable (p : RctSigPrunable) (type : UInt8)
    (inputs outputs mixin : ℕ) : Written :=
  if type = rctTypeNull then Written.put []
  else Written.check (isKnownRctType type) <|
    (p.writeRangeProofs type outputs).andThen <|
    Written.check (p.MGs.length == mgElements type inputs) <|
    (Written.each (writeMgSig ((mixin + 1) % 2 ^ 64) (mgSs2Elements type inputs)) p.MGs).andThen <|
    if prunablePseudoOuts type then
      Written.check (p.pseudoOuts.length == inputs) (Written.put (p.pseudoOuts.flatMap Blob.data))
    else Written.put []


/-! ## Reading back what was written -/

/-- What reading back a written `ecdhTuple` leaves in `old`. -/
def EcdhTuple.readBack (type : UInt8) (old e : EcdhTuple) : EcdhTuple :=
  if type = rctTypeBulletproof2 then { old with amount := Blob.ofList 32 (e.amount.data.take 8) }
  else e

/-- What reading back a written base leaves in `old`: the written fields, and `old`'s values
where the blob carries nothing. -/
def RctSigBase.readBack (old rv : RctSigBase) : RctSigBase :=
  if rv.type = rctTypeNull then { old with type := rctTypeNull }
  else
    { type := rv.type
      txnFee := rv.txnFee
      pseudoOuts := if rv.type = rctTypeSimple then rv.pseudoOuts else old.pseudoOuts
      ecdhInfo := List.zipWith (EcdhTuple.readBack rv.type)
        (vectorResize old.ecdhInfo rv.ecdhInfo.length EcdhTuple.zero) rv.ecdhInfo
      outPk := List.zipWith (fun o c => { o with mask := c.mask })
        (vectorResize old.outPk rv.outPk.length CtKey.zero) rv.outPk }

section RoundTrip

open Written

theorem toNat_lt_256_pow_one (x : UInt8) : x.toNat < 256 ^ 1 := by
  simpa using x.toNat_lt_size

@[simp] theorem readUint8_ofBytes (x : UInt8) (rest : List UInt8) :
    readUint8 (Istream.ofBytes (writeUint 1 x.toNat ++ rest)) = some (x.toNat, Istream.ofBytes rest) := by
  simp [readUint8, serializeUint_ofBytes (toNat_lt_256_pow_one x)]

theorem readBulletproof_write {p : Bulletproof} (hok : (writeBulletproof p).ok = true)
    (hL : p.L.length < 2 ^ 64) (hR : p.R.length < 2 ^ 64) (rest : List UInt8) :
    readBulletproof (Istream.ofBytes ((writeBulletproof p).bytes ++ rest)) =
      some (p, Istream.ofBytes rest) := by
  -- the check after the fields passes: that is what made the writer succeed
  have hLR : (p.L.isEmpty || p.L.length != p.R.length) = false := by
    simp only [writeBulletproof, Bool.and_eq_true, Bool.not_eq_true'] at hok
    simp only [Bool.or_eq_false_iff, hok.1, bne_eq_false_iff_eq, true_and]
    simpa using hok.2
  simp only [writeBulletproof, List.append_assoc]
  unfold readBulletproof
  simp only [field_readBlob_ofBytes, some_bind, Istream.good_ofBytes, hLR,
    field_readContainer_readBlob_ofBytes (by norm_num : 0 < 32) p.L hL,
    field_readContainer_readBlob_ofBytes (by norm_num : 0 < 32) p.R hR]
  rfl

/-- What reading back written prunable data leaves in `old`: the range proofs of the type's
kind, the MLSAGs, and the pseudo-outputs where this part carries them. -/
def RctSigPrunable.readBack (old p : RctSigPrunable) (type : UInt8) : RctSigPrunable :=
  if type = rctTypeNull then old
  else
    { rangeSigs := if isRctBulletproof type then old.rangeSigs else p.rangeSigs
      bulletproofs := if isRctBulletproof type then p.bulletproofs else old.bulletproofs
      MGs := p.MGs
      pseudoOuts := if prunablePseudoOuts type then p.pseudoOuts else old.pseudoOuts }

theorem readEcdhInfoElem_write (type : UInt8) (old e : EcdhTuple) (rest : List UInt8) :
    readEcdhInfoElem type old (Istream.ofBytes (writeEcdhInfoElem type e ++ rest)) =
      some (EcdhTuple.readBack type old e, Istream.ofBytes rest) := by
  by_cases htype : type = rctTypeBulletproof2
  · -- eight bytes of the amount, as a `crypto::hash8`
    have h8 : (Blob.ofList 8 (e.amount.data.take 8)).data = e.amount.data.take 8 :=
      Blob.ofList_data_of_length (by simp [e.amount.size_eq])
    simp only [readEcdhInfoElem, writeEcdhInfoElem, EcdhTuple.readBack, if_pos htype]
    rw [← h8, field_readBlob_ofBytes, some_bind, h8]
  · have hread : readEcdhTuple (Istream.ofBytes (e.mask.data ++ (e.amount.data ++ rest))) =
        some (e, Istream.ofBytes rest) := by
      simp only [readEcdhTuple, field_readBlob_ofBytes, some_bind, Istream.good_ofBytes, if_true]
    simp only [readEcdhInfoElem, writeEcdhInfoElem, EcdhTuple.readBack, if_neg htype,
      List.append_assoc, field_of_ofBytes hread]

/-- When the base writer succeeds: the checks it makes, and the bytes it writes. -/
theorem writeRctsigBase_of_ok {rv : RctSigBase} {inputs outputs : ℕ}
    (hok : (rv.writeRctsigBase inputs outputs).ok = true) (hnull : rv.type ≠ rctTypeNull) :
    isKnownRctType rv.type = true ∧ (rv.type = rctTypeSimple → rv.pseudoOuts.length = inputs) ∧
      rv.ecdhInfo.length = outputs ∧ rv.outPk.length = outputs ∧
      (rv.writeRctsigBase inputs outputs).bytes = writeUint 1 rv.type.toNat ++
        (writeVarint rv.txnFee ++
          ((if rv.type = rctTypeSimple then rv.pseudoOuts.flatMap Blob.data else []) ++
            (rv.ecdhInfo.flatMap (writeEcdhInfoElem rv.type) ++
              rv.outPk.flatMap fun c => c.mask.data))) := by
  unfold RctSigBase.writeRctsigBase at hok ⊢
  simp only [if_neg hnull, Written.andThen_ok, Written.put_ok, Written.check_ok, Bool.true_and] at hok
  simp only [if_neg hnull]
  by_cases hsimple : rv.type = rctTypeSimple
  · simp only [if_pos hsimple, Bool.and_eq_true, Written.check_ok, Written.put_ok, Bool.and_true,
      beq_iff_eq] at hok
    obtain ⟨hknown, hpseudo, hecdh, hout⟩ := hok
    refine ⟨hknown, fun _ => hpseudo, hecdh, hout, ?_⟩
    simp [if_pos hsimple, hknown, hpseudo, hecdh, hout]
  · simp only [if_neg hsimple, Bool.and_eq_true, Written.put_ok, Bool.and_true, beq_iff_eq,
      Bool.true_and] at hok
    obtain ⟨hknown, hecdh, hout⟩ := hok
    refine ⟨hknown, fun h => absurd h hsimple, hecdh, hout, ?_⟩
    simp [if_neg hsimple, hknown, hecdh, hout]

theorem readOutPkMask_write (old c : CtKey) (rest : List UInt8) :
    readOutPkMask old (Istream.ofBytes (c.mask.data ++ rest)) =
      some ({ old with mask := c.mask }, Istream.ofBytes rest) := by
  simp only [readOutPkMask, field_readBlob_ofBytes, some_bind]

/-- `serialize_rctsig_base` reads back what it wrote, into any old value. -/
theorem serializeRctsigBase_write (old rv : RctSigBase) {inputs outputs : ℕ}
    (hok : (rv.writeRctsigBase inputs outputs).ok = true) (hfee : rv.txnFee < 2 ^ 64)
    (rest : List UInt8) :
    old.serializeRctsigBase inputs outputs
        (Istream.ofBytes ((rv.writeRctsigBase inputs outputs).bytes ++ rest)) =
      some (old.readBack rv, Istream.ofBytes rest) := by
  by_cases hnull : rv.type = rctTypeNull
  · -- the type byte and nothing else
    have hbytes : (rv.writeRctsigBase inputs outputs).bytes = writeUint 1 rv.type.toNat := by
      simp [RctSigBase.writeRctsigBase, hnull]
    rw [hbytes]
    simp only [RctSigBase.serializeRctsigBase, field_of_ofBytes (readUint8_ofBytes rv.type rest),
      some_bind, UInt8.ofNat_toNat]
    simp [hnull, RctSigBase.readBack]
  · obtain ⟨hknown, hpseudo, hecdh, hout, hbytes⟩ := writeRctsigBase_of_ok hok hnull
    rw [hbytes]
    simp only [RctSigBase.serializeRctsigBase, List.append_assoc,
      field_of_ofBytes (readUint8_ofBytes rv.type _), some_bind, UInt8.ofNat_toNat, if_neg hnull,
      hknown, serializeVarint_ofBytes hfee, Istream.good_ofBytes, Bool.not_true]
    have hecdhRead := readEach_ofBytes_total (readEcdhInfoElem_write rv.type)
      (vectorResize old.ecdhInfo outputs EcdhTuple.zero) rv.ecdhInfo (by simp [hecdh])
    have houtRead := readEach_ofBytes_total readOutPkMask_write
      (vectorResize old.outPk outputs CtKey.zero) rv.outPk (by simp [hout])
    by_cases hsimple : rv.type = rctTypeSimple
    · -- the pseudo-outputs come first
      have hpseudoRead := readEach_blobs_ofBytes (vectorResize old.pseudoOuts inputs (Blob.zero 32))
        rv.pseudoOuts (by simp [hpseudo hsimple])
      simp only [if_pos hsimple, hpseudoRead, hecdhRead, houtRead, some_bind, Istream.good_ofBytes,
        if_true, Bool.false_eq_true, if_false, RctSigBase.readBack, if_neg hnull, hecdh, hout]
    · simp only [if_neg hsimple, List.nil_append, hecdhRead, houtRead, some_bind,
        Istream.good_ofBytes, if_true, Bool.false_eq_true, if_false, RctSigBase.readBack,
        if_neg hnull, hecdh, hout]

/-- When an MLSAG's writer succeeds: its shape, and the bytes it writes. -/
theorem writeMgSig_of_ok {rows cols : ℕ} {mg : MgSig} (hok : (writeMgSig rows cols mg).ok = true) :
    mg.ss.length = rows ∧ (∀ row ∈ mg.ss, row.length = cols) ∧
      (writeMgSig rows cols mg).bytes = mg.ss.flatMap (fun row => row.flatMap Blob.data) ++ mg.cc.data := by
  unfold writeMgSig at hok ⊢
  simp only [Written.check_ok, Written.andThen_ok, Written.put_ok, Bool.and_true, Bool.and_eq_true,
    beq_iff_eq] at hok
  obtain ⟨hrows, heach⟩ := hok
  have hcols : ∀ row ∈ mg.ss, row.length = cols := fun row hrow => by
    simpa using (Written.each_ok_iff _ _).mp heach row hrow
  refine ⟨hrows, hcols, ?_⟩
  rw [hrows, beq_self_eq_true, Written.check_true, Written.andThen_bytes heach,
    Written.each_bytes ((Written.each_ok_iff _ _).mp heach)]
  simp only [Written.put_bytes]
  congr 1
  refine List.flatMap_congr fun row hrow => ?_
  simp [hcols row hrow]

theorem readMgSig_write {rows cols : ℕ} (old mg : MgSig) (hok : (writeMgSig rows cols mg).ok = true)
    (rest : List UInt8) :
    readMgSig rows cols old (Istream.ofBytes ((writeMgSig rows cols mg).bytes ++ rest)) =
      some (mg, Istream.ofBytes rest) := by
  obtain ⟨hrows, hcols, hbytes⟩ := writeMgSig_of_ok hok
  -- each row is read whole, over a row resized to `cols` keys
  have hrowRead := readEach_ofBytes_whole
    (fun (o x : List Key) rest (hx : x.length = cols) =>
      readEach_blobs_ofBytes (vectorResize o cols (Blob.zero 32)) x (by simp [hx]) rest)
    (vectorResize old.ss rows []) mg.ss (by simp [hrows]) hcols
  rw [hbytes, List.append_assoc]
  simp only [readMgSig, hrowRead, some_bind, field_readBlob_ofBytes]

theorem readRangeSig_write (r : RangeSig) (rest : List UInt8) :
    readRangeSig (Istream.ofBytes ((r.asig.data ++ r.Ci.data) ++ rest)) =
      some (r, Istream.ofBytes rest) := by
  simp only [readRangeSig, List.append_assoc, field_readBlob_ofBytes, some_bind,
    Istream.good_ofBytes, if_true]

/-- A written list of bulletproofs reads back, over any old list of the same length. -/
theorem readEach_bulletproofs_write (olds bps : List Bulletproof) (hlen : olds.length = bps.length)
    (hok : ∀ q ∈ bps, (writeBulletproof q).ok = true)
    (hbp : ∀ q ∈ bps, q.L.length < 2 ^ 64 ∧ q.R.length < 2 ^ 64) (rest : List UInt8) :
    readEach (fun _ => field readBulletproof) olds
        (Istream.ofBytes (bps.flatMap (fun q => (writeBulletproof q).bytes) ++ rest)) =
      some (bps, Istream.ofBytes rest) :=
  readEach_ofBytes_whole
    (fun _ q rest (hq : (writeBulletproof q).ok = true ∧ q.L.length < 2 ^ 64 ∧ q.R.length < 2 ^ 64) =>
      field_of_ofBytes (readBulletproof_write hq.1 hq.2.1 hq.2.2 rest))
    olds bps hlen (fun q hq => ⟨hok q hq, hbp q hq⟩) rest

/-- The range proofs read back: the bulletproofs for the bulletproof types, the Borromean
signatures otherwise; the other list keeps its old value. -/
theorem readRangeProofs_write (old p : RctSigPrunable) {type : UInt8} {outputs : ℕ}
    (hok : (p.writeRangeProofs type outputs).ok = true)
    (hbp : ∀ q ∈ p.bulletproofs, q.L.length < 2 ^ 64 ∧ q.R.length < 2 ^ 64)
    (hnbp : p.bulletproofs.length < 2 ^ 32) (rest : List UInt8) :
    old.readRangeProofs type outputs
        (Istream.ofBytes ((p.writeRangeProofs type outputs).bytes ++ rest)) =
      some (if isRctBulletproof type then { old with bulletproofs := p.bulletproofs }
        else { old with rangeSigs := p.rangeSigs }, Istream.ofBytes rest) := by
  unfold RctSigPrunable.writeRangeProofs at hok ⊢
  unfold RctSigPrunable.readRangeProofs
  by_cases hold : type = rctTypeSimpleBulletproof ∨ type = rctTypeFullBulletproof
  · -- one bulletproof per output
    have hbpType : isRctBulletproof type = true := (isRctBulletproof_eq_true_iff type).2 (.inl hold)
    simp only [if_pos hold, Written.check_ok, Bool.and_eq_true, beq_iff_eq] at hok
    obtain ⟨hlen, heach⟩ := hok
    have heach' := (Written.each_ok_iff _ _).mp heach
    simp only [if_pos hold, hlen, beq_self_eq_true, Written.check_true, Written.each_bytes heach',
      readEach_bulletproofs_write (vectorResize old.bulletproofs outputs Bulletproof.zero)
        p.bulletproofs (by simp [hlen]) heach' hbp, some_bind, hbpType, if_true]
  · by_cases hnew : type = rctTypeBulletproof ∨ type = rctTypeBulletproof2
    · -- the count, then the bulletproofs
      have hbpType : isRctBulletproof type = true :=
        (isRctBulletproof_eq_true_iff type).2 (.inr hnew)
      have hmod : p.bulletproofs.length % 2 ^ 32 = p.bulletproofs.length := Nat.mod_eq_of_lt hnbp
      simp only [if_neg hold, if_pos hnew, hmod, List.take_length, Written.put_andThen,
        Written.check_ok, Written.andThen_ok, Written.put_ok, Bool.and_true, Bool.and_eq_true,
        decide_eq_true_eq] at hok
      obtain ⟨hcount, heach, hamounts⟩ := hok
      have heach' := (Written.each_ok_iff _ _).mp heach
      have hbpsRead := readEach_bulletproofs_write
        (vectorResize old.bulletproofs p.bulletproofs.length Bulletproof.zero) p.bulletproofs
        (by simp) heach' hbp rest
      simp only [if_neg hold, if_pos hnew, hmod, List.take_length, decide_eq_true hcount,
        decide_eq_true hamounts, Written.check_true, Written.andThen_bytes heach,
        Written.each_bytes heach', Written.put_andThen, Written.put_bytes, List.append_nil,
        List.append_assoc]
      -- the count is a varint for `RCTTypeBulletproof2` and four bytes for `RCTTypeBulletproof`
      by_cases hbp2 : type = rctTypeBulletproof2
      · simp only [if_pos hbp2, serializeVarint_ofBytes hnbp, Istream.good_ofBytes, Bool.not_true,
          Bool.false_eq_true, if_false, not_lt.mpr hcount, hbpsRead, some_bind,
          not_lt.mpr hamounts, hbpType, if_true]
      · have hnbp4 : p.bulletproofs.length < 256 ^ 4 := by simpa using hnbp
        simp only [if_neg hbp2, serializeUint_ofBytes hnbp4, Istream.good_ofBytes,
          Bool.not_true, Bool.false_eq_true, if_false, not_lt.mpr hcount, hbpsRead, some_bind,
          not_lt.mpr hamounts, hbpType, if_true]
    · -- one Borromean signature per output
      have hbpType : isRctBulletproof type = false :=
        Bool.eq_false_iff.2 fun h => ((isRctBulletproof_eq_true_iff type).1 h).elim hold hnew
      simp only [if_neg hold, if_neg hnew, Written.check_ok, Written.put_ok, Bool.and_true,
        beq_iff_eq] at hok
      simp only [if_neg hold, if_neg hnew, hok, beq_self_eq_true, Written.check_true,
        Written.put_bytes, readEach_ofBytes_whole (fun _ r rest (_ : True) =>
          field_of_ofBytes (readRangeSig_write r rest)) (vectorResize old.rangeSigs outputs RangeSig.zero)
          p.rangeSigs (by simp [hok]) (fun _ _ => trivial), some_bind, hbpType]
      rfl

/-- When the prunable writer succeeds: the checks it makes, and the bytes it writes. -/
theorem writeRctsigPrunable_of_ok {p : RctSigPrunable} {type : UInt8} {inputs outputs mixin : ℕ}
    (hok : (p.writeRctsigPrunable type inputs outputs mixin).ok = true)
    (hnull : type ≠ rctTypeNull) :
    isKnownRctType type = true ∧ (p.writeRangeProofs type outputs).ok = true ∧
      p.MGs.length = mgElements type inputs ∧
      (∀ mg ∈ p.MGs, (writeMgSig ((mixin + 1) % 2 ^ 64) (mgSs2Elements type inputs) mg).ok = true) ∧
      (prunablePseudoOuts type = true → p.pseudoOuts.length = inputs) ∧
      (p.writeRctsigPrunable type inputs outputs mixin).bytes =
        (p.writeRangeProofs type outputs).bytes ++
          (p.MGs.flatMap (fun mg => (writeMgSig ((mixin + 1) % 2 ^ 64) (mgSs2Elements type inputs)
            mg).bytes) ++
          (if prunablePseudoOuts type then p.pseudoOuts.flatMap Blob.data else [])) := by
  unfold RctSigPrunable.writeRctsigPrunable at hok ⊢
  simp only [if_neg hnull, Written.check_ok, Written.andThen_ok, Bool.and_eq_true,
    beq_iff_eq] at hok
  obtain ⟨hknown, hrange, hmgs, heach, hpseudo⟩ := hok
  have heach' := (Written.each_ok_iff _ _).mp heach
  have hpseudo' : prunablePseudoOuts type = true → p.pseudoOuts.length = inputs := by
    intro h
    simpa [h] using hpseudo
  refine ⟨hknown, hrange, hmgs, heach', hpseudo', ?_⟩
  simp only [if_neg hnull, hknown, hmgs, beq_self_eq_true, Written.check_true,
    Written.andThen_bytes hrange, Written.andThen_bytes heach, Written.each_bytes heach']
  congr 2
  by_cases h : prunablePseudoOuts type = true
  · simp [h, hpseudo' h]
  · simp [h]

/-- `serialize_rctsig_prunable` reads back what it wrote, into any old value. -/
theorem serializeRctsigPrunable_write (old p : RctSigPrunable) {type : UInt8}
    {inputs outputs mixin : ℕ} (hok : (p.writeRctsigPrunable type inputs outputs mixin).ok = true)
    (hbp : ∀ q ∈ p.bulletproofs, q.L.length < 2 ^ 64 ∧ q.R.length < 2 ^ 64)
    (hnbp : p.bulletproofs.length < 2 ^ 32) (rest : List UInt8) :
    old.serializeRctsigPrunable type inputs outputs mixin
        (Istream.ofBytes ((p.writeRctsigPrunable type inputs outputs mixin).bytes ++ rest)) =
      some (old.readBack p type, Istream.ofBytes rest) := by
  by_cases hnull : type = rctTypeNull
  · simp [RctSigPrunable.serializeRctsigPrunable, RctSigPrunable.writeRctsigPrunable,
      RctSigPrunable.readBack, hnull]
  obtain ⟨hknown, hrange, hmgs, heach, hpseudo, hbytes⟩ := writeRctsigPrunable_of_ok hok hnull
  have hmgRead := readEach_ofBytes_whole
    (fun o mg rest (hmg : (writeMgSig ((mixin + 1) % 2 ^ 64) (mgSs2Elements type inputs) mg).ok = true) =>
      readMgSig_write o mg hmg rest)
    (vectorResize old.MGs (mgElements type inputs) MgSig.zero) p.MGs (by simp [hmgs]) heach
  rw [hbytes]
  simp only [List.append_assoc, RctSigPrunable.serializeRctsigPrunable, if_neg hnull, hknown, Bool.not_true,
    Bool.false_eq_true, if_false, readRangeProofs_write old p hrange hbp hnbp, some_bind]
  -- the range proofs leave `MGs` and `pseudoOuts` as they were
  have hmgsOld : (if isRctBulletproof type then { old with bulletproofs := p.bulletproofs }
      else { old with rangeSigs := p.rangeSigs }).MGs = old.MGs := by split_ifs <;> rfl
  have hpseudoOld : (if isRctBulletproof type then { old with bulletproofs := p.bulletproofs }
      else { old with rangeSigs := p.rangeSigs }).pseudoOuts = old.pseudoOuts := by split_ifs <;> rfl
  rw [hmgsOld, hpseudoOld, hmgRead]
  by_cases hpo : prunablePseudoOuts type = true
  · simp only [if_pos hpo, some_bind, readEach_blobs_ofBytes
      (vectorResize old.pseudoOuts inputs (Blob.zero 32)) p.pseudoOuts (by simp [hpseudo hpo]),
      Istream.good_ofBytes, if_true, RctSigPrunable.readBack, if_neg hnull]
    split_ifs <;> rfl
  · simp only [hpo, Bool.false_eq_true, if_false, List.nil_append, some_bind,
      Istream.good_ofBytes, if_true, RctSigPrunable.readBack, if_neg hnull]
    split_ifs <;> rfl

/-! ### What was read back writes the same bytes -/

@[simp] theorem RctSigBase.type_readBack (old rv : RctSigBase) : (old.readBack rv).type = rv.type := by
  unfold RctSigBase.readBack
  by_cases hnull : rv.type = rctTypeNull
  · rw [if_pos hnull]
    exact hnull.symm
  · rw [if_neg hnull]

theorem writeEcdhInfoElem_readBack (type : UInt8) (old e : EcdhTuple) :
    writeEcdhInfoElem type (EcdhTuple.readBack type old e) = writeEcdhInfoElem type e := by
  unfold writeEcdhInfoElem EcdhTuple.readBack
  split_ifs
  · -- the eight bytes read are the eight bytes written, whatever the padding after them
    have h8 : (e.amount.data.take 8).length = 8 := by simp [e.amount.size_eq]
    simp [Blob.ofList, List.take_take, List.take_append_of_le_length (le_of_eq h8.symm)]
  · rfl

/-- The base read back into any old value writes what the original wrote. -/
theorem writeRctsigBase_readBack (old rv : RctSigBase) (inputs outputs : ℕ) :
    (old.readBack rv).writeRctsigBase inputs outputs = rv.writeRctsigBase inputs outputs := by
  by_cases hnull : rv.type = rctTypeNull
  · simp [RctSigBase.readBack, RctSigBase.writeRctsigBase, hnull]
  · -- each element written from what was read writes as the original element
    have hecdh := flatMap_zipWith_of_length_eq (writeEcdhInfoElem_readBack rv.type)
      (vectorResize old.ecdhInfo rv.ecdhInfo.length EcdhTuple.zero) rv.ecdhInfo (by simp)
    have hout := flatMap_zipWith_of_length_eq (f := fun c : CtKey => c.mask.data)
      (g := fun o c => { o with mask := c.mask }) (fun _ _ => rfl)
      (vectorResize old.outPk rv.outPk.length CtKey.zero) rv.outPk (by simp)
    simp only [RctSigBase.writeRctsigBase, RctSigBase.readBack, if_neg hnull, hecdh, hout,
      List.length_zipWith, length_vectorResize, min_self]
    split_ifs <;> rfl

theorem RctSigBase.length_outPk_readBack (old rv : RctSigBase) (hnull : rv.type ≠ rctTypeNull) :
    (old.readBack rv).outPk.length = rv.outPk.length := by
  simp [RctSigBase.readBack, hnull]

theorem RctSigPrunable.bulletproofs_readBack (old p : RctSigPrunable) {type : UInt8}
    (hbp : isRctBulletproof type = true) : (old.readBack p type).bulletproofs = p.bulletproofs := by
  have hnull : type ≠ rctTypeNull := by
    rintro rfl
    cases hbp
  simp [RctSigPrunable.readBack, hnull, hbp]

/-- The base writer reads only the masks of the output commitments. -/
theorem writeRctsigBase_outPk {rv : RctSigBase} {outPk : List CtKey}
    (hmask : outPk.map CtKey.mask = rv.outPk.map CtKey.mask) (inputs outputs : ℕ) :
    ({ rv with outPk } : RctSigBase).writeRctsigBase inputs outputs =
      rv.writeRctsigBase inputs outputs := by
  have hlen : outPk.length = rv.outPk.length := by simpa using congrArg List.length hmask
  have hbytes : outPk.flatMap (fun c => c.mask.data) = rv.outPk.flatMap (fun c => c.mask.data) := by
    have hdata := congrArg (List.flatMap Blob.data) hmask
    simpa [List.flatMap_map] using hdata
  simp only [RctSigBase.writeRctsigBase, hlen, hbytes]

/-- The prunable part read back into any old value writes what the original wrote. -/
theorem writeRctsigPrunable_readBack (old p : RctSigPrunable) (type : UInt8)
    (inputs outputs mixin : ℕ) :
    (old.readBack p type).writeRctsigPrunable type inputs outputs mixin =
      p.writeRctsigPrunable type inputs outputs mixin := by
  by_cases hnull : type = rctTypeNull
  · simp [RctSigPrunable.writeRctsigPrunable, hnull]
  -- the range proofs of the type's kind are the ones read
  have hrange : (old.readBack p type).writeRangeProofs type outputs = p.writeRangeProofs type outputs := by
    unfold RctSigPrunable.writeRangeProofs
    by_cases hold : type = rctTypeSimpleBulletproof ∨ type = rctTypeFullBulletproof
    · have hbpType := (isRctBulletproof_eq_true_iff type).2 (.inl hold)
      simp only [if_pos hold, RctSigPrunable.readBack, if_neg hnull, hbpType, if_true]
    · by_cases hnew : type = rctTypeBulletproof ∨ type = rctTypeBulletproof2
      · have hbpType := (isRctBulletproof_eq_true_iff type).2 (.inr hnew)
        simp only [if_neg hold, if_pos hnew, RctSigPrunable.readBack, if_neg hnull, hbpType, if_true]
      · have hbpType : isRctBulletproof type = false :=
          Bool.eq_false_iff.2 fun h => ((isRctBulletproof_eq_true_iff type).1 h).elim hold hnew
        simp only [if_neg hold, if_neg hnew, RctSigPrunable.readBack, if_neg hnull, hbpType,
          Bool.false_eq_true, if_false]
  simp only [RctSigPrunable.writeRctsigPrunable, if_neg hnull, hrange]
  by_cases hpo : prunablePseudoOuts type = true
  · simp only [RctSigPrunable.readBack, if_neg hnull, hpo, if_true]
  · simp only [RctSigPrunable.readBack, if_neg hnull, hpo, Bool.false_eq_true, if_false]

end RoundTrip

/-! ## Sizes

What the prunable writer puts out for `RCTTypeBulletproof2` with one bulletproof: the sizes
`get_pruned_transaction_weight` charges in place of the pruned data. -/

section Sizes

theorem Bulletproof.nBulletproofMaxAmounts_le (proof : Bulletproof) :
    proof.nBulletproofMaxAmounts ≤ 2 ^ 4 := by
  unfold Bulletproof.nBulletproofMaxAmounts
  split_ifs with h6 hLR h10
  · exact Nat.zero_le _
  · exact Nat.zero_le _
  · exact Nat.zero_le _
  · exact Nat.pow_le_pow_right (by norm_num) (by omega)

/-- A proof that covers some amount has between 6 and 10 rounds, as many in `R` as in `L`. -/
theorem Bulletproof.nBulletproofMaxAmounts_of_ne_zero {proof : Bulletproof}
    (h : proof.nBulletproofMaxAmounts ≠ 0) :
    6 ≤ proof.L.length ∧ proof.L.length ≤ 10 ∧ proof.R.length = proof.L.length ∧
      proof.nBulletproofMaxAmounts = 2 ^ (proof.L.length - 6) := by
  unfold Bulletproof.nBulletproofMaxAmounts at h ⊢
  by_cases h6 : proof.L.length < 6
  · simp [h6] at h
  by_cases hLR : proof.L.length ≠ proof.R.length
  · simp [h6, hLR] at h
  by_cases h10 : proof.L.length > 6 + 4
  · simp [h6, hLR, h10] at h
  rw [if_neg h6, if_neg hLR, if_neg h10]
  exact ⟨by omega, by omega, (not_not.1 hLR).symm, rfl⟩

/-- One proof covers what it covers on its own: its count stays below `UINT32_MAX`. -/
theorem nBulletproofMaxAmounts_singleton (proof : Bulletproof) :
    nBulletproofMaxAmounts [proof] = proof.nBulletproofMaxAmounts := by
  have hle := proof.nBulletproofMaxAmounts_le
  unfold nBulletproofMaxAmounts nBulletproofAmountsLoop
  rw [if_pos (by omega)]
  split_ifs with h0
  · exact h0.symm
  · rw [nBulletproofAmountsLoop, Nat.zero_add]

theorem length_writeContainer_data {n : ℕ} (xs : List (Blob n)) (hlen : xs.length < 0x80) :
    (writeContainer Blob.data xs).length = 1 + xs.length * n := by
  rw [writeContainer, List.length_append, writeVarint_of_lt hlen, List.length_singleton,
    length_flatMap_data]

theorem length_writeBulletproof (proof : Bulletproof) (hL : proof.L.length < 0x80)
    (hR : proof.R.length < 0x80) :
    (writeBulletproof proof).bytes.length = 32 * (9 + proof.L.length + proof.R.length) + 2 := by
  simp only [writeBulletproof, List.length_append, length_writeContainer_data _ hL,
    length_writeContainer_data _ hR, proof.A.size_eq, proof.S.size_eq, proof.T1.size_eq,
    proof.T2.size_eq, proof.taux.size_eq, proof.mu.size_eq, proof.a.size_eq, proof.b.size_eq,
    proof.t.size_eq]
  ring

theorem length_writeMgSig {rows cols : ℕ} {mg : MgSig} (hok : (writeMgSig rows cols mg).ok = true) :
    (writeMgSig rows cols mg).bytes.length = rows * (cols * 32) + 32 := by
  obtain ⟨hrows, hcols, hbytes⟩ := writeMgSig_of_ok hok
  rw [hbytes, List.length_append, mg.cc.size_eq, ← hrows]
  congr 1
  exact length_flatMap_const fun row hrow => by rw [length_flatMap_data, hcols row hrow]

/-- For `RCTTypeBulletproof2` with one bulletproof: the count, then the proof, which covers the
outputs. -/
theorem writeRangeProofs_bulletproof2_of_ok {p : RctSigPrunable} {proof : Bulletproof}
    {outputs : ℕ} (hok : (p.writeRangeProofs rctTypeBulletproof2 outputs).ok = true)
    (hproofs : p.bulletproofs = [proof]) :
    1 ≤ outputs ∧ outputs ≤ proof.nBulletproofMaxAmounts ∧ (writeBulletproof proof).ok = true ∧
      (p.writeRangeProofs rctTypeBulletproof2 outputs).bytes =
        writeVarint 1 ++ (writeBulletproof proof).bytes := by
  have hold : ¬(rctTypeBulletproof2 = rctTypeSimpleBulletproof ∨
      rctTypeBulletproof2 = rctTypeFullBulletproof) := by decide
  have hnbp : [proof].length % 2 ^ 32 = 1 := rfl
  unfold RctSigPrunable.writeRangeProofs at hok ⊢
  simp only [if_neg hold, or_true, if_true, hproofs, hnbp, List.take_one, List.head?_cons, Option.toList_some,
    nBulletproofMaxAmounts_singleton, Written.put_andThen, Written.check_ok, Written.andThen_ok,
    Written.put_ok, Bool.and_true, Bool.and_eq_true, decide_eq_true_eq, Written.each_ok_iff,
    List.mem_singleton, forall_eq] at hok ⊢
  obtain ⟨hone, hproofOk, hcover⟩ := hok
  refine ⟨hone, hcover, hproofOk, ?_⟩
  simp [hone, hcover, Written.each, Written.andThen, hproofOk]

/-- The prunable data of `RCTTypeBulletproof2` with one bulletproof: a byte of count, the proof,
one MLSAG per input and one pseudo-output per input. -/
theorem length_writeRctsigPrunable_bulletproof2 {p : RctSigPrunable} {proof : Bulletproof}
    {inputs outputs mixin : ℕ}
    (hok : (p.writeRctsigPrunable rctTypeBulletproof2 inputs outputs mixin).ok = true)
    (hproofs : p.bulletproofs = [proof]) :
    (p.writeRctsigPrunable rctTypeBulletproof2 inputs outputs mixin).bytes.length =
      1 + (32 * (9 + 2 * proof.L.length) + 2) +
        inputs * ((mixin + 1) % 2 ^ 64 * (1 + 1) * 32 + 32) + 32 * inputs := by
  obtain ⟨-, hrange, hmgs, heach, hpseudo, hbytes⟩ := writeRctsigPrunable_of_ok hok (by decide)
  obtain ⟨hone, hcover, -, hrangeBytes⟩ := writeRangeProofs_bulletproof2_of_ok hrange hproofs
  -- the proof covers an output, so its rounds are few enough for one-byte counts
  have hcovers : proof.nBulletproofMaxAmounts ≠ 0 := by omega
  obtain ⟨-, hL10, hR, -⟩ := Bulletproof.nBulletproofMaxAmounts_of_ne_zero hcovers
  have hmgElements : mgElements rctTypeBulletproof2 inputs = inputs := by
    simp [mgElements, isRctSimple]
  have hss : mgSs2Elements rctTypeBulletproof2 inputs = 1 + 1 := by
    simp [mgSs2Elements, isRctSimple]
  have hmgLen : (p.MGs.flatMap fun mg => (writeMgSig ((mixin + 1) % 2 ^ 64)
      (mgSs2Elements rctTypeBulletproof2 inputs) mg).bytes).length =
        inputs * ((mixin + 1) % 2 ^ 64 * (1 + 1) * 32 + 32) := by
    rw [length_flatMap_const fun mg hmg => length_writeMgSig (heach mg hmg), hmgs, hmgElements, hss]
    ring
  rw [hbytes, hrangeBytes, writeVarint_of_lt (by norm_num)]
  simp only [List.length_append, List.length_singleton,
    length_writeBulletproof proof (by omega) (by omega), hR, hmgLen,
    if_pos (show prunablePseudoOuts rctTypeBulletproof2 = true by decide),
    length_flatMap_data, hpseudo rfl]
  ring

end Sizes

end Bittube.Ringct

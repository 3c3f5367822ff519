import Bittube.CryptonoteBasic.TxSerialization
import Bittube.CryptonoteBasic.TxExtra

/-!
# The binary layout of a block (`cryptonote_basic.h`)

`block::do_serialize` writes the header (`block_header`), for major versions 2 and 3 the
merge-mined parent block (`serializable_bytecoin_block`), the miner transaction and the hashes of
the other transactions. The header carries its own timestamp and nonce only for major version 1
and from version 4; for versions 2 and 3 the timestamp is written inside the parent block and
the block's own nonce is not written at all. The parent block's miner-transaction branch has
`tree_depth(number_of_transactions)` hashes and its blockchain branch as many as the depth of
the merge-mining tag in the parent miner transaction's extra; the constructor of
`serializable_bytecoin_block` sets that transaction's `is_mm_tx`, so its version is never
checked. Only the layout `block::do_serialize` uses is modelled (no hashing serialization, not
header only).

A block the writer writes whole is parsed back from its blob: the same blob, the same header
but for the nonce of a version 2 or 3 block, and the same transaction hashes; the end of the
module puts this together with the round trip of a transaction.
-/

namespace Bittube.CryptonoteBasic

open ByteStream Bittube.Crypto Bittube.Serialization Bittube.Common.Varint Bittube.Ringct

/-- `block_header`. -/
structure BlockHeader where
  majorVersion : UInt8
  minorVersion : UInt8
  timestamp : ℕ
  prevId : Hash
  nonce : UInt32
  deriving DecidableEq, Repr

/-- `bytecoin_block`: the header and branches of a merge-mined parent block. -/
structure BytecoinBlock where
  majorVersion : UInt8
  minorVersion : UInt8
  prevId : Hash
  nonce : UInt32
  numberOfTransactions : ℕ
  minerTxBranch : List Hash
  minerTx : Transaction
  blockchainBranch : List Hash
  deriving DecidableEq, Repr

/-- `block`: the header, the parent block, the miner transaction and the transaction hashes. The
hash cache is not modelled. -/
structure Block extends BlockHeader where
  parentBlock : BytecoinBlock
  minerTx : Transaction
  txHashes : List Hash
  deriving DecidableEq, Repr

/-- `major_version == BLOCK_MAJOR_VERSION_1 || major_version >= BLOCK_MAJOR_VERSION_4`: the
header carries the timestamp and the nonce. -/
def headerHasTimestamp (majorVersion : UInt8) : Bool :=
  majorVersion == blockMajorVersion1 || blockMajorVersion4 ≤ majorVersion

/-- `major_version == BLOCK_MAJOR_VERSION_2 || major_version == BLOCK_MAJOR_VERSION_3`: the
block carries a merge-mined parent block. -/
def hasParentBlock (majorVersion : UInt8) : Bool :=
  majorVersion == blockMajorVersion2 || majorVersion == blockMajorVersion3

/-- The loop of `tree_depth(count)` over `i = 32, 16, 8, 4, 2, 1` (a 64-bit `size_t`): shift
`count` down by `i` wherever something is left above bit `i`, and count the shift. -/
def treeDepthLoop : List ℕ → ℕ → ℕ → ℕ
  | [], _, depth => depth
  | i :: is, count, depth =>
    if count >>> i > 0 then treeDepthLoop is (count >>> i) (depth + i)
    else treeDepthLoop is count depth

/-- `tree_depth(count)`: the depth of the Merkle tree of `count` hashes. -/
def treeDepth (count : ℕ) : ℕ := treeDepthLoop [32, 16, 8, 4, 2, 1] count 0

/-- `find_tx_extra_field_by_type(fields, mm_tag)`: the first merge-mining tag. -/
def findMergeMiningTag : List TxExtraField → Option (ℕ × Hash)
  | [] => none
  | .mergeMiningTag depth merkleRoot :: _ => some (depth, merkleRoot)
  | _ :: fields => findMergeMiningTag fields

/-- `get_mm_tag_from_extra(tx_extra, mm_tag)`: the merge-mining tag of an extra that parses. -/
def getMmTagFromExtra (txExtra : List UInt8) : Option (ℕ × Hash) := do
  let fields ← parseTxExtra txExtra
  findMergeMiningTag fields

/-! ## Reading -/

/-- `block_header::do_serialize` on a reading archive, into `h`: the timestamp and the nonce
are read only for the versions whose header carries them. -/
def readBlockHeader (h : BlockHeader) (s : Istream) : Option (BlockHeader × Istream) := do
  let (majorVersion, s) ← varintField 8 s
  let (minorVersion, s) ← varintField 8 s
  let full := headerHasTimestamp majorVersion.toUInt8
  let (timestamp, s) ← (if full then varintField 64 s else some (h.timestamp, s))
  let (prevId, s) ← field (readBlob 32) s
  let (nonce, s) ← (if full then field readUint32 s else some (h.nonce, s))
  some (⟨majorVersion.toUInt8, minorVersion.toUInt8, timestamp, prevId, nonce⟩, s)

/-- `serializable_bytecoin_block::do_serialize` on a reading archive, in place over the parent
block `b`, for `hashing_serialization` and `header_only` both false: the parent block and the
block's own timestamp, which it reads before anything can fail. The constructor has set the
parent miner transaction's `is_mm_tx`. -/
def readSerializableBytecoinBlock (b : BytecoinBlock) (s : Istream) :
    Option ((BytecoinBlock × ℕ) × Istream) := do
  let (majorVersion, s) ← varintField 8 s
  let (minorVersion, s) ← varintField 8 s
  let (timestamp, s) ← varintField 64 s
  let (prevId, s) ← field (readBlob 32) s
  let (nonce, s) ← field readUint32 s
  let (numberOfTransactions, s) ← varintField 64 s
  if numberOfTransactions < 1 then none
  else do
    -- the branch is resized to `tree_depth(number_of_transactions)`, so its size check passes
    let (minerTxBranch, s) ← readEach (fun _ => field (readBlob 32))
      (vectorResize b.minerTxBranch (treeDepth numberOfTransactions) (Blob.zero 32)) s
    let (minerTx, s) ← field (readTransaction { b.minerTx with isMmTx := true }) s
    let (depth, _) ← getMmTagFromExtra minerTx.extra
    let (blockchainBranch, s) ← readEach (fun _ => field (readBlob 32))
      (vectorResize b.blockchainBranch depth (Blob.zero 32)) s
    some ((⟨majorVersion.toUInt8, minorVersion.toUInt8, prevId, nonce, numberOfTransactions,
      minerTxBranch, minerTx, blockchainBranch⟩, timestamp), s)

/-- `block::do_serialize` on a reading archive, into `b`. -/
def readBlock (b : Block) (s : Istream) : Option (Block × Istream) := do
  let (header, s) ← field (readBlockHeader b.toBlockHeader) s
  let b := { b with toBlockHeader := header }
  let (b, s) ← (if hasParentBlock b.majorVersion then do
      let ((parentBlock, timestamp), s) ←
        field (readSerializableBytecoinBlock b.parentBlock) s
      some ({ b with parentBlock, timestamp }, s)
    else some (b, s))
  let (minerTx, s) ← field (readTransaction b.minerTx) s
  let (txHashes, s) ← field (readContainer (readBlob 32)) s
  if cryptonoteMaxTxPerBlock < txHashes.length then none
  else if s.good then some ({ b with minerTx, txHashes }, s) else none

/-- `parse_and_validate_block_from_blob(b_blob, b)`: read the whole blob into the caller's
object. The hash caches it resets are not modelled. -/
def parseAndValidateBlockFromBlob (bBlob : List UInt8) (b : Block) : Option Block :=
  parseBinary (readBlock b) bBlob

/-! ## Writing -/

/-- `block_header::do_serialize` on a writing archive. -/
def writeBlockHeader (h : BlockHeader) : List UInt8 :=
  writeVarint h.majorVersion.toNat ++ writeVarint h.minorVersion.toNat ++
    (if headerHasTimestamp h.majorVersion then writeVarint h.timestamp else []) ++ h.prevId.data ++
    (if headerHasTimestamp h.majorVersion then writeUint 4 h.nonce.toNat else [])

/-- `serializable_bytecoin_block::do_serialize` on a writing archive. Each check follows the
bytes written before it. -/
def writeSerializableBytecoinBlock (b : BytecoinBlock) (timestamp : ℕ) : Written :=
  (Written.put (writeVarint b.majorVersion.toNat ++ writeVarint b.minorVersion.toNat ++
    writeVarint timestamp ++ b.prevId.data ++ writeUint 4 b.nonce.toNat ++
    writeVarint b.numberOfTransactions)).andThen <|
  Written.check (1 ≤ b.numberOfTransactions) <|
  Written.check (b.minerTxBranch.length == treeDepth b.numberOfTransactions) <|
  (Written.put (b.minerTxBranch.flatMap Blob.data)).andThen <|
  (writeTransaction { b.minerTx with isMmTx := true }).andThen <|
  match getMmTagFromExtra b.minerTx.extra with
  | none => Written.fail
  | some (depth, _) =>
    Written.check (depth == b.blockchainBranch.length)
      (Written.put (b.blockchainBranch.flatMap Blob.data))

/-- `block::do_serialize` on a writing archive: the count of transaction hashes is checked after
they are written. -/
def writeBlock (b : Block) : Written :=
  (Written.put (writeBlockHeader b.toBlockHeader)).andThen <|
  (if hasParentBlock b.majorVersion then writeSerializableBytecoinBlock b.parentBlock b.timestamp
    else Written.put []).andThen <|
  (writeTransaction b.minerTx).andThen <|
  (Written.put (writeContainer Blob.data b.txHashes)).andThen <|
  Written.check (b.txHashes.length ≤ cryptonoteMaxTxPerBlock) (Written.put [])

/-- `block_to_blob(b)`: the bytes the writer put out, whether or not it succeeded. -/
def blockToBlob (b : Block) : List UInt8 := (writeBlock b).bytes

/-! ## Reading back what was written -/

/-- The integers of a block fit the source's types: its timestamp, its miner transaction's, and
for a block with a parent block the parent's transaction count and miner transaction's. -/
def Block.WordsFit (b : Block) : Prop :=
  b.timestamp < 2 ^ 64 ∧ b.minerTx.WordsFit ∧
    (hasParentBlock b.majorVersion = true →
      b.parentBlock.numberOfTransactions < 2 ^ 64 ∧ b.parentBlock.minerTx.WordsFit)

/-- What reading back a written header leaves in `old`: a header without timestamp and nonce
keeps `old`'s. -/
def BlockHeader.readBack (old h : BlockHeader) : BlockHeader :=
  if headerHasTimestamp h.majorVersion then h
  else { h with timestamp := old.timestamp, nonce := old.nonce }

/-- What reading back a written parent block leaves in `old`: the written block, with the miner
transaction read back into `old`'s, whose `is_mm_tx` the constructor has set. -/
def BytecoinBlock.readBack (old b : BytecoinBlock) : BytecoinBlock :=
  { b with
    minerTx := Transaction.readBack { old.minerTx with isMmTx := true }
      { b.minerTx with isMmTx := true } }

/-- What reading back a written block leaves in `old`: for versions 2 and 3 the timestamp comes
from the parent block, and the block's own nonce is `old`'s. -/
def Block.readBack (old b : Block) : Block :=
  if hasParentBlock b.majorVersion then
    { old with
      toBlockHeader := { old.toBlockHeader.readBack b.toBlockHeader with timestamp := b.timestamp }
      parentBlock := old.parentBlock.readBack b.parentBlock
      minerTx := old.minerTx.readBack b.minerTx, txHashes := b.txHashes }
  else
    { old with
      toBlockHeader := old.toBlockHeader.readBack b.toBlockHeader
      minerTx := old.minerTx.readBack b.minerTx, txHashes := b.txHashes }

@[simp] theorem BlockHeader.majorVersion_readBack (old h : BlockHeader) :
    (old.readBack h).majorVersion = h.majorVersion := by
  unfold BlockHeader.readBack
  split_ifs <;> rfl

section RoundTrip

theorem readBlockHeader_write (old h : BlockHeader) (htime : h.timestamp < 2 ^ 64)
    (rest : List UInt8) :
    readBlockHeader old (Istream.ofBytes (writeBlockHeader h ++ rest)) =
      some (old.readBack h, Istream.ofBytes rest) := by
  have hmajor : h.majorVersion.toNat < 2 ^ 8 := h.majorVersion.toNat_lt_size
  have hminor : h.minorVersion.toNat < 2 ^ 8 := h.minorVersion.toNat_lt_size
  unfold readBlockHeader writeBlockHeader BlockHeader.readBack
  simp only [List.append_assoc, varintField_ofBytes hmajor, varintField_ofBytes hminor, some_bind,
    UInt8.ofNat_toNat]
  by_cases hfull : headerHasTimestamp h.majorVersion = true
  · -- the timestamp and the nonce are in the header
    simp only [if_pos hfull, varintField_ofBytes htime, some_bind,
      field_readBlob_ofBytes, field_of_ofBytes (readUint32_ofBytes h.nonce rest)]
  · simp only [if_neg hfull, List.nil_append, some_bind, field_readBlob_ofBytes]

/-- When the parent block's writer succeeds: the checks it makes, and the bytes it writes. -/
theorem writeSerializableBytecoinBlock_of_ok {b : BytecoinBlock} {timestamp : ℕ}
    (hok : (writeSerializableBytecoinBlock b timestamp).ok = true) :
    1 ≤ b.numberOfTransactions ∧ b.minerTxBranch.length = treeDepth b.numberOfTransactions ∧
      (writeTransaction { b.minerTx with isMmTx := true }).ok = true ∧
      (∃ merkleRoot, getMmTagFromExtra b.minerTx.extra =
        some (b.blockchainBranch.length, merkleRoot)) ∧
      (writeSerializableBytecoinBlock b timestamp).bytes =
        writeVarint b.majorVersion.toNat ++ writeVarint b.minorVersion.toNat ++
          writeVarint timestamp ++ b.prevId.data ++ writeUint 4 b.nonce.toNat ++
          writeVarint b.numberOfTransactions ++
          (b.minerTxBranch.flatMap Blob.data ++
            (txToBlob { b.minerTx with isMmTx := true } ++
              b.blockchainBranch.flatMap Blob.data)) := by
  unfold writeSerializableBytecoinBlock at hok ⊢
  simp only [Written.put_andThen, Written.check_ok, Written.andThen_ok, Bool.and_eq_true,
    decide_eq_true_eq, beq_iff_eq] at hok
  obtain ⟨hcount, hbranch, htx, htag⟩ := hok
  -- the merge-mining tag was found, with the branch's length as its depth
  obtain ⟨⟨depth, merkleRoot⟩, hmm, hdepth⟩ : ∃ tag, getMmTagFromExtra b.minerTx.extra = some tag ∧
      tag.1 = b.blockchainBranch.length := by
    cases hget : getMmTagFromExtra b.minerTx.extra with
    | none => simp [hget] at htag
    | some tag =>
      simp only [hget, Written.check_ok, Written.put_ok, Bool.and_true, beq_iff_eq] at htag
      exact ⟨tag, rfl, htag⟩
  dsimp only at hdepth
  subst hdepth
  refine ⟨hcount, hbranch, htx, ⟨merkleRoot, hmm⟩, ?_⟩
  simp only [Written.put_andThen, hcount, decide_true, hbranch, beq_self_eq_true,
    Written.check_true, Written.put_bytes, Written.andThen_bytes htx, hmm, txToBlob]

/-- The parent block reads back what it wrote, into any parent block whose miner transaction
is not pruned. -/
theorem readSerializableBytecoinBlock_write (old b : BytecoinBlock) {timestamp : ℕ}
    (hok : (writeSerializableBytecoinBlock b timestamp).ok = true) (htime : timestamp < 2 ^ 64)
    (hcount : b.numberOfTransactions < 2 ^ 64) (hfit : b.minerTx.WordsFit)
    (hpruned : b.minerTx.pruned = false) (holdPruned : old.minerTx.pruned = false)
    (rest : List UInt8) :
    readSerializableBytecoinBlock old
        (Istream.ofBytes ((writeSerializableBytecoinBlock b timestamp).bytes ++ rest)) =
      some ((old.readBack b, timestamp), Istream.ofBytes rest) := by
  obtain ⟨hone, hbranch, htx, ⟨merkleRoot, hmm⟩, hbytes⟩ := writeSerializableBytecoinBlock_of_ok hok
  have hmajor : b.majorVersion.toNat < 2 ^ 8 := b.majorVersion.toNat_lt_size
  have hminor : b.minorVersion.toNat < 2 ^ 8 := b.minorVersion.toNat_lt_size
  -- the parent miner transaction is read with `is_mm_tx` set, so its version is not checked
  have htxRead := readTransaction_write { old.minerTx with isMmTx := true }
    { b.minerTx with isMmTx := true } htx hfit hpruned holdPruned (by simp)
  have hextra : (Transaction.readBack { old.minerTx with isMmTx := true }
      { b.minerTx with isMmTx := true }).extra = b.minerTx.extra := by simp
  rw [hbytes]
  unfold readSerializableBytecoinBlock
  simp only [List.append_assoc, varintField_ofBytes hmajor, varintField_ofBytes hminor,
    varintField_ofBytes htime, varintField_ofBytes hcount, some_bind, field_readBlob_ofBytes,
    field_of_ofBytes (readUint32_ofBytes b.nonce _), not_lt.mpr hone, if_false,
    readEach_blobs_ofBytes (vectorResize old.minerTxBranch (treeDepth b.numberOfTransactions)
      (Blob.zero 32)) b.minerTxBranch (by simp [hbranch]), field_of_ofBytes (htxRead _), hextra, hmm,
    readEach_blobs_ofBytes (vectorResize old.blockchainBranch b.blockchainBranch.length
      (Blob.zero 32)) b.blockchainBranch (by simp), UInt8.ofNat_toNat]
  rfl

/-- When the block writer succeeds: the parts that must succeed, the count of transaction
hashes, and the bytes it writes. -/
theorem writeBlock_of_ok {b : Block} (hok : (writeBlock b).ok = true) :
    (hasParentBlock b.majorVersion = true →
      (writeSerializableBytecoinBlock b.parentBlock b.timestamp).ok = true) ∧
      (writeTransaction b.minerTx).ok = true ∧ b.txHashes.length ≤ cryptonoteMaxTxPerBlock ∧
      blockToBlob b = writeBlockHeader b.toBlockHeader ++
        ((if hasParentBlock b.majorVersion then
            (writeSerializableBytecoinBlock b.parentBlock b.timestamp).bytes else []) ++
          (txToBlob b.minerTx ++ writeContainer Blob.data b.txHashes)) := by
  unfold writeBlock at hok
  simp only [Written.put_andThen, Written.andThen_ok, Written.check_ok, Written.put_ok,
    Bool.and_true, Bool.and_eq_true, decide_eq_true_eq] at hok
  obtain ⟨hparent, htx, hmax⟩ := hok
  have hparentOk : hasParentBlock b.majorVersion = true →
      (writeSerializableBytecoinBlock b.parentBlock b.timestamp).ok = true := by
    intro hp
    simpa [hp] using hparent
  refine ⟨hparentOk, htx, hmax, ?_⟩
  unfold blockToBlob writeBlock
  simp only [Written.put_andThen, Written.put_bytes, Written.andThen_bytes hparent,
    Written.andThen_bytes htx, decide_eq_true hmax, Written.check_true, List.append_nil, txToBlob]
  split_ifs <;> rfl

/-- A written block reads back into any block whose miner transactions are not pruned and whose
miner transaction's `is_mm_tx` lets the version through. -/
theorem readBlock_write (old b : Block) (hok : (writeBlock b).ok = true) (hfit : b.WordsFit)
    (hpruned : b.minerTx.pruned = false) (holdPruned : old.minerTx.pruned = false)
    (hparentPruned : hasParentBlock b.majorVersion = true →
      b.parentBlock.minerTx.pruned = false ∧ old.parentBlock.minerTx.pruned = false)
    (hversion : ¬((b.minerTx.version = 0 ∨ currentTransactionVersion < b.minerTx.version) ∧
      old.minerTx.isMmTx = false)) (rest : List UInt8) :
    readBlock old (Istream.ofBytes (blockToBlob b ++ rest)) =
      some (old.readBack b, Istream.ofBytes rest) := by
  obtain ⟨htime, htxFit, hparentFit⟩ := hfit
  obtain ⟨hparentOk, htxOk, hmax, hbytes⟩ := writeBlock_of_ok hok
  have hcount : b.txHashes.length < 2 ^ 64 :=
    lt_of_le_of_lt hmax (by unfold cryptonoteMaxTxPerBlock; norm_num)
  have htxRead := readTransaction_write old.minerTx b.minerTx htxOk htxFit hpruned holdPruned
    hversion
  rw [hbytes]
  unfold readBlock
  simp only [List.append_assoc, field_of_ofBytes (readBlockHeader_write _ _ htime _), some_bind,
    BlockHeader.majorVersion_readBack]
  by_cases hp : hasParentBlock b.majorVersion = true
  · -- the parent block, which carries the timestamp
    obtain ⟨hcountP, hfitP⟩ := hparentFit hp
    obtain ⟨hprunedP, holdPrunedP⟩ := hparentPruned hp
    simp only [if_pos hp, field_of_ofBytes (readSerializableBytecoinBlock_write _ _ (hparentOk hp)
      htime hcountP hfitP hprunedP holdPrunedP _), some_bind, field_of_ofBytes (htxRead _),
      field_readContainer_readBlob_ofBytes (by norm_num) _ hcount, not_lt.mpr hmax, if_false,
      Istream.good_ofBytes, if_true, Block.readBack, BlockHeader.majorVersion_readBack]
  · simp only [hp, Bool.false_eq_true, if_false, List.nil_append, some_bind,
      field_of_ofBytes (htxRead _), field_readContainer_readBlob_ofBytes (by norm_num) _ hcount,
      not_lt.mpr hmax, Istream.good_ofBytes, if_true, Block.readBack]

/-! ### What was read back writes the same bytes -/

theorem headerHasTimestamp_of_hasParentBlock {v : UInt8} (hp : hasParentBlock v = true) :
    headerHasTimestamp v = false := by
  unfold hasParentBlock at hp
  simp only [Bool.or_eq_true, beq_iff_eq] at hp
  rcases hp with rfl | rfl <;> decide

/-- Every major version but 0 without a parent block has the timestamp in its header. -/
theorem headerHasTimestamp_of_not_hasParentBlock {v : UInt8} (hmajor : v ≠ 0)
    (hp : ¬hasParentBlock v = true) : headerHasTimestamp v = true := by
  unfold hasParentBlock headerHasTimestamp at *
  simp only [Bool.or_eq_true, beq_iff_eq, not_or, decide_eq_true_eq] at hp ⊢
  unfold blockMajorVersion1 blockMajorVersion2 blockMajorVersion3 blockMajorVersion4 at *
  simp only [ne_eq, ← UInt8.toNat_inj, UInt8.le_iff_toNat_le, UInt8.toNat_ofNat] at *
  omega

theorem writeBlockHeader_readBack (old h : BlockHeader) :
    writeBlockHeader (old.readBack h) = writeBlockHeader h := by
  unfold BlockHeader.readBack
  split_ifs with hfull
  · rfl
  · simp [writeBlockHeader, hfull]

/-- A header without timestamp does not write it. -/
theorem writeBlockHeader_timestamp {h : BlockHeader} (hfull : headerHasTimestamp h.majorVersion = false)
    (timestamp : ℕ) : writeBlockHeader { h with timestamp } = writeBlockHeader h := by
  simp [writeBlockHeader, hfull]

theorem Transaction.with_isMmTx_self {tx : Transaction} (h : tx.isMmTx = true) :
    { tx with isMmTx := true } = tx := by
  obtain ⟨⟨version, unlockTime, isMmTx, vin, vout, extra⟩, signatures, rctSignatures, pruned,
    unprunableSize, prefixSize⟩ := tx
  simp only at h
  subst h
  rfl

/-- A parent block read back writes the bytes it was read from. -/
theorem writeSerializableBytecoinBlock_readBack (old b : BytecoinBlock) (timestamp : ℕ)
    (hok : (writeSerializableBytecoinBlock b timestamp).ok = true)
    (hpruned : b.minerTx.pruned = false) :
    writeSerializableBytecoinBlock (old.readBack b) timestamp =
      writeSerializableBytecoinBlock b timestamp := by
  obtain ⟨-, -, htx, -, -⟩ := writeSerializableBytecoinBlock_of_ok hok
  have hmm : (Transaction.readBack { old.minerTx with isMmTx := true }
      { b.minerTx with isMmTx := true }).isMmTx = true := by
    simp
  unfold writeSerializableBytecoinBlock BytecoinBlock.readBack
  dsimp only
  rw [Transaction.with_isMmTx_self hmm, writeTransaction_readBack _ _ htx hpruned (by simp),
    Transaction.extra_readBack]

/-- A block read back into any object writes the bytes it was read from. -/
theorem writeBlock_readBack (old b : Block) (hok : (writeBlock b).ok = true)
    (hpruned : b.minerTx.pruned = false)
    (hparentPruned : hasParentBlock b.majorVersion = true → b.parentBlock.minerTx.pruned = false)
    (hversion : ¬((b.minerTx.version = 0 ∨ currentTransactionVersion < b.minerTx.version) ∧
      old.minerTx.isMmTx = false)) :
    writeBlock (old.readBack b) = writeBlock b := by
  obtain ⟨hparentOk, htxOk, -, -⟩ := writeBlock_of_ok hok
  have htx := writeTransaction_readBack old.minerTx b.minerTx htxOk hpruned hversion
  unfold Block.readBack
  by_cases hp : hasParentBlock b.majorVersion = true
  · -- the header writes no timestamp; the parent block and the miner transaction write as before
    have hfull := headerHasTimestamp_of_hasParentBlock hp
    rw [if_pos hp]
    unfold writeBlock
    dsimp only
    rw [writeBlockHeader_timestamp (by rw [BlockHeader.majorVersion_readBack]; exact hfull),
      writeBlockHeader_readBack, BlockHeader.majorVersion_readBack, if_pos hp, if_pos hp,
      writeSerializableBytecoinBlock_readBack _ _ _ (hparentOk hp) (hparentPruned hp), htx]
  · rw [if_neg hp]
    unfold writeBlock
    dsimp only
    rw [writeBlockHeader_readBack, BlockHeader.majorVersion_readBack, htx]
    simp only [if_neg hp]

/-- **Block blobs round-trip.** Every block of a major version other than 0 that the writer
writes whole, with its integers in range and miner transactions that are not pruned, is parsed
back from its blob into any block whose miner transactions are not pruned and whose miner
transaction's `is_mm_tx` lets the version through: the result writes the same blob, has the same
header except that the own nonce of a version 2 or 3 block, which is not in the blob, is the
object's, and the same transaction hashes. -/
theorem parseAndValidateBlockFromBlob_blockToBlob (old b : Block) (hmajor : b.majorVersion ≠ 0)
    (hok : (writeBlock b).ok = true) (hfit : b.WordsFit)
    (hpruned : b.minerTx.pruned = false) (holdPruned : old.minerTx.pruned = false)
    (hparentPruned : hasParentBlock b.majorVersion = true →
      b.parentBlock.minerTx.pruned = false ∧ old.parentBlock.minerTx.pruned = false)
    (hversion : ¬((b.minerTx.version = 0 ∨ currentTransactionVersion < b.minerTx.version) ∧
      old.minerTx.isMmTx = false)) :
    ∃ b', parseAndValidateBlockFromBlob (blockToBlob b) old = some b' ∧
      blockToBlob b' = blockToBlob b ∧
      b'.toBlockHeader = { b.toBlockHeader with
        nonce := if hasParentBlock b.majorVersion then old.nonce else b.nonce } ∧
      b'.txHashes = b.txHashes := by
  have hread := readBlock_write old b hok hfit hpruned holdPruned hparentPruned hversion []
  rw [List.append_nil] at hread
  refine ⟨old.readBack b, ?_, ?_, ?_, ?_⟩
  · simp [parseAndValidateBlockFromBlob, parseBinary, serialize, hread, checkStreamState,
      Istream.peekEof]
  · unfold blockToBlob
    rw [writeBlock_readBack old b hok hpruned (fun hp => (hparentPruned hp).1) hversion]
  · -- the timestamp comes from the header or from the parent block, the nonce from the header
    unfold Block.readBack BlockHeader.readBack
    by_cases hp : hasParentBlock b.majorVersion = true
    · simp [hp, headerHasTimestamp_of_hasParentBlock hp]
    · simp [hp, headerHasTimestamp_of_not_hasParentBlock hmajor hp]
  · unfold Block.readBack
    split_ifs <;> rfl

end RoundTrip

/-! ## Transactions and blocks -/

/-- **Transaction and block blobs round-trip**, each under the conditions of
`parseAndValidateTxFromBlob_txToBlob` and `parseAndValidateBlockFromBlob_blockToBlob`. -/
theorem parse_tx_and_block_blobs_roundtrip :
    (∀ old tx : Transaction, (tx.version = 1 ∨ tx.version = 2) →
      (writeTransaction tx).ok = true → tx.WordsFit → tx.pruned = false → old.pruned = false →
      (tx.version = 2 → tx.vin ≠ []) → (tx.version = 2 → isCoinbase tx = false → tx.RingctShape) →
      ∃ tx', parseAndValidateTxFromBlob (txToBlob tx) old = some tx' ∧
        txToBlob tx' = txToBlob tx ∧
        tx'.toTransactionPrefix = { tx.toTransactionPrefix with isMmTx := old.isMmTx } ∧
        tx'.prefixSize = (writeTransactionPrefix tx.toTransactionPrefix).bytes.length % 2 ^ 32 ∧
        tx'.unprunableSize = ((writeTransactionPrefix tx.toTransactionPrefix).bytes.length +
          if tx.version = 1 then 0
          else (tx.rctSignatures.writeRctsigBase tx.vin.length tx.vout.length).bytes.length) %
            2 ^ 32) ∧
    (∀ old b : Block, b.majorVersion ≠ 0 → (writeBlock b).ok = true → b.WordsFit →
      b.minerTx.pruned = false → old.minerTx.pruned = false →
      (hasParentBlock b.majorVersion = true →
        b.parentBlock.minerTx.pruned = false ∧ old.parentBlock.minerTx.pruned = false) →
      ¬((b.minerTx.version = 0 ∨ currentTransactionVersion < b.minerTx.version) ∧
        old.minerTx.isMmTx = false) →
      ∃ b', parseAndValidateBlockFromBlob (blockToBlob b) old = some b' ∧
        blockToBlob b' = blockToBlob b ∧
        b'.toBlockHeader = { b.toBlockHeader with
          nonce := if hasParentBlock b.majorVersion then old.nonce else b.nonce } ∧
        b'.txHashes = b.txHashes) :=
  ⟨parseAndValidateTxFromBlob_txToBlob, parseAndValidateBlockFromBlob_blockToBlob⟩

/-- A version-2 coinbase of type `RCTTypeNull` paying 10 to one key. -/
def coinbaseTx : Transaction :=
  { version := 2, unlockTime := 60, isMmTx := false, vin := [.gen ⟨1⟩],
    vout := [⟨10, .toKey (Blob.zero 32)⟩], extra := [], signatures := [],
    rctSignatures := ⟨⟨rctTypeNull, [], [], [], 0⟩, ⟨[], [], [], []⟩⟩, pruned := false,
    unprunableSize := 0, prefixSize := 0 }

/-- A version-2 `RCTTypeBulletproof2` transaction spending one output of a ring of one: one
bulletproof of 6 rounds for its one output, one MLSAG and one pseudo-output. -/
def ringctTx : Transaction :=
  { version := 2, unlockTime := 0, isMmTx := false,
    vin := [.toKey ⟨0, [5], Blob.zero 32⟩], vout := [⟨0, .toKey (Blob.zero 32)⟩], extra := [],
    signatures := [],
    rctSignatures :=
      ⟨⟨rctTypeBulletproof2, [], [⟨Blob.zero 32, Blob.zero 32⟩], [⟨Blob.zero 32, Blob.zero 32⟩],
          100⟩,
        ⟨[], [⟨Blob.zero 32, Blob.zero 32, Blob.zero 32, Blob.zero 32, Blob.zero 32, Blob.zero 32,
          List.replicate 6 (Blob.zero 32), List.replicate 6 (Blob.zero 32), Blob.zero 32,
          Blob.zero 32, Blob.zero 32⟩], [⟨[[Blob.zero 32, Blob.zero 32]], Blob.zero 32⟩],
          [Blob.zero 32]⟩⟩,
    pruned := false, unprunableSize := 0, prefixSize := 0 }

/-- A merge-mined block of version 2 with one transaction hash: its parent block counts one
transaction, so its miner-transaction branch is empty, and the parent's miner transaction
carries a merge-mining tag of depth 0 (the tag byte `3`, the string's length `33`, the varint
depth and the root), so its blockchain branch is empty too. -/
def mergeMinedBlock : Block :=
  { majorVersion := 2, minorVersion := 2, timestamp := 1000, prevId := Blob.zero 32, nonce := 7,
    parentBlock := ⟨1, 0, Blob.zero 32, 9, 1, [],
      { coinbaseTx with extra := [3, 33, 0] ++ List.replicate 32 0 }, []⟩,
    minerTx := coinbaseTx, txHashes := [Blob.zero 32] }

/-- The RingCT transaction is parsed back into a cleared object; the merge-mined block into a
block object with another nonce and cleared miner transactions, which keeps its own nonce. -/
theorem parse_tx_and_block_blobs_roundtrip_ringct :
    let old : Block :=
      { mergeMinedBlock with
        nonce := 0, minerTx := coinbaseTx.setNull,
        parentBlock := { mergeMinedBlock.parentBlock with minerTx := coinbaseTx.setNull } }
    (∃ tx', parseAndValidateTxFromBlob (txToBlob ringctTx) ringctTx.setNull = some tx' ∧
      txToBlob tx' = txToBlob ringctTx ∧
      tx'.toTransactionPrefix = { ringctTx.toTransactionPrefix with isMmTx := false } ∧
      tx'.prefixSize = (writeTransactionPrefix ringctTx.toTransactionPrefix).bytes.length % 2 ^ 32 ∧
      tx'.unprunableSize = ((writeTransactionPrefix ringctTx.toTransactionPrefix).bytes.length +
        if ringctTx.version = 1 then 0
        else (ringctTx.rctSignatures.writeRctsigBase ringctTx.vin.length
          ringctTx.vout.length).bytes.length) % 2 ^ 32) ∧
    (∃ b', parseAndValidateBlockFromBlob (blockToBlob mergeMinedBlock) old = some b' ∧
      blockToBlob b' = blockToBlob mergeMinedBlock ∧
      b'.toBlockHeader = { mergeMinedBlock.toBlockHeader with
        nonce := if hasParentBlock mergeMinedBlock.majorVersion then old.nonce
          else mergeMinedBlock.nonce } ∧
      b'.txHashes = mergeMinedBlock.txHashes) := by
  intro old
  have hcoinbase : coinbaseTx.WordsFit := by
    simp [coinbaseTx, Transaction.WordsFit, TransactionPrefix.WordsFit, TxinV.WordsFit,
      TxOut.WordsFit]
  have hparentFit : ({ coinbaseTx with extra := [3, 33, 0] ++ List.replicate 32 0 } :
      Transaction).WordsFit := by
    simp [coinbaseTx, Transaction.WordsFit, TransactionPrefix.WordsFit, TxinV.WordsFit,
      TxOut.WordsFit]
  have hfit : ringctTx.WordsFit := by
    simp [ringctTx, Transaction.WordsFit, TransactionPrefix.WordsFit, TxinV.WordsFit,
      TxOut.WordsFit]
  -- the one bulletproof has 6 rounds, enough for the one output
  have hshape : ringctTx.RingctShape := by
    refine ⟨by decide, by simp [ringctTx], fun _ => ⟨_, rfl, by decide, by decide⟩, fun h => ?_⟩
    exact absurd h (by decide)
  have hblock : (writeBlock mergeMinedBlock).ok = true := by
    decide +kernel
  refine ⟨parse_tx_and_block_blobs_roundtrip.1 _ ringctTx (.inr rfl) (by decide) hfit rfl rfl
    (fun _ => by simp [ringctTx]) (fun _ _ => hshape),
    parse_tx_and_block_blobs_roundtrip.2 old mergeMinedBlock (by decide) hblock
      ⟨by decide, hcoinbase, fun _ => ⟨by decide, hparentFit⟩⟩ rfl rfl (fun _ => ⟨rfl, rfl⟩)
      (by decide)⟩

end Bittube.CryptonoteBasic

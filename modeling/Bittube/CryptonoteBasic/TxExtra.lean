import Bittube.Serialization.BinaryArchive

/-!
# The transaction extra field (`cryptonote_basic/tx_extra.h`, `parse_tx_extra`)

`tx_extra` is a sequence of `tx_extra_field` values, a `boost::variant` of six kinds written
with a one-byte variant tag. A padding of `size` bytes is the tag and `size - 1` zero bytes,
read by consuming zeros up to the end of the input (at most `TX_EXTRA_PADDING_MAX_COUNT`), so
only the last field can be a padding. A public key is 32 raw bytes and a nonce a string of at
most `TX_EXTRA_NONCE_MAX_COUNT` bytes. A merge-mining tag is a string that holds its own
archive, a varint depth and a 32-byte root, which must fill the string exactly. The last two
kinds are additional public keys (a container of keys) and the "mysterious minergate" string.

`parse_tx_extra` reads fields until `peek` sees the end of the input, then asks for a good
stream at its end. Every round that goes on has consumed at least its tag byte, which is the
measure of the loop.
-/

namespace Bittube.CryptonoteBasic

open ByteStream Bittube.Crypto Bittube.Serialization Bittube.Common.Varint

/-- `TX_EXTRA_PADDING_MAX_COUNT`. -/
def txExtraPaddingMaxCount : ℕ := 255

/-- `TX_EXTRA_NONCE_MAX_COUNT`. -/
def txExtraNonceMaxCount : ℕ := 255

/-- `tx_extra_field`, one constructor per alternative of the variant, with the fields of its
struct (`tx_extra_padding`, `tx_extra_pub_key`, `tx_extra_nonce`, `tx_extra_merge_mining_tag`,
`tx_extra_additional_pub_keys`, `tx_extra_mysterious_minergate`). -/
inductive TxExtraField
  | padding (size : ℕ)
  | pubKey (pubKey : PublicKey)
  | nonce (nonce : List UInt8)
  | mergeMiningTag (depth : ℕ) (merkleRoot : Hash)
  | additionalPubKeys (data : List PublicKey)
  | mysteriousMinergate (data : List UInt8)
  deriving DecidableEq, Repr

/-- The `VARIANT_TAG` of each alternative. -/
def TxExtraField.tag : TxExtraField → ℕ
  | .padding _ => 0x00
  | .pubKey _ => 0x01
  | .nonce _ => 0x02
  | .mergeMiningTag _ _ => 0x03
  | .additionalPubKeys _ => 0x04
  | .mysteriousMinergate _ => 0xDE

/-! ### Reading -/

/-- The loop of `tx_extra_padding::do_serialize` on a reading archive, from `size` with `n`
rounds of `size <= TX_EXTRA_PADDING_MAX_COUNT` left: stop at the end of the input, else read
one byte (`zero` in the source), which must be zero. -/
def readPaddingLoop : ℕ → ℕ → Istream → Option (ℕ × Istream)
  | 0, size, s => if size ≤ txExtraPaddingMaxCount then some (size, s) else none
  | n + 1, size, s =>
      if s.peekEof then
        if size ≤ txExtraPaddingMaxCount then some (size, s) else none
      else
        let (byte, s) := serializeUint 1 s
        if 0 ≠ byte then none else readPaddingLoop n (size + 1) s

/-- `tx_extra_padding::do_serialize` on a reading archive: `size` starts at 1 for the tag. -/
def readTxExtraPadding (s : Istream) : Option (ℕ × Istream) :=
  readPaddingLoop txExtraPaddingMaxCount 1 s

/-- `tx_extra_pub_key::do_serialize`: `FIELD(pub_key)`. -/
def readTxExtraPubKey (s : Istream) : Option (PublicKey × Istream) := do
  let (pubKey, s) ← field (readBlob 32) s
  if s.good then some (pubKey, s) else none

/-- `tx_extra_nonce::do_serialize`: `FIELD(nonce)`, and at most `TX_EXTRA_NONCE_MAX_COUNT`
bytes. -/
def readTxExtraNonce (s : Istream) : Option (List UInt8 × Istream) := do
  let (nonce, s) ← field readString s
  if txExtraNonceMaxCount < nonce.length then none
  else if s.good then some (nonce, s) else none

/-- `tx_extra_merge_mining_tag::serialize_helper::do_serialize`: `VARINT_FIELD_N("depth")`,
`FIELD_N("merkle_root")`. -/
def readMergeMiningHelper (s : Istream) : Option ((ℕ × Hash) × Istream) := do
  let (depth, s) := serializeVarint 64 s
  if !s.good then none
  else
    let (merkleRoot, s) ← field (readBlob 32) s
    if s.good then some ((depth, merkleRoot), s) else none

/-- `tx_extra_merge_mining_tag::do_serialize` on a reading archive: a string, parsed by
`::serialization::serialize` on an archive of its own. -/
def readTxExtraMergeMiningTag (s : Istream) : Option ((ℕ × Hash) × Istream) := do
  let (fieldStr, s) ← readString s
  let (tag, _) ← serialize readMergeMiningHelper (Istream.ofBytes fieldStr)
  some (tag, s)

/-- `tx_extra_additional_pub_keys::do_serialize`: `FIELD(data)`, a container of keys. -/
def readTxExtraAdditionalPubKeys (s : Istream) : Option (List PublicKey × Istream) := do
  let (data, s) ← field (readContainer (readBlob 32)) s
  if s.good then some (data, s) else none

/-- `tx_extra_mysterious_minergate::do_serialize`: `FIELD(data)`. -/
def readTxExtraMysteriousMinergate (s : Istream) : Option (List UInt8 × Istream) := do
  let (data, s) ← field readString s
  if s.good then some (data, s) else none

/-- The variant reader (`serialization/variant.h`) for `tx_extra_field`: the tag, then the
alternative with that tag; an unknown tag fails. -/
def readTxExtraField (s : Istream) : Option (TxExtraField × Istream) :=
  let (t, s) := serializeUint 1 s
  match t with
  | 0x00 => (readTxExtraPadding s).map fun (v, s) => (.padding v, s)
  | 0x01 => (readTxExtraPubKey s).map fun (v, s) => (.pubKey v, s)
  | 0x02 => (readTxExtraNonce s).map fun (v, s) => (.nonce v, s)
  | 0x03 => (readTxExtraMergeMiningTag s).map fun (v, s) => (.mergeMiningTag v.1 v.2, s)
  | 0x04 => (readTxExtraAdditionalPubKeys s).map fun (v, s) => (.additionalPubKeys v, s)
  | 0xDE => (readTxExtraMysteriousMinergate s).map fun (v, s) => (.mysteriousMinergate v, s)
  | _ => none

/-! ### Every field reader consumes -/

theorem readerConsumes_readPaddingLoop (n size : ℕ) : ReaderConsumes (readPaddingLoop n size) := by
  induction n generalizing size with
  | zero =>
    intro s v s' h
    simp only [readPaddingLoop] at h
    split_ifs at h
    simp only [Option.some.injEq, Prod.mk.injEq] at h
    obtain ⟨-, rfl⟩ := h
    exact Consumes.refl s
  | succ n ih =>
    intro s v s' h
    simp only [readPaddingLoop] at h
    split_ifs at h
    · simp only [Option.some.injEq, Prod.mk.injEq] at h
      obtain ⟨-, rfl⟩ := h
      exact Consumes.refl s
    · exact (consumes_serializeUint 1 s).trans (ih _ _ _ _ h)

/-- A reader followed by tests that may only fail consumes as the reader does. -/
theorem consumes_of_bind {α β : Type} {r : Istream → Option (α × Istream)}
    (hr : ReaderConsumes r) {k : α × Istream → Option (β × Istream)}
    (hk : ∀ p b s', k p = some (b, s') → s' = p.2) {s s' : Istream} {b : β}
    (h : (r s).bind k = some (b, s')) : Consumes s s' := by
  obtain ⟨⟨v, s₁⟩, h₁, h⟩ := Option.bind_eq_some_iff.mp h
  rw [hk _ _ _ h]
  exact hr _ _ _ h₁

theorem readerConsumes_readTxExtraPubKey : ReaderConsumes readTxExtraPubKey := by
  intro s v s' h
  simp only [readTxExtraPubKey, Option.bind_eq_bind] at h
  refine consumes_of_bind (readerConsumes_field (readerConsumes_readBlob 32)) ?_ h
  rintro ⟨v, s⟩ b s' hk
  split_ifs at hk
  simp only [Option.some.injEq, Prod.mk.injEq] at hk
  exact hk.2.symm

theorem readerConsumes_readTxExtraNonce : ReaderConsumes readTxExtraNonce := by
  intro s v s' h
  simp only [readTxExtraNonce, Option.bind_eq_bind] at h
  refine consumes_of_bind (readerConsumes_field readerConsumes_readString) ?_ h
  rintro ⟨v, s⟩ b s' hk
  split_ifs at hk
  simp only [Option.some.injEq, Prod.mk.injEq] at hk
  exact hk.2.symm

theorem readerConsumes_readTxExtraMergeMiningTag : ReaderConsumes readTxExtraMergeMiningTag := by
  intro s v s' h
  simp only [readTxExtraMergeMiningTag, Option.bind_eq_bind] at h
  refine consumes_of_bind readerConsumes_readString ?_ h
  rintro ⟨v, s⟩ b s' hk
  simp only [Option.bind_eq_some_iff, Option.some.injEq, Prod.mk.injEq] at hk
  obtain ⟨-, -, -, hs⟩ := hk
  exact hs.symm

theorem readerConsumes_readTxExtraAdditionalPubKeys :
    ReaderConsumes readTxExtraAdditionalPubKeys := by
  intro s v s' h
  simp only [readTxExtraAdditionalPubKeys, Option.bind_eq_bind] at h
  refine consumes_of_bind
    (readerConsumes_field (readerConsumes_readContainer (readerConsumes_readBlob 32))) ?_ h
  rintro ⟨v, s⟩ b s' hk
  split_ifs at hk
  simp only [Option.some.injEq, Prod.mk.injEq] at hk
  exact hk.2.symm

theorem readerConsumes_readTxExtraMysteriousMinergate :
    ReaderConsumes readTxExtraMysteriousMinergate := by
  intro s v s' h
  simp only [readTxExtraMysteriousMinergate, Option.bind_eq_bind] at h
  refine consumes_of_bind (readerConsumes_field readerConsumes_readString) ?_ h
  rintro ⟨v, s⟩ b s' hk
  split_ifs at hk
  simp only [Option.some.injEq, Prod.mk.injEq] at hk
  exact hk.2.symm

theorem readerConsumes_readTxExtraPadding : ReaderConsumes readTxExtraPadding :=
  readerConsumes_readPaddingLoop _ _

/-- An alternative's reader, wrapped into the variant, consumes as the reader does. -/
theorem consumes_of_map {α : Type} {r : Istream → Option (α × Istream)} (hr : ReaderConsumes r)
    {k : α × Istream → TxExtraField × Istream} (hk : ∀ p, (k p).2 = p.2) {s s' : Istream}
    {f : TxExtraField} (h : (r s).map k = some (f, s')) : Consumes s s' := by
  obtain ⟨⟨v, s₁⟩, hp, hkp⟩ := Option.map_eq_some_iff.mp h
  have hs : s' = s₁ := by simpa [hkp] using hk (v, s₁)
  rw [hs]
  exact hr _ _ _ hp

/-- After its tag, a field reader consumes. -/
theorem consumes_readTxExtraField {s s' : Istream} {f : TxExtraField}
    (h : readTxExtraField s = some (f, s')) : Consumes (serializeUint 1 s).2 s' := by
  simp only [readTxExtraField] at h
  split at h
  · exact consumes_of_map readerConsumes_readTxExtraPadding (fun _ => rfl) h
  · exact consumes_of_map readerConsumes_readTxExtraPubKey (fun _ => rfl) h
  · exact consumes_of_map readerConsumes_readTxExtraNonce (fun _ => rfl) h
  · exact consumes_of_map readerConsumes_readTxExtraMergeMiningTag (fun _ => rfl) h
  · exact consumes_of_map readerConsumes_readTxExtraAdditionalPubKeys (fun _ => rfl) h
  · exact consumes_of_map readerConsumes_readTxExtraMysteriousMinergate (fun _ => rfl) h
  · simp at h

/-- A field after which the input goes on has consumed at least its tag. -/
theorem length_lt_of_readTxExtraField {s s' : Istream} {f : TxExtraField}
    (h : readTxExtraField s = some (f, s')) (hend : ¬s'.peekEof = true) :
    s'.rest.length < s.rest.length := by
  have hcons := consumes_readTxExtraField h
  have hgood : s'.good = true := ((Istream.peekEof_eq_false_iff s').mp (by simpa using hend)).1
  have htag := length_serializeUint_one (hcons.2 hgood)
  have hsuffix := hcons.1.length_le
  omega

/-- The loop of `parse_tx_extra`: read a field, keep it, and stop when `peek` sees the end of
the input. -/
def parseTxExtraLoop (s : Istream) (fields : List TxExtraField) :
    Option (List TxExtraField × Istream) :=
  match _hread : readTxExtraField s with
  | none => none
  | some (field, s') =>
      if _hend : s'.peekEof then some (fields ++ [field], s')
      else parseTxExtraLoop s' (fields ++ [field])
termination_by s.rest.length
decreasing_by exact length_lt_of_readTxExtraField _hread _hend

/-- `parse_tx_extra(tx_extra, tx_extra_fields)`: the fields, or `none` where the source returns
`false`. -/
def parseTxExtra (txExtra : List UInt8) : Option (List TxExtraField) :=
  if txExtra = [] then some []
  else
    match parseTxExtraLoop (Istream.ofBytes txExtra) [] with
    | none => none
    | some (fields, s) => if checkStreamState false s then some fields else none

/-! ### Writing -/

/-- `tx_extra_padding::do_serialize` on a writing archive: `size - 1` zero bytes after the tag,
and `false` above `TX_EXTRA_PADDING_MAX_COUNT`. -/
def writeTxExtraPadding (size : ℕ) : Option (List UInt8) :=
  if txExtraPaddingMaxCount < size then none else some (List.replicate (size - 1) 0)

/-- `tx_extra_nonce::do_serialize` on a writing archive: the string, then `false` if it is longer
than `TX_EXTRA_NONCE_MAX_COUNT`. -/
def writeTxExtraNonce (nonce : List UInt8) : Option (List UInt8) :=
  if txExtraNonceMaxCount < nonce.length then none else some (writeString nonce)

/-- `tx_extra_merge_mining_tag::do_serialize` on a writing archive: the helper's archive (the
depth as a varint, the root), written as a string. -/
def writeTxExtraMergeMiningTag (depth : ℕ) (merkleRoot : Hash) : List UInt8 :=
  writeString (writeVarint depth ++ merkleRoot.data)

/-- The body of each alternative on a writing archive. -/
def writeTxExtraFieldBody : TxExtraField → Option (List UInt8)
  | .padding size => writeTxExtraPadding size
  | .pubKey pubKey => some pubKey.data
  | .nonce nonce => writeTxExtraNonce nonce
  | .mergeMiningTag depth merkleRoot => some (writeTxExtraMergeMiningTag depth merkleRoot)
  | .additionalPubKeys data => some (writeContainer Blob.data data)
  | .mysteriousMinergate data => some (writeString data)

/-- The variant writer for `tx_extra_field`: `write_variant_tag`, then the alternative. -/
def writeTxExtraField (field : TxExtraField) : Option (List UInt8) :=
  (writeTxExtraFieldBody field).map (writeUint 1 field.tag ++ ·)

/-- Each field of a list written in order with one archive. -/
def writeTxExtraFields (fields : List TxExtraField) : Option (List UInt8) :=
  (fields.mapM writeTxExtraField).map List.flatten

/-! ### Reading back what was written -/

/-- The fields the round trip covers: sizes in the range of `size_t`, a nonce of at most
`TX_EXTRA_NONCE_MAX_COUNT` bytes, a padding of 1 to `TX_EXTRA_PADDING_MAX_COUNT` bytes. -/
def TxExtraField.wellFormed : TxExtraField → Bool
  | .padding n => 1 ≤ n ∧ n ≤ txExtraPaddingMaxCount
  | .pubKey _ => true
  | .nonce bytes => bytes.length ≤ txExtraNonceMaxCount
  | .mergeMiningTag d _ => d < 2 ^ 64
  | .additionalPubKeys keys => keys.length < 2 ^ 64
  | .mysteriousMinergate bytes => bytes.length < 2 ^ 64

/-- Whether a field is a padding, which the reader lets run to the end of the input. -/
def TxExtraField.isPadding : TxExtraField → Bool
  | .padding _ => true
  | _ => false

theorem TxExtraField.isPadding_iff (f : TxExtraField) : f.isPadding = true ↔ f.tag = 0x00 := by
  cases f <;> simp [TxExtraField.isPadding, TxExtraField.tag]

section RoundTrip

variable {s : Istream} {rest : List UInt8}

theorem readPaddingLoop_replicate (k : ℕ) :
    ∀ (n size : ℕ) (s : Istream), s.good = true → s.rest = List.replicate k 0 → k ≤ n →
      size + k ≤ txExtraPaddingMaxCount →
      readPaddingLoop n size s = some (size + k, { s with rest := [] }) := by
  -- induction on the zeros still to read; each round of the loop reads one
  induction k with
  | zero =>
    intro n size s hs hrest _ hsize
    have hend : s.peekEof = true := by simp [Istream.peekEof, hrest]
    cases n with
    | zero => cases s; simp_all [readPaddingLoop]
    | succ n => cases s; simp_all [readPaddingLoop]
  | succ k ih =>
    intro n size s hs hrest hk hsize
    obtain ⟨n, rfl⟩ : ∃ m, n = m + 1 := ⟨n - 1, by omega⟩
    have hend : s.peekEof = false := by simp [Istream.peekEof, hs, hrest]
    have hbyte : serializeUint 1 s = (0, { s with rest := List.replicate k 0 }) :=
      serializeUint_writeUint 1 0 (by norm_num) hs (by simp [hrest, writeUint, List.replicate_succ])
    have hnext := ih n (size + 1) { s with rest := List.replicate k 0 } (by simpa using hs) rfl
      (by omega) (by omega)
    simp only [readPaddingLoop, hend, hbyte, if_false, Bool.false_eq_true, ne_eq,
      not_true_eq_false, hnext]
    congr 2
    omega

/-- A padding at the end of the input reads back with its size. -/
theorem readTxExtraPadding_write {size : ℕ} (h1 : 1 ≤ size) (hmax : size ≤ txExtraPaddingMaxCount)
    (hs : s.good = true) (hrest : s.rest = List.replicate (size - 1) 0) :
    readTxExtraPadding s = some (size, { s with rest := [] }) := by
  have h := readPaddingLoop_replicate (size - 1) txExtraPaddingMaxCount 1 s hs hrest
    (by simp only [txExtraPaddingMaxCount] at hmax ⊢; omega) (by omega)
  rw [show 1 + (size - 1) = size by omega] at h
  exact h

theorem readTxExtraPubKey_write (pubKey : PublicKey) (hs : s.good = true)
    (hrest : s.rest = pubKey.data ++ rest) :
    readTxExtraPubKey s = some (pubKey, { s with rest := rest }) := by
  have hgood : ({ s with rest := rest } : Istream).good = true := by simpa using hs
  have hkey := field_of_good (readBlob_append pubKey hs hrest) hgood
  simp [readTxExtraPubKey, hkey, hgood]

theorem readTxExtraNonce_write {nonce : List UInt8} (hlen : nonce.length ≤ txExtraNonceMaxCount)
    (hs : s.good = true) (hrest : s.rest = writeString nonce ++ rest) :
    readTxExtraNonce s = some (nonce, { s with rest := rest }) := by
  have hgood : ({ s with rest := rest } : Istream).good = true := by simpa using hs
  have hstr := field_of_good
    (readString_writeString nonce (by simp only [txExtraNonceMaxCount] at hlen; omega) hs hrest)
    hgood
  simp [readTxExtraNonce, hstr, hgood, Nat.not_lt.mpr hlen]

/-- The merge-mining helper's archive, read on a stream of its own, fills it exactly. -/
theorem serialize_readMergeMiningHelper {depth : ℕ} (merkleRoot : Hash) (hdepth : depth < 2 ^ 64) :
    serialize readMergeMiningHelper (Istream.ofBytes (writeVarint depth ++ merkleRoot.data)) =
      some ((depth, merkleRoot), ⟨[], false, false⟩) := by
  have hvar : serializeVarint 64 (Istream.ofBytes (writeVarint depth ++ merkleRoot.data)) =
      (depth, ⟨merkleRoot.data, false, false⟩) :=
    serializeVarint_writeVarint 64 depth hdepth rfl
  have hroot : field (readBlob 32) ⟨merkleRoot.data, false, false⟩ =
      some (merkleRoot, ⟨[], false, false⟩) :=
    field_of_good (readBlob_append merkleRoot rfl (List.append_nil _).symm) rfl
  simp [serialize, readMergeMiningHelper, hvar, hroot, checkStreamState, Istream.good,
    Istream.peekEof]

theorem readTxExtraMergeMiningTag_write {depth : ℕ} (merkleRoot : Hash) (hdepth : depth < 2 ^ 64)
    (hs : s.good = true) (hrest : s.rest = writeTxExtraMergeMiningTag depth merkleRoot ++ rest) :
    readTxExtraMergeMiningTag s = some ((depth, merkleRoot), { s with rest := rest }) := by
  -- the string holds at most ten varint bytes and the 32-byte root
  have hlen : (writeVarint depth ++ merkleRoot.data).length < 2 ^ 64 := by
    have hvar : (writeVarint depth).length ≤ 10 :=
      length_writeVarint_le (lt_of_lt_of_le hdepth (by norm_num)) (by norm_num)
    simp only [List.length_append, merkleRoot.size_eq]
    omega
  have hstr := readString_writeString _ hlen hs hrest
  simp [readTxExtraMergeMiningTag, hstr, serialize_readMergeMiningHelper merkleRoot hdepth]

theorem readTxExtraAdditionalPubKeys_write {data : List PublicKey} (hcount : data.length < 2 ^ 64)
    (hs : s.good = true) (hrest : s.rest = writeContainer Blob.data data ++ rest) :
    readTxExtraAdditionalPubKeys s = some (data, { s with rest := rest }) := by
  have hgood : ({ s with rest := rest } : Istream).good = true := by simpa using hs
  have hkeys := field_of_good
    (readContainer_writeContainer (fun key s rest hs hrest => readBlob_append key hs hrest)
      (fun key => by simp [key.size_eq]) data hcount hs hrest) hgood
  simp [readTxExtraAdditionalPubKeys, hkeys, hgood]

theorem readTxExtraMysteriousMinergate_write {data : List UInt8} (hlen : data.length < 2 ^ 64)
    (hs : s.good = true) (hrest : s.rest = writeString data ++ rest) :
    readTxExtraMysteriousMinergate s = some (data, { s with rest := rest }) := by
  have hgood : ({ s with rest := rest } : Istream).good = true := by simpa using hs
  have hstr := field_of_good (readString_writeString data hlen hs hrest) hgood
  simp [readTxExtraMysteriousMinergate, hstr, hgood]

theorem tag_lt (f : TxExtraField) : f.tag < 256 ^ 1 := by
  cases f <;> simp [TxExtraField.tag]

/-- A field that is not a padding reads back, whatever follows it. -/
theorem readTxExtraField_write {f : TxExtraField} (hf : f.wellFormed = true)
    (hpad : f.isPadding = false) {bytes : List UInt8} (hw : writeTxExtraField f = some bytes)
    (hs : s.good = true) (hrest : s.rest = bytes ++ rest) :
    readTxExtraField s = some (f, { s with rest := rest }) := by
  obtain ⟨body, hbody, rfl⟩ := Option.map_eq_some_iff.mp hw
  have htag : serializeUint 1 s = (f.tag, { s with rest := body ++ rest }) :=
    serializeUint_writeUint 1 f.tag (tag_lt f) hs (by rw [hrest, List.append_assoc])
  have hgood : ({ s with rest := body ++ rest } : Istream).good = true := by simpa using hs
  -- one case per alternative: the tag selects its reader, which reads the body back
  cases f with
  | padding size => simp [TxExtraField.isPadding] at hpad
  | pubKey pubKey =>
    simp only [writeTxExtraFieldBody, Option.some.injEq] at hbody
    subst hbody
    simp [readTxExtraField, htag, TxExtraField.tag, readTxExtraPubKey_write pubKey hgood rfl]
  | nonce nonce =>
    simp only [writeTxExtraFieldBody, writeTxExtraNonce] at hbody
    split_ifs at hbody
    simp only [Option.some.injEq] at hbody
    subst hbody
    have hlen : nonce.length ≤ txExtraNonceMaxCount := by
      simpa [TxExtraField.wellFormed] using hf
    simp [readTxExtraField, htag, TxExtraField.tag, readTxExtraNonce_write hlen hgood rfl]
  | mergeMiningTag depth merkleRoot =>
    simp only [writeTxExtraFieldBody, Option.some.injEq] at hbody
    subst hbody
    have hdepth : depth < 2 ^ 64 := by simpa [TxExtraField.wellFormed] using hf
    simp [readTxExtraField, htag, TxExtraField.tag,
      readTxExtraMergeMiningTag_write merkleRoot hdepth hgood rfl]
  | additionalPubKeys data =>
    simp only [writeTxExtraFieldBody, Option.some.injEq] at hbody
    subst hbody
    have hcount : data.length < 2 ^ 64 := by simpa [TxExtraField.wellFormed] using hf
    simp [readTxExtraField, htag, TxExtraField.tag,
      readTxExtraAdditionalPubKeys_write hcount hgood rfl]
  | mysteriousMinergate data =>
    simp only [writeTxExtraFieldBody, Option.some.injEq] at hbody
    subst hbody
    have hlen : data.length < 2 ^ 64 := by simpa [TxExtraField.wellFormed] using hf
    simp [readTxExtraField, htag, TxExtraField.tag, readTxExtraMysteriousMinergate_write hlen hgood rfl]

/-- A padding reads back when it ends the input. -/
theorem readTxExtraField_padding {size : ℕ} (h1 : 1 ≤ size) (hmax : size ≤ txExtraPaddingMaxCount)
    {bytes : List UInt8} (hw : writeTxExtraField (.padding size) = some bytes) (hs : s.good = true)
    (hrest : s.rest = bytes) : readTxExtraField s = some (.padding size, { s with rest := [] }) := by
  obtain ⟨body, hbody, rfl⟩ := Option.map_eq_some_iff.mp hw
  simp only [writeTxExtraFieldBody, writeTxExtraPadding, if_neg (Nat.not_lt.mpr hmax),
    Option.some.injEq] at hbody
  subst hbody
  have htag : serializeUint 1 s = (0, { s with rest := List.replicate (size - 1) 0 }) :=
    serializeUint_writeUint 1 0 (by norm_num) hs (by rw [hrest]; rfl)
  have hgood : ({ s with rest := List.replicate (size - 1) 0 } : Istream).good = true := by
    simpa using hs
  simp [readTxExtraField, htag, readTxExtraPadding_write h1 hmax hgood rfl]

end RoundTrip

/-! ### The loop of `parse_tx_extra` -/

/-- One round of the loop: the field read, then the test for the end of the input. -/
theorem parseTxExtraLoop_of_read {s s' : Istream} {f : TxExtraField} (fields : List TxExtraField)
    (h : readTxExtraField s = some (f, s')) :
    parseTxExtraLoop s fields =
      if s'.peekEof then some (fields ++ [f], s') else parseTxExtraLoop s' (fields ++ [f]) := by
  rw [parseTxExtraLoop]
  split
  · next hnone => rw [h] at hnone; cases hnone
  · next field s'' hread =>
    rw [h, Option.some.injEq, Prod.mk.injEq] at hread
    obtain ⟨rfl, rfl⟩ := hread
    simp only [dite_eq_ite]

theorem writeTxExtraFields_cons {f : TxExtraField} {fields : List TxExtraField}
    {bytes : List UInt8} (h : writeTxExtraFields (f :: fields) = some bytes) :
    ∃ head tail, writeTxExtraField f = some head ∧ writeTxExtraFields fields = some tail ∧
      bytes = head ++ tail := by
  simp only [writeTxExtraFields, List.mapM_cons, Option.pure_def, Option.bind_eq_bind,
    Option.map_eq_some_iff, Option.bind_eq_some_iff, Option.some.injEq] at h
  obtain ⟨_, ⟨head, hhead, heads, htail, rfl⟩, rfl⟩ := h
  exact ⟨head, heads.flatten, hhead, by simp [writeTxExtraFields, htail], by simp⟩

theorem writeTxExtraField_ne_nil {f : TxExtraField} {bytes : List UInt8}
    (h : writeTxExtraField f = some bytes) : bytes ≠ [] := by
  obtain ⟨body, -, rfl⟩ := Option.map_eq_some_iff.mp h
  simp [writeUint]

/-- The loop reads back a written list of fields, of which only the last may be a padding. -/
theorem parseTxExtraLoop_write (fields : List TxExtraField) (hne : fields ≠ [])
    (hwf : ∀ f ∈ fields, f.wellFormed = true)
    (hpad : ∀ f ∈ fields.dropLast, f.isPadding = false) :
    ∀ (acc : List TxExtraField) (bytes : List UInt8) (s : Istream),
      writeTxExtraFields fields = some bytes → s.good = true → s.rest = bytes →
      parseTxExtraLoop s acc = some (acc ++ fields, { s with rest := [] }) := by
  -- induction on the fields; each round of the loop reads the first one back
  induction fields with
  | nil => exact absurd rfl hne
  | cons f fields ih =>
    intro acc bytes s hw hs hrest
    obtain ⟨head, tail, hhead, htail, rfl⟩ := writeTxExtraFields_cons hw
    have hgood : ({ s with rest := tail } : Istream).good = true := by simpa using hs
    rcases eq_or_ne fields [] with rfl | hfields
    · -- the last field, a padding or not, ends the input
      have htail : tail = [] := by simpa [writeTxExtraFields] using htail.symm
      subst htail
      have hread : readTxExtraField s = some (f, { s with rest := [] }) := by
        cases hp : f.isPadding
        · exact readTxExtraField_write (hwf f (by simp)) hp hhead hs (by simp [hrest])
        · cases f with
          | padding size =>
            have hsize := hwf (.padding size) (by simp)
            simp only [TxExtraField.wellFormed, Bool.decide_and, Bool.and_eq_true,
              decide_eq_true_eq] at hsize
            exact readTxExtraField_padding hsize.1 hsize.2 hhead hs (by simp [hrest])
          | _ => simp [TxExtraField.isPadding] at hp
      rw [parseTxExtraLoop_of_read acc hread, if_pos (by simp [Istream.peekEof])]
    · -- a field that is followed by others is not a padding, and the input goes on
      have hfpad : f.isPadding = false :=
        hpad f (by rw [List.dropLast_cons_of_ne_nil hfields]; exact List.mem_cons_self)
      have hread := readTxExtraField_write (hwf f (by simp)) hfpad hhead hs hrest
      obtain ⟨g, gs, rfl⟩ := List.exists_cons_of_ne_nil hfields
      have hmore : ({ s with rest := tail } : Istream).peekEof = false := by
        obtain ⟨gh, ghs, hgh, -, heq⟩ := writeTxExtraFields_cons htail
        have hne : tail ≠ [] := by
          rw [heq]
          exact List.append_ne_nil_of_left_ne_nil (writeTxExtraField_ne_nil hgh) ghs
        simp [Istream.peekEof, hs, hne]
      rw [parseTxExtraLoop_of_read acc hread, hmore, if_neg Bool.false_ne_true,
        ih (List.cons_ne_nil g gs) (fun f hf => hwf f (List.mem_cons_of_mem _ hf))
          (fun f hf => hpad f (by rw [List.dropLast_cons_of_ne_nil hfields]; exact List.mem_cons_of_mem _ hf))
          (acc ++ [f]) _ _ htail hgood rfl]
      simp

theorem writeTxExtraField_isSome {f : TxExtraField} (hf : f.wellFormed = true) :
    ∃ bytes, writeTxExtraField f = some bytes := by
  cases f with
  | padding size =>
    have hmax : size ≤ txExtraPaddingMaxCount := by
      simp only [TxExtraField.wellFormed, Bool.decide_and, Bool.and_eq_true,
        decide_eq_true_eq] at hf
      exact hf.2
    simp [writeTxExtraField, writeTxExtraFieldBody, writeTxExtraPadding, Nat.not_lt.mpr hmax]
  | nonce nonce =>
    have hlen : nonce.length ≤ txExtraNonceMaxCount := by simpa [TxExtraField.wellFormed] using hf
    simp [writeTxExtraField, writeTxExtraFieldBody, writeTxExtraNonce, Nat.not_lt.mpr hlen]
  | _ => simp [writeTxExtraField, writeTxExtraFieldBody]

theorem writeTxExtraFields_isSome (fields : List TxExtraField)
    (hwf : ∀ f ∈ fields, f.wellFormed = true) : ∃ bytes, writeTxExtraFields fields = some bytes := by
  induction fields with
  | nil => exact ⟨[], rfl⟩
  | cons f fields ih =>
    obtain ⟨head, hhead⟩ := writeTxExtraField_isSome (hwf f (by simp))
    obtain ⟨tail, htail⟩ := ih (fun g hg => hwf g (List.mem_cons_of_mem _ hg))
    obtain ⟨heads, hheads, rfl⟩ := Option.map_eq_some_iff.mp htail
    exact ⟨head ++ heads.flatten, by simp [writeTxExtraFields, hhead, hheads]⟩

/-- Bytes written from a list of fields, each within its size limits and with a padding only as
its last field, parse back to that list. -/
theorem parseTxExtra_of_write {fields : List TxExtraField} {bytes : List UInt8}
    (hwf : ∀ f ∈ fields, f.wellFormed = true)
    (hpad : ∀ f ∈ fields.dropLast, f.isPadding = false)
    (hw : writeTxExtraFields fields = some bytes) : parseTxExtra bytes = some fields := by
  rcases eq_or_ne fields [] with rfl | hne
  · simp only [writeTxExtraFields, List.mapM_nil, Option.pure_def, Option.map_some,
      List.flatten_nil, Option.some.injEq] at hw
    subst hw
    rfl
  · obtain ⟨f, fs, rfl⟩ := List.exists_cons_of_ne_nil hne
    obtain ⟨head, tail, hhead, -, rfl⟩ := writeTxExtraFields_cons hw
    have hbytes : head ++ tail ≠ [] :=
      List.append_ne_nil_of_left_ne_nil (writeTxExtraField_ne_nil hhead) tail
    have hloop := parseTxExtraLoop_write (f :: fs) hne hwf hpad [] _ (Istream.ofBytes (head ++ tail))
      hw rfl rfl
    rw [parseTxExtra, if_neg hbytes, hloop]
    simp [checkStreamState, Istream.good, Istream.peekEof, Istream.ofBytes]

/-- **The `tx_extra` round trip.** A list of fields, each within its size limits and with a
padding only as its last field, written field by field with the binary archive, is parsed back
by `parse_tx_extra` to the same list. -/
theorem parseTxExtra_writeTxExtraFields (fields : List TxExtraField)
    (hwf : ∀ f ∈ fields, f.wellFormed = true)
    (hpad : ∀ f ∈ fields.dropLast, f.isPadding = false) :
    (writeTxExtraFields fields).bind parseTxExtra = some fields := by
  obtain ⟨bytes, hw⟩ := writeTxExtraFields_isSome fields hwf
  rw [hw, Option.bind_some]
  exact parseTxExtra_of_write hwf hpad hw

/-- A public key followed by a padding of three bytes. -/
theorem parseTxExtra_writeTxExtraFields_key_padding :
    (∀ f ∈ [TxExtraField.pubKey (Blob.zero 32), .padding 3], f.wellFormed = true) ∧
      (∀ f ∈ [TxExtraField.pubKey (Blob.zero 32), .padding 3].dropLast, f.isPadding = false) ∧
      (writeTxExtraFields [.pubKey (Blob.zero 32), .padding 3]).bind parseTxExtra =
        some [.pubKey (Blob.zero 32), .padding 3] :=
  ⟨by decide, by decide, parseTxExtra_writeTxExtraFields _ (by decide) (by decide)⟩

/-! ### What `parse_tx_extra` returns -/

/-- The padding loop returns a size from `size` up to `TX_EXTRA_PADDING_MAX_COUNT`, and when its
rounds could reach past that bound it has stopped at the end of the input. -/
theorem readPaddingLoop_spec : ∀ (n size : ℕ) (s : Istream) {k : ℕ} {s' : Istream},
    readPaddingLoop n size s = some (k, s') →
      size ≤ k ∧ k ≤ txExtraPaddingMaxCount ∧
        (txExtraPaddingMaxCount < size + n → s'.peekEof = true)
  | 0, size, s, k, s', h => by
    simp only [readPaddingLoop] at h
    split_ifs at h with hmax
    obtain ⟨rfl, rfl⟩ := Prod.mk.inj (Option.some.inj h)
    exact ⟨Nat.le_refl _, hmax, fun hlt => absurd hlt (by omega)⟩
  | n + 1, size, s, k, s', h => by
    simp only [readPaddingLoop] at h
    split_ifs at h with heof hmax
    · obtain ⟨rfl, rfl⟩ := Prod.mk.inj (Option.some.inj h)
      exact ⟨Nat.le_refl _, hmax, fun _ => heof⟩
    · -- one zero byte read: the loop goes on from `size + 1`
      obtain ⟨hle, hmax', heof'⟩ := readPaddingLoop_spec n (size + 1) _ h
      exact ⟨by omega, hmax', fun hlt => heof' (by omega)⟩

theorem readTxExtraNonce_length {s s' : Istream} {nonce : List UInt8}
    (h : readTxExtraNonce s = some (nonce, s')) : nonce.length ≤ txExtraNonceMaxCount := by
  simp only [readTxExtraNonce, Option.bind_eq_bind, Option.bind_eq_some_iff] at h
  obtain ⟨⟨n, s₁⟩, -, h⟩ := h
  split_ifs at h with hlen
  obtain ⟨rfl, -⟩ := Prod.mk.inj (Option.some.inj h)
  exact Nat.le_of_not_lt hlen

theorem readTxExtraMergeMiningTag_depth_lt {s s' : Istream} {tag : ℕ × Hash}
    (h : readTxExtraMergeMiningTag s = some (tag, s')) : tag.1 < 2 ^ 64 := by
  simp only [readTxExtraMergeMiningTag, Option.bind_eq_bind, Option.bind_eq_some_iff] at h
  obtain ⟨⟨str, s₁⟩, -, ⟨tag', s₂⟩, hser, h⟩ := h
  obtain ⟨rfl, -⟩ := Prod.mk.inj (Option.some.inj h)
  simp only [serialize, Option.bind_eq_bind, Option.bind_eq_some_iff] at hser
  obtain ⟨⟨tag'', s₃⟩, hhelper, hser⟩ := hser
  split_ifs at hser
  obtain ⟨rfl, -⟩ := Prod.mk.inj (Option.some.inj hser)
  have hdepth := serializeVarint_lt 64 (Istream.ofBytes str)
  simp only [readMergeMiningHelper, Option.bind_eq_bind] at hhelper
  split_ifs at hhelper
  obtain ⟨⟨root, s₄⟩, -, hhelper⟩ := Option.bind_eq_some_iff.1 hhelper
  split_ifs at hhelper
  obtain ⟨rfl, -⟩ := Prod.mk.inj (Option.some.inj hhelper)
  exact hdepth

/-- Every field the reader returns is within the limits the writer checks. -/
theorem readTxExtraField_wellFormed {s s' : Istream} {f : TxExtraField}
    (h : readTxExtraField s = some (f, s')) : f.wellFormed = true := by
  simp only [readTxExtraField] at h
  split at h
  · obtain ⟨⟨k, s₁⟩, hk, hf⟩ := Option.map_eq_some_iff.1 h
    obtain ⟨rfl, -⟩ := Prod.mk.inj hf
    obtain ⟨hle, hmax, -⟩ := readPaddingLoop_spec _ _ _ hk
    simpa [TxExtraField.wellFormed] using ⟨hle, hmax⟩
  · obtain ⟨⟨k, s₁⟩, -, hf⟩ := Option.map_eq_some_iff.1 h
    obtain ⟨rfl, -⟩ := Prod.mk.inj hf
    rfl
  · obtain ⟨⟨n, s₁⟩, hn, hf⟩ := Option.map_eq_some_iff.1 h
    obtain ⟨rfl, -⟩ := Prod.mk.inj hf
    simpa [TxExtraField.wellFormed] using readTxExtraNonce_length hn
  · obtain ⟨⟨tag, s₁⟩, htag, hf⟩ := Option.map_eq_some_iff.1 h
    obtain ⟨rfl, -⟩ := Prod.mk.inj hf
    simpa [TxExtraField.wellFormed] using readTxExtraMergeMiningTag_depth_lt htag
  · obtain ⟨⟨keys, s₁⟩, hkeys, hf⟩ := Option.map_eq_some_iff.1 h
    obtain ⟨rfl, -⟩ := Prod.mk.inj hf
    simp only [readTxExtraAdditionalPubKeys, Option.bind_eq_bind, Option.bind_eq_some_iff] at hkeys
    obtain ⟨⟨keys', s₂⟩, hread, hkeys⟩ := hkeys
    split_ifs at hkeys
    obtain ⟨rfl, -⟩ := Prod.mk.inj (Option.some.inj hkeys)
    simpa [TxExtraField.wellFormed] using length_readContainer_lt (field_eq_some hread).1
  · obtain ⟨⟨data, s₁⟩, hdata, hf⟩ := Option.map_eq_some_iff.1 h
    obtain ⟨rfl, -⟩ := Prod.mk.inj hf
    simp only [readTxExtraMysteriousMinergate, Option.bind_eq_bind,
      Option.bind_eq_some_iff] at hdata
    obtain ⟨⟨data', s₂⟩, hread, hdata⟩ := hdata
    split_ifs at hdata
    obtain ⟨rfl, -⟩ := Prod.mk.inj (Option.some.inj hdata)
    simpa [TxExtraField.wellFormed] using length_readString_lt (field_eq_some hread).1
  · simp at h

/-- A padding runs to the end of the input. -/
theorem readTxExtraField_padding_peekEof {s s' : Istream} {f : TxExtraField}
    (h : readTxExtraField s = some (f, s')) (hpad : f.isPadding = true) : s'.peekEof = true := by
  cases f with
  | padding k =>
    simp only [readTxExtraField] at h
    split at h
    · obtain ⟨⟨k', s₁⟩, hk, hf⟩ := Option.map_eq_some_iff.1 h
      obtain ⟨-, rfl⟩ := Prod.mk.inj hf
      exact (readPaddingLoop_spec _ _ _ hk).2.2 (by simp [txExtraPaddingMaxCount])
    all_goals simp at h
  | _ => simp [TxExtraField.isPadding] at hpad

/-- A run of the loop starts with a field read. -/
theorem exists_read_of_parseTxExtraLoop {s : Istream} {acc : List TxExtraField}
    {r : List TxExtraField × Istream} (h : parseTxExtraLoop s acc = some r) :
    ∃ f s', readTxExtraField s = some (f, s') := by
  rw [parseTxExtraLoop] at h
  split at h
  · cases h
  · next f s' hread => exact ⟨f, s', hread⟩

/-- What a run of the loop adds to the fields: at least one field, each within the writer's
limits, with a padding only as the last. The induction is on a bound of the input left. -/
theorem parseTxExtraLoop_fields : ∀ (n : ℕ) (s : Istream), s.rest.length < n →
    ∀ {acc res : List TxExtraField} {s' : Istream}, parseTxExtraLoop s acc = some (res, s') →
      ∃ added, res = acc ++ added ∧ added ≠ [] ∧ (∀ f ∈ added, f.wellFormed = true) ∧
        ∀ f ∈ added.dropLast, f.isPadding = false
  | 0, _, hlen, _, _, _, _ => absurd hlen (Nat.not_lt_zero _)
  | n + 1, s, hlen, acc, res, s', h => by
    obtain ⟨f, s₁, hread⟩ := exists_read_of_parseTxExtraLoop h
    have hwf := readTxExtraField_wellFormed hread
    rw [parseTxExtraLoop_of_read acc hread] at h
    split_ifs at h with hend
    · obtain ⟨rfl, -⟩ := Prod.mk.inj (Option.some.inj h)
      exact ⟨[f], rfl, List.cons_ne_nil _ _, by simpa using hwf, by simp⟩
    · -- the input goes on, so `f` is no padding and the rest is a shorter run
      have hnotpad : f.isPadding = false :=
        Bool.eq_false_iff.2 fun hpad => hend (readTxExtraField_padding_peekEof hread hpad)
      have hshorter := length_lt_of_readTxExtraField hread hend
      obtain ⟨added, rfl, hne, hwf', hpad'⟩ := parseTxExtraLoop_fields n s₁ (by omega) h
      refine ⟨f :: added, by simp, List.cons_ne_nil _ _, ?_, ?_⟩
      · intro g hg
        rcases List.mem_cons.1 hg with rfl | hg
        · exact hwf
        · exact hwf' g hg
      · rw [List.dropLast_cons_of_ne_nil hne]
        intro g hg
        rcases List.mem_cons.1 hg with rfl | hg
        · exact hnotpad
        · exact hpad' g hg

/-- The fields `parse_tx_extra` returns are the ones its round trip covers: each within the
writer's limits, with a padding only as the last. -/
theorem parseTxExtra_fields {x : List UInt8} {fields : List TxExtraField}
    (h : parseTxExtra x = some fields) :
    (∀ f ∈ fields, f.wellFormed = true) ∧ ∀ f ∈ fields.dropLast, f.isPadding = false := by
  rw [parseTxExtra] at h
  split_ifs at h with hx
  · obtain rfl := Option.some.inj h
    simp
  · split at h
    · cases h
    · next fs s hloop =>
      split_ifs at h
      obtain rfl := Option.some.inj h
      obtain ⟨added, rfl, -, hwf, hpad⟩ := parseTxExtraLoop_fields _ _ (Nat.lt_succ_self _) hloop
      simpa using ⟨hwf, hpad⟩

/-- `parse_tx_extra` accepts the nonce tag alone: the string's size is a varint at the end of
the input, which `read_varint` reports as read (zero bytes, value zero) without failing the
stream, so the field is an empty nonce; written back, the empty nonce takes two bytes. -/
theorem parseTxExtra_nonce_tag_only :
    parseTxExtra [0x02] = some [.nonce []] ∧ writeTxExtraFields [.nonce []] = some [0x02, 0x00] := by
  have hread : readTxExtraField (Istream.ofBytes [0x02]) = some (.nonce [], ⟨[], false, false⟩) := by
    decide
  have hloop := parseTxExtraLoop_of_read [] hread
  refine ⟨?_, ?_⟩
  · simp [parseTxExtra, hloop, Istream.peekEof, Istream.good, checkStreamState]
  · simp [writeTxExtraFields, writeTxExtraField, writeTxExtraFieldBody, writeTxExtraNonce,
      writeString, writeVarint_of_lt, writeUint, TxExtraField.tag, txExtraNonceMaxCount]

end Bittube.CryptonoteBasic

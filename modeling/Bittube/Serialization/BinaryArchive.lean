import Bittube.Lib.FixedRadix
import Bittube.Lib.IStream
import Bittube.Common.Varint
import Bittube.Crypto.Types
import Mathlib.Algebra.Order.BigOperators.Group.List

/-!
# The binary archive (`serialization/binary_archive.h`, `serialization.h`)

`binary_archive<false>` reads from an `std::istream`, `binary_archive<true>` writes to an
`std::ostream`. The reading side is modelled over `ByteStream.Istream`. The archive's own
operations return `void` in the source and only change the stream: here they are functions
`Istream → α × Istream` (`serializeUint`, `serializeBlob`, `serializeVarint`), and a failure
shows only in the stream's flags. The `do_serialize` overloads return `bool`: here
`Istream → Option (α × Istream)`, with `none` where the source returns `false`. Every caller
gives up at once on `false`, so the stream left behind by a failed read is never looked at and
is not kept. `FIELD` also gives up when the stream is no longer good (`field`), and
`::serialization::serialize` additionally asks for the end of the input (`checkStreamState`).

Varints are read through `std::istreambuf_iterator`, past the stream's flags: a varint cut
off by the end of the input is read as what was accumulated so far, and the stream stays
good. That is the source's behaviour, and it matters for which byte strings the parsers
accept.

The writing side appends to an `std::ostringstream`, which does not fail: writers are plain
byte lists, or `Option` where the source's `do_serialize` can return `false`.
-/

namespace Bittube.Serialization

open ByteStream FixedRadix Bittube.Common.Varint Bittube.Crypto

/-! ### Reading -/

/-- The loop of `serialize_uint`: `get(c)`, then `ret += c << shift` and `shift += 8`. A byte
that `get` cannot deliver leaves `c` unset in the source; it counts as `0` here, and the stream
has failed by then. -/
def serializeUintLoop : ℕ → ℕ → ℕ → Istream → ℕ × Istream
  | 0, _, ret, s => (ret, s)
  | i + 1, shift, ret, s =>
      let (c, s) := s.get
      serializeUintLoop i (shift + 8) (ret + (c.getD 0).toNat <<< shift) s

/-- `binary_archive<false>::serialize_uint(v, width)`: `width` bytes, little-endian. -/
def serializeUint (width : ℕ) (s : Istream) : ℕ × Istream := serializeUintLoop width 0 0 s

/-- `binary_archive<false>::serialize_blob(buf, len)`: `stream_.read(buf, len)`. -/
def serializeBlob (len : ℕ) (s : Istream) : List UInt8 × Istream := s.read len

/-- `binary_archive<false>::serialize_uvarint(v)` for a `bits`-bit integer: `read_varint` on
the stream buffer, and `failbit` when it reports an error. -/
def serializeVarint (bits : ℕ) (s : Istream) : ℕ × Istream :=
  let (read, v, rest) := readVarint bits s.rest
  (v, if read < 0 then Istream.setFail { s with rest := rest } else { s with rest := rest })

/-- `binary_archive<false>::remaining_bytes()`: `eof_pos_ - tellg()` on a good stream. -/
def remainingBytes (s : Istream) : ℕ := if s.good then s.rest.length else 0

/-- `check_stream_state(ar, noeof)` on a reading archive: the stream is good and, unless
`noeof`, at the end of its input. -/
def checkStreamState (noeof : Bool) (s : Istream) : Bool := s.good && (noeof || s.peekEof)

/-- `FIELD(f)`: `do_serialize` the field, and give up if it failed or the stream is no longer
good. -/
def field {α : Type} (r : Istream → Option (α × Istream)) (s : Istream) :
    Option (α × Istream) := do
  let (v, s) ← r s
  if s.good then some (v, s) else none

/-- `::serialization::serialize(ar, v)` on a reading archive. -/
def serialize {α : Type} (r : Istream → Option (α × Istream)) (s : Istream) :
    Option (α × Istream) := do
  let (v, s) ← r s
  if checkStreamState false s then some (v, s) else none

/-- `::serialization::parse_binary(blob, v)`. -/
def parseBinary {α : Type} (r : Istream → Option (α × Istream)) (blob : List UInt8) : Option α :=
  (serialize r (Istream.ofBytes blob)).map Prod.fst

/-- `do_serialize` of a POD blob type of `n` bytes (`BLOB_SERIALIZER`): `serialize_blob`, and
`true`. A short read leaves the tail of the value unset in the source; it is zero here. -/
def readBlob (n : ℕ) (s : Istream) : Option (Blob n × Istream) :=
  let (bytes, s) := serializeBlob n s
  some (Blob.ofList n bytes, s)

/-- `do_serialize(ar, uint8_t&)`: `serialize_int`, one byte. -/
def readUint8 (s : Istream) : Option (ℕ × Istream) := some (serializeUint 1 s)

/-- `do_serialize(ar, uint32_t&)`: `serialize_int`, four bytes. -/
def readUint32 (s : Istream) : Option (UInt32 × Istream) :=
  let (v, s) := serializeUint 4 s
  some (v.toUInt32, s)

/-- `VARINT_FIELD(f)` for a `bits`-bit field: `serialize_varint`, then give up if the stream is
no longer good. -/
def varintField (bits : ℕ) (s : Istream) : Option (ℕ × Istream) :=
  let (v, s) := serializeVarint bits s
  if s.good then some (v, s) else none

/-- `do_serialize(Archive<false>&, std::string&)` (`serialization/string.h`). -/
def readString (s : Istream) : Option (List UInt8 × Istream) :=
  let (size, s) := serializeVarint 64 s
  if remainingBytes s < size then none
  else some (serializeBlob size s)

/-- The element loop of `do_serialize_container`: each element, then a check that the stream
is still good. -/
def readElems {α : Type} (elem : Istream → Option (α × Istream)) :
    ℕ → Istream → Option (List α × Istream)
  | 0, s => some ([], s)
  | n + 1, s => do
      let (e, s) ← elem s
      if s.good then
        let (es, s) ← readElems elem n s
        some (e :: es, s)
      else none

/-- `do_serialize_container(Archive<false>&, C&)` (`serialization/container.h`): the count as a
varint, the sanity check against the remaining bytes, then the elements. -/
def readContainer {α : Type} (elem : Istream → Option (α × Istream)) (s : Istream) :
    Option (List α × Istream) :=
  let (cnt, s) := serializeVarint 64 s
  if !s.good then none
  else if remainingBytes s < cnt then none
  else readElems elem cnt s

/-- `std::vector::resize(n)`: the first `n` elements, then value-initialised ones (`d`). -/
def vectorResize {α : Type} (v : List α) (n : ℕ) (d : α) : List α :=
  v.take n ++ List.replicate (n - v.length) d

/-- A loop `for (i = 0; i < v.size(); ++i)` over a vector the reader has already sized
(`PREPARE_CUSTOM_VECTOR_SERIALIZATION`): each element is read in place, from its old value, and
the loop gives up at the first read that fails. The element reader carries its own `FIELDS`
check where the source has one. -/
def readEach {α : Type} (elem : α → Istream → Option (α × Istream)) :
    List α → Istream → Option (List α × Istream)
  | [], s => some ([], s)
  | x :: xs, s => do
      let (y, s) ← elem x s
      let (ys, s) ← readEach elem xs s
      some (y :: ys, s)

/-! ### Writing -/

/-- `binary_archive<true>::serialize_uint(v)`: `put(v & 0xff)` and `v >>= 8`, `width` times. -/
def writeUint (width v : ℕ) : List UInt8 := (digitsLE 256 width v).map Nat.toUInt8

/-- `do_serialize(Archive<true>&, std::string&)`: the size as a varint, then the bytes. -/
def writeString (str : List UInt8) : List UInt8 := writeVarint str.length ++ str

/-- `do_serialize_container(Archive<true>&, C&)`: the count as a varint, then the elements. -/
def writeContainer {α : Type} (elem : α → List UInt8) (xs : List α) : List UInt8 :=
  writeVarint xs.length ++ xs.flatMap elem

/-- What a writing `do_serialize` leaves: the bytes it put on the stream, and its `bool`. A
writer stops at its first `return false`, and the callers that ignore the result
(`t_serializable_object_to_blob`, the weight functions) keep the bytes written up to there. -/
structure Written where
  bytes : List UInt8
  ok : Bool
  deriving DecidableEq, Repr

namespace Written

/-- Bytes put on an `std::ostringstream`, which does not fail. -/
def put (bytes : List UInt8) : Written := ⟨bytes, true⟩

/-- `return false` with nothing more written. -/
def fail : Written := ⟨[], false⟩

/-- One part of an object after another: the second is written only if the first succeeded. -/
def andThen (w k : Written) : Written := if w.ok then ⟨w.bytes ++ k.bytes, k.ok⟩ else w

/-- `if (!cond) return false;` before the rest. -/
def check (cond : Bool) (k : Written) : Written := if cond then k else fail

/-- A loop writing one part per element, stopping at the first that fails. -/
def each {α : Type} (f : α → Written) : List α → Written
  | [] => put []
  | x :: xs => andThen (f x) (each f xs)

@[simp] theorem put_ok (bytes : List UInt8) : (put bytes).ok = true := rfl
@[simp] theorem put_bytes (bytes : List UInt8) : (put bytes).bytes = bytes := rfl
@[simp] theorem fail_ok : fail.ok = false := rfl

@[simp] theorem andThen_ok (w k : Written) : (andThen w k).ok = (w.ok && k.ok) := by
  unfold andThen
  cases hw : w.ok <;> simp [hw]

@[simp] theorem check_ok (cond : Bool) (k : Written) : (check cond k).ok = (cond && k.ok) := by
  unfold check
  cases cond <;> simp [fail]

@[simp] theorem put_andThen (bytes : List UInt8) (k : Written) :
    (put bytes).andThen k = ⟨bytes ++ k.bytes, k.ok⟩ := rfl

@[simp] theorem check_true (k : Written) : check true k = k := rfl

theorem andThen_bytes {w k : Written} (h : w.ok = true) :
    (andThen w k).bytes = w.bytes ++ k.bytes := by
  simp [andThen, h]

theorem check_bytes {cond : Bool} {k : Written} (h : cond = true) : (check cond k).bytes = k.bytes := by
  simp [check, h]

theorem each_ok_iff {α : Type} (f : α → Written) (xs : List α) :
    (each f xs).ok = true ↔ ∀ x ∈ xs, (f x).ok = true := by
  induction xs with
  | nil => simp [each]
  | cons x xs ih => simp [each, ih]

theorem each_bytes {α : Type} {f : α → Written} {xs : List α} (h : ∀ x ∈ xs, (f x).ok = true) :
    (each f xs).bytes = xs.flatMap fun x => (f x).bytes := by
  induction xs with
  | nil => rfl
  | cons x xs ih =>
    rw [each, andThen_bytes (h x List.mem_cons_self),
      ih fun y hy => h y (List.mem_cons_of_mem x hy), List.flatMap_cons]

end Written

/-! ### Readers only consume

Every reader leaves a suffix of the bytes it was given, and a stream that is good after it was
good before it. The loop of `parse_tx_extra` terminates because of this: each round that goes
on has read at least its variant tag. -/

/-- `s'` is what a reader may leave of `s`. -/
def Consumes (s s' : Istream) : Prop := s'.rest <:+ s.rest ∧ (s'.good = true → s.good = true)

theorem Consumes.refl (s : Istream) : Consumes s s := ⟨List.suffix_refl _, id⟩

theorem Consumes.trans {s₁ s₂ s₃ : Istream} (h₁ : Consumes s₁ s₂) (h₂ : Consumes s₂ s₃) :
    Consumes s₁ s₃ :=
  ⟨h₂.1.trans h₁.1, fun h => h₁.2 (h₂.2 h)⟩

theorem consumes_get (s : Istream) : Consumes s s.get.2 := by
  refine ⟨?_, fun h => Istream.good_of_good_get h⟩
  unfold Istream.get
  split
  · split
    · simp
    · next c rest hrest => simp [hrest]
  · exact List.suffix_refl _

theorem consumes_read (n : ℕ) (s : Istream) : Consumes s (s.read n).2 := by
  refine ⟨?_, fun h => Istream.good_of_good_read h⟩
  unfold Istream.read
  split
  · split
    · exact List.drop_suffix _ _
    · exact List.nil_suffix
  · exact List.suffix_refl _

theorem consumes_serializeUintLoop (width shift ret : ℕ) (s : Istream) :
    Consumes s (serializeUintLoop width shift ret s).2 := by
  induction width generalizing shift ret s with
  | zero => exact Consumes.refl s
  | succ w ih => exact (consumes_get s).trans (ih _ _ _)

theorem consumes_serializeUint (width : ℕ) (s : Istream) : Consumes s (serializeUint width s).2 :=
  consumes_serializeUintLoop width 0 0 s

theorem consumes_serializeVarint (bits : ℕ) (s : Istream) :
    Consumes s (serializeVarint bits s).2 := by
  have hsuf := readVarint_suffix bits s.rest
  rcases hread : readVarint bits s.rest with ⟨read, v, rest⟩
  rw [hread] at hsuf
  simp only [serializeVarint, hread]
  split_ifs
  · exact ⟨hsuf, by simp⟩
  · exact ⟨hsuf, fun h => by simpa [Istream.good] using h⟩

/-- A `bool` reader consumes on every run that succeeds. -/
def ReaderConsumes {α : Type} (r : Istream → Option (α × Istream)) : Prop :=
  ∀ s v s', r s = some (v, s') → Consumes s s'

theorem readerConsumes_field {α : Type} {r : Istream → Option (α × Istream)}
    (hr : ReaderConsumes r) : ReaderConsumes (field r) := by
  intro s v s' h
  simp only [field, Option.bind_eq_bind] at h
  obtain ⟨⟨v₀, s₀⟩, h₀, h⟩ := Option.bind_eq_some_iff.mp h
  split_ifs at h
  simp only [Option.some.injEq, Prod.mk.injEq] at h
  obtain ⟨-, rfl⟩ := h
  exact hr _ _ _ h₀

theorem readerConsumes_readBlob (n : ℕ) : ReaderConsumes (readBlob n) := by
  intro s v s' h
  simp only [readBlob, Option.some.injEq, Prod.mk.injEq] at h
  obtain ⟨-, rfl⟩ := h
  exact consumes_read n s

theorem readerConsumes_readString : ReaderConsumes readString := by
  intro s v s' h
  simp only [readString] at h
  split_ifs at h
  simp only [Option.some.injEq] at h
  have hs' : s' = (serializeBlob (serializeVarint 64 s).1 (serializeVarint 64 s).2).2 := by rw [h]
  rw [hs']
  exact (consumes_serializeVarint 64 s).trans (consumes_read _ _)

theorem readerConsumes_readElems {α : Type} {elem : Istream → Option (α × Istream)}
    (helem : ReaderConsumes elem) (n : ℕ) : ReaderConsumes (readElems elem n) := by
  induction n with
  | zero =>
    intro s v s' h
    simp only [readElems, Option.some.injEq, Prod.mk.injEq] at h
    obtain ⟨-, rfl⟩ := h
    exact Consumes.refl s
  | succ n ih =>
    intro s v s' h
    simp only [readElems, Option.bind_eq_bind] at h
    obtain ⟨⟨e, s₁⟩, h₁, h⟩ := Option.bind_eq_some_iff.mp h
    split_ifs at h
    obtain ⟨⟨es, s₂⟩, h₂, h⟩ := Option.bind_eq_some_iff.mp h
    simp only [Option.some.injEq, Prod.mk.injEq] at h
    obtain ⟨-, rfl⟩ := h
    exact (helem _ _ _ h₁).trans (ih _ _ _ h₂)

theorem readerConsumes_readContainer {α : Type} {elem : Istream → Option (α × Istream)}
    (helem : ReaderConsumes elem) : ReaderConsumes (readContainer elem) := by
  intro s v s' h
  simp only [readContainer] at h
  split_ifs at h
  exact (consumes_serializeVarint 64 s).trans (readerConsumes_readElems helem _ _ _ _ h)

/-- Reading the variant tag from a stream that stays good consumes exactly one byte. -/
theorem length_serializeUint_one {s : Istream} (h : (serializeUint 1 s).2.good = true) :
    (serializeUint 1 s).2.rest.length + 1 = s.rest.length := by
  obtain ⟨c, rest, hrest, hget⟩ := Istream.get_of_good (s := s) (by
    have := consumes_serializeUintLoop 0 8 ((s.get.1.getD 0).toNat) s.get.2
    exact this.2 (by simpa [serializeUint, serializeUintLoop] using h))
  simp [serializeUint, serializeUintLoop, hget, hrest]

/-! ### The sizes the readers return -/

/-- A varint read fits its width. -/
theorem serializeVarint_lt (bits : ℕ) (s : Istream) : (serializeVarint bits s).1 < 2 ^ bits := by
  have hlt := readVarint_lt bits s.rest
  unfold serializeVarint
  generalize readVarint bits s.rest = r at hlt ⊢
  obtain ⟨read, v, rest⟩ := r
  exact hlt

/-- A string read is shorter than its `size_t` length allows. -/
theorem length_readString_lt {s s' : Istream} {str : List UInt8}
    (h : readString s = some (str, s')) : str.length < 2 ^ 64 := by
  have hsize := serializeVarint_lt 64 s
  unfold readString at h
  generalize serializeVarint 64 s = p at hsize h
  obtain ⟨size, s₁⟩ := p
  simp only at hsize h
  split_ifs at h
  obtain ⟨rfl, -⟩ := Prod.mk.inj (Option.some.inj h)
  exact Nat.lt_of_le_of_lt (Istream.length_read_le s₁ size) hsize

/-- The element loop returns as many elements as it was asked for. -/
theorem length_readElems {α : Type} {elem : Istream → Option (α × Istream)} :
    ∀ (n : ℕ) (s : Istream) {xs : List α} {s' : Istream}, readElems elem n s = some (xs, s') →
      xs.length = n
  | 0, s, xs, s', h => by
    obtain ⟨rfl, -⟩ := Prod.mk.inj (Option.some.inj h)
    rfl
  | n + 1, s, xs, s', h => by
    simp only [readElems, Option.bind_eq_bind, Option.bind_eq_some_iff] at h
    obtain ⟨⟨e, s₁⟩, -, h⟩ := h
    split_ifs at h
    obtain ⟨⟨es, s₂⟩, hes, h⟩ := Option.bind_eq_some_iff.1 h
    obtain ⟨rfl, -⟩ := Prod.mk.inj (Option.some.inj h)
    rw [List.length_cons, length_readElems n s₁ hes]

/-- A container read holds fewer elements than its `size_t` count allows. -/
theorem length_readContainer_lt {α : Type} {elem : Istream → Option (α × Istream)} {s s' : Istream}
    {xs : List α} (h : readContainer elem s = some (xs, s')) : xs.length < 2 ^ 64 := by
  have hcnt := serializeVarint_lt 64 s
  unfold readContainer at h
  generalize serializeVarint 64 s = p at hcnt h
  obtain ⟨cnt, s₁⟩ := p
  simp only at hcnt h
  split_ifs at h
  rw [length_readElems cnt s₁ h]
  exact hcnt

/-! ### The archive operations on good streams -/

section Reading

variable {s : Istream} {rest : List UInt8}

theorem serializeUintLoop_append (width shift ret v : ℕ) (hv : v < 256 ^ width)
    (hret : ret < 2 ^ shift) (s : Istream) (hs : s.good = true)
    (hrest : s.rest = writeUint width v ++ rest) :
    serializeUintLoop width shift ret s = (ret + v * 2 ^ shift, { s with rest := rest }) := by
  -- induction on the width; the accumulator holds the bytes read so far, below `2 ^ shift`
  induction width generalizing shift ret v s with
  | zero =>
    have hv0 : v = 0 := by simpa using hv
    simp only [writeUint, digitsLE_zero, List.map_nil, List.nil_append] at hrest
    subst hv0
    simp only [serializeUintLoop, zero_mul, add_zero]
    cases s
    simp_all
  | succ w ih =>
    simp only [writeUint, digitsLE_succ, List.map_cons, List.cons_append] at hrest
    have hbyte : ((v % 256).toUInt8).toNat = v % 256 := by
      rw [toNat_toUInt8, Nat.mod_mod]
    have hget := Istream.get_cons hs hrest
    have hnext : v / 256 < 256 ^ w := by
      rw [pow_succ] at hv
      omega
    have hacc : ret + (v % 256) <<< shift < 2 ^ (shift + 8) := by
      rw [Nat.shiftLeft_eq, pow_add]
      have : v % 256 < 256 := Nat.mod_lt _ (by norm_num)
      nlinarith
    simp only [serializeUintLoop, hget, Option.getD_some, hbyte]
    rw [ih (shift + 8) _ (v / 256) hnext hacc _ (by simpa using hs) rfl]
    refine Prod.ext ?_ rfl
    have hsplit := Nat.div_add_mod v 256
    calc ret + (v % 256) <<< shift + v / 256 * 2 ^ (shift + 8)
        = ret + (256 * (v / 256) + v % 256) * 2 ^ shift := by rw [Nat.shiftLeft_eq, pow_add]; ring
      _ = ret + v * 2 ^ shift := by rw [hsplit]

/-- `serialize_uint` reads back what `serialize_uint` wrote. -/
theorem serializeUint_writeUint (width v : ℕ) (hv : v < 256 ^ width) (hs : s.good = true)
    (hrest : s.rest = writeUint width v ++ rest) :
    serializeUint width s = (v, { s with rest := rest }) := by
  have h := serializeUintLoop_append width 0 0 v hv (by norm_num) s hs hrest
  simpa [serializeUint] using h

/-- `serialize_varint` reads back a written varint and leaves the stream good. -/
theorem serializeVarint_writeVarint (bits v : ℕ) (hv : v < 2 ^ bits)
    (hrest : s.rest = writeVarint v ++ rest) :
    serializeVarint bits s = (v, { s with rest := rest }) := by
  have hread := readVarint_writeVarint bits v hv rest
  have hnonneg : ¬((writeVarint v).length : ℤ) < 0 := by omega
  simp only [serializeVarint, hrest, hread, if_neg hnonneg]

theorem serializeBlob_append (hs : s.good = true) (front : List UInt8)
    (hrest : s.rest = front ++ rest) :
    serializeBlob front.length s = (front, { s with rest := rest }) :=
  Istream.read_append hs hrest

theorem readBlob_append {n : ℕ} (b : Blob n) (hs : s.good = true)
    (hrest : s.rest = b.data ++ rest) : readBlob n s = some (b, { s with rest := rest }) := by
  have h := serializeBlob_append hs b.data hrest
  rw [b.size_eq] at h
  simp only [readBlob, h, Blob.ofList_data]

/-- `do_serialize` of a string reads back a written string. -/
theorem readString_writeString (str : List UInt8) (hlen : str.length < 2 ^ 64)
    (hs : s.good = true) (hrest : s.rest = writeString str ++ rest) :
    readString s = some (str, { s with rest := rest }) := by
  have hvar : serializeVarint 64 s = (str.length, { s with rest := str ++ rest }) :=
    serializeVarint_writeVarint 64 str.length hlen (by rw [hrest, writeString, List.append_assoc])
  have hgood : ({ s with rest := str ++ rest } : Istream).good = true := by simpa using hs
  have hremain : ¬remainingBytes { s with rest := str ++ rest } < str.length := by
    simp [remainingBytes, hgood]
  have hblob : serializeBlob str.length { s with rest := str ++ rest } =
      (str, { s with rest := rest }) := serializeBlob_append hgood str rfl
  simp only [readString, hvar, if_neg hremain, hblob]

theorem field_eq_some {α : Type} {r : Istream → Option (α × Istream)} {s s' : Istream} {v : α}
    (h : field r s = some (v, s')) : r s = some (v, s') ∧ s'.good = true := by
  simp only [field, Option.bind_eq_bind] at h
  obtain ⟨⟨v', s''⟩, hr, h⟩ := Option.bind_eq_some_iff.mp h
  split_ifs at h with hgood
  rw [Option.some.injEq, Prod.mk.injEq] at h
  obtain ⟨rfl, rfl⟩ := h
  exact ⟨hr, hgood⟩

theorem field_of_good {α : Type} {r : Istream → Option (α × Istream)} {v : α} {s' : Istream}
    (h : r s = some (v, s')) (hs' : s'.good = true) : field r s = some (v, s') := by
  simp [field, h, hs']

/-- A reader that stops good at the end of its input parses the whole blob. -/
theorem parseBinary_of_run {α : Type} {r : Istream → Option (α × Istream)} {blob : List UInt8}
    {v : α} {s' : Istream} (h : r (Istream.ofBytes blob) = some (v, s')) (hs' : s'.good = true)
    (hend : s'.rest = []) : parseBinary r blob = some v := by
  have hcheck : checkStreamState false s' = true := by
    simp [checkStreamState, hs', Istream.peekEof_of_good hs', hend]
  simp [parseBinary, serialize, h, hcheck]

/-- The element loop reads back a written container, element by element. -/
theorem readElems_append {α : Type} {elem : Istream → Option (α × Istream)}
    {w : α → List UInt8}
    (helem : ∀ (x : α) (s : Istream) (rest : List UInt8), s.good = true →
      s.rest = w x ++ rest → elem s = some (x, { s with rest := rest }))
    (xs : List α) (hs : s.good = true) (hrest : s.rest = xs.flatMap w ++ rest) :
    readElems elem xs.length s = some (xs, { s with rest := rest }) := by
  induction xs generalizing s with
  | nil =>
    cases s
    simp_all [readElems]
  | cons x xs ih =>
    have hx := helem x s (xs.flatMap w ++ rest) hs (by rw [hrest, List.flatMap_cons,
      List.append_assoc])
    have hgood : ({ s with rest := xs.flatMap w ++ rest } : Istream).good = true := by simpa using hs
    have hxs := ih (s := { s with rest := xs.flatMap w ++ rest }) hgood rfl
    simp [readElems, hx, hgood, hxs]

/-- `do_serialize_container` reads back a written container whose elements are never empty. -/
theorem readContainer_writeContainer {α : Type} {elem : Istream → Option (α × Istream)}
    {w : α → List UInt8}
    (helem : ∀ (x : α) (s : Istream) (rest : List UInt8), s.good = true →
      s.rest = w x ++ rest → elem s = some (x, { s with rest := rest }))
    (hw : ∀ x, 1 ≤ (w x).length) (xs : List α) (hcount : xs.length < 2 ^ 64)
    (hs : s.good = true) (hrest : s.rest = writeContainer w xs ++ rest) :
    readContainer elem s = some (xs, { s with rest := rest }) := by
  have hvar : serializeVarint 64 s = (xs.length, { s with rest := xs.flatMap w ++ rest }) :=
    serializeVarint_writeVarint 64 xs.length hcount
      (by rw [hrest, writeContainer, List.append_assoc])
  have hgood : ({ s with rest := xs.flatMap w ++ rest } : Istream).good = true := by simpa using hs
  -- the sanity check passes: every element takes at least one byte
  have hlen : xs.length ≤ (xs.flatMap w).length := by
    rw [List.length_flatMap]
    calc xs.length = (xs.map fun _ => 1).sum := by simp
      _ ≤ (xs.map fun x => (w x).length).sum := List.sum_le_sum (fun x _ => hw x)
  have hremain : ¬remainingBytes { s with rest := xs.flatMap w ++ rest } < xs.length := by
    simp only [remainingBytes, hgood, if_true, List.length_append]
    omega
  have helems := readElems_append helem xs hgood rfl
  simp only [readContainer, hvar, hgood, Bool.not_true, if_false, hremain, helems]
  rfl

@[simp] theorem length_vectorResize {α : Type} (v : List α) (n : ℕ) (d : α) :
    (vectorResize v n d).length = n := by
  simp only [vectorResize, List.length_append, List.length_take, List.length_replicate]
  omega

/-- A loop over a sized vector reads back the written elements; each element comes out as
`g` of its old value and the written one (the written one itself where every field of it is
serialized). -/
theorem readEach_append {α : Type} {elem : α → Istream → Option (α × Istream)}
    {w : α → List UInt8} {g : α → α → α} {P : α → Prop}
    (helem : ∀ (o x : α) (s : Istream) (rest : List UInt8), s.good = true → P x →
      s.rest = w x ++ rest → elem o s = some (g o x, { s with rest := rest }))
    (olds xs : List α) (hlen : olds.length = xs.length) (hP : ∀ x ∈ xs, P x)
    (hs : s.good = true) (hrest : s.rest = xs.flatMap w ++ rest) :
    readEach elem olds s = some (List.zipWith g olds xs, { s with rest := rest }) := by
  -- induction on the old elements, the written ones taken apart alongside
  induction olds generalizing xs s with
  | nil =>
    obtain rfl : xs = [] := List.length_eq_zero_iff.mp hlen.symm
    cases s
    simp_all [readEach]
  | cons o olds ih =>
    obtain ⟨x, xs, rfl⟩ := List.exists_cons_of_length_eq_add_one hlen.symm
    have hx := helem o x s (xs.flatMap w ++ rest) hs (hP x List.mem_cons_self)
      (by rw [hrest, List.flatMap_cons, List.append_assoc])
    have hgood : ({ s with rest := xs.flatMap w ++ rest } : Istream).good = true := by
      simpa using hs
    have hxs := ih xs (by simpa using hlen) (fun y hy => hP y (List.mem_cons_of_mem x hy))
      (s := { s with rest := xs.flatMap w ++ rest }) hgood rfl
    simp [readEach, hx, hxs]

/-! ### Round trips over the unread bytes

A good stream is `Istream.ofBytes` of its unread bytes (`Istream.eq_ofBytes_of_good`). Stated
over `ofBytes`, the round trips of the archive operations chain by `simp`: each leaves the
stream over the bytes behind what it read. -/

/-- The `do` blocks of the readers unfold to `>>=` of `Option`; this reduces one bind at a time
(the library's route through `Option.bind` is much slower on long readers). -/
theorem some_bind {α β : Type} (a : α) (f : α → Option β) : (some a >>= f) = f a := rfl

@[simp] theorem readBlob_ofBytes {n : ℕ} (b : Blob n) (rest : List UInt8) :
    readBlob n (Istream.ofBytes (b.data ++ rest)) = some (b, Istream.ofBytes rest) :=
  readBlob_append b (Istream.good_ofBytes _) rfl

theorem field_of_ofBytes {α : Type} {r : Istream → Option (α × Istream)} {s : Istream} {v : α}
    {rest : List UInt8} (h : r s = some (v, Istream.ofBytes rest)) :
    field r s = some (v, Istream.ofBytes rest) :=
  field_of_good h (Istream.good_ofBytes _)

@[simp] theorem field_readBlob_ofBytes {n : ℕ} (b : Blob n) (rest : List UInt8) :
    field (readBlob n) (Istream.ofBytes (b.data ++ rest)) = some (b, Istream.ofBytes rest) := by
  simp [field]

theorem serializeVarint_ofBytes {bits v : ℕ} (hv : v < 2 ^ bits) (rest : List UInt8) :
    serializeVarint bits (Istream.ofBytes (writeVarint v ++ rest)) = (v, Istream.ofBytes rest) :=
  serializeVarint_writeVarint bits v hv rfl

theorem serializeUint_ofBytes {width v : ℕ} (hv : v < 256 ^ width) (rest : List UInt8) :
    serializeUint width (Istream.ofBytes (writeUint width v ++ rest)) =
      (v, Istream.ofBytes rest) :=
  serializeUint_writeUint width v hv (Istream.good_ofBytes _) rfl

theorem varintField_ofBytes {bits v : ℕ} (hv : v < 2 ^ bits) (rest : List UInt8) :
    varintField bits (Istream.ofBytes (writeVarint v ++ rest)) = some (v, Istream.ofBytes rest) := by
  simp [varintField, serializeVarint_ofBytes hv]

@[simp] theorem readUint32_ofBytes (x : UInt32) (rest : List UInt8) :
    readUint32 (Istream.ofBytes (writeUint 4 x.toNat ++ rest)) = some (x, Istream.ofBytes rest) := by
  have hx : x.toNat < 256 ^ 4 := by simpa using x.toNat_lt_size
  simp [readUint32, serializeUint_ofBytes hx]

/-- An element reader stated over the unread bytes, in the form the archive lemmas take. -/
theorem elem_of_ofBytes {α : Type} {elem : Istream → Option (α × Istream)} {bytes : List UInt8}
    {v : α} (helem : ∀ rest, elem (Istream.ofBytes (bytes ++ rest)) = some (v, Istream.ofBytes rest))
    (s : Istream) (rest : List UInt8) (hs : s.good = true) (hrest : s.rest = bytes ++ rest) :
    elem s = some (v, { s with rest := rest }) := by
  rw [Istream.eq_ofBytes_of_good hs, hrest, helem rest]
  rfl

theorem readContainer_ofBytes {α : Type} {elem : Istream → Option (α × Istream)}
    {w : α → List UInt8}
    (helem : ∀ x rest, elem (Istream.ofBytes (w x ++ rest)) = some (x, Istream.ofBytes rest))
    (hw : ∀ x, 1 ≤ (w x).length) (xs : List α) (hcount : xs.length < 2 ^ 64)
    (rest : List UInt8) :
    readContainer elem (Istream.ofBytes (writeContainer w xs ++ rest)) =
      some (xs, Istream.ofBytes rest) :=
  readContainer_writeContainer (fun x => elem_of_ofBytes (helem x)) hw xs hcount
    (Istream.good_ofBytes _) rfl

theorem readElems_ofBytes {α : Type} {elem : Istream → Option (α × Istream)}
    {w : α → List UInt8} {P : α → Prop}
    (helem : ∀ x rest, P x → elem (Istream.ofBytes (w x ++ rest)) = some (x, Istream.ofBytes rest))
    (xs : List α) (hP : ∀ x ∈ xs, P x) (rest : List UInt8) :
    readElems elem xs.length (Istream.ofBytes (xs.flatMap w ++ rest)) =
      some (xs, Istream.ofBytes rest) := by
  induction xs with
  | nil => rfl
  | cons x xs ih =>
    simp only [List.length_cons, List.flatMap_cons, List.append_assoc, readElems,
      helem x _ (hP x List.mem_cons_self), some_bind, Istream.good_ofBytes, if_true,
      ih (fun y hy => hP y (List.mem_cons_of_mem x hy))]

/-- `do_serialize_container` reads back a written container whose elements read back and are
never empty. -/
theorem readContainer_ofBytes_of_mem {α : Type} {elem : Istream → Option (α × Istream)}
    {w : α → List UInt8} {P : α → Prop}
    (helem : ∀ x rest, P x → elem (Istream.ofBytes (w x ++ rest)) = some (x, Istream.ofBytes rest))
    (hw : ∀ x, 1 ≤ (w x).length) (xs : List α) (hP : ∀ x ∈ xs, P x)
    (hcount : xs.length < 2 ^ 64) (rest : List UInt8) :
    readContainer elem (Istream.ofBytes (writeContainer w xs ++ rest)) =
      some (xs, Istream.ofBytes rest) := by
  -- the sanity check passes: every element takes at least one byte
  have hlen : xs.length ≤ (xs.flatMap w).length := by
    rw [List.length_flatMap]
    calc xs.length = (xs.map fun _ => 1).sum := by simp
      _ ≤ (xs.map fun x => (w x).length).sum := List.sum_le_sum (fun x _ => hw x)
  have hremain : ¬remainingBytes (Istream.ofBytes (xs.flatMap w ++ rest)) < xs.length := by
    simp only [remainingBytes, Istream.good_ofBytes, if_true, Istream.rest_ofBytes,
      List.length_append]
    omega
  simp only [readContainer, writeContainer, List.append_assoc, serializeVarint_ofBytes hcount,
    Istream.good_ofBytes, Bool.not_true, Bool.false_eq_true, if_false, hremain,
    readElems_ofBytes helem xs hP rest]

/-- A container of blobs reads back. -/
theorem readContainer_readBlob_ofBytes {n : ℕ} (hn : 0 < n) (xs : List (Blob n))
    (hcount : xs.length < 2 ^ 64) (rest : List UInt8) :
    readContainer (readBlob n) (Istream.ofBytes (writeContainer Blob.data xs ++ rest)) =
      some (xs, Istream.ofBytes rest) :=
  readContainer_ofBytes (readBlob_ofBytes) (fun x => by rw [x.size_eq]; exact hn) xs hcount rest

theorem field_readContainer_readBlob_ofBytes {n : ℕ} (hn : 0 < n) (xs : List (Blob n))
    (hcount : xs.length < 2 ^ 64) (rest : List UInt8) :
    field (readContainer (readBlob n)) (Istream.ofBytes (writeContainer Blob.data xs ++ rest)) =
      some (xs, Istream.ofBytes rest) := by
  simp [field, readContainer_readBlob_ofBytes hn xs hcount]

theorem readEach_ofBytes {α : Type} {elem : α → Istream → Option (α × Istream)}
    {w : α → List UInt8} {g : α → α → α} {P : α → Prop}
    (helem : ∀ o x rest, P x →
      elem o (Istream.ofBytes (w x ++ rest)) = some (g o x, Istream.ofBytes rest))
    (olds xs : List α) (hlen : olds.length = xs.length) (hP : ∀ x ∈ xs, P x)
    (rest : List UInt8) :
    readEach elem olds (Istream.ofBytes (xs.flatMap w ++ rest)) =
      some (List.zipWith g olds xs, Istream.ofBytes rest) := by
  apply readEach_append _ olds xs hlen hP (Istream.good_ofBytes _) rfl
  intro o x s rest hs hx hrest
  exact elem_of_ofBytes (fun rest => helem o x rest hx) s rest hs hrest

/-- `readEach_ofBytes` for element readers that read back every written element. -/
theorem readEach_ofBytes_total {α : Type} {elem : α → Istream → Option (α × Istream)}
    {w : α → List UInt8} {g : α → α → α}
    (helem : ∀ o x rest,
      elem o (Istream.ofBytes (w x ++ rest)) = some (g o x, Istream.ofBytes rest))
    (olds xs : List α) (hlen : olds.length = xs.length) (rest : List UInt8) :
    readEach elem olds (Istream.ofBytes (xs.flatMap w ++ rest)) =
      some (List.zipWith g olds xs, Istream.ofBytes rest) :=
  readEach_ofBytes (fun o x rest (_ : True) => helem o x rest) olds xs hlen (fun _ _ => trivial)
    rest

theorem zipWith_snd_of_length_eq {α : Type} :
    ∀ (l₁ l₂ : List α), l₁.length = l₂.length → List.zipWith (fun _ x => x) l₁ l₂ = l₂
  | [], [], _ => rfl
  | _ :: l₁, x :: l₂, h => by
    rw [List.zipWith_cons_cons, zipWith_snd_of_length_eq l₁ l₂ (by simpa using h)]

/-- Elements updated from old values write as the originals when the update keeps what the
element writer reads. -/
theorem flatMap_zipWith_of_length_eq {α β : Type} {g : α → α → α} {f : α → List β}
    (hg : ∀ o x, f (g o x) = f x) :
    ∀ (olds xs : List α), olds.length = xs.length → (List.zipWith g olds xs).flatMap f = xs.flatMap f
  | [], [], _ => rfl
  | _ :: olds, x :: xs, h => by
    rw [List.zipWith_cons_cons, List.flatMap_cons, List.flatMap_cons, hg,
      flatMap_zipWith_of_length_eq hg olds xs (by simpa using h)]

/-- Elements that each write `c` bytes write `c` bytes apiece. -/
theorem length_flatMap_const {α β : Type} {f : α → List β} {c : ℕ} :
    ∀ {xs : List α}, (∀ x ∈ xs, (f x).length = c) → (xs.flatMap f).length = xs.length * c
  | [], _ => by simp
  | x :: xs, h => by
    rw [List.flatMap_cons, List.length_append, h x List.mem_cons_self,
      length_flatMap_const fun y hy => h y (List.mem_cons_of_mem x hy), List.length_cons,
      Nat.succ_mul, Nat.add_comm]

theorem length_flatMap_data {n : ℕ} (xs : List (Blob n)) :
    (xs.flatMap Blob.data).length = xs.length * n :=
  length_flatMap_const fun x _ => x.size_eq

/-- A loop whose elements are read whole reads back the written elements. -/
theorem readEach_ofBytes_whole {α : Type} {elem : α → Istream → Option (α × Istream)}
    {w : α → List UInt8} {P : α → Prop}
    (helem : ∀ o x rest, P x →
      elem o (Istream.ofBytes (w x ++ rest)) = some (x, Istream.ofBytes rest))
    (olds xs : List α) (hlen : olds.length = xs.length) (hP : ∀ x ∈ xs, P x)
    (rest : List UInt8) :
    readEach elem olds (Istream.ofBytes (xs.flatMap w ++ rest)) = some (xs, Istream.ofBytes rest) := by
  rw [readEach_ofBytes helem olds xs hlen hP rest, zipWith_snd_of_length_eq olds xs hlen]

/-- A loop of `FIELDS` over blobs reads back the written blobs. -/
theorem readEach_blobs_ofBytes {n : ℕ} (olds xs : List (Blob n)) (hlen : olds.length = xs.length)
    (rest : List UInt8) :
    readEach (fun _ => field (readBlob n)) olds (Istream.ofBytes (xs.flatMap Blob.data ++ rest)) =
      some (xs, Istream.ofBytes rest) :=
  readEach_ofBytes_whole (fun _ x rest (_ : True) => field_readBlob_ofBytes x rest) olds xs hlen
    (fun _ _ => trivial) rest

end Reading

end Bittube.Serialization

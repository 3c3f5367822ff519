import Bittube.Epee.PortableStorageToBin
import Bittube.Epee.PortableStorageFromBin

/-!
# What `pack_entry_to_buff` writes, `throwable_buffer_reader` reads back

Each lemma here says that a writer succeeds and that the matching reader, given enough of the
recursion budget, reads back what was written, whatever follows it in the buffer
(`ByteReader.Reads`). They go from the leaves up: words, varints, strings and names first. A
varint's first byte carries the mark of its width, and a count of at most `2^62 - 1` fits the
widest word. An array is its count and its elements, and its count passes the sanity check
because every element takes at least one byte. A value of each of the thirteen alternatives is
read back given that the sections inside it are. A section's entries are inserted into the map
in the order they were written, which is the map's own order.

By induction on the nesting, a section nested `d` deep is read back with a budget of
`10 + 5 * d`. Each level of sections costs three guards, each level of arrays of sections five,
and the deepest leaf, an array of strings, ten.
-/

namespace Bittube.Epee.Serialization

open ByteReader

variable {α β : Type} {lim : ℕ}

/-! ### Words, varints, strings and names -/

theorem leBytes_one {n : ℕ} (hn : n < 256) : leBytes 1 n = [n.toUInt8] := by
  simp [Nat.mod_eq_of_lt hn, leBytes]

theorem leBytes_ne_nil {k : ℕ} (n : ℕ) (hk : 0 < k) : leBytes k n ≠ [] :=
  List.ne_nil_of_length_pos (by simpa using hk)

theorem leBytes_one_toNat (b : UInt8) : leBytes 1 b.toNat = [b] := by
  rw [leBytes_one b.toNat_lt]
  simp

theorem reads_readRaw (bs : List UInt8) (hlim : 1 ≤ lim) : Reads (readRaw bs.length lim) bs bs := by
  obtain ⟨l, rfl⟩ : ∃ l, lim = l + 1 := ⟨lim - 1, by omega⟩
  simp only [readRaw]
  refine Reads.remaining_bind fun m hm => ?_
  rw [if_pos hm]
  exact Reads.take bs

/-- `read(pod_val)` reads the little-endian word of any number below `256 ^ sizeof`. -/
theorem reads_readPod (c : Pod α) {n : ℕ} (hn : n < 256 ^ c.size) (hlim : 2 ≤ lim) :
    Reads (readPod c lim) (leBytes c.size n) (c.ofBits n) := by
  obtain ⟨l, rfl⟩ : ∃ l, lim = l + 1 := ⟨lim - 1, by omega⟩
  have hraw : Reads (readRaw c.size l) (leBytes c.size n) (leBytes c.size n) := by
    simpa using reads_readRaw (leBytes c.size n) (by omega : 1 ≤ l)
  have hval : c.ofBits (leValue (leBytes c.size n)) = c.ofBits n := by
    rw [leValue_leBytes, Nat.mod_eq_of_lt hn]
  simp only [readPod]
  rw [← hval]
  exact hraw.bind_pure _

theorem reads_readValue (c : Pod α) {n : ℕ} (hn : n < 256 ^ c.size) (hlim : 3 ≤ lim) :
    Reads (readValue c lim) (leBytes c.size n) (c.ofBits n) := by
  obtain ⟨l, rfl⟩ : ∃ l, lim = l + 1 := ⟨lim - 1, by omega⟩
  simp only [readValue]
  exact reads_readPod c hn (by omega)

/-- A value's bytes, as `pack_pod_type` writes them. -/
theorem reads_readPod_toBits (c : Pod α) (v : α) (hlim : 2 ≤ lim) :
    Reads (readPod c lim) (leBytes c.size (c.toBits v)) v := by
  simpa [c.ofBits_toBits] using reads_readPod c (c.toBits_lt v) hlim

theorem reads_readValue_toBits (c : Pod α) (v : α) (hlim : 3 ≤ lim) :
    Reads (readValue c lim) (leBytes c.size (c.toBits v)) v := by
  simpa [c.ofBits_toBits] using reads_readValue c (c.toBits_lt v) hlim

/-- A type byte, read by `read(ent_type)`. -/
theorem reads_typeByte (b : UInt8) (hlim : 2 ≤ lim) : Reads (readPod Pod.uint8 lim) [b] b := by
  have h := reads_readPod_toBits Pod.uint8 b hlim
  rwa [show leBytes Pod.uint8.size (Pod.uint8.toBits b) = [b] from leBytes_one_toNat b] at h

/-- The two low bits of a word's first byte are the word's residue modulo four. -/
theorem sizeMask_leBytes (x : ℕ) :
    ((x % 256).toUInt8 &&& portableRawSizeMarkMask).toNat = x % 4 := by
  have hmask : portableRawSizeMarkMask.toNat = 2 ^ 2 - 1 := rfl
  rw [UInt8.toNat_and, hmask, Nat.and_two_pow_sub_one_eq_mod]
  simp

/-- `pack_varint_t` of a value that fits its width: four times the value, plus the mark. -/
theorem packVarintT_eq {size mark v : ℕ} (hmark : mark < 4) (hv : 4 * v < 256 ^ size) :
    packVarintT size mark v = leBytes size (4 * v + mark) := by
  have hshift : v <<< 2 = 4 * v := by rw [Nat.shiftLeft_eq]; omega
  have hor : 4 * v ||| mark = 4 * v + mark := by
    rw [← hshift, ← Nat.shiftLeft_add_eq_or_of_lt (by simpa using hmark)]
  rw [packVarintT, hshift, Nat.mod_eq_of_lt hv, hor]

/-- `read_varint` reads the word of its width and drops the two mark bits. -/
theorem reads_varintWord (c : Pod α) (toN : α → ℕ)
    (htoN : ∀ n < 256 ^ c.size, toN (c.ofBits n) = n) {mark v : ℕ} (hmark : mark < 4)
    (hv : 4 * v + mark < 256 ^ c.size) (hlim : 3 ≤ lim) :
    Reads ((toN <$> readValue c lim) >>= fun w => pure (w >>> 2))
      (leBytes c.size (4 * v + mark)) v := by
  have h := ((reads_readValue c hv hlim).map toN).bind_pure (· >>> 2)
  have hval : toN (c.ofBits (4 * v + mark)) >>> 2 = v := by
    rw [htoN _ hv, Nat.shiftRight_eq_div_pow]
    omega
  rwa [hval] at h

/-- A varint in a word of `k + 1` bytes, whose first byte `read_varint` sends to the reader of
that word. -/
theorem readVarint_word (c : Pod α) (toN : α → ℕ)
    (htoN : ∀ n < 256 ^ c.size, toN (c.ofBits n) = n) {k v : ℕ} (hsize : c.size = k + 1)
    (mark : ℕ) (hmark : mark < 4) (hv : 4 * v + mark < 256 ^ c.size)
    (hsel : ∀ l (b : UInt8) e, (b &&& portableRawSizeMarkMask).toNat = mark →
      Reads ((toN <$> readValue c l) >>= fun w => pure (w >>> 2)) (b :: e) v →
      Reads (readVarint (l + 1)) (b :: e) v) :
    ∀ lim, 4 ≤ lim → Reads (readVarint lim) (leBytes c.size (4 * v + mark)) v := by
  intro lim hlim
  obtain ⟨l, rfl⟩ : ∃ l, lim = l + 1 := ⟨lim - 1, by omega⟩
  have hword := reads_varintWord c toN htoN hmark hv (by omega : 3 ≤ l)
  have hmask : (((4 * v + mark) % 256).toUInt8 &&& portableRawSizeMarkMask).toNat = mark := by
    rw [sizeMask_leBytes]
    omega
  rw [hsize, leBytes_succ] at hword ⊢
  exact hsel l _ _ hmask hword

/-- `pack_varint` writes every count up to `2^62 - 1` in at least one byte, and `read_varint`
reads it back. -/
theorem readVarint_packVarint {v : ℕ} (hv : v ≤ varintMax) :
    ∃ b, packVarint v = .ok b ∧ b ≠ [] ∧ ∀ lim, 4 ≤ lim → Reads (readVarint lim) b v := by
  unfold packVarint
  -- the four widths, narrowest first; after the first byte `read_varint` runs the branch of
  -- the mark it finds there
  split_ifs with h1 h2 h3 h4
  · rw [packVarintT_eq (by decide) (by norm_num; omega)]
    refine ⟨_, rfl, leBytes_ne_nil _ (by decide), readVarint_word Pod.uint8 UInt8.toNat
      (fun n hn => UInt8.toNat_ofNat_of_lt' hn) rfl portableRawSizeMarkByte (by decide)
      (by simp only [Pod.uint8, portableRawSizeMarkByte]; omega) ?_⟩
    intro l b e hm h
    simp only [readVarint]
    refine Reads.peek_bind ?_
    simpa +decide only [hm, portableRawSizeMarkByte, portableRawSizeMarkWord,
      portableRawSizeMarkDword, portableRawSizeMarkInt64, if_true, if_false] using h
  · rw [packVarintT_eq (by decide) (by norm_num; omega)]
    refine ⟨_, rfl, leBytes_ne_nil _ (by decide), readVarint_word Pod.uint16 UInt16.toNat
      (fun n hn => UInt16.toNat_ofNat_of_lt' hn) rfl portableRawSizeMarkWord (by decide)
      (by simp only [Pod.uint16, portableRawSizeMarkWord]; omega) ?_⟩
    intro l b e hm h
    simp only [readVarint]
    refine Reads.peek_bind ?_
    simpa +decide only [hm, portableRawSizeMarkByte, portableRawSizeMarkWord,
      portableRawSizeMarkDword, portableRawSizeMarkInt64, if_true, if_false] using h
  · rw [packVarintT_eq (by decide) (by norm_num; omega)]
    refine ⟨_, rfl, leBytes_ne_nil _ (by decide), readVarint_word Pod.uint32 UInt32.toNat
      (fun n hn => UInt32.toNat_ofNat_of_lt' hn) rfl portableRawSizeMarkDword (by decide)
      (by simp only [Pod.uint32, portableRawSizeMarkDword]; omega) ?_⟩
    intro l b e hm h
    simp only [readVarint]
    refine Reads.peek_bind ?_
    simpa +decide only [hm, portableRawSizeMarkByte, portableRawSizeMarkWord,
      portableRawSizeMarkDword, portableRawSizeMarkInt64, if_true, if_false] using h
  · rw [packVarintT_eq (by decide) (by norm_num; omega)]
    refine ⟨_, rfl, leBytes_ne_nil _ (by decide), readVarint_word Pod.uint64 UInt64.toNat
      (fun n hn => UInt64.toNat_ofNat_of_lt' hn) rfl portableRawSizeMarkInt64 (by decide)
      (by simp only [Pod.uint64, portableRawSizeMarkInt64]; omega) ?_⟩
    intro l b e hm h
    simp only [readVarint]
    refine Reads.peek_bind ?_
    simpa +decide only [hm, portableRawSizeMarkByte, portableRawSizeMarkWord,
      portableRawSizeMarkDword, portableRawSizeMarkInt64, if_true, if_false] using h
  · exact absurd hv h4

/-- A varint's writer never writes nothing. -/
theorem packVarint_ne_nil {v : ℕ} {b : List UInt8} (h : packVarint v = .ok b) : b ≠ [] := by
  unfold packVarint packVarintT at h
  split_ifs at h
  all_goals
    cases h
    exact leBytes_ne_nil _ (by decide)

/-- `put_string` writes every string shorter than `MAX_STRING_LEN_POSSIBLE`, and
`read(std::string&)` reads it back. -/
theorem readString_putString {v : List UInt8} (hv : v.length < maxStringLenPossible) :
    ∃ b, putString v = .ok b ∧ b ≠ [] ∧ ∀ lim, 5 ≤ lim → Reads (readString lim) b v := by
  have hcount : v.length ≤ varintMax := by
    unfold maxStringLenPossible at hv
    unfold varintMax
    omega
  obtain ⟨nb, hnb, hne, hread⟩ := readVarint_packVarint hcount
  refine ⟨nb ++ v, by rw [putString, hnb]; rfl, by simp [hne], fun lim hlim => ?_⟩
  obtain ⟨l, rfl⟩ : ∃ l, lim = l + 1 := ⟨lim - 1, by omega⟩
  simp only [readString]
  refine (hread l (by omega)).bind ?_
  rw [if_pos hv]
  refine Reads.remaining_bind fun m hm => ?_
  rw [if_pos hm]
  exact Reads.take v

theorem reads_readValueString {v b : List UInt8}
    (h : ∀ lim, 5 ≤ lim → Reads (readString lim) b v) (hlim : 6 ≤ lim) :
    Reads (readValueString lim) b v := by
  obtain ⟨l, rfl⟩ : ∃ l, lim = l + 1 := ⟨lim - 1, by omega⟩
  simp only [readValueString]
  exact h l (by omega)

/-- `read_sec_name` reads a name of fewer than 255 bytes after its length byte. -/
theorem reads_readSecName {name : List UInt8} (hname : name.length < 255) (hlim : 3 ≤ lim) :
    Reads (readSecName lim) (name.length.toUInt8 :: name) name := by
  obtain ⟨l, rfl⟩ : ∃ l, lim = l + 1 := ⟨lim - 1, by omega⟩
  have hlen : name.length.toUInt8.toNat = name.length := by
    simp
    omega
  simp only [readSecName]
  refine (reads_typeByte name.length.toUInt8 (by omega)).bind ?_
  rw [hlen]
  exact reads_readRaw name (by omega)

theorem reads_readSe (c : Pod α) (mk : α → StorageEntry) (v : α) (hlim : 3 ≤ lim) :
    Reads (readSe c mk lim) (leBytes c.size (c.toBits v)) (mk v) := by
  obtain ⟨l, rfl⟩ : ∃ l, lim = l + 1 := ⟨lim - 1, by omega⟩
  simp only [readSe]
  exact (reads_readPod_toBits c v (by omega)).map mk

/-! ### Arrays -/

theorem foldl_append_singleton (l : List β) :
    ∀ acc : List β, l.foldl (fun sa x => sa ++ [x]) acc = acc ++ l := by
  induction l with
  | nil => simp
  | cons x l ih => intro acc; simp [ih]

/-- `read_ae` below its guard reads the count, then each element; the count passes the sanity
check since every element takes at least one byte. -/
theorem reads_readAeBody (mk : List β → ArrayEntry) {readElem : ByteReader β}
    {w : β → Except String (List UInt8)} {l : List β} {nb b : List UInt8}
    (hnb : Reads (readVarint lim) nb l.length) (hb : l.flatMapM w = .ok b)
    (helem : ∀ x ∈ l, ∀ c, w x = .ok c → c ≠ [] ∧ Reads readElem c x) :
    Reads (readAeBody readElem mk lim) (nb ++ b) (.array (mk l)) := by
  have hlen : l.length ≤ b.length :=
    length_le_of_flatMapM hb fun x hx c hc => (helem x hx c hc).1
  have hloop : Reads (loop (fun sa => do
      let x ← readElem
      pure (sa ++ [x])) l.length []) b (l.foldl (fun sa x => sa ++ [x]) []) :=
    Reads.loop_of_flatMapM hb (fun x hx c hc acc => (helem x hx c hc).2.bind_pure (acc ++ [·])) []
  rw [foldl_append_singleton, List.nil_append] at hloop
  unfold readAeBody
  refine hnb.bind ?_
  refine Reads.remaining_bind fun m hm => ?_
  rw [if_pos (le_trans hlen hm)]
  exact hloop.bind_pure _

/-- An array, as `array_entry_store_visitor` writes it: the flagged type byte, the count and the
elements. `load_storage_entry` sees the flag, and `load_storage_array_entry` sends the element
type to its `read_ae`. -/
theorem reads_array (t : SerializeType) (readElem : ℕ → ByteReader β) (mk : List β → ArrayEntry)
    (need : ℕ) {w : β → Except String (List UInt8)} {l : List β} {nb b : List UInt8}
    (hdisp : ∀ n, loadStorageArrayEntry (t.code ||| serializeFlagArray) (n + 1) =
      readAe readElem mk n)
    (hnb : ∀ n, 4 ≤ n → Reads (readVarint n) nb l.length) (hb : l.flatMapM w = .ok b)
    (helem : ∀ x ∈ l, ∀ c, w x = .ok c → c ≠ [] ∧ ∀ n, need ≤ n → Reads (readElem n) c x)
    (hlim : 7 ≤ lim) (hneed : need + 3 ≤ lim) :
    Reads (loadStorageEntry lim) ((t.code ||| serializeFlagArray) :: nb ++ b) (.array (mk l)) := by
  obtain ⟨n, rfl⟩ : ∃ n, lim = n + 3 := ⟨lim - 3, by omega⟩
  simp only [loadStorageEntry]
  refine (reads_typeByte _ (by omega)).bind ?_
  simp only [ne_eq, code_or_flag_and_flag t, not_false_eq_true, if_true]
  rw [hdisp (n + 1)]
  simp only [readAe]
  exact reads_readAeBody mk (hnb n (by omega)) hb
    fun x hx c hc => ⟨(helem x hx c hc).1, (helem x hx c hc).2 n (by omega)⟩

/-- An array of scalars, as `pack_pod_array_type` writes it. -/
theorem reads_podArray (t : SerializeType) (c : Pod α) (mk : List α → ArrayEntry)
    (hsize : 0 < c.size)
    (hdisp : ∀ n, loadStorageArrayEntry (t.code ||| serializeFlagArray) (n + 1) =
      readAe (readValue c) mk n)
    {arr : List α} (harr : arr.length ≤ varintMax) :
    ∃ b, packPodArrayType t.code c arr = .ok b ∧
      ∀ lim, 7 ≤ lim → Reads (loadStorageEntry lim) b (.array (mk arr)) := by
  obtain ⟨nb, hnb, -, hread⟩ := readVarint_packVarint harr
  refine ⟨_, by rw [packPodArrayType, hnb]; rfl, fun lim hlim => ?_⟩
  refine reads_array t (readValue c) mk 3 hdisp hread (flatMapM_ok _ arr) ?_ hlim (by omega)
  intro x _ cx hcx
  cases hcx
  exact ⟨leBytes_ne_nil _ hsize, fun n hn => reads_readValue_toBits c x hn⟩

/-- The writer of a section writes its count first, so never nothing. -/
theorem packSectionToBuff_ne_nil {s : Section} {b : List UInt8} (h : packSectionToBuff s = .ok b) :
    b ≠ [] := by
  obtain ⟨entries⟩ := s
  simp only [packSectionToBuff] at h
  cases hn : packVarint entries.length with
  | error e =>
    rw [hn] at h
    cases h
  | ok nb =>
    cases he : packEntries entries with
    | error e =>
      rw [hn, he] at h
      cases h
    | ok eb =>
      rw [hn, he] at h
      cases h
      simp [packVarint_ne_nil hn]

/-- Every array that holds no arrays, as `array_entry_store_visitor` writes it, is read back by
`load_storage_entry`, the sections of an array of sections as `hchild` says. -/
theorem reads_loadStorageEntry_array {child : Section → Bool} {k : ℕ}
    (hchild : ∀ s, child s = true →
      ∃ b, packSectionToBuff s = .ok b ∧ ∀ n, k ≤ n → Reads (readSection n) b s)
    (a : ArrayEntry) (ha : a.storableWith child = true) :
    ∃ b, packArrayEntryToBuff a = .ok b ∧
      ∀ lim, 9 ≤ lim → k + 4 ≤ lim → Reads (loadStorageEntry lim) b (.array a) := by
  cases a with
  | uint64 l =>
    exact (reads_podArray .uint64 Pod.uint64 .uint64 (by decide) (fun _ => rfl)
      (by simpa [ArrayEntry.storableWith] using ha)).imp fun b h => ⟨h.1, fun lim hlim _ => h.2 lim (by omega)⟩
  | uint32 l =>
    exact (reads_podArray .uint32 Pod.uint32 .uint32 (by decide) (fun _ => rfl)
      (by simpa [ArrayEntry.storableWith] using ha)).imp fun b h => ⟨h.1, fun lim hlim _ => h.2 lim (by omega)⟩
  | uint16 l =>
    exact (reads_podArray .uint16 Pod.uint16 .uint16 (by decide) (fun _ => rfl)
      (by simpa [ArrayEntry.storableWith] using ha)).imp fun b h => ⟨h.1, fun lim hlim _ => h.2 lim (by omega)⟩
  | uint8 l =>
    exact (reads_podArray .uint8 Pod.uint8 .uint8 (by decide) (fun _ => rfl)
      (by simpa [ArrayEntry.storableWith] using ha)).imp fun b h => ⟨h.1, fun lim hlim _ => h.2 lim (by omega)⟩
  | int64 l =>
    exact (reads_podArray .int64 Pod.int64 .int64 (by decide) (fun _ => rfl)
      (by simpa [ArrayEntry.storableWith] using ha)).imp fun b h => ⟨h.1, fun lim hlim _ => h.2 lim (by omega)⟩
  | int32 l =>
    exact (reads_podArray .int32 Pod.int32 .int32 (by decide) (fun _ => rfl)
      (by simpa [ArrayEntry.storableWith] using ha)).imp fun b h => ⟨h.1, fun lim hlim _ => h.2 lim (by omega)⟩
  | int16 l =>
    exact (reads_podArray .int16 Pod.int16 .int16 (by decide) (fun _ => rfl)
      (by simpa [ArrayEntry.storableWith] using ha)).imp fun b h => ⟨h.1, fun lim hlim _ => h.2 lim (by omega)⟩
  | int8 l =>
    exact (reads_podArray .int8 Pod.int8 .int8 (by decide) (fun _ => rfl)
      (by simpa [ArrayEntry.storableWith] using ha)).imp fun b h => ⟨h.1, fun lim hlim _ => h.2 lim (by omega)⟩
  | double l =>
    exact (reads_podArray .double Pod.double .double (by decide) (fun _ => rfl)
      (by simpa [ArrayEntry.storableWith] using ha)).imp fun b h => ⟨h.1, fun lim hlim _ => h.2 lim (by omega)⟩
  | bool l =>
    exact (reads_podArray .bool Pod.bool .bool (by decide) (fun _ => rfl)
      (by simpa [ArrayEntry.storableWith] using ha)).imp fun b h => ⟨h.1, fun lim hlim _ => h.2 lim (by omega)⟩
  | string l =>
    simp only [ArrayEntry.storableWith, Bool.and_eq_true, decide_eq_true_eq, List.all_eq_true] at ha
    obtain ⟨hl, hshort⟩ := ha
    obtain ⟨nb, hnb, -, hread⟩ := readVarint_packVarint hl
    obtain ⟨b, hb⟩ := exists_flatMapM_eq_ok l fun v hv =>
      (readString_putString (hshort v hv)).imp fun _ h => h.1
    refine ⟨_, by simp only [packArrayEntryToBuff, hnb, hb]; rfl, fun lim hlim _ => ?_⟩
    refine reads_array .string readValueString .string 6 (fun _ => rfl) hread hb ?_ (by omega)
      (by omega)
    intro v hv c hc
    obtain ⟨c', hc', hne, hr⟩ := readString_putString (hshort v hv)
    rw [hc'] at hc
    cases hc
    exact ⟨hne, fun n hn => reads_readValueString hr hn⟩
  | sections l =>
    simp only [ArrayEntry.storableWith, Bool.and_eq_true, decide_eq_true_eq, List.all_eq_true] at ha
    obtain ⟨hl, hsecs⟩ := ha
    obtain ⟨nb, hnb, -, hread⟩ := readVarint_packVarint hl
    obtain ⟨b, hb⟩ := exists_flatMapM_eq_ok l fun s hs => (hchild s (hsecs s hs)).imp fun _ h => h.1
    refine ⟨_, by simp only [packArrayEntryToBuff, packSections_eq, hnb, hb]; rfl,
      fun lim hlim hk => ?_⟩
    refine reads_array .object readValueSection .sections (k + 1) (fun n => readAeSection_eq n)
      hread hb ?_ (by omega) (by omega)
    intro s hs c hc
    obtain ⟨c', hc', hr⟩ := hchild s (hsecs s hs)
    rw [hc'] at hc
    cases hc
    refine ⟨packSectionToBuff_ne_nil hc', fun n hn => ?_⟩
    obtain ⟨m, rfl⟩ : ∃ m, n = m + 1 := ⟨n - 1, by omega⟩
    exact hr m (by omega)
  | arrays l =>
    -- only an empty array of arrays: `read<array_entry>()` would throw at its first element
    simp only [ArrayEntry.storableWith, List.isEmpty_iff] at ha
    subst ha
    obtain ⟨nb, hnb, -, hread⟩ := readVarint_packVarint (Nat.zero_le varintMax)
    refine ⟨_, by simp only [packArrayEntryToBuff, List.length_nil, hnb, packArrays]; rfl,
      fun lim hlim _ => ?_⟩
    exact reads_array .array readValueArray .arrays 0 (fun _ => rfl) hread
      (rfl : ([] : List ArrayEntry).flatMapM packArrayEntryToBuff = .ok [])
      (fun x hx => absurd hx List.not_mem_nil) (by omega) (by omega)

/-! ### Values and sections -/

/-- A scalar value, as `pack_pod_type` writes it: a type byte without the array flag, then
`read_se` of its type. -/
theorem reads_loadStorageEntry_pod {e : StorageEntry} (he : e.isPod = true) {b : List UInt8}
    (hb : packEntryToBuff e = .ok b) (hlim : 4 ≤ lim) : Reads (loadStorageEntry lim) b e := by
  obtain ⟨n, rfl⟩ : ∃ n, lim = n + 1 := ⟨lim - 1, by omega⟩
  cases e with
  | uint64 v | uint32 v | uint16 v | uint8 v | int64 v | int32 v | int16 v | int8 v | double v
  | bool v =>
    cases hb
    simp only [loadStorageEntry]
    refine (reads_typeByte _ (by omega)).bind ?_
    simp only [code_and_flag, ne_eq, not_true_eq_false, if_false, SerializeType.ofCode?_code]
    exact reads_readSe _ _ v (by omega)
  | string v | object s | array a => cases he

/-- A string value: its type byte, then `read_se<std::string>()`. -/
theorem reads_loadStorageEntry_string {v : List UInt8} (hv : v.length < maxStringLenPossible) :
    ∃ b, packEntryToBuff (.string v) = .ok b ∧
      ∀ lim, 8 ≤ lim → Reads (loadStorageEntry lim) b (.string v) := by
  obtain ⟨b, hb, -, hr⟩ := readString_putString hv
  refine ⟨_, by rw [packEntryToBuff, hb]; rfl, fun lim hlim => ?_⟩
  obtain ⟨n, rfl⟩ : ∃ n, lim = n + 2 := ⟨lim - 2, by omega⟩
  simp only [loadStorageEntry]
  refine (reads_typeByte _ (by omega)).bind ?_
  simp only [code_and_flag, ne_eq, not_true_eq_false, if_false, SerializeType.ofCode?_code,
    readSeString]
  exact (reads_readValueString hr (by omega)).map _

/-- A section value: its type byte, then `read_se<section>()`, which reads the section two
guards further down. -/
theorem reads_loadStorageEntry_object {s : Section} {b : List UInt8} {k : ℕ}
    (hr : ∀ n, k ≤ n → Reads (readSection n) b s) (hlim : 3 ≤ lim) (hk : k + 2 ≤ lim) :
    Reads (loadStorageEntry lim) (SerializeType.object.code :: b) (.object s) := by
  obtain ⟨n, rfl⟩ : ∃ n, lim = n + 2 := ⟨lim - 2, by omega⟩
  simp only [loadStorageEntry]
  refine (reads_typeByte _ (by omega)).bind ?_
  simp only [code_and_flag, ne_eq, not_true_eq_false, if_false, SerializeType.ofCode?_code,
    readSeSection]
  exact (hr n (by omega)).map _

/-- Every value that passes its checks, as `storage_entry_store_visitor` writes it, is read back
by `load_storage_entry`, the sections in it as `hchild` says. -/
theorem reads_loadStorageEntry {child : Section → Bool} {k : ℕ}
    (hchild : ∀ s, child s = true →
      ∃ b, packSectionToBuff s = .ok b ∧ ∀ n, k ≤ n → Reads (readSection n) b s)
    (e : StorageEntry) (he : e.storableWith child = true) :
    ∃ b, packEntryToBuff e = .ok b ∧
      ∀ lim, 9 ≤ lim → k + 4 ≤ lim → Reads (loadStorageEntry lim) b e := by
  cases e with
  | uint64 v | uint32 v | uint16 v | uint8 v | int64 v | int32 v | int16 v | int8 v | double v
  | bool v => exact ⟨_, rfl, fun lim hlim _ => reads_loadStorageEntry_pod rfl rfl (by omega)⟩
  | string v =>
    obtain ⟨b, hb, hr⟩ :=
      reads_loadStorageEntry_string (by simpa [StorageEntry.storableWith] using he)
    exact ⟨b, hb, fun lim hlim _ => hr lim (by omega)⟩
  | object s =>
    obtain ⟨b, hb, hr⟩ := hchild s (by simpa [StorageEntry.storableWith] using he)
    exact ⟨_, by rw [packEntryToBuff, hb]; rfl,
      fun lim hlim hk => reads_loadStorageEntry_object hr (by omega) (by omega)⟩
  | array a =>
    obtain ⟨b, hb, hr⟩ :=
      reads_loadStorageEntry_array hchild a (by simpa [StorageEntry.storableWith] using he)
    exact ⟨b, by rw [packEntryToBuff]; exact hb, hr⟩

/-- One entry of a section, written: its name's length byte, the name, and the value. -/
theorem packSectionPair_eq {name : List UInt8} {e : StorageEntry} {b : List UInt8}
    (hname : name.length < 255) (he : packEntryToBuff e = .ok b) :
    packSectionPair (name, e) = .ok (name.length.toUInt8 :: name ++ b) := by
  simp only [packSectionPair, if_pos hname, he]
  rfl

/-- A section whose entries are in the map's order, as `pack_entry_to_buff` writes it, is read
back by `read(section&)` when each value is read back one guard further down. -/
theorem reads_readSection_of_entries {entries : List (List UInt8 × StorageEntry)} {n : ℕ}
    (hsorted : entries.Pairwise fun a b => nameKey a < nameKey b) (hn : 4 ≤ n)
    (hentry : ∀ x ∈ entries, ∀ b, packEntryToBuff x.2 = .ok b → Reads (loadStorageEntry n) b x.2)
    {b : List UInt8} (hb : packSectionToBuff (.mk entries) = .ok b) :
    Reads (readSection (n + 1)) b (.mk entries) := by
  obtain ⟨nb, eb, hnb, heb, rfl⟩ := packSectionToBuff_eq_ok hb
  obtain ⟨nb', hnb', -, hvar⟩ := readVarint_packVarint (le_varintMax_of_packVarint hnb)
  rw [hnb] at hnb'
  cases hnb'
  -- the loop inserts the entries into the map in the order they were written
  have hloop : Reads (loop (fun entries => do
        let name ← readSecName n
        let e ← loadStorageEntry n
        pure (KeyedSet.insertSorted nameKey (name, e) entries)) entries.length [])
      eb (entries.foldl (fun acc x => KeyedSet.insertSorted nameKey x acc) []) :=
    Reads.loop_of_flatMapM heb (fun x hx c hc acc => by
      obtain ⟨hname, bx, hbx, rfl⟩ := packSectionPair_eq_ok hc
      exact (reads_readSecName hname (by omega)).bind
        ((hentry x hx bx hbx).bind_pure fun e => KeyedSet.insertSorted nameKey (x.1, e) acc))
    []
  rw [KeyedSet.foldl_insertSorted hsorted (fun _ h => absurd h List.not_mem_nil),
    List.nil_append] at hloop
  simp only [readSection]
  exact (hvar n hn).bind (hloop.bind_pure Section.mk)

/-- Every section that passes its checks, as `pack_entry_to_buff` writes it, is read back by
`read(section&)`, the sections inside its values as `hchild` says. -/
theorem reads_readSection {child : Section → Bool} (k : ℕ)
    (hchild : ∀ s, child s = true →
      ∃ b, packSectionToBuff s = .ok b ∧ ∀ n, k ≤ n → Reads (readSection n) b s)
    (s : Section) (hs : s.storableWith child = true) :
    ∃ b, packSectionToBuff s = .ok b ∧
      ∀ lim, 10 ≤ lim → k + 5 ≤ lim → Reads (readSection lim) b s := by
  obtain ⟨entries⟩ := s
  simp only [Section.storableWith, Bool.and_eq_true, decide_eq_true_eq, List.all_eq_true] at hs
  obtain ⟨⟨hsorted, hcount⟩, hentries⟩ := hs
  -- each value is written, and read back
  have hentry : ∀ x ∈ entries, ∃ b, packEntryToBuff x.2 = .ok b ∧
      ∀ lim, 9 ≤ lim → k + 4 ≤ lim → Reads (loadStorageEntry lim) b x.2 :=
    fun x hx => reads_loadStorageEntry hchild x.2 (hentries x hx).2
  obtain ⟨nb, hnb, -, -⟩ := readVarint_packVarint hcount
  obtain ⟨eb, heb⟩ := exists_flatMapM_eq_ok entries fun x hx => by
    obtain ⟨b, hb, -⟩ := hentry x hx
    exact ⟨_, packSectionPair_eq (hentries x hx).1 hb⟩
  have hb : packSectionToBuff (.mk entries) = .ok (nb ++ eb) := by
    simp only [packSectionToBuff, hnb, packEntries_eq, heb]
    rfl
  refine ⟨nb ++ eb, hb, fun lim hlim hk => ?_⟩
  obtain ⟨n, rfl⟩ : ∃ n, lim = n + 1 := ⟨lim - 1, by omega⟩
  refine reads_readSection_of_entries hsorted (by omega) (fun x hx b' hb' => ?_) hb
  obtain ⟨b, hb, hr⟩ := hentry x hx
  rw [hb] at hb'
  cases hb'
  exact hr n (by omega) (by omega)

/-- A section that passes every check, its sections nested at most `d` deep, is written, and
read back by `read(section&)` with a budget of `10 + 5 * d` guards or more. -/
theorem readSection_packSectionToBuff : ∀ (d : ℕ) (s : Section), s.storableWithin d = true →
    ∃ b, packSectionToBuff s = .ok b ∧ ∀ lim, 10 + 5 * d ≤ lim → Reads (readSection lim) b s
  | 0, s, hs => by
    rw [Section.storableWithin] at hs
    obtain ⟨b, hb, hr⟩ := reads_readSection 0 (fun _ h => absurd h Bool.false_ne_true) s hs
    exact ⟨b, hb, fun lim hlim => hr lim (by omega) (by omega)⟩
  | d + 1, s, hs => by
    rw [Section.storableWithin] at hs
    obtain ⟨b, hb, hr⟩ := reads_readSection (10 + 5 * d)
      (fun s' hs' => readSection_packSectionToBuff d s' hs') s hs
    exact ⟨b, hb, fun lim hlim => hr lim (by omega) (by omega)⟩

end Bittube.Epee.Serialization

import Bittube.Epee.PortableStorage

/-!
# What `load_from_binary` accepts, `store_to_binary` writes in a form it loads the same

A peer that loads a storage and stores it again (to relay a message, or to keep it) writes the
writer's own form of what it read: the entries in the map's order, each name once, every varint
in its narrowest width, every array with its flagged type byte. This module proves that the
loader reads that form back as the same section, whatever form the first buffer had, whenever
the writer does not throw (it throws for a name of exactly 255 bytes, which the reader accepts).

The argument follows the reader. Every helper of `throwable_buffer_reader`, run at a budget of
`l` guards, returns only values that the same helper reads back, from `l` guards on, from what
`pack_entry_to_buff` writes for them (`EntryReread`, `SectionReread`, and `ElemReread` for the
elements of an array). It is a postcondition of each reader (`ByteReader.Returns`). At the
leaves it says how many guards each reader needs to succeed at all (four for a varint) and that
a string read is shorter than `MAX_STRING_LEN_POSSIBLE`. An array holds what its element reader
returned, and an array of arrays is empty, since `read<array_entry>()` throws. The section loop
keeps the map in order, so the section is written back in the order it is read back in. All of
them hold at every budget, by strong induction on the budget.
-/

namespace Bittube.Epee.Serialization

open ByteReader

variable {α β : Type} {lim : ℕ}

/-! ### The guards each reader needs, and what the leaves return -/

theorem returns_readRaw (count : ℕ) : Returns (readRaw count lim) fun _ => 1 ≤ lim := by
  cases lim with
  | zero => exact Returns.throw _
  | succ l => exact Returns.of_forall fun _ => Nat.le_add_left 1 l

theorem returns_readPod (c : Pod α) : Returns (readPod c lim) fun _ => 2 ≤ lim := by
  cases lim with
  | zero => exact Returns.throw _
  | succ l =>
    simp only [readPod]
    exact (returns_readRaw c.size).bind fun _ hl => Returns.pure (by omega)

theorem returns_readValue (c : Pod α) : Returns (readValue c lim) fun _ => 3 ≤ lim := by
  cases lim with
  | zero => exact Returns.throw _
  | succ l =>
    simp only [readValue]
    exact (returns_readPod c).mono fun _ hl => by omega

theorem returns_readSecName : Returns (readSecName lim) fun _ => 3 ≤ lim := by
  cases lim with
  | zero => exact Returns.throw _
  | succ l =>
    simp only [readSecName]
    exact (returns_readPod Pod.uint8).bind fun _ hl => (returns_readRaw _).mono fun _ _ => by omega

theorem returns_readVarint : Returns (readVarint lim) fun _ => 4 ≤ lim := by
  cases lim with
  | zero => exact Returns.throw _
  | succ l =>
    -- every width reads its word with `read<uintN_t>()`, which needs three guards
    have hword : ∀ {γ : Type} (c : Pod γ) (toN : γ → ℕ),
        Returns ((toN <$> readValue c l) >>= fun v => pure (v >>> 2)) fun _ => 4 ≤ l + 1 :=
      fun c toN => ((returns_readValue c).map toN (Q := fun _ => 3 ≤ l) fun _ h => h).bind
        fun _ h => Returns.pure (by omega)
    simp only [readVarint]
    refine (Returns.of_forall fun _ => trivial).bind fun first _ => ?_
    cases first with
    | none => exact Returns.throw _
    | some b =>
      dsimp only
      split_ifs
      · exact hword Pod.uint8 UInt8.toNat
      · exact hword Pod.uint16 UInt16.toNat
      · exact hword Pod.uint32 UInt32.toNat
      · exact hword Pod.uint64 UInt64.toNat
      · exact (Returns.throw (P := fun _ => False) _).bind fun _ h => h.elim

theorem returns_readString :
    Returns (readString lim) fun v => 5 ≤ lim ∧ v.length < maxStringLenPossible := by
  cases lim with
  | zero => exact Returns.throw _
  | succ l =>
    simp only [readString]
    refine returns_readVarint.bind fun len hl => ?_
    split_ifs with hlen
    · refine (Returns.of_forall fun _ => trivial).bind fun remained _ => ?_
      split_ifs
      · exact (Returns.take len).mono fun v hv => ⟨by omega, by omega⟩
      · exact Returns.throw _
    · exact Returns.throw _

theorem returns_readValueString :
    Returns (readValueString lim) fun v => 6 ≤ lim ∧ v.length < maxStringLenPossible := by
  cases lim with
  | zero => exact Returns.throw _
  | succ l =>
    simp only [readValueString]
    exact returns_readString.mono fun _ h => ⟨by omega, h.2⟩

theorem returns_readSe (c : Pod α) (mk : α → StorageEntry) :
    Returns (readSe c mk lim) fun e => 3 ≤ lim ∧ ∃ v, e = mk v := by
  cases lim with
  | zero => exact Returns.throw _
  | succ l =>
    simp only [readSe]
    exact (returns_readPod c).map mk fun v hl => ⟨by omega, v, rfl⟩

theorem returns_readSeString :
    Returns (readSeString lim) fun e =>
      7 ≤ lim ∧ ∃ v, e = .string v ∧ v.length < maxStringLenPossible := by
  cases lim with
  | zero => exact Returns.throw _
  | succ l =>
    simp only [readSeString]
    exact returns_readValueString.map _ fun v h => ⟨by omega, v, rfl, h.2⟩

/-- `read<array_entry>()` never returns. -/
theorem returns_readValueArray : Returns (readValueArray lim) fun _ => False := by
  cases lim with
  | zero => exact Returns.throw _
  | succ l =>
    cases l with
    | zero => exact Returns.throw _
    | succ l => exact Returns.throw _

/-- `read_ae` returns an array of what its element reader returned, after a count read with at
least four guards. -/
theorem returns_readAe {readElem : ℕ → ByteReader β} {mk : List β → ArrayEntry} {Q : β → Prop}
    (m : ℕ) (hQ : Returns (readElem m) Q) :
    Returns (readAe readElem mk (m + 1)) fun e =>
      4 ≤ m ∧ ∃ sa, e = .array (mk sa) ∧ ∀ x ∈ sa, Q x := by
  simp only [readAe, readAeBody]
  refine returns_readVarint.bind fun size hm =>
    (Returns.of_forall fun _ => trivial).bind fun remained _ => ?_
  split_ifs
  · -- every element appended by the loop is one the element reader returned
    have hloop : Returns (loop (fun sa => do
        let x ← readElem m
        pure (sa ++ [x])) size []) fun sa => ∀ x ∈ sa, Q x := by
      refine Returns.loop (fun sa hsa => hQ.bind fun x hx => Returns.pure fun y hy => ?_) size []
        fun _ h => absurd h List.not_mem_nil
      rcases List.mem_append.mp hy with hy | hy
      · exact hsa y hy
      · rw [List.mem_singleton.mp hy]
        exact hx
    exact hloop.bind fun sa hsa => Returns.pure ⟨hm, sa, rfl, hsa⟩
  · exact Returns.throw _

/-! ### Values that are read back from what the writer writes for them -/

/-- A value that `load_storage_entry` reads back, from `l` guards on, from whatever
`pack_entry_to_buff` writes for it. -/
def EntryReread (l : ℕ) (e : StorageEntry) : Prop :=
  ∀ b, packEntryToBuff e = .ok b → ∀ n, l ≤ n → Reads (loadStorageEntry n) b e

/-- A section that `read(section&)` reads back, from `l` guards on, from whatever
`pack_entry_to_buff` writes for it. -/
def SectionReread (l : ℕ) (s : Section) : Prop :=
  ∀ b, packSectionToBuff s = .ok b → ∀ n, l ≤ n → Reads (readSection n) b s

/-- An array element that `readElem` reads back, from `l` guards on, from what `w` writes for
it, which is never nothing. -/
def ElemReread (readElem : ℕ → ByteReader β) (w : β → Except String (List UInt8)) (l : ℕ)
    (x : β) : Prop :=
  ∀ c, w x = .ok c → c ≠ [] ∧ ∀ n, l ≤ n → Reads (readElem n) c x

theorem EntryReread.mono {l l' : ℕ} {e : StorageEntry} (h : EntryReread l e) (hl : l ≤ l') :
    EntryReread l' e :=
  fun b hb n hn => h b hb n (le_trans hl hn)

/-- A scalar value is read back from four guards on. -/
theorem entryReread_pod {e : StorageEntry} (he : e.isPod = true) {l : ℕ} (hl : 4 ≤ l) :
    EntryReread l e :=
  fun _ hb _ hn => reads_loadStorageEntry_pod he hb (by omega)

theorem elemReread_readValue (c : Pod α) (hsize : 0 < c.size) {m : ℕ} (hm : 3 ≤ m) (x : α) :
    ElemReread (readValue c) (fun x => .ok (leBytes c.size (c.toBits x))) m x := by
  intro b hb
  cases hb
  exact ⟨leBytes_ne_nil _ hsize, fun n hn => reads_readValue_toBits c x (by omega)⟩

theorem elemReread_readValueString {m : ℕ} (hm : 6 ≤ m) {x : List UInt8}
    (hx : x.length < maxStringLenPossible) : ElemReread readValueString putString m x := by
  intro b hb
  obtain ⟨b', hb', hne, hr⟩ := readString_putString hx
  rw [hb'] at hb
  cases hb
  exact ⟨hne, fun n hn => reads_readValueString hr (by omega)⟩

theorem elemReread_readValueSection {k : ℕ} {s : Section} (hs : SectionReread k s) :
    ElemReread readValueSection packSectionToBuff (k + 1) s := by
  intro b hb
  refine ⟨packSectionToBuff_ne_nil hb, fun n hn => ?_⟩
  obtain ⟨n, rfl⟩ : ∃ n', n = n' + 1 := ⟨n - 1, by omega⟩
  exact hs b hb n (by omega)

/-- An array whose count was read with `m` guards and whose elements are read back from `m`
guards on, as the array visitor writes it, is read back by `load_storage_entry` from `m + 3`
guards on: the flagged type byte, `load_storage_array_entry`, then `read_ae`. -/
theorem entryReread_array (t : SerializeType) (readElem : ℕ → ByteReader β)
    (mk : List β → ArrayEntry) (w : β → Except String (List UInt8))
    (hdisp : ∀ n, loadStorageArrayEntry (t.code ||| serializeFlagArray) (n + 1) =
      readAe readElem mk n)
    (hpack : ∀ sa b, packArrayEntryToBuff (mk sa) = .ok b → ∃ nb eb,
      packVarint sa.length = .ok nb ∧ sa.flatMapM w = .ok eb ∧
        b = (t.code ||| serializeFlagArray) :: nb ++ eb)
    {m : ℕ} {sa : List β} (hm : 4 ≤ m) (hsa : ∀ x ∈ sa, ElemReread readElem w m x) :
    EntryReread (m + 3) (.array (mk sa)) := by
  intro b hb n hn
  rw [packEntryToBuff] at hb
  obtain ⟨nb, eb, hnb, heb, rfl⟩ := hpack sa b hb
  obtain ⟨nb', hnb', -, hvar⟩ := readVarint_packVarint (le_varintMax_of_packVarint hnb)
  rw [hnb] at hnb'
  cases hnb'
  exact reads_array t readElem mk m hdisp hvar heb hsa (by omega) (by omega)

/-! ### Each reader returns only what it reads back -/

/-- An array of scalars. -/
theorem returns_podArray (t : SerializeType) (c : Pod α) (mk : List α → ArrayEntry)
    (hsize : 0 < c.size) (hwrite : ∀ sa, packArrayEntryToBuff (mk sa) = packPodArrayType t.code c sa)
    (hdisp : ∀ n, loadStorageArrayEntry (t.code ||| serializeFlagArray) (n + 1) =
      readAe (readValue c) mk n) (m : ℕ) :
    Returns (readAe (readValue c) mk (m + 1)) (EntryReread (m + 3)) := by
  refine (returns_readAe m (returns_readValue c)).mono fun e ⟨hm, sa, he, hsa⟩ => ?_
  subst he
  refine entryReread_array t (readValue c) mk _ hdisp (fun sa b hb => ?_) hm
    fun x hx => elemReread_readValue c hsize (hsa x hx) x
  rw [hwrite] at hb
  exact packPodArrayType_eq_ok hb

theorem returns_stringArray (m : ℕ) :
    Returns (readAe readValueString .string (m + 1)) (EntryReread (m + 3)) := by
  refine (returns_readAe m returns_readValueString).mono fun e ⟨hm, sa, he, hsa⟩ => ?_
  subst he
  refine entryReread_array .string readValueString .string putString (fun _ => rfl)
    (fun sa b hb => ?_) hm fun x hx => elemReread_readValueString (hsa x hx).1 (hsa x hx).2
  exact packArray_eq_ok rfl hb

theorem returns_readValueSection (m : ℕ)
    (hsec : ∀ k, k + 1 ≤ m → Returns (readSection k) (SectionReread k)) :
    Returns (readValueSection m) (ElemReread readValueSection packSectionToBuff m) := by
  cases m with
  | zero => exact Returns.throw _
  | succ k =>
    simp only [readValueSection]
    exact (hsec k le_rfl).mono fun _ hs => elemReread_readValueSection hs

theorem returns_sectionArray (m : ℕ)
    (hsec : ∀ k, k + 1 ≤ m → Returns (readSection k) (SectionReread k)) :
    Returns (readAeSection (m + 1)) (EntryReread (m + 3)) := by
  rw [readAeSection_eq]
  refine (returns_readAe m (returns_readValueSection m hsec)).mono fun e ⟨hm, sa, he, hsa⟩ => ?_
  subst he
  refine entryReread_array .object readValueSection .sections packSectionToBuff
    (fun n => readAeSection_eq n) (fun sa b hb => ?_) hm hsa
  exact packArray_eq_ok (packSections_eq sa) hb

/-- An array of arrays, which is empty. -/
theorem returns_arraysArray (m : ℕ) :
    Returns (readAe readValueArray .arrays (m + 1)) (EntryReread (m + 3)) := by
  refine (returns_readAe m returns_readValueArray).mono fun e ⟨hm, sa, he, hsa⟩ => ?_
  subst he
  refine entryReread_array .array readValueArray .arrays packArrayEntryToBuff (fun _ => rfl)
    (fun sa b hb => ?_) hm fun x hx => (hsa x hx).elim
  exact packArray_eq_ok (packArrays_eq sa) hb

theorem returns_loadStorageArrayEntry (entType : UInt8) :
    ∀ l, (∀ k, k + 3 ≤ l → Returns (readSection k) (SectionReread k)) →
      Returns (loadStorageArrayEntry entType l) (EntryReread (l + 1))
  | 0, _ => Returns.throw _
  | 1, _ => by
    simp only [loadStorageArrayEntry, readAe, readAeSection]
    split <;> exact Returns.throw _
  | m + 2, hsec => by
    simp only [loadStorageArrayEntry]
    split
    · exact returns_podArray .int64 Pod.int64 .int64 (by decide) (fun _ => rfl) (fun _ => rfl) m
    · exact returns_podArray .int32 Pod.int32 .int32 (by decide) (fun _ => rfl) (fun _ => rfl) m
    · exact returns_podArray .int16 Pod.int16 .int16 (by decide) (fun _ => rfl) (fun _ => rfl) m
    · exact returns_podArray .int8 Pod.int8 .int8 (by decide) (fun _ => rfl) (fun _ => rfl) m
    · exact returns_podArray .uint64 Pod.uint64 .uint64 (by decide) (fun _ => rfl) (fun _ => rfl) m
    · exact returns_podArray .uint32 Pod.uint32 .uint32 (by decide) (fun _ => rfl) (fun _ => rfl) m
    · exact returns_podArray .uint16 Pod.uint16 .uint16 (by decide) (fun _ => rfl) (fun _ => rfl) m
    · exact returns_podArray .uint8 Pod.uint8 .uint8 (by decide) (fun _ => rfl) (fun _ => rfl) m
    · exact returns_podArray .double Pod.double .double (by decide) (fun _ => rfl) (fun _ => rfl) m
    · exact returns_podArray .bool Pod.bool .bool (by decide) (fun _ => rfl) (fun _ => rfl) m
    · exact returns_stringArray m
    · exact returns_sectionArray m fun k hk => hsec k (by omega)
    · exact returns_arraysArray m
    · exact Returns.throw _

/-- `read_se<array_entry>()`: a second type byte, then the array one guard further down. -/
theorem returns_readSeArray (l : ℕ)
    (harr : ∀ t, Returns (loadStorageArrayEntry t l) (EntryReread (l + 1))) :
    Returns (readSeArray (l + 1)) (EntryReread (l + 2)) := by
  simp only [readSeArray]
  refine (returns_readPod Pod.uint8).bind fun entType _ => ?_
  split_ifs
  · exact (harr entType).mono fun e he => he.mono (by omega)
  · exact Returns.throw _

/-- `read_se<section>()`: the section, read back behind the type byte. -/
theorem returns_readSeSection (l : ℕ) (hl : 2 ≤ l)
    (hsec : ∀ k, k + 1 ≤ l → Returns (readSection k) (SectionReread k)) :
    Returns (readSeSection l) (EntryReread (l + 1)) := by
  obtain ⟨k, rfl⟩ : ∃ k, l = k + 1 := ⟨l - 1, by omega⟩
  simp only [readSeSection]
  refine (hsec k le_rfl).map _ fun s hs b hb n hn => ?_
  rw [packEntryToBuff] at hb
  obtain ⟨bs, hbs, hb⟩ := except_bind_eq_ok.mp hb
  cases hb
  exact reads_loadStorageEntry_object (hs bs hbs) (by omega) (by omega)

theorem returns_loadStorageEntry (l : ℕ)
    (harr : ∀ t, Returns (loadStorageArrayEntry t l) (EntryReread (l + 1)))
    (hseArr : Returns (readSeArray l) (EntryReread (l + 1)))
    (hobj : 2 ≤ l → Returns (readSeSection l) (EntryReread (l + 1))) :
    Returns (loadStorageEntry (l + 1)) (EntryReread (l + 1)) := by
  simp only [loadStorageEntry]
  refine (returns_readPod Pod.uint8).bind fun entType hl => ?_
  split_ifs with hflag
  · exact harr entType
  · split
    -- the ten scalar types: `read_se` of a POD, read back from four guards on
    any_goals exact (returns_readSe _ _).mono fun _ h =>
      h.2.elim fun _ he => he ▸ entryReread_pod rfl (by omega)
    · refine returns_readSeString.mono fun e h => ?_
      obtain ⟨hl', v, he, hv⟩ := h
      subst he
      obtain ⟨b', hb', hr⟩ := reads_loadStorageEntry_string hv
      intro b hb n hn
      rw [hb'] at hb
      cases hb
      exact hr n (by omega)
    · exact hobj hl
    · exact hseArr
    · exact Returns.throw _

theorem returns_readSection (l : ℕ) (hentry : Returns (loadStorageEntry l) (EntryReread l)) :
    Returns (readSection (l + 1)) (SectionReread (l + 1)) := by
  simp only [readSection]
  refine returns_readVarint.bind fun count hl => ?_
  -- the loop keeps the map in order, and every value in it is read back from `l` guards on
  have hloop : Returns (loop (fun entries => do
        let name ← readSecName l
        let e ← loadStorageEntry l
        pure (KeyedSet.insertSorted nameKey (name, e) entries)) count [])
      fun entries => entries.Pairwise (fun a b => nameKey a < nameKey b) ∧
        ∀ x ∈ entries, EntryReread l x.2 := by
    refine Returns.loop (fun acc hacc => ?_) count []
      ⟨List.Pairwise.nil, fun _ h => absurd h List.not_mem_nil⟩
    refine returns_readSecName.bind fun name _ => hentry.bind fun e he =>
      Returns.pure ⟨KeyedSet.pairwise_insertSorted _ hacc.1, fun x hx => ?_⟩
    rcases KeyedSet.mem_insertSorted hx with rfl | hx
    · exact he
    · exact hacc.2 x hx
  refine hloop.bind fun entries hentries => Returns.pure ?_
  intro b hb n hn
  obtain ⟨n, rfl⟩ : ∃ n', n = n' + 1 := ⟨n - 1, by omega⟩
  exact reads_readSection_of_entries hentries.1 (by omega)
    (fun x hx b' hb' => hentries.2 x hx b' hb' n (by omega)) hb

/-- Every reader of the recursion, at every budget, returns only what it reads back from the
writer's form. By strong induction on the budget: each reader calls the others one to three
guards further down. -/
theorem returns_reread (l : ℕ) : Returns (readSection l) (SectionReread l) ∧
    Returns (loadStorageEntry l) (EntryReread l) ∧
    ∀ t, Returns (loadStorageArrayEntry t l) (EntryReread (l + 1)) := by
  induction l using Nat.strong_induction_on with
  | _ l ih =>
    refine ⟨?_, ?_, fun t => returns_loadStorageArrayEntry t l fun k hk => (ih k (by omega)).1⟩
    · cases l with
      | zero => exact Returns.throw _
      | succ j => exact returns_readSection j (ih j (by omega)).2.1
    · cases l with
      | zero => exact Returns.throw _
      | succ j =>
        refine returns_loadStorageEntry j (ih j (by omega)).2.2 ?_
          fun hj => returns_readSeSection j hj fun k hk => (ih k (by omega)).1
        cases j with
        | zero => exact Returns.throw _
        | succ i => exact returns_readSeArray i (ih i (by omega)).2.2

/-! ### Loading what was stored from what was loaded -/

theorem loadFromBinary_eq_some {bytes : List UInt8} {s : Section}
    (h : loadFromBinary bytes = some s) :
    ∃ body rest, (readSection (recursionLimit - 1)).run body = .ok (s, rest) := by
  unfold loadFromBinary at h
  split_ifs at h
  dsimp only at h
  split_ifs at h
  split at h
  · rename_i root rest hrun
    cases h
    exact ⟨_, rest, hrun⟩
  · cases h

theorem storeToBinary_eq_some {s : Section} {bytes : List UInt8}
    (h : storeToBinary s = some bytes) :
    ∃ b, packSectionToBuff s = .ok b ∧ bytes = storageBlockHeader ++ b := by
  unfold storeToBinary at h
  split at h
  · rename_i b hb
    cases h
    exact ⟨b, hb, rfl⟩
  · cases h

theorem load_from_binary_store_to_binary_reload {bytes bytes' : List UInt8} {s : Section}
    (hload : loadFromBinary bytes = some s) (hstore : storeToBinary s = some bytes') :
    loadFromBinary bytes' = some s := by
  obtain ⟨body, rest, hrun⟩ := loadFromBinary_eq_some hload
  obtain ⟨b, hb, rfl⟩ := storeToBinary_eq_some hstore
  have hre : SectionReread (recursionLimit - 1) s := (returns_reread _).1 body s rest hrun
  have hread := hre b hb (recursionLimit - 1) le_rfl []
  rw [List.append_nil] at hread
  rw [loadFromBinary_header (packSectionToBuff_ne_nil hb), hread]

/-- A buffer whose count is a two-byte varint and whose name `a` comes twice: the map keeps the
first value, and the writer's one-byte form of that map loads the same. -/
theorem load_from_binary_store_to_binary_reload_duplicate :
    loadFromBinary [1, 17, 1, 1, 1, 1, 2, 1, 1, 9, 0, 1, 97, 8, 5, 1, 97, 8, 7] =
        some (.mk [([97], .uint8 5)]) ∧
      storeToBinary (.mk [([97], .uint8 5)]) = some [1, 17, 1, 1, 1, 1, 2, 1, 1, 4, 1, 97, 8, 5] ∧
      loadFromBinary [1, 17, 1, 1, 1, 1, 2, 1, 1, 4, 1, 97, 8, 5] = some (.mk [([97], .uint8 5)]) :=
  have hload : loadFromBinary [1, 17, 1, 1, 1, 1, 2, 1, 1, 9, 0, 1, 97, 8, 5, 1, 97, 8, 7] =
      some (.mk [([97], .uint8 5)]) := by rfl
  have hstore : storeToBinary (.mk [([97], .uint8 5)]) =
      some [1, 17, 1, 1, 1, 1, 2, 1, 1, 4, 1, 97, 8, 5] := by rfl
  ⟨hload, hstore, load_from_binary_store_to_binary_reload hload hstore⟩

end Bittube.Epee.Serialization

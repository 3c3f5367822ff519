import Mathlib.Data.Finset.Basic
import Bittube.Common.Pruning
import Bittube.Lib.KeyedSet

/-!
# `cryptonote::block_queue` (`block_queue.cpp`)

The queue of block spans a node downloads from its peers. A span is a run of `nblocks` heights
from `start_block_height`, owned by one connection, with the hashes it was reserved for and,
once they arrive, the blocks. The spans sit in a `std::set` ordered by start height only, so two
spans never start at the same height and inserting a second one there does nothing. Beside the
spans the queue keeps `requested_hashes`, the hashes some span was reserved for, and
`have_blocks`, the hashes of spans filled with blocks.

The model keeps the spans as a `KeyedSet` keyed by the start height, and the two hash sets as
`Finset`s. The loops over the set that erase while they walk (`flush_spans`,
`flush_stale_spans`, `remove_spans`) visit the spans in order, each once, and are one fold,
`eraseWhere`, over the spans present when the loop starts. Heights are naturals: the sums
`last_block_height + 1` and `span_start_height + CRYPTONOTE_PRUNING_STRIPE_SIZE` of
`reserve_span` wrap in `uint64_t` only for a `last_block_height` within a stripe of `2 ^ 64`,
which the model leaves out.

`erase_block` takes the hashes of the span it erases out of both sets, whether or not another
span holds them too, and the loop of `reserve_span` that collects the hashes of a new span
checks only its first hash against `requested_hashes`. Two spans can therefore share a hash, and
erasing one of them leaves the other holding a hash that is no longer requested. The
reservation itself can be reported without being recorded: when another connection's span
starts at the height `reserve_span` picks, the insert does nothing, `set_span_hashes` finds no
span of the connection, and the span is reported all the same.
-/

namespace Bittube.CryptonoteProtocol

open Bittube.Common.Pruning

/-- `block_queue::span`. Its `rate`, `size` and `time` are left out: no modelled function reads
them. -/
structure Span (H C B : Type) where
  startBlockHeight : ℕ
  hashes : List H
  blocks : List B
  connectionId : C
  nblocks : ℕ

/-- `block_queue`: the spans, ordered by start height (`block_map`), and the two hash sets. -/
structure BlockQueue (H C B : Type) where
  blocks : KeyedSet (Span H C B) Span.startBlockHeight
  requestedHashes : Finset H
  haveBlocks : Finset H

namespace BlockQueue

variable {H C B : Type} [DecidableEq H] [DecidableEq C]

/-- The queue with no spans. -/
def empty : BlockQueue H C B := ⟨KeyedSet.empty _, ∅, ∅⟩

/-- `erase_block(j)`: the span's hashes leave both sets, then the span leaves the set. Every
caller passes a span of the set, so its check on the iterator always passes. -/
def eraseBlock (q : BlockQueue H C B) (j : Span H C B) : BlockQueue H C B :=
  { blocks := q.blocks.erase j.startBlockHeight
    requestedHashes := j.hashes.foldl (fun r h => r.erase h) q.requestedHashes
    haveBlocks := j.hashes.foldl (fun r h => r.erase h) q.haveBlocks }

/-- `remove_span(start_block_height, &hashes)`: the hashes of the span that starts there, which
is erased, if there is one. The span is a `const` element of the set, so `std::move` of its
hashes copies them and `erase_block` still sees them. -/
def removeSpan (q : BlockQueue H C B) (startBlockHeight : ℕ) :
    Option (List H) × BlockQueue H C B :=
  match q.blocks.toList.find? (·.startBlockHeight == startBlockHeight) with
  | some i => (some i.hashes, q.eraseBlock i)
  | none => (none, q)

/-- `set_span_hashes(start_height, connection_id, hashes)`: the span of the connection that
starts there takes the hashes, which become requested. -/
def setSpanHashes (q : BlockQueue H C B) (startHeight : ℕ) (connectionId : C) (hashes : List H) :
    BlockQueue H C B :=
  match q.blocks.toList.find? fun i =>
      i.startBlockHeight == startHeight && i.connectionId == connectionId with
  | some i =>
    let q := q.eraseBlock i
    { q with
      requestedHashes := hashes.foldl (fun r h => insert h r) q.requestedHashes
      blocks := q.blocks.insert { i with hashes := hashes } }
  | none => q

/-- `add_blocks(height, bcel, connection_id, rate, size)`: a span of downloaded blocks replaces
the span that starts there, and takes over its hashes, which are then had. -/
def addBlocks (q : BlockQueue H C B) (height : ℕ) (bcel : List B) (connectionId : C) :
    BlockQueue H C B :=
  let (removed, q) := q.removeSpan height
  let q := { q with blocks := q.blocks.insert ⟨height, [], bcel, connectionId, bcel.length⟩ }
  match removed with
  | some hashes =>
    let q := { q with
      requestedHashes := hashes.foldl (fun r h => insert h r) q.requestedHashes
      haveBlocks := hashes.foldl (fun r h => insert h r) q.haveBlocks }
    q.setSpanHashes height connectionId hashes
  | none => q

/-- The insert of `add_blocks(height, nblocks, connection_id, time)`: an empty span of
`nblocks` heights. -/
def scheduleSpan (q : BlockQueue H C B) (height nblocks : ℕ) (connectionId : C) :
    BlockQueue H C B :=
  { q with blocks := q.blocks.insert ⟨height, [], [], connectionId, nblocks⟩ }

/-- `add_blocks(height, nblocks, connection_id, time)`, which throws on an empty span. -/
def addBlocksCount (q : BlockQueue H C B) (height nblocks : ℕ) (connectionId : C) :
    Except String (BlockQueue H C B) :=
  if nblocks > 0 then .ok (q.scheduleSpan height nblocks connectionId) else .error "Empty span"

/-- The loops that walk the set and erase the spans a test picks. -/
def eraseWhere (q : BlockQueue H C B) (p : Span H C B → Bool) : BlockQueue H C B :=
  q.blocks.toList.foldl (fun q j => if p j then q.eraseBlock j else q) q

/-- `flush_spans(connection_id, all)`: the connection's spans, or its spans without blocks. -/
def flushSpans (q : BlockQueue H C B) (connectionId : C) (all : Bool) : BlockQueue H C B :=
  q.eraseWhere fun j => j.connectionId == connectionId && (all || j.blocks.length == 0)

/-- `flush_stale_spans(live_connections)`: the spans without blocks of dead connections. -/
def flushStaleSpans (q : BlockQueue H C B) (liveConnections : Finset C) : BlockQueue H C B :=
  q.eraseWhere fun j => j.blocks.isEmpty && !decide (j.connectionId ∈ liveConnections)

/-- `remove_spans(connection_id, start_block_height)`: the connection's spans that start at or
below the height. -/
def removeSpans (q : BlockQueue H C B) (connectionId : C) (startBlockHeight : ℕ) :
    BlockQueue H C B :=
  q.eraseWhere fun j => j.connectionId == connectionId && decide (j.startBlockHeight ≤ startBlockHeight)

/-! ### `reserve_span` -/

/-- `while (i != block_hashes.end() && requested_internal((*i).first)) { ++i; ++span_start_height; }`:
the number of leading hashes already requested. -/
def countRequested (requested : Finset H) : List (H × ℕ) → ℕ
  | [] => 0
  | (h, _) :: l => if h ∈ requested then countRequested requested l + 1 else 0

/-- The loop that collects the hashes of the span from `height` on, `budget` blocks below
`max_blocks`: it stops at a block the peer pruned, and when syncing pruned blocks at the first
block whose local pruned state differs from the first one's. -/
def spanHashes (syncPrunedBlocks firstIsPruned : Bool) (localPruningSeed pruningSeed
    blockchainHeight : ℕ) : ℕ → ℕ → List (H × ℕ) → List H
  | _, 0, _ => []
  | _, _ + 1, [] => []
  | height, budget + 1, (h, _) :: l =>
    if syncPrunedBlocks || hasUnprunedBlock height blockchainHeight pruningSeed then
      if syncPrunedBlocks && firstIsPruned == hasUnprunedBlock height blockchainHeight localPruningSeed
      then []
      else h :: spanHashes syncPrunedBlocks firstIsPruned localPruningSeed pruningSeed
        blockchainHeight (height + 1) budget l
    else []

/-- `if (!sync_pruned_blocks) { ... }`: the start moves to the peer's next unpruned height, kept
in a `uint32_t`, when it lies past the start and within a stripe of it. -/
def pruningStart (syncPrunedBlocks : Bool) (pruningSeed blockchainHeight spanStartHeight : ℕ) : ℕ :=
  if !syncPrunedBlocks then
    let nextUnprunedHeight :=
      getNextUnprunedBlockHeight spanStartHeight blockchainHeight pruningSeed % 2 ^ 32
    if nextUnprunedHeight > spanStartHeight ∧
        nextUnprunedHeight < spanStartHeight + cryptonotePruningStripeSize then
      nextUnprunedHeight
    else spanStartHeight
  else spanStartHeight

/-- `reserve_span(first_block_height, last_block_height, max_blocks, connection_id,
sync_pruned_blocks, local_pruning_seed, pruning_seed, blockchain_height, block_hashes)`: the
start and length of the span reserved, `(0, 0)` when none is. The hashes are those of the
heights `last_block_height - block_hashes.size() + 1` to `last_block_height`. -/
def reserveSpan (q : BlockQueue H C B) (firstBlockHeight lastBlockHeight maxBlocks : ℕ)
    (connectionId : C) (syncPrunedBlocks : Bool) (localPruningSeed pruningSeed blockchainHeight : ℕ)
    (blockHashes : List (H × ℕ)) : (ℕ × ℕ) × BlockQueue H C B :=
  if lastBlockHeight < firstBlockHeight ∨ maxBlocks = 0 then ((0, 0), q)
  -- "more block hashes than fit within last_block_height"
  else if blockHashes.length > lastBlockHeight then ((0, 0), q)
  else
    let blockHashesStartHeight := lastBlockHeight - blockHashes.length + 1
    -- skip everything we've already requested
    let spanStartHeight := blockHashesStartHeight + countRequested q.requestedHashes blockHashes
    -- if the peer's pruned for the starting block and its unpruned stripe comes next, start
    -- downloading from there
    let spanStartHeight := pruningStart syncPrunedBlocks pruningSeed blockchainHeight spanStartHeight
    -- "Out of hashes, cannot reserve"
    if spanStartHeight ≥ blockHashes.length + blockHashesStartHeight then ((0, 0), q)
    else
      let rest := blockHashes.drop (spanStartHeight - blockHashesStartHeight)
      let skipped := countRequested q.requestedHashes rest
      let spanStartHeight := spanStartHeight + skipped
      let firstIsPruned :=
        syncPrunedBlocks && !hasUnprunedBlock spanStartHeight blockchainHeight localPruningSeed
      let hashes := spanHashes syncPrunedBlocks firstIsPruned localPruningSeed pruningSeed
        blockchainHeight spanStartHeight maxBlocks (rest.drop skipped)
      -- "span_length 0, cannot reserve"
      if hashes.length = 0 then ((0, 0), q)
      else
        -- `add_blocks(span_start_height, span_length, ...)`: the span is not empty, so it does
        -- not throw
        let q := q.scheduleSpan spanStartHeight hashes.length connectionId
        ((spanStartHeight, hashes.length), q.setSpanHashes spanStartHeight connectionId hashes)

/-! ### The hash sets under the loops of the source -/

section HashSets

theorem mem_foldl_insert {x : H} : ∀ {l : List H} {s : Finset H},
    x ∈ l.foldl (fun r h => insert h r) s ↔ x ∈ s ∨ x ∈ l
  | [], _ => by simp
  | a :: l, s => by
    rw [List.foldl_cons, mem_foldl_insert, Finset.mem_insert, List.mem_cons]
    constructor
    · rintro ((rfl | hs) | hl)
      · exact Or.inr (Or.inl rfl)
      · exact Or.inl hs
      · exact Or.inr (Or.inr hl)
    · rintro (hs | rfl | hl)
      · exact Or.inl (Or.inr hs)
      · exact Or.inl (Or.inl rfl)
      · exact Or.inr hl

theorem mem_foldl_erase {x : H} : ∀ {l : List H} {s : Finset H},
    x ∈ l.foldl (fun r h => r.erase h) s ↔ x ∈ s ∧ x ∉ l
  | [], _ => by simp
  | a :: l, s => by
    rw [List.foldl_cons, mem_foldl_erase, Finset.mem_erase, List.mem_cons, not_or]
    constructor
    · rintro ⟨⟨hxa, hs⟩, hl⟩
      exact ⟨hs, hxa, hl⟩
    · rintro ⟨hs, hxa, hl⟩
      exact ⟨⟨hxa, hs⟩, hl⟩

/-- Erasing one list from two sets keeps the one inside the other. -/
theorem foldl_erase_subset {s t : Finset H} (h : s ⊆ t) (l : List H) :
    l.foldl (fun r h => r.erase h) s ⊆ l.foldl (fun r h => r.erase h) t := by
  intro x hx
  rw [mem_foldl_erase] at hx ⊢
  exact ⟨h hx.1, hx.2⟩

/-- Inserting one list into two sets keeps the one inside the other. -/
theorem foldl_insert_subset {s t : Finset H} (h : s ⊆ t) (l : List H) :
    l.foldl (fun r h => insert h r) s ⊆ l.foldl (fun r h => insert h r) t := by
  intro x hx
  rw [mem_foldl_insert] at hx ⊢
  exact hx.imp (fun hs => h hs) id

theorem subset_foldl_insert (s : Finset H) (l : List H) :
    s ⊆ l.foldl (fun r h => insert h r) s :=
  fun _ hx => mem_foldl_insert.2 (Or.inl hx)

end HashSets

/-! ### The operations on the queue -/

/-- A call of one of the functions that change the queue. -/
inductive Op (H C B : Type) where
  | addBlocks (height : ℕ) (bcel : List B) (connectionId : C)
  | addBlocksCount (height nblocks : ℕ) (connectionId : C)
  | reserveSpan (firstBlockHeight lastBlockHeight maxBlocks : ℕ) (connectionId : C)
      (syncPrunedBlocks : Bool) (localPruningSeed pruningSeed blockchainHeight : ℕ)
      (blockHashes : List (H × ℕ))
  | setSpanHashes (startHeight : ℕ) (connectionId : C) (hashes : List H)
  | removeSpan (startBlockHeight : ℕ)
  | removeSpans (connectionId : C) (startBlockHeight : ℕ)
  | flushSpans (connectionId : C) (all : Bool)
  | flushStaleSpans (liveConnections : Finset C)

/-- The queue after a call. A call that throws leaves it as it was. -/
def Op.apply (q : BlockQueue H C B) : Op H C B → BlockQueue H C B
  | .addBlocks height bcel connectionId => q.addBlocks height bcel connectionId
  | .addBlocksCount height nblocks connectionId =>
    match q.addBlocksCount height nblocks connectionId with
    | .ok q' => q'
    | .error _ => q
  | .reserveSpan first last maxBlocks connectionId sync localSeed seed blockchainHeight hashes =>
    (q.reserveSpan first last maxBlocks connectionId sync localSeed seed blockchainHeight hashes).2
  | .setSpanHashes startHeight connectionId hashes => q.setSpanHashes startHeight connectionId hashes
  | .removeSpan startBlockHeight => (q.removeSpan startBlockHeight).2
  | .removeSpans connectionId startBlockHeight => q.removeSpans connectionId startBlockHeight
  | .flushSpans connectionId all => q.flushSpans connectionId all
  | .flushStaleSpans liveConnections => q.flushStaleSpans liveConnections

/-- The bookkeeping of the two hash sets: every hash a span holds is requested, and so is every
hash of a downloaded block. -/
def Bookkeeping (q : BlockQueue H C B) : Prop :=
  (∀ j ∈ q.blocks.toList, ∀ h ∈ j.hashes, h ∈ q.requestedHashes) ∧
    q.haveBlocks ⊆ q.requestedHashes

instance : DecidablePred (Bookkeeping (H := H) (C := C) (B := B)) := fun q =>
  inferInstanceAs (Decidable ((∀ j ∈ q.blocks.toList, ∀ h ∈ j.hashes, h ∈ q.requestedHashes) ∧
    q.haveBlocks ⊆ q.requestedHashes))

/-- Two reservations share the hash `8`; flushing the first connection's span drops `8` from
the requested hashes while the second span still holds it. -/
theorem bookkeeping_fails_after_flush :
    ¬Bookkeeping ([Op.reserveSpan 0 5 1 1 false 0 0 0 [(8, 0)],
      .reserveSpan 0 5 2 2 false 0 0 0 [(7, 0), (8, 0)],
      .flushSpans 1 true].foldl Op.apply (empty : BlockQueue ℕ ℕ Unit)) := by
  decide

/-- Connection `2` has a span at height `5`; connection `1` reserves the single hash `7` at
height `5`. The reservation is reported, yet no span of connection `1` is in the queue and `7`
is not requested. -/
theorem reserve_span_reports_unrecorded :
    let q : BlockQueue ℕ ℕ Unit := Op.apply empty (.addBlocksCount 5 1 2)
    let r := q.reserveSpan 0 5 1 1 false 0 0 0 [(7, 0)]
    r.1 = (5, 1) ∧ (∀ j ∈ r.2.blocks.toList, j.connectionId ≠ 1) ∧ 7 ∉ r.2.requestedHashes := by
  decide

/-! ### What `reserve_span` does -/

theorem le_pruningStart (sync : Bool) (seed bh s : ℕ) : s ≤ pruningStart sync seed bh s := by
  rw [pruningStart]
  dsimp only
  split_ifs <;> omega

/-- What `reserve_span` can do: reserve nothing and leave the queue, or take a start `s₀` among
the heights of the hashes, step past the hashes requested from there, and reserve the span its
loop collects. -/
theorem reserveSpan_cases (q : BlockQueue H C B) (first last maxBlocks : ℕ) (c : C) (sync : Bool)
    (localSeed seed bh : ℕ) (blockHashes : List (H × ℕ)) :
    q.reserveSpan first last maxBlocks c sync localSeed seed bh blockHashes = ((0, 0), q) ∨
      ∃ s₀, blockHashes.length ≤ last ∧ last - blockHashes.length + 1 ≤ s₀ ∧
        s₀ < blockHashes.length + (last - blockHashes.length + 1) ∧
        let rest := blockHashes.drop (s₀ - (last - blockHashes.length + 1))
        let s := s₀ + countRequested q.requestedHashes rest
        let hashes := spanHashes sync (sync && !hasUnprunedBlock s bh localSeed) localSeed seed bh
          s maxBlocks (rest.drop (countRequested q.requestedHashes rest))
        hashes ≠ [] ∧
          q.reserveSpan first last maxBlocks c sync localSeed seed bh blockHashes =
            ((s, hashes.length), (q.scheduleSpan s hashes.length c).setSpanHashes s c hashes) := by
  unfold reserveSpan
  dsimp only
  split_ifs with h1 h2 h3 h4
  · exact Or.inl rfl
  · exact Or.inl rfl
  · exact Or.inl rfl
  · exact Or.inl rfl
  · -- the start is the one after the requested hashes, moved by the pruning jump
    refine Or.inr ⟨_, Nat.le_of_not_lt h2,
      le_trans (Nat.le_add_right _ _) (le_pruningStart _ _ _ _), Nat.lt_of_not_le h3, ?_⟩
    exact ⟨fun h => h4 (by rw [h]; rfl), rfl⟩

/-- `countRequested` stops at a hash that is not requested, or at the end. -/
theorem countRequested_stop (req : Finset H) :
    ∀ (l : List (H × ℕ)) (p : H × ℕ), l[countRequested req l]? = some p → p.1 ∉ req
  | [], _, h => by simp at h
  | (a, x) :: l, p, h => by
    rw [countRequested] at h
    split_ifs at h with ha
    · exact countRequested_stop req l p h
    · rw [List.getElem?_cons_zero, Option.some.injEq] at h
      rw [← h]
      exact ha

theorem countRequested_le_length (req : Finset H) :
    ∀ l : List (H × ℕ), countRequested req l ≤ l.length
  | [] => Nat.le_refl 0
  | (a, x) :: l => by
    rw [countRequested, List.length_cons]
    split_ifs
    · exact Nat.succ_le_succ (countRequested_le_length req l)
    · exact Nat.zero_le _

omit [DecidableEq H] in
/-- The loop of `reserve_span` collects a prefix of the hashes, at most `budget` of them, and
every height it collects is one the peer keeps, or, when syncing pruned blocks, one whose
local pruned state is not `firstIsPruned`. -/
theorem spanHashes_spec (sync fip : Bool) (localSeed seed bh : ℕ) :
    ∀ (height budget : ℕ) (l : List (H × ℕ)),
      let hs := spanHashes sync fip localSeed seed bh height budget l
      hs.length ≤ budget ∧ hs = (l.take hs.length).map Prod.fst ∧
        ∀ i < hs.length, (sync = false → hasUnprunedBlock (height + i) bh seed = true) ∧
          (sync = true → (fip == hasUnprunedBlock (height + i) bh localSeed) = false)
  | _, 0, _ => by simp [spanHashes]
  | _, _ + 1, [] => by simp [spanHashes]
  | height, budget + 1, (h, x) :: l => by
    intro hs
    obtain ⟨ihb, ihp, ihs⟩ := spanHashes_spec sync fip localSeed seed bh (height + 1) budget l
    by_cases hkeep : (sync || hasUnprunedBlock height bh seed) = true
    · by_cases hstop : (sync && fip == hasUnprunedBlock height bh localSeed) = true
      · -- the first block already stops the loop
        have hnil : hs = [] := by simp only [hs, spanHashes, if_pos hkeep, if_pos hstop]
        simp [hnil]
      · -- the block is collected, and the rest of the loop starts one height further
        have hcons : hs = h :: spanHashes sync fip localSeed seed bh (height + 1) budget l := by
          simp only [hs, spanHashes, if_pos hkeep, if_neg hstop]
        rw [hcons, List.length_cons]
        refine ⟨Nat.succ_le_succ ihb, ?_, fun i hi => ?_⟩
        · rw [List.take_succ_cons, List.map_cons, ← ihp]
        · rcases i with _ | i
          · constructor
            · intro hs0
              simpa [hs0] using hkeep
            · intro hs1
              simpa [hs1] using hstop
          · rw [show height + (i + 1) = height + 1 + i by omega]
            exact ihs i (by omega)
    · have hnil : hs = [] := by simp only [hs, spanHashes, if_neg hkeep]
      simp [hnil]

/-- A span scheduled at a free height takes the hashes `set_span_hashes` gives it, and they
are requested. -/
theorem setSpanHashes_scheduleSpan (q : BlockQueue H C B) {s : ℕ}
    (hfresh : ∀ j ∈ q.blocks.toList, j.startBlockHeight ≠ s) (n : ℕ) (c : C) (hs : List H) :
    (⟨s, hs, [], c, n⟩ : Span H C B) ∈ ((q.scheduleSpan s n c).setSpanHashes s c hs).blocks.toList ∧
      ∀ h ∈ hs, h ∈ ((q.scheduleSpan s n c).setSpanHashes s c hs).requestedHashes := by
  have hmem : (⟨s, [], [], c, n⟩ : Span H C B) ∈ (q.scheduleSpan s n c).blocks.toList :=
    (KeyedSet.mem_insert_of_fresh _ hfresh).2 (Or.inl rfl)
  have hfind := KeyedSet.find?_eq_some (q.scheduleSpan s n c).blocks
    (p := fun i => i.startBlockHeight == s && i.connectionId == c) hmem (by simp)
    (fun b hb => by
      simp only [Bool.and_eq_true, beq_iff_eq] at hb
      exact hb.1)
  rw [setSpanHashes, hfind]
  refine ⟨(KeyedSet.mem_insert_of_fresh _ fun b hb => ((KeyedSet.mem_erase _).1 hb).2).2
    (Or.inl rfl), fun h hh => mem_foldl_insert.2 (Or.inr hh)⟩

/-- What a reservation of the span `(s, n)` promises, `q` the queue before the call and `q'`
after it: at most `max_blocks` heights among those of the hashes, starting at a hash not
requested before, on heights the peer keeps (or, when syncing pruned blocks, of one local pruned
state), and, when no span started at `s` before, a span of the connection recorded at `s` with
exactly the hashes of its heights, all of them requested. -/
structure Reserves (q q' : BlockQueue H C B) (last maxBlocks : ℕ) (c : C) (sync : Bool)
    (localSeed seed bh : ℕ) (blockHashes : List (H × ℕ)) (s n : ℕ) : Prop where
  le_max : n ≤ maxBlocks
  start_le : last - blockHashes.length + 1 ≤ s
  le_last : s + n - 1 ≤ last
  first_fresh : ∃ p, blockHashes[s - (last - blockHashes.length + 1)]? = some p ∧
    p.1 ∉ q.requestedHashes
  unpruned : ∀ t, s ≤ t → t < s + n →
    if sync then hasUnprunedBlock t bh localSeed = hasUnprunedBlock s bh localSeed
    else hasUnprunedBlock t bh seed = true
  recorded : (∀ j ∈ q.blocks.toList, j.startBlockHeight ≠ s) →
    ∃ j ∈ q'.blocks.toList, j.startBlockHeight = s ∧ j.connectionId = c ∧ j.nblocks = n ∧
      j.hashes = ((blockHashes.drop (s - (last - blockHashes.length + 1))).take n).map Prod.fst ∧
      ∀ h ∈ j.hashes, h ∈ q'.requestedHashes

/-- Every span `reserve_span` reports keeps the promises of `Reserves`. -/
theorem reserve_span_reserves (q : BlockQueue H C B) {first last maxBlocks : ℕ} {c : C}
    {sync : Bool} {localSeed seed bh : ℕ} {blockHashes : List (H × ℕ)} {s n : ℕ}
    (hres : (q.reserveSpan first last maxBlocks c sync localSeed seed bh blockHashes).1 = (s, n))
    (hn : 0 < n) :
    Reserves q (q.reserveSpan first last maxBlocks c sync localSeed seed bh blockHashes).2 last
      maxBlocks c sync localSeed seed bh blockHashes s n := by
  rcases reserveSpan_cases q first last maxBlocks c sync localSeed seed bh blockHashes with
    hr | ⟨s₀, hlen, hs₀, hs₀', hne, hr⟩
  · rw [hr] at hres
    cases hres
    exact absurd hn (Nat.lt_irrefl 0)
  -- name the pieces of the reservation
  generalize hstart : last - blockHashes.length + 1 = start at *
  generalize hrest : blockHashes.drop (s₀ - start) = rest at *
  generalize hk : countRequested q.requestedHashes rest = k at *
  generalize hhs : spanHashes sync (sync && !hasUnprunedBlock (s₀ + k) bh localSeed) localSeed seed
    bh (s₀ + k) maxBlocks (rest.drop k) = hs at *
  rw [hr] at hres ⊢
  obtain ⟨rfl, rfl⟩ := Prod.mk.injEq _ _ _ _ ▸ hres
  obtain ⟨hbudget, hslice, hpruned⟩ := spanHashes_spec sync
    (sync && !hasUnprunedBlock (s₀ + k) bh localSeed) localSeed seed bh (s₀ + k) maxBlocks (rest.drop k)
  rw [hhs] at hbudget hslice hpruned
  have hkle : k ≤ rest.length := hk ▸ countRequested_le_length _ rest
  have hrestlen : rest.length = blockHashes.length - (s₀ - start) := by
    rw [← hrest, List.length_drop]
  have hhslen : hs.length ≤ (rest.drop k).length := by
    rw [hslice, List.length_map, List.length_take]
    exact Nat.min_le_right _ _
  -- the hashes of the span are those of its heights
  have hdrop : blockHashes.drop (s₀ + k - start) = rest.drop k := by
    rw [← hrest, List.drop_drop, show s₀ + k - start = s₀ - start + k by omega]
  refine ⟨hbudget, by omega, ?_, ?_, ?_, ?_⟩
  · -- the span ends within the hashes
    rw [List.length_drop] at hhslen
    omega
  · -- the first hash of the span is the one `countRequested` stopped at
    have hpos : 0 < (rest.drop k).length := lt_of_lt_of_le hn hhslen
    obtain ⟨p, hp⟩ : ∃ p, rest[k]? = some p := by
      rw [List.length_drop] at hpos
      exact ⟨_, List.getElem?_eq_getElem (by omega)⟩
    have hstop := countRequested_stop q.requestedHashes rest p
    rw [hk] at hstop
    refine ⟨p, ?_, hstop hp⟩
    rw [hstart, show s₀ + k - start = s₀ - start + k by omega, ← List.getElem?_drop, hrest, hp]
  · intro t ht ht'
    obtain ⟨hseed, hlocal⟩ := hpruned (t - (s₀ + k)) (by omega)
    rw [show s₀ + k + (t - (s₀ + k)) = t by omega] at hseed hlocal
    cases sync
    · rw [if_neg Bool.false_ne_true]
      exact hseed rfl
    · -- the loop went on only while the local pruned state differed from `first_is_pruned`
      have h0 := hlocal rfl
      rw [if_pos rfl]
      revert h0
      generalize hasUnprunedBlock (s₀ + k) bh localSeed = a
      generalize hasUnprunedBlock t bh localSeed = b
      cases a <;> cases b <;> decide
  · intro hfresh
    obtain ⟨hmem, hreq⟩ := setSpanHashes_scheduleSpan q hfresh hs.length c hs
    exact ⟨_, hmem, rfl, rfl, rfl, by rw [hstart, hdrop, ← hslice], hreq⟩

/-- Connection 1 has reserved hash 7 at height 4; connection 2, offered hashes 7, 8 and 9 at
heights 4 to 6 with a budget of three, skips the requested 7 and reserves 8 and 9 from
height 5. -/
theorem reserve_span_reserves_after_requested :
    let q : BlockQueue ℕ ℕ Unit :=
      ((empty : BlockQueue ℕ ℕ Unit).reserveSpan 0 4 1 1 false 0 0 0 [(7, 0)]).2
    (q.reserveSpan 0 6 3 2 false 0 0 0 [(7, 0), (8, 0), (9, 0)]).1 = (5, 2) ∧ 0 < 2 ∧
      Reserves q (q.reserveSpan 0 6 3 2 false 0 0 0 [(7, 0), (8, 0), (9, 0)]).2 6 3 2 false 0 0 0
        [(7, 0), (8, 0), (9, 0)] 5 2 := by
  intro q
  have hres : (q.reserveSpan 0 6 3 2 false 0 0 0 [(7, 0), (8, 0), (9, 0)]).1 = (5, 2) := by
    decide
  exact ⟨hres, by decide, reserve_span_reserves q hres (by decide)⟩

/-! ### Downloaded hashes stay requested -/

section HaveRequested

variable {q : BlockQueue H C B}

omit [DecidableEq C] in
theorem eraseBlock_have_subset (h : q.haveBlocks ⊆ q.requestedHashes) (j : Span H C B) :
    (q.eraseBlock j).haveBlocks ⊆ (q.eraseBlock j).requestedHashes :=
  foldl_erase_subset h j.hashes

theorem setSpanHashes_have_subset (h : q.haveBlocks ⊆ q.requestedHashes) (start : ℕ) (c : C)
    (hashes : List H) :
    (q.setSpanHashes start c hashes).haveBlocks ⊆ (q.setSpanHashes start c hashes).requestedHashes := by
  rw [setSpanHashes]
  split
  · next i _ => exact (eraseBlock_have_subset h i).trans (subset_foldl_insert _ hashes)
  · exact h

omit [DecidableEq C] in
theorem removeSpan_have_subset (h : q.haveBlocks ⊆ q.requestedHashes) (start : ℕ) :
    (q.removeSpan start).2.haveBlocks ⊆ (q.removeSpan start).2.requestedHashes := by
  rw [removeSpan]
  split
  · next i _ => exact eraseBlock_have_subset h i
  · exact h

theorem addBlocks_have_subset (h : q.haveBlocks ⊆ q.requestedHashes) (height : ℕ) (bcel : List B)
    (c : C) : (q.addBlocks height bcel c).haveBlocks ⊆ (q.addBlocks height bcel c).requestedHashes := by
  have hr := removeSpan_have_subset h height
  rw [addBlocks]
  rcases hrm : q.removeSpan height with ⟨removed, q₁⟩
  rw [hrm] at hr
  cases removed with
  | none => exact hr
  | some hashes =>
    -- the taken-over hashes go into both sets
    exact setSpanHashes_have_subset (foldl_insert_subset hr hashes) _ _ _

omit [DecidableEq C] in
theorem eraseWhere_have_subset (h : q.haveBlocks ⊆ q.requestedHashes) (p : Span H C B → Bool) :
    (q.eraseWhere p).haveBlocks ⊆ (q.eraseWhere p).requestedHashes := by
  rw [eraseWhere]
  generalize q.blocks.toList = l
  induction l generalizing q with
  | nil => exact h
  | cons j l ih =>
    rw [List.foldl_cons]
    apply ih
    split_ifs
    · exact eraseBlock_have_subset h j
    · exact h

theorem reserveSpan_have_subset (h : q.haveBlocks ⊆ q.requestedHashes) (first last maxBlocks : ℕ)
    (c : C) (sync : Bool) (localSeed seed bh : ℕ) (blockHashes : List (H × ℕ)) :
    (q.reserveSpan first last maxBlocks c sync localSeed seed bh blockHashes).2.haveBlocks ⊆
      (q.reserveSpan first last maxBlocks c sync localSeed seed bh blockHashes).2.requestedHashes := by
  rcases reserveSpan_cases q first last maxBlocks c sync localSeed seed bh blockHashes with
    hr | ⟨s₀, -, -, -, -, hr⟩
  · rw [hr]
    exact h
  · rw [hr]
    exact setSpanHashes_have_subset (q := q.scheduleSpan _ _ c) h _ _ _

/-- Every call keeps the hashes of downloaded blocks among the requested ones. -/
theorem Op.apply_have_subset (h : q.haveBlocks ⊆ q.requestedHashes) (op : Op H C B) :
    (op.apply q).haveBlocks ⊆ (op.apply q).requestedHashes := by
  cases op with
  | addBlocks height bcel c => exact addBlocks_have_subset h height bcel c
  | addBlocksCount height nblocks c =>
    rw [Op.apply, BlockQueue.addBlocksCount]
    split_ifs
    · exact h
    · exact h
  | reserveSpan first last maxBlocks c sync localSeed seed bh blockHashes =>
    exact reserveSpan_have_subset h first last maxBlocks c sync localSeed seed bh blockHashes
  | setSpanHashes start c hashes => exact setSpanHashes_have_subset h start c hashes
  | removeSpan start => exact removeSpan_have_subset h start
  | removeSpans c start => exact eraseWhere_have_subset h _
  | flushSpans c all => exact eraseWhere_have_subset h _
  | flushStaleSpans live => exact eraseWhere_have_subset h _

end HaveRequested

/-- From an empty queue, whatever the calls, `have_blocks` stays inside `requested_hashes`. -/
theorem have_blocks_subset_requested (ops : List (Op H C B)) :
    (ops.foldl Op.apply (empty : BlockQueue H C B)).haveBlocks ⊆
      (ops.foldl Op.apply (empty : BlockQueue H C B)).requestedHashes := by
  -- the run from any queue with the property, by induction on the calls
  have hrun : ∀ (q : BlockQueue H C B), q.haveBlocks ⊆ q.requestedHashes →
      (ops.foldl Op.apply q).haveBlocks ⊆ (ops.foldl Op.apply q).requestedHashes := by
    induction ops with
    | nil => exact fun q h => h
    | cons op ops ih => exact fun q h => ih (op.apply q) (Op.apply_have_subset h op)
  exact hrun empty (Finset.empty_subset _)

end BlockQueue

end Bittube.CryptonoteProtocol

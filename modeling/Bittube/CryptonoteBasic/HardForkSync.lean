import Bittube.CryptonoteBasic.HardFork

/-!
# Forward sync and reorganization of the hard-fork state

`BlockchainDB::add_block` stores each block at the next height and then calls `HardFork::add`
for it (`syncBlocks`). Started from `init` on an empty database, the state along such a run is
determined by the blocks seen and the fork index (`windowState`): the window holds the
effective votes of the last `window_size` blocks and every counter counts its version there.

One accepted block slides the window, records the current fork's version at its height, and
keeps the fork index or raises it to a fork whose height is reached and whose votes meet its
threshold; along a run the fork index only rises and stays on a fork whose height is reached, or
on the first fork. So the recorded versions are scheduled versions, non-decreasing in the
height, and a fork above the first is first recorded only after the window held its threshold of
votes, for window sizes below `2 ^ 32`. The first fork is used from height 0 whatever its
scheduled height, and a window of `2 ^ 32` or more breaks the threshold computation.

`reorganize_from_block_height` on the chain the state was built from rebuilds exactly the state
it started from: it lowers the fork index to the one the database recorded, rebuilds the window
the run had at that height, and replays the rest. `on_block_popped(n)` does not: it puts the
versions recorded at the popped heights in front of the window, where `init` puts the votes of
the blocks below the window.
-/

namespace Bittube

namespace HardFork

open CountedWindow

/-! ## The run -/

/-- Forward sync as `BlockchainDB::add_block` drives it: each block is stored at the next
height, then `HardFork::add` runs for it at that height. `none` once `add` rejects a block. -/
def syncBlocks : HardFork × BlockchainDb → List BlockVersions → Option (HardFork × BlockchainDb)
  | s, [] => some s
  | (hf, db), b :: bs =>
    (hf.addBlock { db with blocks := db.blocks ++ [b] } b db.height).bind fun s => syncBlocks s bs

theorem syncBlocks_append (s : HardFork × BlockchainDb) (bs bs' : List BlockVersions) :
    syncBlocks s (bs ++ bs') = (syncBlocks s bs).bind fun s => syncBlocks s bs' := by
  induction bs generalizing s with
  | nil => rfl
  | cons b bs ih =>
    obtain ⟨hf, db⟩ := s
    simp only [List.cons_append, syncBlocks, Option.bind_assoc, ih]

/-- Forward sync stores the blocks and writes versions only at the heights it adds. -/
theorem syncBlocks_db {s s' : HardFork × BlockchainDb} :
    ∀ {bs : List BlockVersions}, syncBlocks s bs = some s' →
      s'.2.blocks = s.2.blocks ++ bs ∧
        ∀ h < s.2.height, s'.2.hardForkVersions h = s.2.hardForkVersions h
  | [], h => by
    obtain rfl := Option.some.inj h
    simp
  | b :: bs, h => by
    obtain ⟨hf, db⟩ := s
    simp only [syncBlocks, Option.bind_eq_some_iff] at h
    obtain ⟨⟨hf₁, db₁⟩, hadd, hrest⟩ := h
    have hdb₁ := add_db hadd
    obtain ⟨hblocks, hvers⟩ := syncBlocks_db hrest
    subst hdb₁
    refine ⟨by simp [hblocks], fun k hk => ?_⟩
    have hk' : k < ({ db with blocks := db.blocks ++ [b] } : BlockchainDb).height := by
      simp only [BlockchainDb.height, List.length_append] at hk ⊢
      omega
    rw [hvers k (by simpa using hk')]
    simp [Function.update_of_ne (Nat.ne_of_lt hk)]

/-- Every prefix of an accepted run is accepted, and the rest continues from its state. -/
theorem syncBlocks_prefix {s s' : HardFork × BlockchainDb} {bs : List BlockVersions}
    (h : syncBlocks s bs = some s') (k : ℕ) :
    ∃ sk, syncBlocks s (bs.take k) = some sk ∧ syncBlocks sk (bs.drop k) = some s' := by
  rw [← List.take_append_drop k bs, syncBlocks_append, Option.bind_eq_some_iff] at h
  exact h

/-! ## The state along a run -/

/-- The effective votes of the blocks `bs`. -/
def effectiveVotes (hf : HardFork) (bs : List BlockVersions) : List UInt8 :=
  bs.map fun b => hf.getEffectiveVersion (getBlockVote b)

/-- The state forward sync keeps after the blocks `bs` from `hf` with an empty window: the
window holds the effective votes of the last `window_size` blocks, each counter counts its
version there, and the fork index is `c`. -/
def windowState (hf : HardFork) (bs : List BlockVersions) (c : ℕ) : HardFork :=
  { hf with
    versions := lastN hf.windowSize (effectiveVotes hf bs)
    lastVersions := fun v => (lastN hf.windowSize (effectiveVotes hf bs)).count v % 2 ^ 32
    currentForkIndex := c }

/-- What forward sync keeps of its fork index `c` after `k` blocks: it indexes the schedule,
and it is the first fork or one whose height is reached. -/
def IndexReached (hf : HardFork) (k c : ℕ) : Prop :=
  c < hf.heights.length ∧ (c = 0 ∨ (hf.heights.getD c default).height ≤ k)

section WindowState

variable {hf : HardFork} {bs : List BlockVersions} {c : ℕ}

@[simp]
theorem heights_windowState : (windowState hf bs c).heights = hf.heights := rfl

@[simp]
theorem windowSize_windowState : (windowState hf bs c).windowSize = hf.windowSize := rfl

@[simp]
theorem currentForkIndex_windowState : (windowState hf bs c).currentForkIndex = c := rfl

@[simp]
theorem defaultThresholdPercent_windowState :
    (windowState hf bs c).defaultThresholdPercent = hf.defaultThresholdPercent := rfl

@[simp]
theorem originalVersion_windowState :
    (windowState hf bs c).originalVersion = hf.originalVersion := rfl

theorem getEffectiveVersion_windowState (v : UInt8) :
    (windowState hf bs c).getEffectiveVersion v = hf.getEffectiveVersion v := rfl

theorem getCurrentVersion_windowState :
    (windowState hf bs c).getCurrentVersion = (hf.heights.getD c default).version := rfl

theorem windowState_inj {c' : ℕ} (h : windowState hf bs c = windowState hf bs c') : c = c' :=
  congrArg currentForkIndex h

theorem raise_windowState {n : ℕ} :
    { windowState hf bs c with currentForkIndex := n } = windowState hf bs n := rfl

/-- `init` on an empty database leaves the window state of no blocks and the first fork. -/
theorem windowState_init (hf : HardFork) :
    windowState (hf.init BlockchainDb.empty) [] 0 = hf.init BlockchainDb.empty := by
  rw [init_empty]
  split <;> simp [windowState, effectiveVotes]

/-- The window of `add` slides from the blocks `bs` to `bs ++ [b]`. -/
theorem slideWindow_windowState (hws : 0 < hf.windowSize) (b : BlockVersions) :
    (windowState hf bs c).slideWindow (hf.getEffectiveVersion (getBlockVote b)) =
      windowState hf (bs ++ [b]) c := by
  obtain ⟨lastVersions, heq, hcount⟩ :=
    slideWindow_eq (windowState hf bs c) hws (hf.getEffectiveVersion (getBlockVote b))
  have hwin : (windowState hf bs c).versions.drop
      ((windowState hf bs c).versions.length + 1 - hf.windowSize) ++
        [hf.getEffectiveVersion (getBlockVote b)] =
      lastN hf.windowSize (effectiveVotes hf (bs ++ [b])) := by
    rw [effectiveVotes, List.map_append, List.map_singleton, ← lastN_append_singleton hws]
    rfl
  rw [windowSize_windowState, hwin] at heq hcount
  -- the counters of the slid window are the counts of the new window
  have hlv : lastVersions = fun v => (lastN hf.windowSize (effectiveVotes hf (bs ++ [b]))).count v %
      2 ^ 32 :=
    (hcount fun _ => rfl).eq fun _ => rfl
  rw [heq, hlv]
  rfl

/-- One accepted block: the version of fork `c` is recorded at `height`, the window slides,
and the fork index is raised for `height + 1`. -/
theorem addBlock_windowState (hws : 0 < hf.windowSize) {db : BlockchainDb} {b : BlockVersions}
    {height : ℕ} {s : HardFork × BlockchainDb}
    (h : (windowState hf bs c).addBlock db b height = some s) :
    s.2 = db.setHardForkVersion height (hf.heights.getD c default).version ∧
      s.1 = (windowState hf (bs ++ [b]) c).raiseForkIndex (height + 1) := by
  obtain ⟨hf', db'⟩ := s
  obtain ⟨-, rfl, rfl⟩ := add_eq_some_iff.1 h
  refine ⟨rfl, ?_⟩
  rw [getEffectiveVersion_windowState, slideWindow_windowState hws]

/-- Raising the fork index of a window state keeps it, or moves it up to a fork whose
condition holds. -/
theorem raiseForkIndex_windowState (hlen : hf.heights.length ≤ 256) (height : ℕ) :
    (windowState hf bs c).raiseForkIndex height = windowState hf bs c ∨
      ∃ n, (windowState hf bs c).raiseForkIndex height = windowState hf bs n ∧ c < n ∧
        n < hf.heights.length ∧ (windowState hf bs c).VoteMet height n :=
  raiseForkIndex_spec (windowState hf bs c) hlen height

end WindowState

section Run

variable {hf : HardFork} (hws : 0 < hf.windowSize) (hlen : hf.heights.length ≤ 256)
include hws hlen

omit hlen in
/-- One block of forward sync from a window state, with what it records. -/
theorem syncBlocks_singleton_windowState {bs : List BlockVersions} {c : ℕ} {db : BlockchainDb}
    (hdb : db.blocks = bs) {b : BlockVersions} {s : HardFork × BlockchainDb}
    (h : syncBlocks (windowState hf bs c, db) [b] = some s) :
    s.2.hardForkVersions bs.length = (hf.heights.getD c default).version ∧
      s.1 = (windowState hf (bs ++ [b]) c).raiseForkIndex (bs.length + 1) := by
  simp only [syncBlocks, Option.bind_eq_some_iff] at h
  obtain ⟨s₁, hadd, hs⟩ := h
  obtain rfl := Option.some.inj hs
  have hheight : db.height = bs.length := by rw [BlockchainDb.height, hdb]
  rw [hheight] at hadd
  obtain ⟨hdb₁, hstep⟩ := addBlock_windowState hws hadd
  exact ⟨by simp [hdb₁], hstep⟩

/-- The run lemma: from a window state, forward sync reaches the window state of all the
blocks, the fork index only rises, and it stays on a reached fork. -/
theorem syncBlocks_windowState :
    ∀ (bs' : List BlockVersions) {bs : List BlockVersions} {c : ℕ} {db : BlockchainDb}
      {s : HardFork × BlockchainDb}, db.blocks = bs → IndexReached hf bs.length c →
      syncBlocks (windowState hf bs c, db) bs' = some s →
      ∃ c', s.1 = windowState hf (bs ++ bs') c' ∧ c ≤ c' ∧
        IndexReached hf (bs ++ bs').length c'
  | [], bs, c, db, s, _, hc, h => by
    obtain rfl := Option.some.inj h
    exact ⟨c, by simp, le_rfl, by simpa using hc⟩
  | b :: bs', bs, c, db, s, hdb, hc, h => by
    rw [← List.singleton_append, syncBlocks_append, Option.bind_eq_some_iff] at h
    obtain ⟨s₁, h₁, hrest⟩ := h
    obtain ⟨hdb₁, -⟩ := syncBlocks_db h₁
    obtain ⟨-, hstep⟩ := syncBlocks_singleton_windowState hws hdb h₁
    -- the state after `b` is a window state whose index is reached at `bs.length + 1`
    obtain ⟨c₁, hs₁, hcc₁, hc₁⟩ : ∃ c₁, s₁.1 = windowState hf (bs ++ [b]) c₁ ∧ c ≤ c₁ ∧
        IndexReached hf (bs ++ [b]).length c₁ := by
      rw [hstep]
      rcases raiseForkIndex_windowState hlen (bs.length + 1) with hs₁ | ⟨n, hs₁, hlt, hn, hmet⟩
      · refine ⟨c, hs₁, le_rfl, hc.1, hc.2.imp_right fun hle => ?_⟩
        simp only [List.length_append, List.length_singleton]
        omega
      · exact ⟨n, hs₁, hlt.le, hn, .inr (by simpa using hmet.1)⟩
    obtain ⟨s₁hf, s₁db⟩ := s₁
    simp only at hs₁ hdb₁
    subst hs₁
    obtain ⟨c', hs, hc₁c', hc'⟩ :=
      syncBlocks_windowState bs' (by rw [hdb₁, hdb]) hc₁ hrest
    exact ⟨c', by simpa using hs, hcc₁.trans hc₁c', by simpa using hc'⟩

end Run

/-! ## What the window holds when a fork is voted in -/

/-- For windows below `2 ^ 32` the counters are exact, and the condition of
`get_voted_fork_index` for fork `n` says the window held `ceil(window_size * threshold / 100)`
votes at or above its version. -/
theorem voteMet_windowState {hf : HardFork} (hv : ScheduleValid hf.heights)
    (hws32 : hf.windowSize < 2 ^ 32) {bs : List BlockVersions} {c height n : ℕ}
    (hn : n < hf.heights.length) (hmet : (windowState hf bs c).VoteMet height n) :
    (hf.windowSize * (hf.heights.getD n default).threshold.toNat + 99) / 100 ≤
      (lastN hf.windowSize bs).countP fun b => (hf.heights.getD n default).version ≤ getBlockVote b := by
  set W := lastN hf.windowSize (effectiveVotes hf bs) with hW
  set v := (hf.heights.getD n default).version
  have hWlen : W.length < 2 ^ 32 := by
    rw [hW, length_lastN]
    omega
  -- the accumulated votes count the window's votes for the versions from fork `n` on
  have hsum : ((hf.heights.drop n).map fun p => W.count p.version % 2 ^ 32).sum =
      W.countP (· ∈ (hf.heights.drop n).map Params.version) := by
    have hnd : ((hf.heights.drop n).map Params.version).Nodup := by
      rw [List.Nodup, List.pairwise_map]
      exact (List.Pairwise.sublist (List.drop_sublist _ _) hv.1).imp fun h => UInt8.ne_of_lt h.1
    rw [← sum_map_count_eq_countP hnd, List.map_map]
    congr 1
    refine List.map_congr_left fun p _ => ?_
    exact Nat.mod_eq_of_lt (Nat.lt_of_le_of_lt List.count_le_length hWlen)
  -- every version from fork `n` on is at or above `v`
  have hle : W.countP (· ∈ (hf.heights.drop n).map Params.version) ≤ W.countP (v ≤ ·) := by
    refine List.countP_mono_left fun x _ hx => ?_
    simp only [decide_eq_true_eq, List.mem_map] at hx ⊢
    obtain ⟨p, hp, rfl⟩ := hx
    obtain ⟨j, hj, rfl⟩ := List.getElem_of_mem hp
    have hj' : n + j < hf.heights.length := by simp at hj; omega
    rw [List.getElem_drop, ← List.getD_eq_getElem _ default hj']
    exact hv.version_le (by omega) hj'
  have hcount : W.countP (v ≤ ·) = (lastN hf.windowSize bs).countP fun b => v ≤ getBlockVote b := by
    rw [hW, effectiveVotes, lastN_map, List.countP_map]
    refine List.countP_congr fun b _ => ?_
    simp only [Function.comp_apply, decide_eq_true_eq]
    exact le_getEffectiveVersion_iff hf (hv.version_le_getLast hn)
  -- below `2 ^ 32` the threshold computation is exact
  have hthr : votingThreshold hf.windowSize (hf.heights.getD n default).threshold =
      (hf.windowSize * (hf.heights.getD n default).threshold.toNat + 99) / 100 := by
    have ht : (hf.heights.getD n default).threshold.toNat ≤ 100 := by
      have hmem : hf.heights.getD n default ∈ hf.heights := by
        rw [List.getD_eq_getElem _ _ hn]
        exact List.getElem_mem hn
      exact UInt8.le_iff_toNat_le.1 (hv.2 _ hmem)
    have hprod : hf.windowSize * (hf.heights.getD n default).threshold.toNat ≤
        hf.windowSize * 100 := Nat.mul_le_mul_left _ ht
    unfold votingThreshold
    rw [Nat.mod_eq_of_lt (by omega), Nat.mod_eq_of_lt (by omega)]
  have hmet2 := hmet.2
  simp only [windowState] at hmet2
  rw [hthr, hsum, Nat.mod_eq_of_lt (lt_of_le_of_lt (hle.trans List.countP_le_length) hWlen)]
    at hmet2
  exact hcount ▸ hmet2.trans hle

/-! ## Forward sync from an empty window -/

section Prefix

variable {hf : HardFork} (hws : 0 < hf.windowSize) (hlen : hf.heights.length ≤ 256)
  (hne : 0 < hf.heights.length)
include hws hlen hne

/-- The state after the first `k` blocks of a run from an empty window, and the rest of the
run from it. -/
theorem syncBlocks_take_windowState {blocks : List BlockVersions} {s : HardFork × BlockchainDb}
    (hrun : syncBlocks (windowState hf [] 0, BlockchainDb.empty) blocks = some s) (k : ℕ) :
    ∃ c db, syncBlocks (windowState hf [] 0, BlockchainDb.empty) (blocks.take k) =
        some (windowState hf (blocks.take k) c, db) ∧
      db.blocks = blocks.take k ∧ IndexReached hf (blocks.take k).length c ∧
      syncBlocks (windowState hf (blocks.take k) c, db) (blocks.drop k) = some s := by
  obtain ⟨⟨hfk, dbk⟩, hk, hrest⟩ := syncBlocks_prefix hrun k
  obtain ⟨c, hs, -, hc⟩ :=
    syncBlocks_windowState hws hlen (blocks.take k)
      (show BlockchainDb.empty.blocks = [] from rfl) ⟨hne, .inl rfl⟩ hk
  obtain ⟨hblocks, -⟩ := syncBlocks_db hk
  simp only [List.nil_append] at hs hc hblocks
  subst hs
  exact ⟨c, dbk, hk, hblocks, hc, hrest⟩

omit hne in
/-- Along a run from an empty window the fork index after `h` blocks is at most the one after
`h' ≥ h` blocks. -/
theorem syncBlocks_take_forkIndex_mono {blocks : List BlockVersions} {h h' c c' : ℕ}
    {dbh dbh' : BlockchainDb} (hhh : h ≤ h')
    (hpre : syncBlocks (windowState hf [] 0, BlockchainDb.empty) (blocks.take h) =
      some (windowState hf (blocks.take h) c, dbh))
    (hpre' : syncBlocks (windowState hf [] 0, BlockchainDb.empty) (blocks.take h') =
      some (windowState hf (blocks.take h') c', dbh'))
    (hdbh : dbh.blocks = blocks.take h) (hc : IndexReached hf (blocks.take h).length c) :
    c ≤ c' := by
  have hsplit : blocks.take h' = blocks.take h ++ (blocks.take h').drop h := by
    have happ := List.take_append_drop h (blocks.take h')
    rw [List.take_take, Nat.min_eq_left hhh] at happ
    exact happ.symm
  rw [hsplit, syncBlocks_append, hpre, Option.bind_some] at hpre'
  obtain ⟨c'', hs, hle, -⟩ := syncBlocks_windowState hws hlen _ hdbh hc hpre'
  rw [← hsplit] at hs
  exact (windowState_inj hs).symm ▸ hle

/-- The run at height `h`: the fork index `c` after `h` blocks is reached at `h`, its version is
what the database records at `h`, and the block at `h` keeps it or votes in a later fork. -/
theorem syncBlocks_at {blocks : List BlockVersions} {hf' : HardFork} {db : BlockchainDb}
    (hrun : syncBlocks (windowState hf [] 0, BlockchainDb.empty) blocks = some (hf', db))
    {h : ℕ} (hh : h < blocks.length) :
    ∃ c c₁ dbh dbh₁,
      syncBlocks (windowState hf [] 0, BlockchainDb.empty) (blocks.take h) =
          some (windowState hf (blocks.take h) c, dbh) ∧
        dbh.blocks = blocks.take h ∧ IndexReached hf h c ∧
        syncBlocks (windowState hf [] 0, BlockchainDb.empty) (blocks.take (h + 1)) =
          some (windowState hf (blocks.take (h + 1)) c₁, dbh₁) ∧
        dbh₁.blocks = blocks.take (h + 1) ∧ IndexReached hf (blocks.take (h + 1)).length c₁ ∧
        syncBlocks (windowState hf (blocks.take (h + 1)) c₁, dbh₁) (blocks.drop (h + 1)) =
          some (hf', db) ∧
        db.hardForkVersions h = (hf.heights.getD c default).version ∧
        windowState hf (blocks.take (h + 1)) c₁ =
          (windowState hf (blocks.take (h + 1)) c).raiseForkIndex (h + 1) := by
  have hlenh : (blocks.take h).length = h := by simp; omega
  obtain ⟨c, dbh, hpre, hdbh, hc, -⟩ := syncBlocks_take_windowState hws hlen hne hrun h
  obtain ⟨c₁, dbh₁, hpre₁, hdbh₁, hc₁, hrest⟩ :=
    syncBlocks_take_windowState hws hlen hne hrun (h + 1)
  -- the step from `h` blocks to `h + 1` adds the block at `h`
  have htake : blocks.take (h + 1) = blocks.take h ++ [blocks[h]] := List.take_succ_eq_append_getElem hh
  have hstep := hpre₁
  rw [htake, syncBlocks_append, hpre, Option.bind_some] at hstep
  obtain ⟨hrec, hraise⟩ := syncBlocks_singleton_windowState hws hdbh hstep
  rw [← htake, hlenh] at hrec hraise
  obtain ⟨-, hframe⟩ := syncBlocks_db hrest
  have hh₁ : h < dbh₁.height := by simp [BlockchainDb.height, hdbh₁]; omega
  exact ⟨c, c₁, dbh, dbh₁, hpre, hdbh, hlenh ▸ hc, hpre₁, hdbh₁, hc₁, hrest,
    (hframe h hh₁).trans hrec, hraise⟩

/-- With zero thresholds, a run from an empty window ends on the newest fork whose height the
next block reaches. -/
theorem syncBlocks_newest_fork (hthr : ∀ p ∈ hf.heights, p.threshold = 0)
    {blocks : List BlockVersions} {hf' : HardFork} {db : BlockchainDb}
    (hrun : syncBlocks (windowState hf [] 0, BlockchainDb.empty) blocks = some (hf', db))
    (hpos : 0 < blocks.length) :
    hf'.heights = hf.heights ∧ IndexReached hf blocks.length hf'.currentForkIndex ∧
      ∀ n < hf.heights.length, (hf.heights.getD n default).height ≤ blocks.length →
        n ≤ hf'.currentForkIndex := by
  obtain ⟨c, c₁, -, dbh₁, -, -, -, -, -, hc₁, hrest, -, hraise⟩ :=
    syncBlocks_at hws hlen hne hrun (h := blocks.length - 1) (by omega)
  have hk : blocks.length - 1 + 1 = blocks.length := by omega
  rw [hk, List.take_length] at hc₁ hraise hrest
  rw [List.drop_length] at hrest
  obtain ⟨rfl, -⟩ := Prod.mk.inj (Option.some.inj hrest).symm
  refine ⟨rfl, hc₁, ?_⟩
  -- the last block raised the index at the chain's height, past every reached fork
  intro n hn hreach
  have hmax := le_raiseForkIndex_of_zero_thresholds (windowState hf blocks c) hlen hthr
    blocks.length n hn hreach
  rwa [← hraise] at hmax

/-- With zero thresholds and a first fork that carries the original version, the version a
nonempty run holds is the one `get_ideal_version` schedules for the run's length. -/
theorem getCurrentVersion_syncBlocks_of_zero_thresholds (hthr : ∀ p ∈ hf.heights, p.threshold = 0)
    (horig : (hf.heights.getD 0 default).version = hf.originalVersion)
    {blocks : List BlockVersions} {hf' : HardFork} {db : BlockchainDb}
    (hrun : syncBlocks (windowState hf [] 0, BlockchainDb.empty) blocks = some (hf', db))
    (hpos : 0 < blocks.length) :
    hf'.getCurrentVersion = hf.getIdealVersionAt blocks.length := by
  obtain ⟨hheights, hc, hnewest⟩ := syncBlocks_newest_fork hws hlen hne hthr hrun hpos
  rw [getCurrentVersion, hheights, getIdealVersionAt_eq_newest horig hc.1 hc.2 hnewest]

end Prefix

/-! ## Fork versions recorded during forward sync -/

/-- What a run recorded in the database `db` for the blocks `blocks`, against the schedule
`H` and the window size: each recorded version is the version of the first fork or of a fork
whose height is reached; the recorded versions never go down; and for windows below `2 ^ 32`,
a fork above the first is first recorded at a height where the window of the blocks before it
held `ceil(window_size * threshold / 100)` votes at or above its version. -/
structure VersionsRecorded (H : List Params) (windowSize : ℕ) (blocks : List BlockVersions)
    (db : BlockchainDb) : Prop where
  scheduled : ∀ h < blocks.length, ∃ i, ∃ hi : i < H.length,
    db.getHardForkVersion h = H[i].version ∧ (i = 0 ∨ H[i].height ≤ h)
  monotone : ∀ h h', h ≤ h' → h' < blocks.length →
    db.getHardForkVersion h ≤ db.getHardForkVersion h'
  votedIn : windowSize < 2 ^ 32 → ∀ h < blocks.length, ∀ i, ∀ hi : i < H.length, 0 < i →
    db.getHardForkVersion h = H[i].version →
    (h = 0 ∨ db.getHardForkVersion (h - 1) ≠ H[i].version) →
    (windowSize * H[i].threshold.toNat + 99) / 100 ≤
      ((blocks.take h).drop (h - windowSize)).countP fun b => H[i].version ≤ getBlockVote b

/-- Forward sync from `init` on an empty database, for a schedule `add_fork` accepted, records
versions as `VersionsRecorded` says. -/
theorem add_records_scheduled_versions (hf : HardFork) (hcfg : hf.Configured)
    (blocks : List BlockVersions) (hf' : HardFork) (db : BlockchainDb)
    (hrun : syncBlocks (hf.init BlockchainDb.empty, BlockchainDb.empty) blocks = some (hf', db)) :
    VersionsRecorded (hf.init BlockchainDb.empty).heights hf.windowSize blocks db := by
  set H := (hf.init BlockchainDb.empty).heights
  have hv : ScheduleValid H := scheduleValid_init_empty hcfg.scheduleValid
  have hws : 0 < (hf.init BlockchainDb.empty).windowSize := by
    simpa using hcfg.windowSize_pos
  have hlen := hv.length_le
  have hne : 0 < H.length := List.length_pos_of_ne_nil (heights_init_empty_ne_nil hf)
  rw [← windowState_init] at hrun
  refine ⟨fun h hh => ?_, fun h h' hhh hh' => ?_, fun hws32 h hh i hi hi0 hrec hfirst => ?_⟩
  · -- the fork recorded at `h` is the one the run held after `h` blocks
    obtain ⟨c, -, -, -, -, -, hcr, -, -, -, -, hrec, -⟩ := syncBlocks_at hws hlen hne hrun hh
    refine ⟨c, hcr.1, ?_, ?_⟩
    · rw [BlockchainDb.getHardForkVersion, hrec]
      exact congrArg Params.version (List.getD_eq_getElem _ _ hcr.1)
    · exact hcr.2.imp_right fun hle => by rwa [List.getD_eq_getElem _ _ hcr.1] at hle
  · -- the fork index only rises along the run, and versions rise with the index
    obtain ⟨c, -, dbh, -, hpre, hdbh, hcr, -, -, -, -, hrec, -⟩ :=
      syncBlocks_at hws hlen hne hrun (hhh.trans_lt hh')
    obtain ⟨c', -, dbh', -, hpre', -, hcr', -, -, -, -, hrec', -⟩ :=
      syncBlocks_at hws hlen hne hrun hh'
    have hlenh : (blocks.take h).length = h := by simp; omega
    have hcc' := syncBlocks_take_forkIndex_mono hws hlen hhh hpre hpre' hdbh (by rwa [hlenh])
    rw [BlockchainDb.getHardForkVersion, BlockchainDb.getHardForkVersion, hrec, hrec']
    exact hv.version_le hcc' hcr'.1
  · -- a fork above the first is recorded first at `h = h₀ + 1`, right after it was voted in
    obtain ⟨c, -, dbh, -, hpre, -, hcr, -, -, -, -, hrech, -⟩ := syncBlocks_at hws hlen hne hrun hh
    have hci : c = i := by
      refine hv.version_inj hcr.1 hi ?_
      rw [← hrech, List.getD_eq_getElem _ _ hi]
      exact hrec
    subst hci
    rcases Nat.eq_zero_or_pos h with rfl | hpos
    · -- after no blocks the run is still on the first fork
      simp only [List.take_zero, syncBlocks, Option.some.injEq, Prod.mk.injEq] at hpre
      exact absurd (windowState_inj hpre.1).symm (Nat.pos_iff_ne_zero.1 hi0)
    obtain ⟨h₀, rfl⟩ : ∃ h₀, h = h₀ + 1 := ⟨h - 1, by omega⟩
    have hnew := hfirst.resolve_left (Nat.succ_ne_zero h₀)
    obtain ⟨c₀, c₁, _, _, -, -, -, hpre₁, -, -, -, hrec₀, hraise⟩ :=
      syncBlocks_at hws hlen hne hrun (Nat.lt_of_succ_lt hh)
    have hc₁ : c₁ = c := by
      rw [hpre] at hpre₁
      exact (windowState_inj (Prod.mk.inj (Option.some.inj hpre₁)).1).symm
    subst hc₁
    simp only [Nat.add_sub_cancel] at hnew
    rcases raiseForkIndex_windowState hlen (h₀ + 1) with hkeep | ⟨n, hs, -, -, hmet⟩
    · -- the index did not move, so the version at `h₀` was already the one at `h₀ + 1`
      obtain rfl := windowState_inj (hraise.trans hkeep)
      exact absurd (by rw [BlockchainDb.getHardForkVersion, hrec₀, List.getD_eq_getElem _ _ hi]) hnew
    obtain rfl := windowState_inj (hraise.trans hs)
    · have hcount := voteMet_windowState hv (by simpa using hws32) hi hmet
      rw [List.getD_eq_getElem _ _ hi, windowSize_init_empty] at hcount
      have hlast : lastN hf.windowSize (blocks.take (h₀ + 1)) =
          (blocks.take (h₀ + 1)).drop (h₀ + 1 - hf.windowSize) := by
        rw [lastN, List.length_take, Nat.min_eq_left hh.le]
      rwa [hlast] at hcount

/-- A run whose second fork is voted in by the blocks of the first: the schedule, the run and
what it recorded. -/
theorem add_records_scheduled_versions_vote_in :
    let hf : HardFork :=
      { windowSize := 2, defaultThresholdPercent := 0, originalVersion := 1,
        heights := [⟨4, 0, 0, 0, 0⟩, ⟨5, 50, 2, 1, 0⟩], versions := [],
        lastVersions := fun _ => 0, currentForkIndex := 0 }
    let blocks : List BlockVersions := [⟨4, 5⟩, ⟨4, 5⟩, ⟨5, 5⟩]
    hf.Configured ∧ ∃ hf' db,
      syncBlocks (hf.init BlockchainDb.empty, BlockchainDb.empty) blocks = some (hf', db) ∧
        VersionsRecorded (hf.init BlockchainDb.empty).heights hf.windowSize blocks db := by
  dsimp only
  have hcfg := @Configured.addFork _ _ 5 2 50 1 0
    (@Configured.addFork _ _ 4 0 0 0 0 (@Configured.create 1 2 0 _ rfl) rfl) rfl
  exact ⟨hcfg, _, _, rfl, add_records_scheduled_versions _ hcfg _ _ _ rfl⟩

/-- Two ways a recorded version runs ahead of its schedule. The first fork is used from height 0
whatever its scheduled height (this fork's own schedules start with version 1 at height 1). And with a
window of `2 ^ 32` blocks the `uint32_t` threshold of a 100% fork wraps to 0, so the fork is
voted in at its height with no vote for it. -/
theorem add_records_fork_early_instances :
    let hf₁ : HardFork :=
      { windowSize := 1, defaultThresholdPercent := 0, originalVersion := 1,
        heights := [⟨1, 0, 1, 0, 0⟩], versions := [], lastVersions := fun _ => 0,
        currentForkIndex := 0 }
    let hf₂ : HardFork :=
      { windowSize := 2 ^ 32, defaultThresholdPercent := 0, originalVersion := 1,
        heights := [⟨1, 0, 0, 0, 0⟩, ⟨2, 100, 1, 1, 0⟩], versions := [],
        lastVersions := fun _ => 0, currentForkIndex := 0 }
    let blocks₂ : List BlockVersions := [⟨1, 0⟩, ⟨2, 0⟩]
    (hf₁.Configured ∧
        ((syncBlocks (hf₁.init BlockchainDb.empty, BlockchainDb.empty) [⟨1, 0⟩]).map fun s =>
          s.2.getHardForkVersion 0) = some 1 ∧
        ∀ p ∈ (hf₁.init BlockchainDb.empty).heights, p.version = 1 → 0 < p.height) ∧
      (hf₂.Configured ∧
        ((syncBlocks (hf₂.init BlockchainDb.empty, BlockchainDb.empty) blocks₂).map fun s =>
          (s.2.getHardForkVersion 0, s.2.getHardForkVersion 1)) = some (1, 2) ∧
        (((blocks₂.take 1).drop (1 - hf₂.windowSize)).countP fun b => 2 ≤ getBlockVote b) <
          (hf₂.windowSize * 100 + 99) / 100) :=
  ⟨⟨@Configured.addFork _ _ 1 1 0 0 0 (@Configured.create 1 1 0 _ rfl) rfl, by decide, by decide⟩,
    ⟨@Configured.addFork _ _ 2 1 100 1 0
      (@Configured.addFork _ _ 1 0 0 0 0 (@Configured.create 1 (2 ^ 32) 0 _ rfl) rfl) rfl,
      by decide, by decide⟩⟩

/-! ## Reorganizing onto the same chain -/

/-- The stored blocks at the heights `r, …, r + k - 1`. -/
theorem map_getBlockFromHeight_range' (db : BlockchainDb) :
    ∀ r k, r + k ≤ db.blocks.length →
      (List.range' r k).map db.getBlockFromHeight = (db.blocks.drop r).take k
  | _, 0, _ => by simp
  | r, k + 1, h => by
    rw [List.range'_succ, List.map_cons, map_getBlockFromHeight_range' db (r + 1) k (by omega),
      List.drop_eq_getElem_cons (by omega : r < db.blocks.length), List.take_succ_cons,
      BlockchainDb.getBlockFromHeight, List.getD_eq_getElem _ _ (by omega)]

/-- Rebuilding the window for `height` from a cleared state gives the window forward sync had
after the block at `height`. -/
theorem pushBlockVotes_windowState {hf : HardFork} (hws : 0 < hf.windowSize) {db : BlockchainDb}
    {height : ℕ} (hh : height < db.blocks.length) (c : ℕ) :
    (windowState hf [] c).pushBlockVotes db
        (List.range' (height + 1 - hf.windowSize)
          (height + 1 - (height + 1 - hf.windowSize))) =
      windowState hf (db.blocks.take (height + 1)) c := by
  obtain ⟨lastVersions, heq, hcount⟩ := pushBlockVotes_eq (windowState hf [] c) db
    (List.range' (height + 1 - hf.windowSize) (height + 1 - (height + 1 - hf.windowSize)))
  -- the pushed votes are the votes of the blocks the window of `height + 1` blocks holds
  have hvotes : (windowState hf [] c).versions ++
      (List.range' (height + 1 - hf.windowSize) (height + 1 - (height + 1 - hf.windowSize))).map
        (fun h => (windowState hf [] c).getEffectiveVersion (getBlockVote (db.getBlockFromHeight h))) =
      lastN hf.windowSize (effectiveVotes hf (db.blocks.take (height + 1))) := by
    have hblocks := map_getBlockFromHeight_range' db (height + 1 - hf.windowSize)
      (height + 1 - (height + 1 - hf.windowSize)) (by omega)
    have hmap : (List.range' (height + 1 - hf.windowSize)
          (height + 1 - (height + 1 - hf.windowSize))).map
          (fun h => (windowState hf [] c).getEffectiveVersion (getBlockVote (db.getBlockFromHeight h))) =
        effectiveVotes hf ((db.blocks.drop (height + 1 - hf.windowSize)).take
          (height + 1 - (height + 1 - hf.windowSize))) := by
      rw [← hblocks, effectiveVotes, List.map_map]
      rfl
    rw [hmap]
    simp only [windowState, effectiveVotes, List.map_nil, lastN, List.length_nil, List.drop_nil,
      List.nil_append, List.length_map, List.length_take,
      Nat.min_eq_left (by omega : height + 1 ≤ db.blocks.length), ← List.map_drop, List.drop_take]
  rw [hvotes] at heq hcount
  have hlv : lastVersions = fun v =>
      (lastN hf.windowSize (effectiveVotes hf (db.blocks.take (height + 1)))).count v % 2 ^ 32 :=
    (hcount fun _ => by simp [windowState, effectiveVotes]).eq fun _ => rfl
  rw [heq, hlv]
  rfl

/-- The loop of `reorganize_from_block_height` that adds the blocks above `height` again: where
forward sync took the state from `hf₁` over those blocks to `hf'`, the loop does too, and
rewrites the versions forward sync recorded at their heights. -/
theorem replay_syncBlocks :
    ∀ (bs : List BlockVersions) {hf₁ hf' : HardFork} {db₁ db' D : BlockchainDb},
      syncBlocks (hf₁, db₁) bs = some (hf', db') → D.blocks = db₁.blocks ++ bs →
      (List.range' db₁.height bs.length).foldl
          (fun s h => (s.1.addBlock s.2 (s.2.getBlockFromHeight h) h).getD s) (hf₁, D) =
        (hf', { D with
          hardForkVersions := fun h =>
            if db₁.height ≤ h ∧ h < db₁.height + bs.length then db'.hardForkVersions h
            else D.hardForkVersions h })
  | [], hf₁, hf', db₁, db', D, h, _ => by
    obtain ⟨rfl, rfl⟩ := Prod.mk.inj (Option.some.inj h)
    obtain ⟨blocks, hardForkVersions⟩ := D
    simp only [List.length_nil, List.range'_zero, List.foldl_nil, Nat.add_zero, Prod.mk.injEq,
      BlockchainDb.mk.injEq, true_and]
    funext k
    rw [if_neg (by omega)]
  | b :: bs, hf₁, hf', db₁, db', D, h, hD => by
    simp only [syncBlocks, Option.bind_eq_some_iff] at h
    obtain ⟨⟨hf₂, db₂⟩, hadd, hrest⟩ := h
    have hdb₂ := add_db hadd
    -- the block at `db₁.height` is `b`, and adding it again does what it did the first time
    have hb : D.getBlockFromHeight db₁.height = b := by
      rw [BlockchainDb.getBlockFromHeight, hD, BlockchainDb.height,
        List.getD_eq_getElem _ _ (by simp), List.getElem_append_right (le_refl _)]
      simp
    have hstep : hf₁.addBlock D (D.getBlockFromHeight db₁.height) db₁.height =
        some (hf₂, D.setHardForkVersion db₁.height hf₁.getCurrentVersion) := by
      rw [hb]
      exact add_of_add hadd D
    have hD₂ : (D.setHardForkVersion db₁.height hf₁.getCurrentVersion).blocks = db₂.blocks ++ bs := by
      rw [BlockchainDb.blocks_setHardForkVersion, hD, hdb₂]
      simp
    have hh₂ : db₂.height = db₁.height + 1 := by
      rw [hdb₂]
      simp [BlockchainDb.height]
    have ih := replay_syncBlocks bs hrest hD₂
    obtain ⟨-, hframe⟩ := syncBlocks_db hrest
    rw [List.length_cons, List.range'_succ, List.foldl_cons]
    dsimp only
    rw [hstep, Option.getD_some, ← hh₂, ih]
    -- heights agree: the one added first holds what forward sync recorded there
    congr 1
    simp only [BlockchainDb.mk.injEq, BlockchainDb.blocks_setHardForkVersion, true_and]
    funext k
    by_cases hk : k = db₁.height
    · subst hk
      have hrec := hframe db₁.height (by simp only [hh₂]; omega)
      simp only [hdb₂, BlockchainDb.hardForkVersions_setHardForkVersion,
        Function.update_self] at hrec
      simp [hh₂, hrec]
    · simp only [hh₂, BlockchainDb.hardForkVersions_setHardForkVersion,
        Function.update_of_ne hk]
      congr 1
      apply propext
      omega

/-- A cleared window with fork index `c` is the window state of no blocks. -/
theorem clear_windowState {hf : HardFork} {c : ℕ} :
    ({ windowSize := hf.windowSize, defaultThresholdPercent := hf.defaultThresholdPercent,
        originalVersion := hf.originalVersion, heights := hf.heights, versions := [],
        lastVersions := fun _ => 0, currentForkIndex := c } : HardFork) =
      windowState hf [] c := by
  simp [windowState, effectiveVotes]

/-- Reorganizing from a height below the top onto the chain the state was built from, by
forward sync from `init` on an empty database, gives back the state and the database exactly,
when the original version is at or below the first scheduled version (callers pass 1, and
`add_fork` refuses version 0). -/
theorem reorganize_same_chain (hf : HardFork) (hcfg : hf.Configured)
    (horig : ∀ p ∈ hf.heights.head?, hf.originalVersion ≤ p.version)
    (blocks : List BlockVersions) (hf' : HardFork) (db : BlockchainDb)
    (hrun : syncBlocks (hf.init BlockchainDb.empty, BlockchainDb.empty) blocks = some (hf', db))
    (rh : ℕ) (hrh : rh < blocks.length) :
    hf'.reorganizeFromBlockHeight db rh = some (hf', db) := by
  rw [← windowState_init] at hrun
  set hf0 := hf.init BlockchainDb.empty with hhf0
  have hv : ScheduleValid hf0.heights := scheduleValid_init_empty hcfg.scheduleValid
  have hws : 0 < hf0.windowSize := by simpa [hf0] using hcfg.windowSize_pos
  have hlen := hv.length_le
  have hne : 0 < hf0.heights.length := List.length_pos_of_ne_nil (heights_init_empty_ne_nil hf)
  obtain ⟨c, c₁, dbh, dbh₁, hpre, hdbh, hcr, hpre₁, hdbh₁, hc₁, hrest, hrec, hraise⟩ :=
    syncBlocks_at hws hlen hne hrun hrh
  -- the run ends in the window state of all the blocks, with an index at or above `c₁`
  obtain ⟨cn, hsn, hc₁n, hcn⟩ := syncBlocks_windowState hws hlen _ hdbh₁ hc₁ hrest
  rw [List.take_append_drop] at hsn
  dsimp only at hsn
  obtain ⟨hdbblocks, -⟩ := syncBlocks_db hrun
  simp only [BlockchainDb.empty, List.nil_append] at hdbblocks
  have hdbheight : db.height = blocks.length := by rw [BlockchainDb.height, hdbblocks]
  have hcc₁ : c ≤ c₁ := by
    rcases raiseForkIndex_windowState hlen (rh + 1) with hkeep | ⟨n, hs, hlt, -⟩
    · exact (windowState_inj (hraise.trans hkeep)).ge
    · exact (windowState_inj (hraise.trans hs)) ▸ hlt.le
  -- the start version is that of fork `c`, or the original version below the first fork
  have hstart : (if rh = 0 then hf0.originalVersion else db.getHardForkVersion rh) ≤
        (hf0.heights.getD c default).version ∧
      (c = 0 ∨ (hf0.heights.getD c default).version ≤
        (if rh = 0 then hf0.originalVersion else db.getHardForkVersion rh)) := by
    by_cases hrh0 : rh = 0
    · subst hrh0
      -- after no blocks the run is still on the first fork
      simp only [List.take_zero, syncBlocks, Option.some.injEq, Prod.mk.injEq] at hpre
      obtain rfl := (windowState_inj hpre.1).symm
      refine ⟨?_, .inl rfl⟩
      rw [if_pos rfl, hhf0, originalVersion_init_empty]
      exact originalVersion_le_init_empty horig
    · simp only [if_neg hrh0, BlockchainDb.getHardForkVersion, hrec]
      exact ⟨UInt8.le_refl _, .inr (UInt8.le_refl _)⟩
  have hlower : lowerForkIndex hf0.heights
      (if rh = 0 then hf0.originalVersion else db.getHardForkVersion rh) cn = c :=
    lowerForkIndex_eq hstart.2 cn (hcc₁.trans hc₁n) fun j hj hjn =>
      UInt8.lt_of_le_of_lt hstart.1 (hv.version_lt hj (lt_of_le_of_lt hjn hcn.1))
  -- rebuild, vote, replay
  conv_lhs => rw [hsn]
  rw [reorganizeFromBlockHeight_eq (by simpa using hws) (by omega)]
  simp only [heights_windowState, originalVersion_windowState, currentForkIndex_windowState,
    windowSize_windowState, defaultThresholdPercent_windowState, hlower]
  rw [clear_windowState, pushBlockVotes_windowState hws (by rw [hdbblocks]; exact hrh) c,
    hdbblocks, ← hraise]
  have hD : db.blocks = dbh₁.blocks ++ blocks.drop (rh + 1) := by
    rw [hdbblocks, hdbh₁, List.take_append_drop]
  have hreplay := replay_syncBlocks (blocks.drop (rh + 1)) hrest hD
  have hh₁ : dbh₁.height = rh + 1 := by
    rw [BlockchainDb.height, hdbh₁, List.length_take]
    omega
  rw [hh₁, List.length_drop, ← hdbheight] at hreplay
  rw [hreplay]
  -- the replay rewrote every height with the value already there
  simp

/-- Reorganizing at the height where the second fork is voted in, on a run across it. -/
theorem reorganize_same_chain_at_fork :
    let hf : HardFork :=
      { windowSize := 2, defaultThresholdPercent := 0, originalVersion := 1,
        heights := [⟨1, 0, 0, 0, 0⟩, ⟨2, 0, 2, 1, 0⟩], versions := [],
        lastVersions := fun _ => 0, currentForkIndex := 0 }
    let blocks : List BlockVersions := [⟨1, 0⟩, ⟨1, 0⟩, ⟨2, 0⟩, ⟨2, 0⟩]
    hf.Configured ∧ (∀ p ∈ hf.heights.head?, hf.originalVersion ≤ p.version) ∧ ∃ hf' db,
      syncBlocks (hf.init BlockchainDb.empty, BlockchainDb.empty) blocks = some (hf', db) ∧
        1 < blocks.length ∧ hf'.reorganizeFromBlockHeight db 1 = some (hf', db) := by
  dsimp only
  have hcfg := @Configured.addFork _ _ 2 2 0 1 0
    (@Configured.addFork _ _ 1 0 0 0 0 (@Configured.create 1 2 0 _ rfl) rfl) rfl
  refine ⟨hcfg, by decide, ?_⟩
  exact ⟨_, _, rfl, by decide,
    reorganize_same_chain _ hcfg (by decide) [⟨1, 0⟩, ⟨1, 0⟩, ⟨2, 0⟩, ⟨2, 0⟩] _ _ rfl 1 (by decide)⟩

/-! ## Popping blocks -/

/-- The loop of `on_block_popped` over the popped heights: each turn drops the newest vote and
puts the version recorded at the height in front, so the window becomes the recorded versions
of the popped heights, oldest first, followed by the window without its last `n` votes. -/
theorem foldl_unpopVote_versions (db : BlockchainDb) (newHeight : ℕ) :
    ∀ (n : ℕ) (hf : HardFork), n ≤ hf.versions.length →
      ((List.range' newHeight n).reverse.foldl
          (fun hf height => hf.unpopVote (db.getHardForkVersion height)) hf).versions =
        (List.range' newHeight n).map db.getHardForkVersion ++
          hf.versions.take (hf.versions.length - n)
  | 0, hf, _ => by simp
  | n + 1, hf, hlen => by
    have hne : hf.versions ≠ [] := List.ne_nil_of_length_pos (by omega)
    have hstep : (hf.unpopVote (db.getHardForkVersion (newHeight + n))).versions =
        db.getHardForkVersion (newHeight + n) :: hf.versions.dropLast := rfl
    have hlen' : n ≤ (hf.unpopVote (db.getHardForkVersion (newHeight + n))).versions.length := by
      rw [hstep, List.length_cons, List.length_dropLast]
      omega
    rw [List.range'_concat, List.reverse_append, List.reverse_singleton, List.singleton_append,
      List.foldl_cons, Nat.one_mul, foldl_unpopVote_versions db newHeight n _ hlen', hstep,
      List.length_cons, List.length_dropLast, List.map_append, List.map_singleton,
      List.append_assoc, List.singleton_append]
    -- the front of the dropped window is what is left of the window
    have hkeep : hf.versions.length - 1 + 1 - n = (hf.versions.length - (n + 1)) + 1 := by omega
    rw [hkeep, List.take_succ_cons, List.dropLast_eq_take, List.take_take,
      Nat.min_eq_left (by omega)]

/-- `on_block_popped(n)` leaves in the window the versions recorded at the popped heights,
followed by the window without its last `n` votes. -/
theorem onBlockPopped_versions {hf hp : HardFork} {db : BlockchainDb} {n : ℕ}
    (hlen : n ≤ hf.versions.length) (h : hf.onBlockPopped db n = some hp) :
    hp.versions = (List.range' db.height n).map db.getHardForkVersion ++
      hf.versions.take (hf.versions.length - n) := by
  unfold onBlockPopped at h
  split_ifs at h
  obtain rfl := Option.some.inj h
  exact foldl_unpopVote_versions db db.height n hf hlen

/-- Popping the top block of a run does not give back the window `init` rebuilds from the
shortened chain: the version recorded at the popped height enters the window where the vote of
the oldest block belongs. -/
theorem on_block_popped_window_differs_from_init :
    let hf : HardFork :=
      { windowSize := 2, defaultThresholdPercent := 0, originalVersion := 4,
        heights := [⟨4, 0, 0, 0, 0⟩, ⟨5, 0, 1000, 1, 0⟩], versions := [],
        lastVersions := fun _ => 0, currentForkIndex := 0 }
    let blocks : List BlockVersions := [⟨4, 5⟩, ⟨4, 5⟩, ⟨4, 5⟩]
    hf.Configured ∧ ∃ hf' db hp,
      syncBlocks (hf.init BlockchainDb.empty, BlockchainDb.empty) blocks = some (hf', db) ∧
        hf'.onBlockPopped { db with blocks := db.blocks.take 2 } 1 = some hp ∧
        hp.versions = [4, 5] ∧
        (hf.init { db with blocks := db.blocks.take 2 }).versions = [5, 5] := by
  dsimp only
  have hcfg := @Configured.addFork _ _ 5 1000 0 1 0
    (@Configured.addFork _ _ 4 0 0 0 0 (@Configured.create 4 2 0 _ rfl) rfl) rfl
  exact ⟨hcfg, _, _, _, rfl, rfl, rfl, rfl⟩

end HardFork

end Bittube

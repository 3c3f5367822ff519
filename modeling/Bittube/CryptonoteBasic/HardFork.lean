import Mathlib.Data.Fintype.Card
import Mathlib.Data.List.GetD
import Bittube.Lib.CountedWindow
import Bittube.CryptonoteConfig

/-!
# Hard-fork voting (`hardfork.cpp`)

`HardFork` decides which block version the chain expects at each height. It holds the fork
schedule (`heights`, filled by `add_fork`), a window of the votes of the last `window_size`
blocks (`versions`, a deque) with a counter per version (`last_versions`, an
`unsigned int[256]`), and the index of the current fork. Each block accepted by `add` records
the current version in the database, slides the window by its vote and raises the fork index
to the newest fork whose height has been reached and whose threshold is met by the votes for
it and for every later fork.

The database is what these functions read and write of `BlockchainDB`: the blocks by height
(their two version bytes) and the per-height fork versions. The loops over `heights` are
recursions on the index they count down, and `heights[i]` reads with a default that no
reachable state uses. Chain heights are `ℕ`, far below `2 ^ 64`; the window size is `ℕ`, and
the threshold computation keeps its `uint64_t` product and `uint32_t` result as `% 2 ^ 64` and
`% 2 ^ 32`. The vote counters and the accumulated votes wrap at `2 ^ 32`, and the voted index
is stored in a `uint8_t`.
-/

namespace Bittube

open CountedWindow

/-- The two fields of `cryptonote::block` that `hardfork.cpp` reads. -/
structure BlockVersions where
  majorVersion : UInt8
  minorVersion : UInt8
  deriving DecidableEq, Repr

/-- `get_block_vote`: blocks of major versions 1 to 3 vote for their major version (the
bytecoin-era versions 2 and 3 keep minor version 1); otherwise the minor version is the vote,
and a minor version of 0 counts as a vote for version 1. -/
def getBlockVote (b : BlockVersions) : UInt8 :=
  if b.majorVersion ≥ blockMajorVersion1 ∧ b.majorVersion < blockMajorVersion4 then b.majorVersion
  else if b.minorVersion = 0 then 1
  else b.minorVersion

/-- `get_block_version`. -/
def getBlockVersion (b : BlockVersions) : UInt8 := b.majorVersion

/-- What `HardFork` uses of `BlockchainDB`: the stored blocks and the fork version recorded
for each height. -/
structure BlockchainDb where
  blocks : List BlockVersions
  hardForkVersions : ℕ → UInt8

namespace BlockchainDb

/-- A database with no blocks. -/
def empty : BlockchainDb := ⟨[], fun _ => 0⟩

/-- `height()`. -/
def height (db : BlockchainDb) : ℕ := db.blocks.length

/-- `get_block_from_height`; the source throws past the top, which no caller here reaches. -/
def getBlockFromHeight (db : BlockchainDb) (height : ℕ) : BlockVersions :=
  db.blocks.getD height ⟨0, 0⟩

/-- `set_hard_fork_version`. -/
def setHardForkVersion (db : BlockchainDb) (height : ℕ) (version : UInt8) : BlockchainDb :=
  { db with hardForkVersions := Function.update db.hardForkVersions height version }

/-- `get_hard_fork_version`. -/
def getHardForkVersion (db : BlockchainDb) (height : ℕ) : UInt8 := db.hardForkVersions height

@[simp]
theorem blocks_setHardForkVersion (db : BlockchainDb) (h : ℕ) (v : UInt8) :
    (db.setHardForkVersion h v).blocks = db.blocks := rfl

@[simp]
theorem height_setHardForkVersion (db : BlockchainDb) (h : ℕ) (v : UInt8) :
    (db.setHardForkVersion h v).height = db.height := rfl

@[simp]
theorem getBlockFromHeight_setHardForkVersion (db : BlockchainDb) (h : ℕ) (v : UInt8) (k : ℕ) :
    (db.setHardForkVersion h v).getBlockFromHeight k = db.getBlockFromHeight k := rfl

@[simp]
theorem hardForkVersions_setHardForkVersion (db : BlockchainDb) (h : ℕ) (v : UInt8) :
    (db.setHardForkVersion h v).hardForkVersions = Function.update db.hardForkVersions h v := rfl

end BlockchainDb

/-- `HardFork::Params`: one fork of the schedule. -/
structure HardFork.Params where
  version : UInt8
  threshold : UInt8
  height : ℕ
  time : ℤ
  diffResetValue : ℕ
  deriving Inhabited, DecidableEq, Repr

/-- The members of `HardFork` that its voting reads: the constructor's parameters, the
schedule, the vote window with its counters, and `current_fork_index`. -/
structure HardFork where
  windowSize : ℕ
  defaultThresholdPercent : UInt8
  originalVersion : UInt8
  heights : List HardFork.Params
  versions : List UInt8
  lastVersions : UInt8 → ℕ
  currentForkIndex : ℕ

namespace HardFork

/-! ## Setting up the schedule -/

/-- The constructor: `none` where it throws, for a zero window or a default threshold above
100. -/
def create (originalVersion : UInt8) (windowSize : ℕ) (defaultThresholdPercent : UInt8) :
    Option HardFork :=
  if windowSize = 0 then none
  else if defaultThresholdPercent > 100 then none
  else
    some
      { windowSize := windowSize, defaultThresholdPercent := defaultThresholdPercent,
        originalVersion := originalVersion, heights := [], versions := [],
        lastVersions := fun _ => 0, currentForkIndex := 0 }

/-- `add_fork(version, height, threshold, time, diff_reset_value)`: forks are added in order
of version, height and time; `none` where the source returns `false`. -/
def addFork (hf : HardFork) (version : UInt8) (height : ℕ) (threshold : UInt8) (time : ℤ)
    (diffResetValue : ℕ) : Option HardFork :=
  if version = 0 then none
  else if hf.heights.getLast?.any fun last =>
      version ≤ last.version || height ≤ last.height || time ≤ last.time then none
  else if threshold > 100 then none
  else
    let fork : Params :=
      { version := version, threshold := threshold, height := height, time := time,
        diffResetValue := diffResetValue }
    some { hf with heights := hf.heights ++ [fork] }

/-- `add_fork(version, height, time)`, with the default threshold. -/
def addForkDefaultThreshold (hf : HardFork) (version : UInt8) (height : ℕ) (time : ℤ) :
    Option HardFork :=
  hf.addFork version height hf.defaultThresholdPercent time 0

/-! ## Reading the schedule -/

/-- `get_effective_version`: a vote for a version above the newest scheduled one counts for
the newest one. -/
def getEffectiveVersion (hf : HardFork) (votingVersion : UInt8) : UInt8 :=
  match hf.heights.getLast? with
  | some last => if votingVersion > last.version then last.version else votingVersion
  | none => votingVersion

/-- `get_current_version`: `heights[current_fork_index].version`. -/
def getCurrentVersion (hf : HardFork) : UInt8 :=
  (hf.heights.getD hf.currentForkIndex default).version

/-- `get_ideal_version()`: the newest scheduled version. -/
def getIdealVersion (hf : HardFork) : UInt8 :=
  (hf.heights.getLastD default).version

/-- `get_ideal_version(height)`: the version of the newest fork whose height is reached,
looking down to index 1; `original_version` below them all. -/
def getIdealVersionAt (hf : HardFork) (height : ℕ) : UInt8 :=
  go (hf.heights.length - 1)
where
  /-- The loop from `n = heights.size() - 1` down to `1`. -/
  go : ℕ → UInt8
    | 0 => hf.originalVersion
    | n + 1 =>
      if height ≥ (hf.heights.getD (n + 1) default).height then
        (hf.heights.getD (n + 1) default).version
      else go n

/-- `get_last_diff_reset_height`: the height of the newest reached fork with a difficulty
reset. -/
def getLastDiffResetHeight (hf : HardFork) (height : ℕ) : ℕ :=
  go hf.heights.reverse
where
  /-- The loop over `heights` from the back. -/
  go : List Params → ℕ
    | [] => 0
    | p :: ps => if height < p.height then go ps else if p.diffResetValue > 0 then p.height else go ps

/-- `get_last_diff_reset_value`: the reset value of that fork. -/
def getLastDiffResetValue (hf : HardFork) (height : ℕ) : ℕ :=
  go hf.heights.reverse
where
  /-- The loop over `heights` from the back. -/
  go : List Params → ℕ
    | [] => 0
    | p :: ps =>
      if height < p.height then go ps else if p.diffResetValue > 0 then p.diffResetValue else go ps

/-! ## Checking and voting -/

/-- `do_check`: the block has the current version and votes for it or a later one. -/
def doCheck (hf : HardFork) (blockVersion votingVersion : UInt8) : Bool :=
  blockVersion == hf.getCurrentVersion && votingVersion ≥ hf.getCurrentVersion

/-- `check(block)`. -/
def check (hf : HardFork) (b : BlockVersions) : Bool :=
  hf.doCheck (getBlockVersion b) (getBlockVote b)

/-- The threshold of `get_voted_fork_index`, `(window_size * threshold + 99) / 100`, computed
in `uint64_t` and stored in a `uint32_t`. -/
def votingThreshold (windowSize : ℕ) (threshold : UInt8) : ℕ :=
  (windowSize * threshold.toNat + 99) % 2 ^ 64 / 100 % 2 ^ 32

/-- `get_voted_fork_index`: from the newest fork down, add the votes for its version to the
accumulated votes, and answer the first fork whose height is reached and whose threshold the
accumulated votes meet; `current_fork_index` when there is none. -/
def getVotedForkIndex (hf : HardFork) (height : ℕ) : ℕ :=
  go hf.heights.length 0
where
  /-- The loop from `n = heights.size() - 1` down to `0`; the first argument is `n + 1`. -/
  go : ℕ → ℕ → ℕ
    | 0, _ => hf.currentForkIndex
    | n + 1, accumulatedVotes =>
      let p := hf.heights.getD n default
      let accumulatedVotes := (accumulatedVotes + hf.lastVersions p.version) % 2 ^ 32
      if height ≥ p.height ∧ accumulatedVotes ≥ votingThreshold hf.windowSize p.threshold then n
      else go n accumulatedVotes

/-- `do_check_for_height`: `do_check` against the fork the votes give at `height`. -/
def doCheckForHeight (hf : HardFork) (blockVersion votingVersion : UInt8) (height : ℕ) : Bool :=
  let forkIndex := hf.getVotedForkIndex height
  blockVersion == (hf.heights.getD forkIndex default).version &&
    votingVersion ≥ (hf.heights.getD forkIndex default).version

/-- `check_for_height(block, height)`. -/
def checkForHeight (hf : HardFork) (b : BlockVersions) (height : ℕ) : Bool :=
  hf.doCheckForHeight (getBlockVersion b) (getBlockVote b) height

/-! ## The vote window -/

/-- `last_versions[v]++; versions.push_back(v);` -/
def pushVote (hf : HardFork) (v : UInt8) : HardFork :=
  { hf with lastVersions := incrAt (2 ^ 32) hf.lastVersions v, versions := hf.versions ++ [v] }

/-- The loop of `add` that drops the oldest votes while the window is full:
`last_versions[old_version]--; versions.pop_front();`. -/
def popWindow (windowSize : ℕ) : List UInt8 → (UInt8 → ℕ) → List UInt8 × (UInt8 → ℕ)
  | [], lastVersions => ([], lastVersions)
  | oldVersion :: versions, lastVersions =>
    if (oldVersion :: versions).length ≥ windowSize then
      popWindow windowSize versions (decrAt (2 ^ 32) lastVersions oldVersion)
    else (oldVersion :: versions, lastVersions)

/-- The window update of `add`: pop while the window is full, then push the vote. -/
def slideWindow (hf : HardFork) (votingVersion : UInt8) : HardFork :=
  let window := popWindow hf.windowSize hf.versions hf.lastVersions
  { hf with versions := window.1, lastVersions := window.2 }.pushVote votingVersion

/-- `uint8_t voted = get_voted_fork_index(height);` and raise `current_fork_index` to it. -/
def raiseForkIndex (hf : HardFork) (height : ℕ) : HardFork :=
  let voted := hf.getVotedForkIndex height % 256
  if voted > hf.currentForkIndex then { hf with currentForkIndex := voted } else hf

/-- `add(block_version, voting_version, height)`: `none` where the source returns `false`,
leaving the state and the database as they were. -/
def add (hf : HardFork) (db : BlockchainDb) (blockVersion votingVersion : UInt8) (height : ℕ) :
    Option (HardFork × BlockchainDb) :=
  if hf.doCheck blockVersion votingVersion then
    let db := db.setHardForkVersion height hf.getCurrentVersion
    let hf := hf.slideWindow (hf.getEffectiveVersion votingVersion)
    some (hf.raiseForkIndex (height + 1), db)
  else none

/-- `add(block, height)`. -/
def addBlock (hf : HardFork) (db : BlockchainDb) (b : BlockVersions) (height : ℕ) :
    Option (HardFork × BlockchainDb) :=
  hf.add db (getBlockVersion b) (getBlockVote b) height

/-! ## Rebuilding the window from the database -/

/-- The loop of `rescan_from_block_height` and `reorganize_from_block_height` that pushes the
effective votes of the stored blocks at the heights `hs`, without popping. -/
def pushBlockVotes (hf : HardFork) (db : BlockchainDb) (hs : List ℕ) : HardFork :=
  hs.foldl (fun hf h => hf.pushVote (hf.getEffectiveVersion (getBlockVote (db.getBlockFromHeight h))))
    hf

/-- The scan of `rescan_from_block_height` for the fork of the top block's recorded version:
the first index with that version, or the last index. -/
def scanForkIndex (lastv : UInt8) : List Params → ℕ
  | p :: ps@(_ :: _) => if p.version ≠ lastv then scanForkIndex lastv ps + 1 else 0
  | _ => 0

/-- `rescan_from_block_height`: rebuild the window from the blocks from `height` to the top
and find the fork index again; `none` where the source returns `false`. -/
def rescanFromBlockHeight (hf : HardFork) (db : BlockchainDb) (height : ℕ) : Option HardFork :=
  if height ≥ db.height then none
  else
    let hf := { hf with versions := [], lastVersions := fun _ => 0 }
    let hf := hf.pushBlockVotes db (List.range' height (db.height - height))
    let lastv := db.getHardForkVersion (db.height - 1)
    let hf := { hf with currentForkIndex := scanForkIndex lastv hf.heights }
    some (hf.raiseForkIndex db.height)

/-- `rescan_from_chain_height`. -/
def rescanFromChainHeight (hf : HardFork) (db : BlockchainDb) (height : ℕ) : Option HardFork :=
  if height = 0 then none else hf.rescanFromBlockHeight db (height - 1)

/-- `init`: add the placeholder fork when the schedule is empty, clear the window and the fork
index, and restore them from the last `window_size` blocks of the database. -/
def init (hf : HardFork) (db : BlockchainDb) : HardFork :=
  -- a placeholder for the default version, to avoid special cases
  let placeholder : Params :=
    { version := hf.originalVersion, threshold := 0, height := 0, time := 0, diffResetValue := 0 }
  let hf := if hf.heights.isEmpty then { hf with heights := [placeholder] } else hf
  let hf := { hf with versions := [], lastVersions := fun _ => 0, currentForkIndex := 0 }
  -- restore state from DB
  let height := if db.height > hf.windowSize then db.height - (hf.windowSize - 1) else 1
  (hf.rescanFromChainHeight db height).getD hf

/-- The loop of `reorganize_from_block_height` that lowers `current_fork_index` while its
version is above `start_version`. -/
def lowerForkIndex (heights : List Params) (startVersion : UInt8) : ℕ → ℕ
  | 0 => 0
  | n + 1 =>
    if (heights.getD (n + 1) default).version > startVersion then
      lowerForkIndex heights startVersion n
    else n + 1

/-- `reorganize_from_block_height`: rebuild the window from the blocks up to `height`, lower
the fork index to the version recorded at `height`, vote again, and add the blocks above
`height` once more (their results are ignored); `none` where the source returns `false`. -/
def reorganizeFromBlockHeight (hf : HardFork) (db : BlockchainDb) (height : ℕ) :
    Option (HardFork × BlockchainDb) :=
  if height ≥ db.height then none
  else
    let hf := { hf with versions := [], lastVersions := fun _ => 0 }
    let rescanHeight := if height ≥ hf.windowSize - 1 then height - (hf.windowSize - 1) else 0
    let startVersion := if height = 0 then hf.originalVersion else db.getHardForkVersion height
    let hf :=
      { hf with currentForkIndex := lowerForkIndex hf.heights startVersion hf.currentForkIndex }
    let hf := hf.pushBlockVotes db (List.range' rescanHeight (height + 1 - rescanHeight))
    let hf := hf.raiseForkIndex (height + 1)
    let bcHeight := db.height
    some ((List.range' (height + 1) (bcHeight - (height + 1))).foldl
      (fun s h => (s.1.addBlock s.2 (s.2.getBlockFromHeight h) h).getD s) (hf, db))

/-- `reorganize_from_chain_height`. -/
def reorganizeFromChainHeight (hf : HardFork) (db : BlockchainDb) (height : ℕ) :
    Option (HardFork × BlockchainDb) :=
  if height = 0 then none else hf.reorganizeFromBlockHeight db (height - 1)

/-- One turn of the loop of `on_block_popped`: the newest vote leaves the window and the
version recorded at the popped height enters at the front. -/
def unpopVote (hf : HardFork) (version : UInt8) : HardFork :=
  let lastVersions := decrAt (2 ^ 32) hf.lastVersions (hf.versions.getLastD 0)
  { hf with
    versions := version :: hf.versions.dropLast
    lastVersions := incrAt (2 ^ 32) lastVersions version }

/-- The loop of `on_block_popped` that sets `current_fork_index` from the schedule alone: the
newest fork at index 1 or above whose height is reached, else 0. -/
def forkIndexAtHeight (heights : List Params) (height : ℕ) : ℕ → ℕ
  | 0 => 0
  | n + 1 =>
    if height ≥ (heights.getD (n + 1) default).height then n + 1
    else forkIndexAtHeight heights height n

/-- `on_block_popped(nblocks)`, after the database has dropped `nblocks` blocks. It throws for
`nblocks = 0`; when the database is left empty its countdown `height >= new_chain_height` on
an unsigned height never ends, and the database throws for the heights it wraps to. Both are
`none`. -/
def onBlockPopped (hf : HardFork) (db : BlockchainDb) (nblocks : ℕ) : Option HardFork :=
  if nblocks = 0 then none
  else if db.height = 0 then none
  else
    let newChainHeight := db.height
    let hf := (List.range' newChainHeight nblocks).reverse.foldl
      (fun hf height => hf.unpopVote (db.getHardForkVersion height)) hf
    -- does not take voting into account
    some { hf with
      currentForkIndex := forkIndexAtHeight hf.heights newChainHeight (hf.heights.length - 1) }

/-- `get(height)`: the recorded version below the top, the current version at the top, and
`255` above it. -/
def get (hf : HardFork) (db : BlockchainDb) (height : ℕ) : UInt8 :=
  if height > db.height then 255
  else if height = db.height then hf.getCurrentVersion
  else db.getHardForkVersion height

/-! ## The schedule that `add_fork` builds -/

/-- What `add_fork` keeps of the schedule: versions, heights and times strictly increase, and
every threshold is a percentage. -/
def ScheduleValid (heights : List Params) : Prop :=
  heights.Pairwise (fun p q => p.version < q.version ∧ p.height < q.height ∧ p.time < q.time) ∧
    ∀ p ∈ heights, p.threshold ≤ 100

/-- The states a caller can set up before `init`: a constructed `HardFork` after accepted
`add_fork` calls (a rejected call leaves the state as it was). -/
inductive Configured : HardFork → Prop
  | create {originalVersion : UInt8} {windowSize : ℕ} {defaultThresholdPercent : UInt8}
      {hf : HardFork} :
      HardFork.create originalVersion windowSize defaultThresholdPercent = some hf → Configured hf
  | addFork {hf hf' : HardFork} {version : UInt8} {height : ℕ} {threshold : UInt8} {time : ℤ}
      {diffResetValue : ℕ} :
      Configured hf → hf.addFork version height threshold time diffResetValue = some hf' →
        Configured hf'

/-- Every fork of a valid schedule is at or below the last one. -/
theorem ScheduleValid.le_last {heights : List Params} (hv : ScheduleValid heights)
    {last : Params} (hlast : heights.getLast? = some last) {p : Params} (hp : p ∈ heights) :
    p.version ≤ last.version ∧ p.height ≤ last.height ∧ p.time ≤ last.time := by
  obtain ⟨init, rfl⟩ := List.getLast?_eq_some_iff.1 hlast
  rcases List.mem_append.1 hp with hp | hp
  · obtain ⟨h1, h2, h3⟩ := (List.pairwise_append.1 hv.1).2.2 p hp last (List.mem_singleton_self _)
    exact ⟨UInt8.le_of_lt h1, h2.le, h3.le⟩
  · rw [List.mem_singleton.1 hp]
    exact ⟨UInt8.le_refl _, le_rfl, le_rfl⟩

/-- `add_fork` appends one fork and changes nothing else. -/
theorem addFork_eq_some {hf hf' : HardFork} {version : UInt8} {height : ℕ} {threshold : UInt8}
    {time : ℤ} {diffResetValue : ℕ}
    (h : hf.addFork version height threshold time diffResetValue = some hf') :
    ∃ p : Params, p.version = version ∧ p.height = height ∧ p.threshold = threshold ∧
      p.time = time ∧ hf' = { hf with heights := hf.heights ++ [p] } := by
  unfold addFork at h
  split_ifs at h
  exact ⟨_, rfl, rfl, rfl, rfl, (Option.some.inj h).symm⟩

theorem scheduleValid_addFork {hf hf' : HardFork} {version : UInt8} {height : ℕ}
    {threshold : UInt8} {time : ℤ} {diffResetValue : ℕ} (hv : ScheduleValid hf.heights)
    (h : hf.addFork version height threshold time diffResetValue = some hf') :
    ScheduleValid hf'.heights := by
  unfold addFork at h
  split_ifs at h with h0 hord hthr
  obtain rfl := Option.some.inj h
  -- the new fork is above every fork already there, since it is above the last one
  have habove : ∀ q ∈ hf.heights, q.version < version ∧ q.height < height ∧ q.time < time := by
    intro q hq
    cases hlast : hf.heights.getLast? with
    | none => simp [List.getLast?_eq_none_iff.1 hlast] at hq
    | some last =>
      simp only [hlast, Option.any_some, Bool.or_eq_true, decide_eq_true_eq, not_or] at hord
      obtain ⟨h1, h2, h3⟩ := hv.le_last hlast hq
      exact ⟨UInt8.lt_of_le_of_lt h1 (UInt8.not_le.1 hord.1.1), by omega, by omega⟩
  refine ⟨List.pairwise_append.2 ⟨hv.1, List.pairwise_singleton _ _, ?_⟩, ?_⟩
  · intro q hq r hr
    rw [List.mem_singleton.1 hr]
    exact habove q hq
  · intro q hq
    rcases List.mem_append.1 hq with hq | hq
    · exact hv.2 q hq
    · rw [List.mem_singleton.1 hq]
      exact UInt8.not_lt.1 hthr

theorem Configured.windowSize_pos {hf : HardFork} (h : Configured hf) : 0 < hf.windowSize := by
  induction h with
  | create hc =>
    unfold HardFork.create at hc
    split_ifs at hc with h0
    obtain rfl := Option.some.inj hc
    exact Nat.pos_of_ne_zero h0
  | addFork _ ha ih =>
    obtain ⟨p, -, -, -, -, rfl⟩ := addFork_eq_some ha
    exact ih

theorem Configured.scheduleValid {hf : HardFork} (h : Configured hf) :
    ScheduleValid hf.heights := by
  induction h with
  | create hc =>
    unfold HardFork.create at hc
    split_ifs at hc
    obtain rfl := Option.some.inj hc
    simp [ScheduleValid]
  | addFork _ ha ih => exact scheduleValid_addFork ih ha

/-- Versions strictly increase along a valid schedule, read by index. -/
theorem ScheduleValid.version_lt {heights : List Params} (hv : ScheduleValid heights) {i j : ℕ}
    (hij : i < j) (hj : j < heights.length) :
    (heights.getD i default).version < (heights.getD j default).version := by
  rw [List.getD_eq_getElem _ _ (hij.trans hj), List.getD_eq_getElem _ _ hj]
  exact (List.pairwise_iff_getElem.1 hv.1 i j (hij.trans hj) hj hij).1

theorem ScheduleValid.version_le {heights : List Params} (hv : ScheduleValid heights) {i j : ℕ}
    (hij : i ≤ j) (hj : j < heights.length) :
    (heights.getD i default).version ≤ (heights.getD j default).version := by
  rcases hij.lt_or_eq with hij | rfl
  · exact UInt8.le_of_lt (hv.version_lt hij hj)
  · exact UInt8.le_refl _

/-- Distinct indices of a valid schedule carry distinct versions. -/
theorem ScheduleValid.version_inj {heights : List Params} (hv : ScheduleValid heights) {i j : ℕ}
    (hi : i < heights.length) (hj : j < heights.length)
    (h : (heights.getD i default).version = (heights.getD j default).version) : i = j := by
  rcases Nat.lt_trichotomy i j with hij | hij | hij
  · exact absurd h (UInt8.ne_of_lt (hv.version_lt hij hj))
  · exact hij
  · exact absurd h.symm (UInt8.ne_of_lt (hv.version_lt hij hi))

/-- A valid schedule has at most 256 forks, one per `uint8_t` version. -/
theorem ScheduleValid.length_le {heights : List Params} (hv : ScheduleValid heights) :
    heights.length ≤ 256 := by
  have hnd : (heights.map fun p => p.version.toFin).Nodup := by
    rw [List.Nodup, List.pairwise_map]
    refine hv.1.imp ?_
    intro p q h heq
    exact UInt8.ne_of_lt h.1 (UInt8.toFin_inj.1 heq)
  simpa using hnd.length_le_card

/-- Every version of a valid schedule is at most the newest one. -/
theorem ScheduleValid.version_le_getLast {heights : List Params} (hv : ScheduleValid heights)
    {i : ℕ} (hi : i < heights.length) :
    ∀ last ∈ heights.getLast?, (heights.getD i default).version ≤ last.version := by
  intro last hlast
  rw [List.getD_eq_getElem _ _ hi]
  exact (hv.le_last hlast (List.getElem_mem hi)).1

/-! ## Starting on an empty database -/

/-- On an empty database there is nothing to rescan. -/
theorem rescanFromChainHeight_empty (hf : HardFork) (height : ℕ) :
    hf.rescanFromChainHeight BlockchainDb.empty height = none := by
  unfold rescanFromChainHeight rescanFromBlockHeight
  split_ifs <;> simp_all [BlockchainDb.height, BlockchainDb.empty]

/-- `init` on an empty database: the placeholder fork if the schedule is empty, an empty
window, zero counters and the first fork. -/
theorem init_empty (hf : HardFork) :
    hf.init BlockchainDb.empty =
      { (if hf.heights.isEmpty then { hf with heights := [⟨hf.originalVersion, 0, 0, 0, 0⟩] }
          else hf) with
        versions := [], lastVersions := fun _ => 0, currentForkIndex := 0 } := by
  simp only [init, rescanFromChainHeight_empty, Option.getD_none]

theorem heights_init_empty (hf : HardFork) :
    (hf.init BlockchainDb.empty).heights =
      if hf.heights.isEmpty then [⟨hf.originalVersion, 0, 0, 0, 0⟩] else hf.heights := by
  rw [init_empty]
  split <;> rfl

@[simp]
theorem windowSize_init_empty (hf : HardFork) :
    (hf.init BlockchainDb.empty).windowSize = hf.windowSize := by
  rw [init_empty]
  split <;> rfl

@[simp]
theorem originalVersion_init_empty (hf : HardFork) :
    (hf.init BlockchainDb.empty).originalVersion = hf.originalVersion := by
  rw [init_empty]
  split <;> rfl

theorem scheduleValid_init_empty {hf : HardFork} (hv : ScheduleValid hf.heights) :
    ScheduleValid (hf.init BlockchainDb.empty).heights := by
  rw [heights_init_empty]
  split
  · simp [ScheduleValid]
  · exact hv

/-- After `init` the original version is at most the first fork's, when the schedule starts
at or above it. -/
theorem originalVersion_le_init_empty {hf : HardFork}
    (horig : ∀ p ∈ hf.heights.head?, hf.originalVersion ≤ p.version) :
    hf.originalVersion ≤ ((hf.init BlockchainDb.empty).heights.getD 0 default).version := by
  rw [heights_init_empty]
  split
  · exact UInt8.le_refl _
  · cases hh : hf.heights with
    | nil => simp_all
    | cons p ps => simpa [hh] using horig

theorem heights_init_empty_ne_nil (hf : HardFork) : (hf.init BlockchainDb.empty).heights ≠ [] := by
  rw [heights_init_empty]
  split
  · simp
  · simp_all

/-- A configured state after `init` on an empty database has a window, and between one and
256 forks. -/
theorem Configured.init_empty_bounds {hf : HardFork} (hcfg : hf.Configured) :
    0 < (hf.init BlockchainDb.empty).windowSize ∧
      (hf.init BlockchainDb.empty).heights.length ≤ 256 ∧
      0 < (hf.init BlockchainDb.empty).heights.length :=
  ⟨by simpa using hcfg.windowSize_pos, (scheduleValid_init_empty hcfg.scheduleValid).length_le,
    List.length_pos_of_ne_nil (heights_init_empty_ne_nil hf)⟩

/-- `init` keeps every threshold zero: its placeholder fork has threshold 0. -/
theorem threshold_init_empty {hf : HardFork} (hthr : ∀ p ∈ hf.heights, p.threshold = 0) :
    ∀ p ∈ (hf.init BlockchainDb.empty).heights, p.threshold = 0 := by
  rw [heights_init_empty]
  split
  · simp
  · exact hthr

/-- After `init` the first fork carries the original version, when the schedule starts with it. -/
theorem firstVersion_init_empty {hf : HardFork}
    (horig : ∀ p ∈ hf.heights.head?, p.version = hf.originalVersion) :
    ((hf.init BlockchainDb.empty).heights.getD 0 default).version = hf.originalVersion := by
  rw [heights_init_empty]
  split
  · rfl
  · cases hh : hf.heights with
    | nil => simp_all
    | cons p ps => simpa [hh] using horig

/-! ## Specifications of the voting functions -/

/-- A vote at or above `v` stays at or above `v` once made effective, when `v` is a scheduled
version. -/
theorem le_getEffectiveVersion_iff (hf : HardFork) {v x : UInt8}
    (hv : ∀ last ∈ hf.heights.getLast?, v ≤ last.version) :
    v ≤ hf.getEffectiveVersion x ↔ v ≤ x := by
  unfold getEffectiveVersion
  cases hlast : hf.heights.getLast? with
  | none => rfl
  | some last =>
    have hvl := hv last (by simp [hlast])
    simp only
    split_ifs with hx
    · exact ⟨fun _ => UInt8.le_of_lt (UInt8.lt_of_le_of_lt hvl hx), fun _ => hvl⟩
    · rfl

/-- The condition under which `get_voted_fork_index` answers fork `n` at `height`: its height
is reached, and the votes for its version and every later one meet its threshold. -/
def VoteMet (hf : HardFork) (height n : ℕ) : Prop :=
  (hf.heights.getD n default).height ≤ height ∧
    votingThreshold hf.windowSize (hf.heights.getD n default).threshold ≤
      ((hf.heights.drop n).map fun p => hf.lastVersions p.version).sum % 2 ^ 32

/-- The loop of `get_voted_fork_index` over the first `k` forks answers the fallback or a fork
below `k` whose condition holds, with the votes accumulated from `acc`. -/
theorem getVotedForkIndex_go_spec (hf : HardFork) (height : ℕ) :
    ∀ (k acc : ℕ), k ≤ hf.heights.length →
      getVotedForkIndex.go hf height k acc = hf.currentForkIndex ∨
        ∃ n < k, getVotedForkIndex.go hf height k acc = n ∧
          (hf.heights.getD n default).height ≤ height ∧
          votingThreshold hf.windowSize (hf.heights.getD n default).threshold ≤
            (acc + (((hf.heights.take k).drop n).map fun p => hf.lastVersions p.version).sum) %
              2 ^ 32
  | 0, _, _ => .inl rfl
  | k + 1, acc, hk => by
    -- the fork at index `k` is the last of the first `k + 1`
    have htake : hf.heights.take (k + 1) = hf.heights.take k ++ [hf.heights.getD k default] := by
      rw [List.getD_eq_getElem _ _ (by omega), List.take_succ_eq_append_getElem (by omega)]
    simp only [getVotedForkIndex.go]
    split_ifs with hmet
    · refine .inr ⟨k, by omega, rfl, hmet.1, ?_⟩
      have hlast : (hf.heights.take (k + 1)).drop k = [hf.heights.getD k default] := by
        rw [htake, List.drop_append_of_le_length (by simp; omega)]
        simp
      rw [hlast, List.map_singleton, List.sum_singleton]
      exact hmet.2
    · rcases getVotedForkIndex_go_spec hf height k _ (by omega) with h | ⟨n, hn, heq, hh, hthr⟩
      · exact .inl h
      · refine .inr ⟨n, by omega, heq, hh, ?_⟩
        rw [htake, List.drop_append_of_le_length (by simp; omega), List.map_append,
          List.sum_append, List.map_singleton, List.sum_singleton]
        -- the loop reduces the accumulated votes at every step, once at the end is the same
        rw [Nat.mod_add_mod] at hthr
        rwa [Nat.add_comm _ (hf.lastVersions _), ← Nat.add_assoc]

/-- `get_voted_fork_index` answers `current_fork_index`, or a fork whose condition holds. -/
theorem getVotedForkIndex_spec (hf : HardFork) (height : ℕ) :
    hf.getVotedForkIndex height = hf.currentForkIndex ∨
      (hf.getVotedForkIndex height < hf.heights.length ∧
        hf.VoteMet height (hf.getVotedForkIndex height)) := by
  have hdef : hf.getVotedForkIndex height = getVotedForkIndex.go hf height hf.heights.length 0 :=
    rfl
  rw [hdef]
  rcases getVotedForkIndex_go_spec hf height hf.heights.length 0 le_rfl with
    h | ⟨n, hn, heq, hh, hthr⟩
  · exact .inl h
  · rw [heq]
    refine .inr ⟨hn, hh, ?_⟩
    simpa using hthr

/-- Raising the fork index keeps it, or moves it up to a fork whose condition holds. -/
theorem raiseForkIndex_spec (hf : HardFork) (hlen : hf.heights.length ≤ 256) (height : ℕ) :
    hf.raiseForkIndex height = hf ∨
      ∃ n, hf.raiseForkIndex height = { hf with currentForkIndex := n } ∧
        hf.currentForkIndex < n ∧ n < hf.heights.length ∧ hf.VoteMet height n := by
  dsimp only [raiseForkIndex]
  split_ifs with hgt
  · rcases getVotedForkIndex_spec hf height with h | ⟨hn, hmet⟩
    · -- the fallback answer cannot be above the index itself
      rw [h] at hgt
      exact absurd (Nat.mod_le _ _) (not_le.2 hgt)
    · rw [Nat.mod_eq_of_lt (by omega)] at hgt ⊢
      exact .inr ⟨_, rfl, hgt, hn, hmet⟩
  · exact .inl rfl

/-! ### Schedules without voting

With every threshold zero the votes never hold a fork back: the index goes to the newest fork
whose height is reached, which is what `get_ideal_version(height)` reads off the schedule. -/

/-- With zero thresholds the loop of `get_voted_fork_index` over the first `k` forks answers
at least every fork below `k` whose height is reached. -/
theorem le_getVotedForkIndex_go_of_zero_thresholds (hf : HardFork) (height : ℕ)
    (hthr : ∀ p ∈ hf.heights, p.threshold = 0) :
    ∀ k acc, k ≤ hf.heights.length → ∀ n < k, (hf.heights.getD n default).height ≤ height →
      n ≤ getVotedForkIndex.go hf height k acc
  | 0, _, _, n, hn, _ => absurd hn (Nat.not_lt_zero n)
  | k + 1, acc, hk, n, hn, hreach => by
    simp only [getVotedForkIndex.go]
    split_ifs with hmet
    · omega
    · -- fork `k` has a zero threshold, so only its height can keep it from being answered
      have hzero : votingThreshold hf.windowSize (hf.heights.getD k default).threshold = 0 := by
        rw [hthr _ (by rw [List.getD_eq_getElem _ _ (by omega)]; exact List.getElem_mem _)]
        simp [votingThreshold]
      have hnk : n ≠ k := by
        rintro rfl
        exact hmet ⟨hreach, by omega⟩
      exact le_getVotedForkIndex_go_of_zero_thresholds hf height hthr k _ (by omega) n (by omega)
        hreach

/-- The fork index after raising it: the vote, read as a `uint8_t`, where it is above the
index. -/
theorem currentForkIndex_raiseForkIndex (hf : HardFork) (height : ℕ) :
    (hf.raiseForkIndex height).currentForkIndex =
      if hf.getVotedForkIndex height % 256 > hf.currentForkIndex then
        hf.getVotedForkIndex height % 256
      else hf.currentForkIndex := by
  dsimp only [raiseForkIndex]
  split_ifs <;> rfl

/-- With zero thresholds, raising the fork index at `height` reaches every fork whose height is
reached. -/
theorem le_raiseForkIndex_of_zero_thresholds (hf : HardFork) (hlen : hf.heights.length ≤ 256)
    (hthr : ∀ p ∈ hf.heights, p.threshold = 0) (height : ℕ) :
    ∀ n < hf.heights.length, (hf.heights.getD n default).height ≤ height →
      n ≤ (hf.raiseForkIndex height).currentForkIndex := by
  intro n hn hreach
  have hvoted : n ≤ hf.getVotedForkIndex height :=
    le_getVotedForkIndex_go_of_zero_thresholds hf height hthr _ 0 le_rfl n hn hreach
  -- the vote is the index itself or a fork of the schedule, so it fits in a `uint8_t`
  have hvote : hf.getVotedForkIndex height = hf.currentForkIndex ∨
      hf.getVotedForkIndex height % 256 = hf.getVotedForkIndex height := by
    rcases getVotedForkIndex_spec hf height with h | ⟨hlt, -⟩
    · exact .inl h
    · exact .inr (Nat.mod_eq_of_lt (by omega))
  have hmod := Nat.mod_le (hf.getVotedForkIndex height) 256
  rw [currentForkIndex_raiseForkIndex]
  split_ifs <;> omega

/-- `get_ideal_version(height)` answers the version of fork `c` when `c` is the newest fork
whose height is reached, and the original version when no fork after the first is reached. -/
theorem getIdealVersionAt_go_eq {hf : HardFork} {height c : ℕ}
    (hc : c = 0 ∨ (hf.heights.getD c default).height ≤ height) :
    ∀ n, c ≤ n → (∀ j, c < j → j ≤ n → height < (hf.heights.getD j default).height) →
      getIdealVersionAt.go hf height n =
        if c = 0 then hf.originalVersion else (hf.heights.getD c default).version
  | 0, hcn, _ => by simp [getIdealVersionAt.go]; omega
  | n + 1, hcn, hnewer => by
    unfold getIdealVersionAt.go
    by_cases hreach : height ≥ (hf.heights.getD (n + 1) default).height
    · -- fork `n + 1` is reached, so it is fork `c`, which is not the first
      have hcn' : c = n + 1 := by
        by_contra hne
        exact absurd (hnewer (n + 1) (by omega) le_rfl) (not_lt.2 hreach)
      subst hcn'
      rw [if_pos hreach, if_neg (Nat.succ_ne_zero n)]
    · rw [if_neg hreach]
      rcases Nat.lt_or_ge c (n + 1) with hlt | hge
      · exact getIdealVersionAt_go_eq hc n (by omega) fun j hj hjn => hnewer j hj (by omega)
      · have hcn' : c = n + 1 := by omega
        subst hcn'
        rcases hc with h0 | hle
        · omega
        · exact absurd hle hreach

/-- `get_ideal_version(height)` is the version of the newest fork reached at `height`, when the
first fork carries the original version. -/
theorem getIdealVersionAt_eq_newest {hf : HardFork} {height c : ℕ}
    (horig : (hf.heights.getD 0 default).version = hf.originalVersion)
    (hc : c < hf.heights.length) (hreach : c = 0 ∨ (hf.heights.getD c default).height ≤ height)
    (hnewest : ∀ n < hf.heights.length, (hf.heights.getD n default).height ≤ height → n ≤ c) :
    hf.getIdealVersionAt height = (hf.heights.getD c default).version := by
  have hnewer : ∀ j, c < j → j ≤ hf.heights.length - 1 →
      height < (hf.heights.getD j default).height := fun j hcj hj =>
    lt_of_not_ge fun hle => absurd (hnewest j (by omega) hle) (by omega)
  rw [getIdealVersionAt, getIdealVersionAt_go_eq hreach _ (by omega) hnewer]
  split_ifs with h0
  · rw [h0, horig]
  · rfl

/-- The schedule readers read only the schedule and the original version. -/
theorem getIdealVersionAt_congr {hf hf' : HardFork} (hh : hf'.heights = hf.heights)
    (ho : hf'.originalVersion = hf.originalVersion) (height : ℕ) :
    hf'.getIdealVersionAt height = hf.getIdealVersionAt height := by
  have hgo : ∀ n, getIdealVersionAt.go hf' height n = getIdealVersionAt.go hf height n := by
    intro n
    induction n with
    | zero => exact ho
    | succ n ih => simp only [getIdealVersionAt.go, hh, ih]
  rw [getIdealVersionAt, getIdealVersionAt, hgo, hh]

theorem getLastDiffResetHeight_congr {hf hf' : HardFork} (hh : hf'.heights = hf.heights)
    (height : ℕ) : hf'.getLastDiffResetHeight height = hf.getLastDiffResetHeight height := by
  rw [getLastDiffResetHeight, getLastDiffResetHeight, hh]

theorem getLastDiffResetValue_congr {hf hf' : HardFork} (hh : hf'.heights = hf.heights)
    (height : ℕ) : hf'.getLastDiffResetValue height = hf.getLastDiffResetValue height := by
  rw [getLastDiffResetValue, getLastDiffResetValue, hh]

/-- The loop of `reorganize_from_block_height` that lowers the fork index stops at `c` when
every fork between `c` and the start index is above the start version and fork `c` is not (or
is the first). -/
theorem lowerForkIndex_eq {heights : List Params} {startVersion : UInt8} {c : ℕ}
    (hc : c = 0 ∨ (heights.getD c default).version ≤ startVersion) :
    ∀ n, c ≤ n → (∀ j, c < j → j ≤ n → startVersion < (heights.getD j default).version) →
      lowerForkIndex heights startVersion n = c
  | 0, hcn, _ => by simp [lowerForkIndex]; omega
  | n + 1, hcn, habove => by
    unfold lowerForkIndex
    split_ifs with hgt
    · -- fork `n + 1` is above the start version, so it is not fork `c`
      have hne : c ≠ n + 1 := by
        rintro rfl
        rcases hc with h0 | hle
        · omega
        · exact UInt8.lt_irrefl _ (UInt8.lt_of_lt_of_le hgt hle)
      exact lowerForkIndex_eq hc n (by omega) fun j hj hjn => habove j hj (by omega)
    · rcases Nat.lt_or_ge c (n + 1) with hlt | hge
      · exact absurd (habove (n + 1) hlt le_rfl) hgt
      · omega

/-- The start of the rescan in `reorganize_from_block_height`: the oldest height of the window
that ends at `height`. -/
theorem rescanHeight_eq {windowSize : ℕ} (hws : 0 < windowSize) (height : ℕ) :
    (if height ≥ windowSize - 1 then height - (windowSize - 1) else 0) =
      height + 1 - windowSize := by
  split <;> omega

/-- `reorganize_from_block_height` below the top: the window of the blocks up to `height`
rebuilt on the lowered fork index, the vote for `height + 1`, and the blocks above replayed. -/
theorem reorganizeFromBlockHeight_eq {hf : HardFork} (hws : 0 < hf.windowSize)
    {db : BlockchainDb} {height : ℕ} (hh : height < db.height) :
    hf.reorganizeFromBlockHeight db height =
      some ((List.range' (height + 1) (db.height - (height + 1))).foldl
        (fun s h => (s.1.addBlock s.2 (s.2.getBlockFromHeight h) h).getD s)
        (({ hf with
            versions := [], lastVersions := fun _ => 0
            currentForkIndex := lowerForkIndex hf.heights
              (if height = 0 then hf.originalVersion else db.getHardForkVersion height)
              hf.currentForkIndex }.pushBlockVotes db
            (List.range' (height + 1 - hf.windowSize)
              (height + 1 - (height + 1 - hf.windowSize)))).raiseForkIndex (height + 1),
          db)) := by
  unfold reorganizeFromBlockHeight
  rw [if_neg (not_le.2 hh)]
  simp only [rescanHeight_eq hws]

/-- The window after `pop_front` while full: the last `window_size - 1` votes. -/
theorem popWindow_fst {windowSize : ℕ} (hws : 0 < windowSize) :
    ∀ (versions : List UInt8) (lastVersions : UInt8 → ℕ),
      (popWindow windowSize versions lastVersions).1 =
        versions.drop (versions.length + 1 - windowSize)
  | [], _ => by simp [popWindow]
  | v :: vs, lastVersions => by
    unfold popWindow
    split_ifs with hfull
    · rw [popWindow_fst hws vs]
      simp only [List.length_cons] at hfull ⊢
      rw [show vs.length + 1 + 1 - windowSize = (vs.length + 1 - windowSize) + 1 by omega,
        List.drop_succ_cons]
    · simp only [List.length_cons] at hfull ⊢
      rw [show vs.length + 1 + 1 - windowSize = 0 by omega, List.drop_zero]

/-- Popping keeps the counters counting the window. -/
theorem countsMod_popWindow (windowSize : ℕ) :
    ∀ {versions : List UInt8} {lastVersions : UInt8 → ℕ},
      CountsMod (2 ^ 32) lastVersions versions →
        CountsMod (2 ^ 32) (popWindow windowSize versions lastVersions).2
          (popWindow windowSize versions lastVersions).1
  | [], _, h => h
  | v :: vs, lastVersions, h => by
    unfold popWindow
    split_ifs
    · exact countsMod_popWindow windowSize (h.decrAt (Nat.two_pow_pos 32))
    · simpa using h

/-- The window update of `add`, as a whole: the window of the longer stream, still counted. -/
theorem slideWindow_eq (hf : HardFork) (hws : 0 < hf.windowSize) (v : UInt8) :
    ∃ lastVersions, hf.slideWindow v =
        { hf with
          versions := hf.versions.drop (hf.versions.length + 1 - hf.windowSize) ++ [v]
          lastVersions := lastVersions } ∧
      (CountsMod (2 ^ 32) hf.lastVersions hf.versions →
        CountsMod (2 ^ 32) lastVersions
          (hf.versions.drop (hf.versions.length + 1 - hf.windowSize) ++ [v])) := by
  refine ⟨incrAt (2 ^ 32) (popWindow hf.windowSize hf.versions hf.lastVersions).2 v, ?_,
    fun h => ?_⟩
  · simp only [slideWindow, pushVote, popWindow_fst hws]
  · rw [← popWindow_fst hws hf.versions hf.lastVersions]
    exact (countsMod_popWindow hf.windowSize h).incrAt v

/-- `add` inverted: the check passed, the current version was recorded at `height`, and the
state is the slid window with the fork index raised for `height + 1`. -/
theorem add_eq_some_iff {hf hf' : HardFork} {db db' : BlockchainDb}
    {blockVersion votingVersion : UInt8} {height : ℕ} :
    hf.add db blockVersion votingVersion height = some (hf', db') ↔
      hf.doCheck blockVersion votingVersion = true ∧
        hf' = (hf.slideWindow (hf.getEffectiveVersion votingVersion)).raiseForkIndex (height + 1) ∧
        db' = db.setHardForkVersion height hf.getCurrentVersion := by
  unfold add
  split_ifs with hc
  · simp only [Option.some.injEq, Prod.mk.injEq, hc, true_and]
    exact ⟨fun ⟨h1, h2⟩ => ⟨h1.symm, h2.symm⟩, fun ⟨h1, h2⟩ => ⟨h1.symm, h2.symm⟩⟩
  · simp [hc]

/-- The database never sees a block's vote: `add` changes it only at `height`. -/
theorem add_db {hf hf' : HardFork} {db db' : BlockchainDb} {blockVersion votingVersion : UInt8}
    {height : ℕ} (h : hf.add db blockVersion votingVersion height = some (hf', db')) :
    db' = db.setHardForkVersion height hf.getCurrentVersion :=
  (add_eq_some_iff.1 h).2.2

/-- What `add` does to the state does not depend on the database it writes to. -/
theorem add_of_add {hf hf' : HardFork} {db db' : BlockchainDb} {blockVersion votingVersion : UInt8}
    {height : ℕ} (h : hf.add db blockVersion votingVersion height = some (hf', db'))
    (db₂ : BlockchainDb) :
    hf.add db₂ blockVersion votingVersion height =
      some (hf', db₂.setHardForkVersion height hf.getCurrentVersion) := by
  obtain ⟨hc, hhf, -⟩ := add_eq_some_iff.1 h
  exact add_eq_some_iff.2 ⟨hc, hhf, rfl⟩

/-- Pushing the votes of stored blocks appends their effective versions, counted. -/
theorem pushBlockVotes_eq (hf : HardFork) (db : BlockchainDb) (hs : List ℕ) :
    ∃ lastVersions, hf.pushBlockVotes db hs =
        { hf with
          versions := hf.versions ++
            hs.map fun h => hf.getEffectiveVersion (getBlockVote (db.getBlockFromHeight h))
          lastVersions := lastVersions } ∧
      (CountsMod (2 ^ 32) hf.lastVersions hf.versions →
        CountsMod (2 ^ 32) lastVersions (hf.versions ++
          hs.map fun h => hf.getEffectiveVersion (getBlockVote (db.getBlockFromHeight h)))) := by
  induction hs generalizing hf with
  | nil => exact ⟨hf.lastVersions, by simp [pushBlockVotes], by simp⟩
  | cons h hs ih =>
    obtain ⟨lastVersions, heq, hcount⟩ := ih (hf.pushVote
      (hf.getEffectiveVersion (getBlockVote (db.getBlockFromHeight h))))
    refine ⟨lastVersions, ?_, fun hc => ?_⟩
    · simp only [pushBlockVotes, List.foldl_cons] at heq ⊢
      rw [heq]
      simp [pushVote, getEffectiveVersion]
    · have := hcount (hc.incrAt _)
      simpa [pushVote, getEffectiveVersion] using this

end HardFork

end Bittube

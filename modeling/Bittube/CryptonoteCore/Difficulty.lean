import Bittube.CryptonoteBasic.HardForkSync
import Bittube.Crypto.Types

/-!
# The difficulty of the next block (`Blockchain::get_difficulty_for_next_block`)

The difficulty of a new block is `next_difficulty` (below `BLOCK_MAJOR_VERSION_2`) or
`next_difficulty_v2_ipbc` of the timestamps and cumulative difficulties of the last
`DIFFICULTY_BLOCKS_COUNT` (735) or `DIFFICULTY_BLOCKS_COUNT_V2` (71) blocks, the genesis block
left out, with the target, the new block's height and the last difficulty reset of the
schedule. The two algorithms are parameters here.

On the main chain `get_difficulty_for_next_block` takes the version from the fork index that
voting reached (`get_current_version`). It keeps the window it read and slides it by the top
block when the chain grew by one, and it answers the last value again while the top block is
the same. For a block on an alternative chain, `get_next_difficulty_for_alternative_chain`
takes the version the schedule gives the block's height (`get_ideal_version(height)`) and
splices the main-chain blocks below the fork point with the alternative blocks.

The two caches of the main path give the difficulty read from the whole database in every state
a run of added and popped blocks, cache resets and queries reaches, as long as the top block's id
tops no other chain queried before. The two versions agree when every fork activates at its
height: threshold 0 and a first fork of the original version, as in every schedule a node can be
given (the mainnet, testnet and stagenet tables and the `FAKECHAIN` forks all have threshold 0,
and the `Blockchain::init` overload that takes a ready `HardFork` has no caller).
-/

namespace Bittube.CryptonoteCore

open Bittube.Crypto Bittube.HardFork CountedWindow

/-- `next_difficulty` and `next_difficulty_v2_ipbc`, each of the timestamps, the cumulative
difficulties, the target in seconds, the height, and the last difficulty reset's height and
value. -/
structure DifficultyAlgorithms where
  nextDifficulty : List ℕ → List ℕ → ℕ → ℕ → ℕ → ℕ → ℕ
  nextDifficultyV2Ipbc : List ℕ → List ℕ → ℕ → ℕ → ℕ → ℕ → ℕ

/-- What the difficulty computations read of a stored block: its id, timestamp and cumulative
difficulty, and the versions `HardFork::add` reads. -/
structure DifficultyBlock where
  id : Hash
  timestamp : ℕ
  cumulativeDifficulty : ℕ
  versions : BlockVersions

instance : Inhabited DifficultyBlock := ⟨⟨nullHash, 0, 0, ⟨0, 0⟩⟩⟩

/-- `block_extended_info` as `get_next_difficulty_for_alternative_chain` reads it: the height,
the block's timestamp and the cumulative difficulty. -/
structure BlockExtendedInfo where
  height : ℕ
  timestamp : ℕ
  cumulativeDifficulty : ℕ

/-- The members of `Blockchain` behind the two caches of `get_difficulty_for_next_block`:
`m_timestamps`, `m_difficulties`, `m_timestamps_and_difficulties_height`,
`m_difficulty_for_next_block_top_hash` and `m_difficulty_for_next_block`. -/
structure DifficultyCache where
  timestamps : List ℕ
  difficulties : List ℕ
  timestampsAndDifficultiesHeight : ℕ
  difficultyForNextBlockTopHash : Hash
  difficultyForNextBlock : ℕ

/-- The values the constructor of `Blockchain` sets. -/
def DifficultyCache.init : DifficultyCache := ⟨[], [], 0, nullHash, 1⟩

/-- `get_tail_id()`: `top_block_hash`, the id of the top block, `null_hash` on an empty
chain. -/
def getTailId (chain : List DifficultyBlock) : Hash :=
  match chain.getLast? with
  | some b => b.id
  | none => nullHash

/-- The number of blocks the difficulty of a block of `version` reads. -/
def difficultyBlocksCountFor (version : UInt8) : ℕ :=
  if version < blockMajorVersion2 then difficultyBlocksCount else difficultyBlocksCountV2

/-- The call both callers end with: `next_difficulty` or `next_difficulty_v2_ipbc` for a block
of `version` at `height`, with the target of the version and the schedule's last difficulty
reset at `height`. -/
def nextDifficultyFor (algs : DifficultyAlgorithms) (hf : HardFork) (version : UInt8)
    (timestamps difficulties : List ℕ) (height : ℕ) : ℕ :=
  let target := if version < blockMajorVersion2 then difficultyTargetV1 else difficultyTargetV2
  let lastDiffResetHeight := hf.getLastDiffResetHeight height
  let lastDiffResetValue := hf.getLastDiffResetValue height
  if version < blockMajorVersion2 then
    algs.nextDifficulty timestamps difficulties target height lastDiffResetHeight
      lastDiffResetValue
  else
    algs.nextDifficultyV2Ipbc timestamps difficulties target height lastDiffResetHeight
      lastDiffResetValue

/-- The first height read for the last `count` blocks below `height`, past the genesis
block. -/
def windowOffset (height count : ℕ) : ℕ :=
  let offset := height - min height count
  if offset = 0 then 1 else offset

/-- The timestamps and cumulative difficulties of the blocks from height `offset` on, read one
height at a time. -/
def readWindow (chain : List DifficultyBlock) (offset : ℕ) : List ℕ × List ℕ :=
  ((chain.drop offset).map (·.timestamp), (chain.drop offset).map (·.cumulativeDifficulty))

/-! ## The main chain -/

/-- The window `get_difficulty_for_next_block` passes on for a chain of `height` blocks: the
cached window with the top block pushed and trimmed to `count`, when the cache was filled one
block earlier and holds `count` blocks, and otherwise the window read from the database. The
`uint64_t` difference `height - m_timestamps_and_difficulties_height` is 1 exactly when the
truncated one is. -/
def nextBlockWindow (chain : List DifficultyBlock) (cache : DifficultyCache) (count : ℕ) :
    List ℕ × List ℕ :=
  let height := chain.length
  if cache.timestampsAndDifficultiesHeight ≠ 0 ∧
      height - cache.timestampsAndDifficultiesHeight = 1 ∧ count ≤ cache.timestamps.length then
    let top := chain.getD (height - 1) default
    (lastN count (cache.timestamps ++ [top.timestamp]),
      lastN count (cache.difficulties ++ [top.cumulativeDifficulty]))
  else readWindow chain (windowOffset height count)

/-- `get_difficulty_for_next_block()` on a database holding `chain`, with the hard-fork state
`hf` and `m_fixed_difficulty`: the difficulty, and the caches it leaves. -/
def getDifficultyForNextBlock (algs : DifficultyAlgorithms) (fixedDifficulty : ℕ)
    (hf : HardFork) (chain : List DifficultyBlock) (cache : DifficultyCache) :
    ℕ × DifficultyCache :=
  if fixedDifficulty ≠ 0 then (if chain.length ≠ 0 then fixedDifficulty else 1, cache)
  else
    let topHash := getTailId chain
    if topHash = cache.difficultyForNextBlockTopHash then (cache.difficultyForNextBlock, cache)
    else
      let version := hf.getCurrentVersion
      let window := nextBlockWindow chain cache (difficultyBlocksCountFor version)
      let diff := nextDifficultyFor algs hf version window.1 window.2 chain.length
      (diff, ⟨window.1, window.2, chain.length, topHash, diff⟩)

/-- The difficulty of the next block read from the whole database, with no cache. -/
def fullDifficulty (algs : DifficultyAlgorithms) (hf : HardFork) (chain : List DifficultyBlock) :
    ℕ :=
  let window := readWindow chain
    (windowOffset chain.length (difficultyBlocksCountFor hf.getCurrentVersion))
  nextDifficultyFor algs hf hf.getCurrentVersion window.1 window.2 chain.length

/-! ## An alternative chain -/

/-- `main_chain_stop_offset`: the height of the first alternative block, or of the new block
on an empty alternative chain. -/
def mainChainStopOffset (altChain : List BlockExtendedInfo) (bei : BlockExtendedInfo) : ℕ :=
  match altChain.head? with
  | some front => front.height
  | none => bei.height

/-- `get_next_difficulty_for_alternative_chain(alt_chain, bei)` on a node whose database holds
`mainChain`, with the hard-fork state `hf`; `none` where a database read throws. The main-chain
part is read from `main_chain_stop_offset - min(count - min(count, alt_chain.size()), stop)`,
past the genesis block, which is the offset `windowOffset` computes. A failed
`CHECK_AND_ASSERT_MES` returns `false`, that is 0. -/
def getNextDifficultyForAlternativeChain (algs : DifficultyAlgorithms) (fixedDifficulty : ℕ)
    (hf : HardFork) (mainChain : List DifficultyBlock) (altChain : List BlockExtendedInfo)
    (bei : BlockExtendedInfo) : Option ℕ :=
  if fixedDifficulty ≠ 0 then some (if mainChain.length ≠ 0 then fixedDifficulty else 1)
  else
    let version := hf.getIdealVersionAt bei.height
    let count := difficultyBlocksCountFor version
    if altChain.length < count then
      let stop := mainChainStopOffset altChain bei
      let start := windowOffset stop (count - min count altChain.length)
      -- `get_block_timestamp` throws at a height the database does not hold
      if start < stop ∧ mainChain.length < stop then none
      else
        let main := readWindow (mainChain.take stop) start
        if altChain.length + main.1.length ≤ count then
          some (nextDifficultyFor algs hf version (main.1 ++ altChain.map (·.timestamp))
            (main.2 ++ altChain.map (·.cumulativeDifficulty)) bei.height)
        else some 0
    else
      some (nextDifficultyFor algs hf version (lastN count (altChain.map (·.timestamp)))
        (lastN count (altChain.map (·.cumulativeDifficulty))) bei.height)

/-! ## The window cache -/

theorem windowOffset_of_lt {height count : ℕ} (h : count < height) :
    windowOffset height count = height - count := by
  dsimp only [windowOffset]
  split_ifs <;> omega

/-- A run of blocks below height `s` followed by the blocks from `s` on is the run from its
start. -/
theorem drop_take_append_drop {α : Type*} {l : List α} {start s : ℕ} (hstart : start ≤ s)
    (hs : s ≤ l.length) : (l.take s).drop start ++ l.drop s = l.drop start := by
  rw [← List.drop_append_of_le_length (by rw [List.length_take]; omega), List.take_append_drop]

/-- What the window cache holds while its height is set: the timestamps and cumulative
difficulties of the blocks from some height on, below that height, of the current chain. -/
def WindowCacheValid (chain : List DifficultyBlock) (cache : DifficultyCache) : Prop :=
  cache.timestampsAndDifficultiesHeight ≠ 0 →
    cache.timestampsAndDifficultiesHeight ≤ chain.length ∧
      ∃ start, (cache.timestamps, cache.difficulties) =
        readWindow (chain.take cache.timestampsAndDifficultiesHeight) start

/-- The slide of the cached window by the top block gives the window read from the database. -/
theorem nextBlockWindow_eq_readWindow {chain : List DifficultyBlock} {cache : DifficultyCache}
    (hvalid : WindowCacheValid chain cache) {count : ℕ} (hcount : 0 < count) :
    nextBlockWindow chain cache count = readWindow chain (windowOffset chain.length count) := by
  dsimp only [nextBlockWindow]
  split_ifs with hslide
  · obtain ⟨hne, hone, hfull⟩ := hslide
    obtain ⟨hle, start, hwin⟩ := hvalid hne
    simp only [readWindow, Prod.mk.injEq] at hwin
    set h := cache.timestampsAndDifficultiesHeight
    have hlen : chain.length = h + 1 := by omega
    -- the cached window starts `count` blocks or more below the top block
    have hstart : count + start ≤ h := by
      rw [hwin.1, List.length_map, List.length_drop, List.length_take, min_eq_left hle] at hfull
      omega
    have htop : chain.drop h = [chain.getD h default] := by
      rw [List.drop_eq_getElem_cons (by omega), List.drop_eq_nil_of_le (by omega),
        List.getD_eq_getElem]
    have hslid : ∀ f : DifficultyBlock → ℕ,
        lastN count (((chain.take h).drop start).map f ++ [f (chain.getD h default)]) =
          (chain.drop (chain.length - count)).map f := by
      intro f
      have hpush : ((chain.take h).drop start).map f ++ [f (chain.getD h default)] =
          ((chain.take h).drop start ++ chain.drop h).map f := by
        rw [htop, List.map_append, List.map_singleton]
      rw [hpush, drop_take_append_drop (by omega) (by omega), lastN_map, lastN_drop (by omega),
        lastN]
    rw [windowOffset_of_lt (by omega), hwin.1, hwin.2, hlen, Nat.add_sub_cancel, ← hlen,
      hslid, hslid]
    rfl
  · rfl

theorem difficultyBlocksCountFor_pos (version : UInt8) : 0 < difficultyBlocksCountFor version := by
  unfold difficultyBlocksCountFor
  split_ifs <;> decide

/-- What one query does: with a fixed difficulty, or when the top block's id is the memo's,
it leaves the caches; otherwise it answers the difficulty read from the whole database and
caches that window under the chain's height and the difficulty under the top block's id. -/
theorem getDifficultyForNextBlock_cases (algs : DifficultyAlgorithms) (fixedDifficulty : ℕ)
    (hf : HardFork) {chain : List DifficultyBlock} {cache : DifficultyCache}
    (hvalid : WindowCacheValid chain cache) :
    (getDifficultyForNextBlock algs fixedDifficulty hf chain cache).2 = cache ∨
      fixedDifficulty = 0 ∧ getTailId chain ≠ cache.difficultyForNextBlockTopHash ∧
        getDifficultyForNextBlock algs fixedDifficulty hf chain cache =
          (fullDifficulty algs hf chain,
            ⟨(readWindow chain
                (windowOffset chain.length (difficultyBlocksCountFor hf.getCurrentVersion))).1,
              (readWindow chain
                (windowOffset chain.length (difficultyBlocksCountFor hf.getCurrentVersion))).2,
              chain.length, getTailId chain, fullDifficulty algs hf chain⟩) := by
  dsimp only [getDifficultyForNextBlock]
  by_cases hfixed : fixedDifficulty ≠ 0
  · exact .inl (by rw [if_pos hfixed])
  rw [if_neg hfixed]
  by_cases hhit : getTailId chain = cache.difficultyForNextBlockTopHash
  · exact .inl (by rw [if_pos hhit])
  rw [if_neg hhit]
  refine .inr ⟨not_not.1 hfixed, hhit, ?_⟩
  rw [nextBlockWindow_eq_readWindow hvalid (difficultyBlocksCountFor_pos _)]
  rfl

/-- The window cache stays valid across a query: it is left, or it holds the window read from
the whole chain. -/
theorem WindowCacheValid.query (algs : DifficultyAlgorithms) (fixedDifficulty : ℕ)
    (hf : HardFork) {chain : List DifficultyBlock} {cache : DifficultyCache}
    (hvalid : WindowCacheValid chain cache) :
    WindowCacheValid chain (getDifficultyForNextBlock algs fixedDifficulty hf chain cache).2 := by
  rcases getDifficultyForNextBlock_cases algs fixedDifficulty hf hvalid with hkeep | ⟨-, -, hq⟩
  · rwa [hkeep]
  · rw [hq]
    intro _
    exact ⟨le_rfl, _, by rw [List.take_length]⟩

/-- A block added on top leaves the blocks below the cached height. -/
theorem WindowCacheValid.addBlock {chain : List DifficultyBlock} {cache : DifficultyCache}
    (hvalid : WindowCacheValid chain cache) (b : DifficultyBlock) :
    WindowCacheValid (chain ++ [b]) cache := by
  intro hne
  obtain ⟨hle, start, hwin⟩ := hvalid hne
  refine ⟨by simp only [List.length_append]; omega, start, ?_⟩
  rw [List.take_append_of_le_length hle, hwin]

/-- Resetting the cached height, as popping a block and switching chains do, empties what the
cache claims. -/
theorem WindowCacheValid.reset (chain : List DifficultyBlock) (cache : DifficultyCache) :
    WindowCacheValid chain { cache with timestampsAndDifficultiesHeight := 0 } :=
  fun hne => absurd rfl hne

/-- What the memo holds: the constructor's value under `null_hash`, or the difficulty of a
queried chain under the id of its top block, read from its whole database with the hard-fork
state forward sync builds over it from `hf`. -/
def MemoValid (algs : DifficultyAlgorithms) (hf : HardFork) (queried : List (List DifficultyBlock))
    (cache : DifficultyCache) : Prop :=
  cache.difficultyForNextBlockTopHash = nullHash ∧ cache.difficultyForNextBlock = 1 ∨
    ∃ c ∈ queried, ∃ hfc dbc,
      syncBlocks (hf.init BlockchainDb.empty, BlockchainDb.empty) (c.map (·.versions)) =
          some (hfc, dbc) ∧
        cache.difficultyForNextBlockTopHash = getTailId c ∧
        cache.difficultyForNextBlock = fullDifficulty algs hfc c

theorem MemoValid.cons {algs : DifficultyAlgorithms} {hf : HardFork}
    {queried : List (List DifficultyBlock)} {cache : DifficultyCache}
    (hmemo : MemoValid algs hf queried cache) (c : List DifficultyBlock) :
    MemoValid algs hf (c :: queried) cache := by
  rcases hmemo with hinit | ⟨c', hc', rest⟩
  · exact .inl hinit
  · exact .inr ⟨c', List.mem_cons_of_mem c hc', rest⟩

/-- A query keeps the memo valid, with the queried chain added. -/
theorem MemoValid.query {algs : DifficultyAlgorithms} {fixedDifficulty : ℕ} {hf hf' : HardFork}
    {db : BlockchainDb} {chain : List DifficultyBlock} {cache : DifficultyCache}
    {queried : List (List DifficultyBlock)} (hvalid : WindowCacheValid chain cache)
    (hmemo : MemoValid algs hf queried cache)
    (hsync : syncBlocks (hf.init BlockchainDb.empty, BlockchainDb.empty)
      (chain.map (·.versions)) = some (hf', db)) :
    MemoValid algs hf (chain :: queried)
      (getDifficultyForNextBlock algs fixedDifficulty hf' chain cache).2 := by
  rcases getDifficultyForNextBlock_cases algs fixedDifficulty hf' hvalid with hkeep | ⟨-, -, hq⟩
  · rw [hkeep]
    exact hmemo.cons chain
  · rw [hq]
    exact .inr ⟨chain, List.mem_cons_self, hf', db, hsync, rfl, rfl⟩

/-! ## Runs of the main chain -/

/-- The states of the main chain's database and caches a node reaches from a database holding
`chain` and the caches the constructor sets, by adding a block, popping the top block
(`pop_block_from_blockchain`), resetting the cached height as switching to or rolling back from
an alternative chain and handling an alternative block do, and querying the difficulty with the
hard-fork state forward sync builds over the chain from `hf`. The last index lists the queried
chains. -/
inductive DifficultyReachable (algs : DifficultyAlgorithms) (fixedDifficulty : ℕ) (hf : HardFork) :
    List DifficultyBlock → DifficultyCache → List (List DifficultyBlock) → Prop
  | init (chain : List DifficultyBlock) :
      DifficultyReachable algs fixedDifficulty hf chain DifficultyCache.init []
  | addBlock {chain : List DifficultyBlock} {cache : DifficultyCache}
      {queried : List (List DifficultyBlock)} (b : DifficultyBlock) :
      DifficultyReachable algs fixedDifficulty hf chain cache queried →
      DifficultyReachable algs fixedDifficulty hf (chain ++ [b]) cache queried
  | popBlock {chain : List DifficultyBlock} {cache : DifficultyCache}
      {queried : List (List DifficultyBlock)} :
      DifficultyReachable algs fixedDifficulty hf chain cache queried →
      DifficultyReachable algs fixedDifficulty hf chain.dropLast
        { cache with timestampsAndDifficultiesHeight := 0 } queried
  | resetCache {chain : List DifficultyBlock} {cache : DifficultyCache}
      {queried : List (List DifficultyBlock)} :
      DifficultyReachable algs fixedDifficulty hf chain cache queried →
      DifficultyReachable algs fixedDifficulty hf chain
        { cache with timestampsAndDifficultiesHeight := 0 } queried
  | query {chain : List DifficultyBlock} {cache : DifficultyCache}
      {queried : List (List DifficultyBlock)} {hf' : HardFork} {db : BlockchainDb} :
      DifficultyReachable algs fixedDifficulty hf chain cache queried →
      syncBlocks (hf.init BlockchainDb.empty, BlockchainDb.empty) (chain.map (·.versions)) =
        some (hf', db) →
      DifficultyReachable algs fixedDifficulty hf chain
        (getDifficultyForNextBlock algs fixedDifficulty hf' chain cache).2 (chain :: queried)

/-- The run lemma: both caches are valid in every reachable state. -/
theorem DifficultyReachable.valid {algs : DifficultyAlgorithms} {fixedDifficulty : ℕ}
    {hf : HardFork} {chain : List DifficultyBlock} {cache : DifficultyCache}
    {queried : List (List DifficultyBlock)}
    (hreach : DifficultyReachable algs fixedDifficulty hf chain cache queried) :
    WindowCacheValid chain cache ∧ MemoValid algs hf queried cache := by
  induction hreach with
  | init chain => exact ⟨fun hne => absurd rfl hne, .inl ⟨rfl, rfl⟩⟩
  | addBlock b _ ih => exact ⟨ih.1.addBlock b, ih.2⟩
  | popBlock _ ih => exact ⟨WindowCacheValid.reset _ _, ih.2⟩
  | resetCache _ ih => exact ⟨WindowCacheValid.reset _ _, ih.2⟩
  | query _ hsync ih =>
    exact ⟨ih.1.query algs fixedDifficulty _, MemoValid.query ih.1 ih.2 hsync⟩

/-- **The caches of the main chain are sound.** In every reachable state, querying the
difficulty with the hard-fork state of the chain answers the difficulty read from the whole
database, when the top block's id is not `null_hash` and no other queried chain had it. -/
theorem getDifficultyForNextBlock_eq_fullDifficulty {algs : DifficultyAlgorithms} {hf : HardFork}
    {chain : List DifficultyBlock} {cache : DifficultyCache}
    {queried : List (List DifficultyBlock)}
    (hreach : DifficultyReachable algs 0 hf chain cache queried)
    (hfresh : ∀ c ∈ queried, getTailId c = getTailId chain → c = chain)
    (htail : getTailId chain ≠ nullHash) {hf' : HardFork} {db : BlockchainDb}
    (hsync : syncBlocks (hf.init BlockchainDb.empty, BlockchainDb.empty)
      (chain.map (·.versions)) = some (hf', db)) :
    (getDifficultyForNextBlock algs 0 hf' chain cache).1 = fullDifficulty algs hf' chain := by
  obtain ⟨hvalid, hmemo⟩ := hreach.valid
  by_cases hhit : getTailId chain = cache.difficultyForNextBlockTopHash
  · -- a memo hit answers the memo, which was computed on this very chain
    have hval : getDifficultyForNextBlock algs 0 hf' chain cache =
        (cache.difficultyForNextBlock, cache) := by
      simp [getDifficultyForNextBlock, hhit]
    rcases hmemo with ⟨hnull, -⟩ | ⟨c, hc, hfc, dbc, hsyncc, htop, hdiff⟩
    · exact absurd (hhit.trans hnull) htail
    · obtain rfl := hfresh c hc (htop.symm.trans hhit.symm)
      obtain ⟨rfl, -⟩ := Prod.mk.inj (Option.some.inj (hsyncc.symm.trans hsync))
      rw [hval, hdiff]
  · rcases getDifficultyForNextBlock_cases algs 0 hf' hvalid with hkeep | ⟨-, -, hq⟩
    · -- with no fixed difficulty and no memo hit the caches are rewritten
      have hne :
          (getDifficultyForNextBlock algs 0 hf' chain cache).2.difficultyForNextBlockTopHash =
            getTailId chain := by
        simp [getDifficultyForNextBlock, hhit]
      exact absurd (hkeep ▸ hne).symm hhit
    · rw [hq]

/-! ## The alternative chain against the main chain -/

/-- How a node with the database `mainChain` sees the alternative blocks `altChain` and the
new block `bei` as the chain `chain` forked at height `s`: its database agrees with `chain` below
`s`, the alternative blocks carry the timestamps and cumulative difficulties of `chain` from `s`
on, the first of them is at height `s`, and the new block is at the height after `chain`. -/
structure AltChainSplice (mainChain : List DifficultyBlock) (altChain : List BlockExtendedInfo)
    (bei : BlockExtendedInfo) (chain : List DifficultyBlock) (s : ℕ) : Prop where
  pos : 0 < s
  le_length : s ≤ chain.length
  le_mainLength : s ≤ mainChain.length
  main_timestamps : (mainChain.take s).map (·.timestamp) = (chain.take s).map (·.timestamp)
  main_difficulties :
    (mainChain.take s).map (·.cumulativeDifficulty) = (chain.take s).map (·.cumulativeDifficulty)
  alt_timestamps : altChain.map (·.timestamp) = (chain.drop s).map (·.timestamp)
  alt_difficulties :
    altChain.map (·.cumulativeDifficulty) = (chain.drop s).map (·.cumulativeDifficulty)
  front : ∀ front ∈ altChain.head?, front.height = s
  bei_height : bei.height = chain.length

namespace AltChainSplice

variable {mainChain : List DifficultyBlock} {altChain : List BlockExtendedInfo}
  {bei : BlockExtendedInfo} {chain : List DifficultyBlock} {s : ℕ}
  (hsplice : AltChainSplice mainChain altChain bei chain s)
include hsplice

theorem length_altChain : altChain.length = chain.length - s := by
  simpa using congrArg List.length hsplice.alt_timestamps

/-- The main-chain part ends at the fork height. -/
theorem mainChainStopOffset_eq : mainChainStopOffset altChain bei = s := by
  cases hfront : altChain.head? with
  | none =>
    -- no alternative blocks: the new block is at the fork height
    have hlen := hsplice.length_altChain
    rw [List.head?_eq_none_iff.1 hfront, List.length_nil] at hlen
    have := hsplice.le_length
    simp only [mainChainStopOffset, hfront, hsplice.bei_height]
    omega
  | some front =>
    simp only [mainChainStopOffset, hfront]
    exact hsplice.front front hfront

/-- The main-chain blocks read below the fork height are those of `chain`. -/
theorem readWindow_take (start : ℕ) :
    readWindow (mainChain.take s) start = readWindow (chain.take s) start := by
  simp only [readWindow, List.map_drop, hsplice.main_timestamps, hsplice.main_difficulties]

/-- The main-chain blocks from `start` below the fork height, then the alternative blocks, are
the blocks of `chain` from `start` on. -/
theorem readWindow_append {start : ℕ} (hstart : start ≤ s) :
    ((readWindow (mainChain.take s) start).1 ++ altChain.map (·.timestamp),
      (readWindow (mainChain.take s) start).2 ++ altChain.map (·.cumulativeDifficulty)) =
      readWindow chain start := by
  have hs := hsplice.le_length
  rw [hsplice.readWindow_take, hsplice.alt_timestamps, hsplice.alt_difficulties]
  simp only [readWindow, ← List.map_append, drop_take_append_drop hstart hs]

end AltChainSplice

/-- The offset the alternative chain path reads the main chain from is the one the main chain
path reads from, when the alternative blocks are fewer than the window. -/
theorem windowOffset_stop {height count s alt : ℕ} (hs : 0 < s) (hsk : s ≤ height)
    (halt : alt = height - s) (hshort : alt < count) :
    windowOffset s (count - min count alt) = windowOffset height count := by
  dsimp only [windowOffset]
  split_ifs <;> omega

/-- The alternative blocks and the main-chain blocks read for them fit in the window. -/
theorem add_sub_windowOffset_le {height count s alt : ℕ} (hs : 0 < s) (hsk : s ≤ height)
    (halt : alt = height - s) (hshort : alt < count) :
    alt + (s - windowOffset height count) ≤ count := by
  dsimp only [windowOffset]
  split_ifs <;> omega

theorem windowOffset_le {height : ℕ} (hpos : 0 < height) (count : ℕ) :
    windowOffset height count ≤ height := by
  dsimp only [windowOffset]
  split_ifs <;> omega

/-- **The alternative chain path reads the main chain path's window.** On a node that sees
`chain` forked at `s`, `get_next_difficulty_for_alternative_chain` calls the algorithm of the
scheduled version at the new block's height with the timestamps and cumulative difficulties
the main chain path reads from the whole of `chain`. -/
theorem getNextDifficultyForAlternativeChain_eq (algs : DifficultyAlgorithms) (hf : HardFork)
    {mainChain : List DifficultyBlock} {altChain : List BlockExtendedInfo}
    {bei : BlockExtendedInfo} {chain : List DifficultyBlock} {s : ℕ}
    (hsplice : AltChainSplice mainChain altChain bei chain s) :
    getNextDifficultyForAlternativeChain algs 0 hf mainChain altChain bei =
      some (nextDifficultyFor algs hf (hf.getIdealVersionAt chain.length)
        (readWindow chain (windowOffset chain.length
          (difficultyBlocksCountFor (hf.getIdealVersionAt chain.length)))).1
        (readWindow chain (windowOffset chain.length
          (difficultyBlocksCountFor (hf.getIdealVersionAt chain.length)))).2 chain.length) := by
  have hs := hsplice.pos
  have hsk := hsplice.le_length
  have halt := hsplice.length_altChain
  dsimp only [getNextDifficultyForAlternativeChain]
  rw [if_neg (not_not.2 rfl), hsplice.bei_height, hsplice.mainChainStopOffset_eq]
  set count := difficultyBlocksCountFor (hf.getIdealVersionAt chain.length)
  by_cases hshort : altChain.length < count
  · -- the main chain supplies the blocks below the fork, from the main chain path's offset
    have hoff := windowOffset_stop hs hsk halt hshort
    have hle : windowOffset chain.length count ≤ s := hoff ▸ windowOffset_le hs _
    have hread : (readWindow (mainChain.take s) (windowOffset chain.length count)).1.length =
        s - windowOffset chain.length count := by
      simp only [readWindow, List.length_map, List.length_drop, List.length_take,
        min_eq_left hsplice.le_mainLength]
    have hmain := hsplice.le_mainLength
    rw [if_pos hshort, hoff, if_neg (by omega),
      if_pos (by rw [hread]; exact add_sub_windowOffset_le hs hsk halt hshort),
      ← hsplice.readWindow_append hle]
  · -- the alternative blocks fill the window
    have hcount : count + s ≤ chain.length := by omega
    have hoff : windowOffset chain.length count = chain.length - count :=
      windowOffset_of_lt (by omega)
    rw [if_neg hshort, hsplice.alt_timestamps, hsplice.alt_difficulties, lastN_map, lastN_map,
      lastN_drop hcount, hoff]
    rfl

/-- The difficulty call reads only the schedule of the hard-fork state. -/
theorem nextDifficultyFor_congr (algs : DifficultyAlgorithms) {hf hf' : HardFork}
    (hh : hf'.heights = hf.heights) (version : UInt8) (timestamps difficulties : List ℕ)
    (height : ℕ) :
    nextDifficultyFor algs hf' version timestamps difficulties height =
      nextDifficultyFor algs hf version timestamps difficulties height := by
  simp only [nextDifficultyFor, getLastDiffResetHeight_congr hh, getLastDiffResetValue_congr hh]

/-- **Both paths agree when every fork activates at its height.** Take a schedule `add_fork`
accepted whose thresholds are all 0 and whose first fork carries the original version, a node
in any state a run reaches with the chain `chain` and the hard-fork state forward sync builds
over it, and a node of the same schedule that sees `chain` as forked at height `s ≥ 1` from its
own database. For the block after `chain`, `get_next_difficulty_for_alternative_chain` on the
second node answers what `get_difficulty_for_next_block` answers on the first, when the first
node's top block id is not `null_hash` and topped no other chain it queried. -/
theorem next_difficulty_alternative_matches_main (algs : DifficultyAlgorithms)
    (fixedDifficulty : ℕ) (hf : HardFork) (hcfg : hf.Configured)
    (hthr : ∀ p ∈ hf.heights, p.threshold = 0)
    (horig : ∀ p ∈ hf.heights.head?, p.version = hf.originalVersion)
    (chain : List DifficultyBlock) (cache : DifficultyCache)
    (queried : List (List DifficultyBlock))
    (hreach : DifficultyReachable algs fixedDifficulty hf chain cache queried)
    (hfresh : ∀ c ∈ queried, getTailId c = getTailId chain → c = chain)
    (htail : getTailId chain ≠ nullHash) (hf' : HardFork) (db : BlockchainDb)
    (hsync : syncBlocks (hf.init BlockchainDb.empty, BlockchainDb.empty)
      (chain.map (·.versions)) = some (hf', db))
    (hfAlt : HardFork) (hheights : hfAlt.heights = (hf.init BlockchainDb.empty).heights)
    (horigAlt : hfAlt.originalVersion = hf.originalVersion) (mainChain : List DifficultyBlock)
    (altChain : List BlockExtendedInfo) (bei : BlockExtendedInfo) (s : ℕ)
    (hsplice : AltChainSplice mainChain altChain bei chain s) :
    getNextDifficultyForAlternativeChain algs fixedDifficulty hfAlt mainChain altChain bei =
      some (getDifficultyForNextBlock algs fixedDifficulty hf' chain cache).1 := by
  have hpos : 0 < chain.length := lt_of_lt_of_le hsplice.pos hsplice.le_length
  by_cases hfixed : fixedDifficulty ≠ 0
  · -- both nodes answer the fixed difficulty on a nonempty database
    have hmain : mainChain.length ≠ 0 := by
      have := hsplice.le_mainLength
      have := hsplice.pos
      omega
    simp [getNextDifficultyForAlternativeChain, getDifficultyForNextBlock, hfixed, hmain, hpos.ne']
  obtain rfl := not_not.1 hfixed
  obtain ⟨hws, hlen, hne⟩ := hcfg.init_empty_bounds
  have hrun := hsync
  rw [← windowState_init] at hrun
  have hlength : 0 < (chain.map (·.versions)).length := by simpa using hpos
  have hthr0 := threshold_init_empty hthr
  have horig0 : ((hf.init BlockchainDb.empty).heights.getD 0 default).version =
      (hf.init BlockchainDb.empty).originalVersion := by
    rw [firstVersion_init_empty horig, originalVersion_init_empty]
  obtain ⟨hheights', -, -⟩ := syncBlocks_newest_fork hws hlen hne hthr0 hrun hlength
  -- the version voting reached over the chain is the one the schedule gives its length
  have hversion : hfAlt.getIdealVersionAt chain.length = hf'.getCurrentVersion := by
    rw [getCurrentVersion_syncBlocks_of_zero_thresholds hws hlen hne hthr0 horig0 hrun hlength,
      List.length_map,
      getIdealVersionAt_congr hheights (by rw [horigAlt, originalVersion_init_empty])]
  rw [getNextDifficultyForAlternativeChain_eq algs hfAlt hsplice,
    getDifficultyForNextBlock_eq_fullDifficulty hreach hfresh htail hsync, hversion,
    nextDifficultyFor_congr algs (hheights.trans hheights'.symm)]
  rfl

/-- Two blocks on a schedule whose second fork activates at height 1 with threshold 0, on the
node that holds them and on a node whose own second block differs. -/
theorem next_difficulty_alternative_matches_main_at_fork :
    let hf : HardFork :=
      { windowSize := 1, defaultThresholdPercent := 0, originalVersion := 1,
        heights := [⟨1, 0, 0, 0, 0⟩, ⟨2, 0, 1, 1, 0⟩], versions := [],
        lastVersions := fun _ => 0, currentForkIndex := 0 }
    let algs : DifficultyAlgorithms := ⟨fun _ _ _ _ _ _ => 1, fun _ _ _ _ _ _ => 2⟩
    let chain : List DifficultyBlock :=
      [⟨Blob.ofList 32 [1], 0, 1, ⟨1, 1⟩⟩, ⟨Blob.ofList 32 [2], 120, 2, ⟨2, 2⟩⟩]
    let mainChain : List DifficultyBlock :=
      [⟨Blob.ofList 32 [1], 0, 1, ⟨1, 1⟩⟩, ⟨Blob.ofList 32 [3], 100, 3, ⟨2, 2⟩⟩]
    let altChain : List BlockExtendedInfo := [⟨1, 120, 2⟩]
    let bei : BlockExtendedInfo := ⟨2, 240, 3⟩
    hf.Configured ∧ AltChainSplice mainChain altChain bei chain 1 ∧ ∃ hf' db,
      syncBlocks (hf.init BlockchainDb.empty, BlockchainDb.empty) (chain.map (·.versions)) =
          some (hf', db) ∧
        getNextDifficultyForAlternativeChain algs 0 (hf.init BlockchainDb.empty) mainChain altChain
          bei = some (getDifficultyForNextBlock algs 0 hf' chain DifficultyCache.init).1 := by
  intro hf algs chain mainChain altChain bei
  have hcfg : hf.Configured := @Configured.addFork _ _ 2 1 0 1 0
    (@Configured.addFork _ _ 1 0 0 0 0 (@Configured.create 1 1 0 _ rfl) rfl) rfl
  have hsplice : AltChainSplice mainChain altChain bei chain 1 :=
    ⟨by decide, by decide, by decide, by decide, by decide, by decide, by decide,
      by simp [altChain], by decide⟩
  obtain ⟨⟨hf', db⟩, hsync⟩ := Option.isSome_iff_exists.mp
    (show (syncBlocks (hf.init BlockchainDb.empty, BlockchainDb.empty)
      (chain.map (·.versions))).isSome = true by decide)
  exact ⟨hcfg, hsplice, hf', db, hsync,
    next_difficulty_alternative_matches_main algs 0 hf hcfg (by decide) (by simp [hf]) chain _ []
      (.init chain) (by simp) (by decide) hf' db hsync (hf.init BlockchainDb.empty) rfl (by simp)
      mainChain altChain bei 1 hsplice⟩

end Bittube.CryptonoteCore

import Mathlib.Algebra.Order.Ring.Int
import Mathlib.Logic.Function.Basic

/-!
# `epee::misc_utils::rolling_median_t` (`rolling_median.h`)

The median of the last `N` values inserted, kept at `O(log N)` per insert. The values sit in a
circular queue `data`; over it `heap` holds a max-heap of the lower half at the negative
positions and a min-heap of the upper half at the positive positions, which share their root,
the median, at position 0. On the min side the children of `i` are `2i` and `2i + 1`, on the max
side `2i` and `2i - 1`, and on both sides the parent is `i / 2` truncated toward zero, so that
position 0 is the parent of 1 and of -1. `pos` maps each slot of the queue to its position.

The storage is `malloc`ed: the model keeps each array as a function of its index, and the
slots of `data` start as `default`, since no slot is read before it is written. The loops of the
two sides are one code mirrored (`minSortDown` and `maxSortDown`, `minSortUp` and `maxSortUp`),
so they are one definition over a `Side` here, the max side's node `j` at position `-j`, with
the comparisons the other way round. Each loop runs on an explicit fuel of `N` rounds: a sift
moves at least one level per round, and a side holds fewer than `N` nodes.

`median` is the one for `rolling_median_t<uint64_t>`, the only instance the daemon uses: the
mean of the two middle values is taken in `uint64_t`, so their sum wraps at `2 ^ 64`.

The constructor `malloc`s `int size = N * (sizeof(Item) + sizeof(int) * 2)` bytes, a `size_t`
product narrowed to `int`. From `2 ^ 27` items it no longer holds the sixteen bytes a slot takes:
`malloc` is asked for another number of bytes than the arrays span, and the writes of `clear()`
land outside what it returned. The model's arrays have no end; `allocBytes` records what the
constructor asks for, and the theorems about a run are stated below that capacity.
-/

namespace Bittube.Epee.MiscUtils

/-- One heap of a `rolling_median_t`: the min-heap of the upper half at the positive positions,
the max-heap of the lower half at the negative ones. -/
inductive Side
  | min
  | max
  deriving DecidableEq, Repr

/-- The position of a side's node `j`: `j` on the min side, `-j` on the max side. -/
def Side.emb : Side → ℕ → ℤ
  | .min, j => j
  | .max, j => -j

/-- `rolling_median_t<Item>`. The counters are `int`s that never go negative. -/
structure RollingMedian (α : Type) where
  /-- circular queue of values -/
  data : ℕ → α
  /-- index into `heap` for each value -/
  pos : ℕ → ℤ
  /-- max/median/min heap holding indexes into `data` -/
  heap : ℤ → ℕ
  /-- allocated size -/
  N : ℕ
  /-- position in circular queue -/
  idx : ℕ
  /-- count of items in min heap -/
  minCt : ℕ
  /-- count of items in max heap -/
  maxCt : ℕ
  /-- count of items in heap -/
  sz : ℕ

/-- The position `clear` gives slot `k`: the fill pattern median, max, min, max, … -/
def fillPos (k : ℕ) : ℤ := ((k + 1) / 2 : ℕ) * (if k % 2 = 1 then -1 else 1)

/-- The slot `clear` puts at position `p`, the inverse of `fillPos`. -/
def fillHeap (p : ℤ) : ℕ :=
  if 0 < p then (2 * p).toNat else if p < 0 then (-2 * p - 1).toNat else 0

namespace RollingMedian

variable {α : Type} [LinearOrder α]

/-- `mmless(i, j)`: the value at position `i` is below the value at position `j`. -/
def mmless (s : RollingMedian α) (i j : ℤ) : Bool := decide (s.data (s.heap i) < s.data (s.heap j))

/-- `mmexchange(i, j)`: swap the slots at positions `i` and `j` and record their new
positions. -/
def mmexchange (s : RollingMedian α) (i j : ℤ) : RollingMedian α :=
  let t := s.heap i
  let heap := Function.update (Function.update s.heap i (s.heap j)) j t
  { s with heap := heap, pos := Function.update (Function.update s.pos (heap i) i) (heap j) j }

/-- `mmCmpExch(i, j)`: swap positions `i` and `j` if the value at `i` is below the one at `j`;
whether it swapped. -/
def mmCmpExch (s : RollingMedian α) (i j : ℤ) : Bool × RollingMedian α :=
  if s.mmless i j then (true, s.mmexchange i j) else (false, s)

/-- The number of nodes of a side below the root: `minCt` or `maxCt`. -/
def cnt (s : RollingMedian α) : Side → ℕ
  | .min => s.minCt
  | .max => s.maxCt

/-- The node `a` of side `S` belongs nearer the root than the node `b`: a smaller value on the
min side, a larger one on the max side. -/
def out (s : RollingMedian α) : Side → ℕ → ℕ → Bool
  | .min, a, b => s.mmless (Side.emb .min a) (Side.emb .min b)
  | .max, a, b => s.mmless (Side.emb .max b) (Side.emb .max a)

/-- `mmCmpExch` between a node and its parent as each side calls it: `mmCmpExch(i, i / 2)` on
the min side, `mmCmpExch(i / 2, i)` on the max side. -/
def cmpExch (s : RollingMedian α) : Side → ℕ → ℕ → Bool × RollingMedian α
  | .min, child, parent => s.mmCmpExch (Side.emb .min child) (Side.emb .min parent)
  | .max, child, parent => s.mmCmpExch (Side.emb .max parent) (Side.emb .max child)

/-- The loop of `minSortDown(i)` and `maxSortDown(i)` from node `i`: go to the child nearer the
root, and swap with it while it belongs above its parent. -/
def sortDownLoop (S : Side) : ℕ → RollingMedian α → ℕ → RollingMedian α
  | 0, s, _ => s
  | fuel + 1, s, i =>
    if 2 * i ≤ s.cnt S then
      let c := if 2 * i < s.cnt S ∧ s.out S (2 * i + 1) (2 * i) = true then 2 * i + 1 else 2 * i
      match s.cmpExch S c (c / 2) with
      | (true, s) => sortDownLoop S fuel s c
      | (false, s) => s
    else s

/-- The loop of `minSortUp(i)` and `maxSortUp(i)` from node `i`: swap with the parent while the
node belongs above it; whether the node reached the root. -/
def sortUpLoop (S : Side) : ℕ → RollingMedian α → ℕ → Bool × RollingMedian α
  | 0, s, i => (i == 0, s)
  | fuel + 1, s, i =>
    if 0 < i then
      match s.cmpExch S i (i / 2) with
      | (true, s) => sortUpLoop S fuel s (i / 2)
      | (false, s) => (false, s)
    else (true, s)

/-- `minSortDown(i)`: maintains the min-heap property for all items below `i`. -/
def minSortDown (s : RollingMedian α) (i : ℤ) : RollingMedian α := s.sortDownLoop .min s.N i.toNat

/-- `maxSortDown(i)`: maintains the max-heap property for all items below `i`. -/
def maxSortDown (s : RollingMedian α) (i : ℤ) : RollingMedian α :=
  s.sortDownLoop .max s.N (-i).toNat

/-- `minSortUp(i)`: maintains the min-heap property for all items above `i`, including the
median; whether the median changed. -/
def minSortUp (s : RollingMedian α) (i : ℤ) : Bool × RollingMedian α :=
  s.sortUpLoop .min s.N i.toNat

/-- `maxSortUp(i)`: maintains the max-heap property for all items above `i`, including the
median; whether the median changed. -/
def maxSortUp (s : RollingMedian α) (i : ℤ) : Bool × RollingMedian α :=
  s.sortUpLoop .max s.N (-i).toNat

/-- `clear()`: no items, and the slots at the fill pattern's positions. The loop writes `pos`
for the `N` slots and `heap` at their positions only. -/
def clear (s : RollingMedian α) : RollingMedian α :=
  { s with
    idx := 0
    minCt := 0
    maxCt := 0
    sz := 0
    pos := fun k => if k < s.N then fillPos k else s.pos k
    heap := fun p => if -((s.N / 2 : ℕ) : ℤ) ≤ p ∧ p ≤ ((s.N - 1) / 2 : ℕ) then fillHeap p
      else s.heap p }

/-- `rolling_median_t(N)`: fresh storage for `N` items, then `clear()`. -/
def create [Inhabited α] (N : ℕ) : RollingMedian α :=
  clear ⟨fun _ => default, fun _ => 0, fun _ => 0, N, 0, 0, 0, 0⟩

/-- `sizeof(Item) + sizeof(int) * 2` for `rolling_median_t<uint64_t>`: the bytes of a slot of
`data`, of its entry in `pos` and of its entry in `heap`. -/
def slotBytes : ℕ := 8 + 4 * 2

/-- `int size = N * (sizeof(Item) + sizeof(int) * 2)` in the constructor: the `size_t` product
narrowed to `int`. -/
def allocSize (N : ℕ) : ℤ := Int.bmod ((N * slotBytes % 2 ^ 64 : ℕ) : ℤ) (2 ^ 32)

/-- The bytes `malloc(size)` is asked for: the `int` taken back as a `size_t`. -/
def allocBytes (N : ℕ) : ℕ := (allocSize N % 2 ^ 64).toNat

/-- Below `2 ^ 27` items the constructor asks for the bytes its three arrays take. -/
theorem allocBytes_of_lt {N : ℕ} (h : N < 2 ^ 27) : allocBytes N = N * slotBytes := by
  have hlt : N * slotBytes < 2 ^ 31 := by
    unfold slotBytes
    omega
  have h64 : N * slotBytes < 2 ^ 64 := lt_trans hlt (Nat.pow_lt_pow_right (by decide) (by decide))
  -- the product fits the `size_t`, then the `int`, so neither narrowing changes it
  have hsize : allocSize N = (N * slotBytes : ℕ) := by
    unfold allocSize
    rw [Nat.mod_eq_of_lt h64]
    exact Int.bmod_eq_of_le (by omega) (by omega)
  unfold allocBytes
  rw [hsize, Int.emod_eq_of_lt (by omega) (by omega)]
  exact Int.toNat_natCast _

/-- `size()`. -/
def size (s : RollingMedian α) : ℕ := s.sz

/-- The end of an insert into the min-heap: `if (minSortUp(p) && mmCmpExch(0, -1))
maxSortDown(-1);`. -/
def minInsertUp (s : RollingMedian α) (p : ℤ) : RollingMedian α :=
  match s.minSortUp p with
  | (true, s) =>
    match s.mmCmpExch 0 (-1) with
    | (true, s) => s.maxSortDown (-1)
    | (false, s) => s
  | (false, s) => s

/-- The end of an insert into the max-heap: `if (maxSortUp(p) && minCt && mmCmpExch(1, 0))
minSortDown(1);`. Unlike the min side, it checks that the other heap is not empty. -/
def maxInsertUp (s : RollingMedian α) (p : ℤ) : RollingMedian α :=
  match s.maxSortUp p with
  | (true, s) =>
    if s.minCt ≠ 0 then
      match s.mmCmpExch 1 0 with
      | (true, s) => s.minSortDown 1
      | (false, s) => s
    else s
  | (false, s) => s

/-- An insert at the median: `if (maxCt && maxSortUp(-1)) maxSortDown(-1); if (minCt &&
minSortUp(1)) minSortDown(1);`. -/
def medianInsertUp (s : RollingMedian α) : RollingMedian α :=
  let s :=
    if s.maxCt ≠ 0 then
      match s.maxSortUp (-1) with
      | (true, s) => s.maxSortDown (-1)
      | (false, s) => s
    else s
  if s.minCt ≠ 0 then
    match s.minSortUp 1 with
    | (true, s) => s.minSortDown 1
    | (false, s) => s
  else s

/-- `insert(v)`: overwrite the oldest slot with `v` and move it to its place in the heaps. -/
def insert (s : RollingMedian α) (v : α) : RollingMedian α :=
  let p := s.pos s.idx
  let old := s.data s.idx
  let s := { s with
    data := Function.update s.data s.idx v
    idx := (s.idx + 1) % s.N
    sz := min (s.sz + 1) s.N }
  if 0 < p then
    -- new item is in the min-heap
    if s.minCt < (s.N - 1) / 2 then { s with minCt := s.minCt + 1 }.minInsertUp p
    else if old < v then s.minSortDown p
    else s.minInsertUp p
  else if p < 0 then
    -- new item is in the max-heap
    if s.maxCt < s.N / 2 then { s with maxCt := s.maxCt + 1 }.maxInsertUp p
    else if v < old then s.maxSortDown p
    else s.maxInsertUp p
  else s.medianInsertUp

/-- `median()` of a `rolling_median_t<uint64_t>`: the median item, or the mean of the two middle
items when the count is even, their sum taken in `uint64_t`. -/
def median (s : RollingMedian ℕ) : ℕ :=
  let v := s.data (s.heap 0)
  if s.minCt < s.maxCt then (v + s.data (s.heap (-1))) % 2 ^ 64 / 2 else v

end RollingMedian

end Bittube.Epee.MiscUtils

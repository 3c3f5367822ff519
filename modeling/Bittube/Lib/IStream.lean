import Mathlib.Data.List.Basic

/-!
# Input streams over a byte buffer

A model of `std::istream` reading an in-memory buffer (`std::istringstream`), as far as
byte-level deserializers observe it. A stream is its unread bytes and the two state flags
`eofbit` and `failbit` (`badbit` is never set by a string buffer); it is `good` when neither is
set. `get` and `read` construct a sentry: on a stream that is not good they set `failbit` and
read nothing; reading past the end sets both flags, and `read` then keeps the bytes it got. The
idiom `state = rdstate(); eof = EOF == peek(); clear(state)` asks whether the next read would
hit the end and leaves the flags as they were (`peekEof`). Reads through the stream buffer
(`std::istreambuf_iterator`) bypass the sentry and the flags entirely: they are plain
operations on the unread bytes.

The flags are sticky: no operation here clears `failbit`, so a reader that ever fails leaves
a stream that is not good.
-/

namespace ByteStream

/-- An input stream over a byte buffer: the unread bytes and the state flags. -/
structure Istream where
  rest : List UInt8
  eof : Bool
  fail : Bool
  deriving DecidableEq, Repr

namespace Istream

/-- `std::istringstream(bytes)`: a good stream at the start of the buffer. -/
def ofBytes (bytes : List UInt8) : Istream := ⟨bytes, false, false⟩

/-- `good()`: neither `eofbit` nor `failbit` is set. -/
def good (s : Istream) : Bool := !s.eof && !s.fail

/-- `setstate(failbit)`. -/
def setFail (s : Istream) : Istream := { s with fail := true }

/-- `get(c)`: one byte, or `none` when the sentry fails or the buffer is exhausted. -/
def get (s : Istream) : Option UInt8 × Istream :=
  if s.good then
    match s.rest with
    | [] => (none, { s with eof := true, fail := true })
    | c :: rest => (some c, { s with rest := rest })
  else (none, s.setFail)

/-- `read(buf, n)`: up to `n` bytes; a short read sets `eofbit` and `failbit`. -/
def read (n : ℕ) (s : Istream) : List UInt8 × Istream :=
  if s.good then
    if n ≤ s.rest.length then (s.rest.take n, { s with rest := s.rest.drop n })
    else (s.rest, { s with rest := [], eof := true, fail := true })
  else ([], s.setFail)

/-- `state = rdstate(); eof = EOF == peek(); clear(state)`: `peek` answers `EOF` when its
sentry fails or the buffer is exhausted, and the flags it may set are restored. -/
def peekEof (s : Istream) : Bool := !s.good || s.rest.isEmpty

/-! ### The state flags -/

@[simp] theorem good_ofBytes (bytes : List UInt8) : (ofBytes bytes).good = true := rfl

@[simp] theorem rest_ofBytes (bytes : List UInt8) : (ofBytes bytes).rest = bytes := rfl

@[simp] theorem good_setFail (s : Istream) : s.setFail.good = false := by
  simp [good, setFail]

@[simp] theorem good_with_rest (s : Istream) (rest : List UInt8) :
    ({ s with rest := rest } : Istream).good = s.good := rfl

@[simp] theorem good_with_fail (s : Istream) : ({ s with fail := true } : Istream).good = false := by
  simp [good]

theorem good_eq_true_iff (s : Istream) : s.good = true ↔ s.eof = false ∧ s.fail = false := by
  simp [good]

/-- A good stream is the stream over its unread bytes. -/
theorem eq_ofBytes_of_good {s : Istream} (hs : s.good = true) : s = ofBytes s.rest := by
  obtain ⟨rest, eof, fail⟩ := s
  obtain ⟨heof, hfail⟩ := (good_eq_true_iff _).mp hs
  simp only at heof hfail
  subst heof hfail
  rfl

@[simp] theorem ofBytes_with_rest (bytes rest : List UInt8) :
    ({ ofBytes bytes with rest := rest } : Istream) = ofBytes rest := rfl

/-! ### Reads from a good stream -/

theorem get_cons {s : Istream} {c : UInt8} {rest : List UInt8} (hs : s.good = true)
    (hrest : s.rest = c :: rest) : s.get = (some c, { s with rest := rest }) := by
  simp [get, hs, hrest]

theorem get_nil {s : Istream} (hs : s.good = true) (hrest : s.rest = []) :
    s.get = (none, { s with eof := true, fail := true }) := by
  simp [get, hs, hrest]

/-- Reading exactly the bytes in front leaves the stream good, at the bytes behind them. -/
theorem read_append {s : Istream} {front back : List UInt8} (hs : s.good = true)
    (hrest : s.rest = front ++ back) :
    s.read front.length = (front, { s with rest := back }) := by
  simp [read, hs, hrest]

theorem read_of_lt {s : Istream} {n : ℕ} (hs : s.good = true) (hn : s.rest.length < n) :
    s.read n = (s.rest, { s with rest := [], eof := true, fail := true }) := by
  simp [read, hs, Nat.not_le.mpr hn]

/-- Failure is sticky: a stream that is good after a `get` was good before it. -/
theorem good_of_good_get {s : Istream} (h : s.get.2.good = true) : s.good = true := by
  unfold get at h
  split at h
  · assumption
  · simp at h

theorem good_of_good_read {s : Istream} {n : ℕ} (h : (s.read n).2.good = true) :
    s.good = true := by
  unfold read at h
  split at h
  · assumption
  · simp at h

/-- A `get` that leaves the stream good has read one byte. -/
theorem get_of_good {s : Istream} (h : s.get.2.good = true) :
    ∃ c rest, s.rest = c :: rest ∧ s.get = (some c, { s with rest := rest }) := by
  have hs := good_of_good_get h
  cases hrest : s.rest with
  | nil => simp [get_nil hs hrest, good] at h
  | cons c rest => exact ⟨c, rest, rfl, get_cons hs hrest⟩

/-- A read returns at most the bytes asked for. -/
theorem length_read_le (s : Istream) (n : ℕ) : (s.read n).1.length ≤ n := by
  unfold read
  split_ifs with hgood hlen
  · exact List.length_take_le _ _
  · exact Nat.le_of_lt (Nat.lt_of_not_le hlen)
  · exact Nat.zero_le n

/-- A `read n` that leaves the stream good has read exactly `n` bytes. -/
theorem read_of_good {s : Istream} {n : ℕ} (h : (s.read n).2.good = true) :
    n ≤ s.rest.length ∧ s.read n = (s.rest.take n, { s with rest := s.rest.drop n }) := by
  have hs := good_of_good_read h
  by_cases hn : n ≤ s.rest.length
  · exact ⟨hn, by simp [read, hs, hn]⟩
  · rw [read_of_lt hs (by omega)] at h
    simp [good] at h

@[simp] theorem peekEof_eq_false_iff (s : Istream) :
    s.peekEof = false ↔ s.good = true ∧ s.rest ≠ [] := by
  simp [peekEof]

theorem peekEof_of_good {s : Istream} (hs : s.good = true) : s.peekEof = s.rest.isEmpty := by
  simp [peekEof, hs]

end Istream

end ByteStream

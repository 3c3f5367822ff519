import Bittube.Lib.FixedRadix

/-!
# Readers that walk a byte buffer and throw

A deserializer that keeps a pointer into an in-memory buffer, checks what it reads, and throws
at the first check that fails is a state monad over the unread bytes with exceptions:
`ByteReader α`. Its primitives look at the unread bytes (`remaining`, `peek`) or consume a
prefix of them (`take`); `loop step n acc` is `while (n--) acc = step(acc);`.

`Reads r enc v` says that `r`, run on a buffer whose unread part begins with `enc`, returns `v`
and leaves exactly what followed `enc`, whatever that is. Such facts compose, two encodings one
after the other. A check on the length of the unread part passes when it asks for no more than
what is still to be read.

On the writing side, `List.flatMapM w xs` applies a writer that may throw to each element, and a
loop reads back what it wrote.

`leBytes k n` and `leValue` are the `k`-byte little-endian word of a number and the number a
word stands for; `leValue` reads back the number below `256 ^ k` that `leBytes` wrote.
-/

/-- A reader of an in-memory buffer: the unread bytes as state, and a thrown message. -/
abbrev ByteReader (α : Type) := StateT (List UInt8) (Except String) α

namespace ByteReader

variable {α β σ ε : Type}

/-- The number of unread bytes. -/
def remaining : ByteReader ℕ := fun buf => .ok (buf.length, buf)

/-- The next byte, if there is one, without consuming it. -/
def peek : ByteReader (Option UInt8) := fun buf => .ok (buf.head?, buf)

/-- Consume the next `n` bytes (fewer if the buffer ends: callers check `remaining` first). -/
def take (n : ℕ) : ByteReader (List UInt8) := fun buf => .ok (buf.take n, buf.drop n)

/-- `while (n--) acc = step(acc);` -/
def loop (step : σ → ByteReader σ) : ℕ → σ → ByteReader σ
  | 0, acc => pure acc
  | n + 1, acc => step acc >>= loop step n

theorem loop_succ (step : σ → ByteReader σ) (n : ℕ) (acc : σ) :
    loop step (n + 1) acc = step acc >>= loop step n := rfl

/-! ### Reading an encoding off the front of the buffer -/

/-- `r` reads `v` off a buffer that begins with `enc`, and leaves what follows `enc`. -/
def Reads (r : ByteReader α) (enc : List UInt8) (v : α) : Prop :=
  ∀ rest, r.run (enc ++ rest) = .ok (v, rest)

theorem Reads.pure (v : α) : Reads (Pure.pure v) [] v := fun _ => rfl

theorem Reads.bind {r : ByteReader α} {f : α → ByteReader β} {e e' : List UInt8} {v : α}
    {w : β} (hr : Reads r e v) (hf : Reads (f v) e' w) : Reads (r >>= f) (e ++ e') w := by
  intro rest
  rw [StateT.run_bind, List.append_assoc, hr (e' ++ rest)]
  exact hf rest

/-- A read followed by a computation on what it read. -/
theorem Reads.bind_pure {r : ByteReader α} {e : List UInt8} {v : α} (hr : Reads r e v)
    (f : α → β) : Reads (r >>= fun a => Pure.pure (f a)) e (f v) := by
  intro rest
  rw [StateT.run_bind, hr rest]
  rfl

theorem Reads.map {r : ByteReader α} {e : List UInt8} {v : α} (hr : Reads r e v) (f : α → β) :
    Reads (f <$> r) e (f v) := by
  rw [map_eq_pure_bind]
  exact hr.bind_pure f

/-- The same read of the same bytes, spelled differently. -/
theorem Reads.congr {r : ByteReader α} {e e' : List UInt8} {v : α} (hr : Reads r e v)
    (he : e = e') : Reads r e' v := he ▸ hr

/-- A check on the number of unread bytes sees at least the bytes still to be read. -/
theorem Reads.remaining_bind {f : ℕ → ByteReader α} {e : List UInt8} {v : α}
    (h : ∀ m, e.length ≤ m → Reads (f m) e v) : Reads (remaining >>= f) e v := by
  intro rest
  rw [StateT.run_bind]
  exact h (e ++ rest).length (by simp) rest

/-- Looking at the next byte of an encoding. -/
theorem Reads.peek_bind {f : Option UInt8 → ByteReader α} {b : UInt8} {e : List UInt8} {v : α}
    (h : Reads (f (some b)) (b :: e) v) : Reads (peek >>= f) (b :: e) v := by
  intro rest
  rw [StateT.run_bind]
  exact h rest

theorem Reads.take (bs : List UInt8) : Reads (take bs.length) bs bs := by
  intro rest
  simp [ByteReader.take, StateT.run]

/-! ### What a successful read returns -/

/-- Every run of `r` that succeeds, on any buffer, returns a value with `P`. -/
def Returns (r : ByteReader α) (P : α → Prop) : Prop :=
  ∀ buf v rest, r.run buf = .ok (v, rest) → P v

theorem Returns.pure {P : α → Prop} {v : α} (h : P v) : Returns (Pure.pure v) P := by
  intro buf w rest hrun
  cases hrun
  exact h

theorem Returns.throw {P : α → Prop} (e : String) : Returns (MonadExcept.throw e) P := by
  intro buf w rest hrun
  cases hrun

theorem Returns.of_forall {r : ByteReader α} {P : α → Prop} (h : ∀ v, P v) : Returns r P :=
  fun _ v _ _ => h v

theorem Returns.mono {r : ByteReader α} {P Q : α → Prop} (h : Returns r P)
    (hPQ : ∀ v, P v → Q v) : Returns r Q :=
  fun buf v rest hrun => hPQ v (h buf v rest hrun)

theorem Returns.bind {r : ByteReader α} {f : α → ByteReader β} {Q : α → Prop} {P : β → Prop}
    (hr : Returns r Q) (hf : ∀ a, Q a → Returns (f a) P) : Returns (r >>= f) P := by
  intro buf v rest hrun
  rw [StateT.run_bind] at hrun
  cases hr' : r.run buf with
  | error e =>
    rw [hr'] at hrun
    cases hrun
  | ok p =>
    rw [hr'] at hrun
    exact hf p.1 (hr buf p.1 p.2 hr') p.2 v rest hrun

theorem Returns.map {r : ByteReader α} {P : α → Prop} {Q : β → Prop} (h : Returns r P)
    (f : α → β) (hf : ∀ a, P a → Q (f a)) : Returns (f <$> r) Q := by
  rw [map_eq_pure_bind]
  exact h.bind fun a ha => Returns.pure (hf a ha)

/-- A loop keeps every invariant its step keeps. -/
theorem Returns.loop {step : σ → ByteReader σ} {I : σ → Prop}
    (hstep : ∀ acc, I acc → Returns (step acc) I) : ∀ n acc, I acc → Returns (loop step n acc) I
  | 0, _, h => Returns.pure h
  | n + 1, acc, h => (hstep acc h).bind fun acc' h' => Returns.loop hstep n acc' h'

/-- `take n` returns at most `n` bytes. -/
theorem Returns.take (n : ℕ) : Returns (take n) fun bs => bs.length ≤ n := by
  intro buf v rest hrun
  cases hrun
  exact List.length_take_le n buf

/-! ### Writing a list element by element -/

/-- A writer that may throw, followed by another, succeeded when both did. -/
theorem except_bind_eq_ok {x : Except ε α} {f : α → Except ε β} {b : β} :
    x >>= f = .ok b ↔ ∃ a, x = .ok a ∧ f a = .ok b := by
  cases x with
  | error e =>
    constructor
    · intro h
      cases h
    · rintro ⟨a, ha, -⟩
      cases ha
  | ok a =>
    constructor
    · intro h
      exact ⟨a, rfl, h⟩
    · rintro ⟨a', ha, hf⟩
      cases ha
      exact hf

/-- A writer applied to each element of a list, which may throw, writes the list when it writes
the first element and the rest. -/
theorem flatMapM_cons_eq_ok {w : β → Except ε (List UInt8)} {x : β} {xs : List β}
    {b : List UInt8} :
    (x :: xs).flatMapM w = .ok b ↔ ∃ c cs, w x = .ok c ∧ xs.flatMapM w = .ok cs ∧ b = c ++ cs := by
  rw [List.flatMapM_cons]
  cases hw : w x with
  | error e =>
    constructor
    · intro h
      cases h
    · rintro ⟨c, cs, hc, -, -⟩
      cases hc
  | ok c =>
    cases hws : xs.flatMapM w with
    | error e =>
      constructor
      · intro h
        cases h
      · rintro ⟨c', cs, -, hcs, -⟩
        cases hcs
    | ok cs =>
      constructor
      · intro h
        exact ⟨c, cs, rfl, rfl, (Except.ok.inj h).symm⟩
      · rintro ⟨c', cs', hc, hcs, rfl⟩
        cases hc
        cases hcs
        rfl

/-- A writer that cannot throw, applied to each element. -/
theorem flatMapM_ok (f : β → List UInt8) : ∀ xs : List β,
    xs.flatMapM (fun x => (.ok (f x) : Except ε (List UInt8))) = .ok (xs.flatMap f)
  | [] => rfl
  | x :: xs => flatMapM_cons_eq_ok.mpr ⟨f x, _, rfl, flatMapM_ok f xs, rfl⟩

/-- A writer that writes every element writes the list. -/
theorem exists_flatMapM_eq_ok {w : β → Except ε (List UInt8)} :
    ∀ xs : List β, (∀ x ∈ xs, ∃ c, w x = .ok c) → ∃ b, xs.flatMapM w = .ok b
  | [], _ => ⟨[], rfl⟩
  | x :: xs, h => by
    obtain ⟨c, hc⟩ := h x List.mem_cons_self
    obtain ⟨cs, hcs⟩ := exists_flatMapM_eq_ok xs fun y hy => h y (List.mem_cons_of_mem x hy)
    exact ⟨c ++ cs, flatMapM_cons_eq_ok.mpr ⟨c, cs, hc, hcs, rfl⟩⟩

/-- A writer that writes the list wrote each element. -/
theorem exists_of_flatMapM_eq_ok {w : β → Except ε (List UInt8)} :
    ∀ {xs : List β} {b : List UInt8}, xs.flatMapM w = .ok b → ∀ x ∈ xs, ∃ c, w x = .ok c
  | [], _, _, _, hx => absurd hx List.not_mem_nil
  | y :: ys, _, h, x, hx => by
    obtain ⟨c, cs, hc, hcs, -⟩ := flatMapM_cons_eq_ok.mp h
    rcases List.mem_cons.mp hx with rfl | hx
    · exact ⟨c, hc⟩
    · exact exists_of_flatMapM_eq_ok hcs x hx

/-- A writer that writes at least one byte for each element writes at least as many bytes as
there are elements. -/
theorem length_le_of_flatMapM {w : β → Except ε (List UInt8)} :
    ∀ {xs : List β} {b : List UInt8}, xs.flatMapM w = .ok b →
      (∀ x ∈ xs, ∀ c, w x = .ok c → c ≠ []) → xs.length ≤ b.length
  | [], _, _, _ => Nat.zero_le _
  | x :: xs, b, h, hne => by
    obtain ⟨c, cs, hc, hcs, rfl⟩ := flatMapM_cons_eq_ok.mp h
    have hc1 : 1 ≤ c.length := List.length_pos_iff.mpr (hne x List.mem_cons_self c hc)
    have ih := length_le_of_flatMapM hcs fun y hy => hne y (List.mem_cons_of_mem x hy)
    rw [List.length_cons, List.length_append]
    omega

/-- What a writer wrote for a list, element by element, is read back by a loop whose `step`
reads back what the writer wrote for one element, whatever has been accumulated so far. -/
theorem Reads.loop_of_flatMapM {w : β → Except ε (List UInt8)} {step : σ → ByteReader σ}
    {upd : σ → β → σ} :
    ∀ {xs : List β} {b : List UInt8}, xs.flatMapM w = .ok b →
      (∀ x ∈ xs, ∀ c, w x = .ok c → ∀ acc, Reads (step acc) c (upd acc x)) →
      ∀ acc, Reads (ByteReader.loop step xs.length acc) b (xs.foldl upd acc)
  | [], b, hb, _, acc => by
    cases hb
    exact Reads.pure acc
  | x :: xs, b, hb, h, acc => by
    obtain ⟨c, cs, hc, hcs, rfl⟩ := flatMapM_cons_eq_ok.mp hb
    rw [List.length_cons, loop_succ, List.foldl_cons]
    exact (h x List.mem_cons_self c hc acc).bind
      (Reads.loop_of_flatMapM hcs (fun y hy => h y (List.mem_cons_of_mem x hy)) _)

/-! ### Little-endian words -/

/-- The `k`-byte little-endian word of `n`, that is of `n % 256 ^ k`. -/
def leBytes (k n : ℕ) : List UInt8 := (FixedRadix.digitsLE 256 k n).map Nat.toUInt8

/-- The number a little-endian word stands for. -/
def leValue (bs : List UInt8) : ℕ := Nat.ofDigits 256 (bs.map UInt8.toNat)

@[simp] theorem length_leBytes (k n : ℕ) : (leBytes k n).length = k := by
  simp [leBytes]

theorem leBytes_succ (k n : ℕ) : leBytes (k + 1) n = (n % 256).toUInt8 :: leBytes k (n / 256) := by
  simp [leBytes]

theorem leValue_leBytes (k n : ℕ) : leValue (leBytes k n) = n % 256 ^ k := by
  -- every digit is below 256, so the bytes keep it
  have hmap : (FixedRadix.digitsLE 256 k n).map (UInt8.toNat ∘ Nat.toUInt8) =
      FixedRadix.digitsLE 256 k n := by
    conv_rhs => rw [← List.map_id (FixedRadix.digitsLE 256 k n)]
    apply List.map_congr_left
    intro d hd
    simpa using Nat.mod_eq_of_lt (FixedRadix.lt_of_mem_digitsLE (by decide) hd)
  rw [leValue, leBytes, List.map_map, hmap, FixedRadix.ofDigits_digitsLE]

end ByteReader

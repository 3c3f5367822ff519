import Mathlib.Tactic.Ring
import Mathlib.Tactic.Linarith

/-!
# Varints (`common/varint.h`)

`write_varint` emits seven bits at a time, least significant group first, with the high bit of
every byte but the last set. `read_varint<bits>` reads such groups back into an unsigned integer
of `bits` bits; it returns the number of bytes it read, or a negative error: `EVARINT_OVERFLOW`
when a byte would carry bits above `bits`, `EVARINT_REPRESENT` when a byte after the first is
zero (the only non-canonical trailer a writer never produces). When the input ends before a
byte without the continuation bit, it returns the count read so far, which callers that only
test for a negative result take as success.

The model reads a list of bytes and returns the result, the value written and the bytes left
after the ones consumed (the iterator after the call). The main result is the round trip for
every width and every value of that width, with any suffix after the encoding.
-/

namespace Bittube.Common.Varint

/-- `EVARINT_OVERFLOW`. -/
def evarintOverflow : ℤ := -1

/-- `EVARINT_REPRESENT`. -/
def evarintRepresent : ℤ := -2

/-- `write_varint(dest, i)`: while `i >= 0x80`, emit `(i & 0x7f) | 0x80` and shift by 7; then
emit the last group. -/
def writeVarint (i : ℕ) : List UInt8 :=
  if 0x80 ≤ i then ((i.toUInt8 &&& 0x7f) ||| 0x80) :: writeVarint (i >>> 7)
  else [i.toUInt8]
termination_by i
decreasing_by
  rw [Nat.shiftRight_eq_div_pow]
  omega

/-- The loop of `read_varint<bits>(first, last, write)`, from the byte at `shift` on, with the
value `write` and the count `read` accumulated so far. -/
def readVarintLoop (bits : ℕ) : ℕ → ℕ → ℤ → List UInt8 → ℤ × ℕ × List UInt8
  | _, write, read, [] => (read, write, [])
  | shift, write, read, byte :: rest =>
      let read := read + 1
      if bits ≤ shift + 7 ∧ 1 <<< (bits - shift) ≤ byte.toNat then (evarintOverflow, write, rest)
      else if byte = 0 ∧ shift ≠ 0 then (evarintRepresent, write, rest)
      else
        let write := write ||| ((byte &&& 0x7f).toNat <<< shift) % 2 ^ bits
        if byte &&& 0x80 = 0 then (read, write, rest)
        else readVarintLoop bits (shift + 7) write read rest

/-- `read_varint<bits>(first, last, write)`: the result, the value and the unread bytes. -/
def readVarint (bits : ℕ) (bytes : List UInt8) : ℤ × ℕ × List UInt8 :=
  readVarintLoop bits 0 0 0 bytes

/-- An empty input is no error: the count is 0 and the value stays 0. -/
theorem readVarint_nil (bits : ℕ) : readVarint bits [] = (0, 0, []) := rfl

/-! ### The bytes `write_varint` emits -/

theorem toNat_toUInt8 (n : ℕ) : n.toUInt8.toNat = n % 256 := by simp

theorem toNat_and_0x7f (x : UInt8) : (x &&& 0x7f).toNat = x.toNat % 128 := by
  rw [UInt8.toNat_and]
  exact Nat.and_two_pow_sub_one_eq_mod x.toNat 7

/-- The continuation test `(byte & 0x80) == 0` holds exactly for bytes below `0x80`. -/
theorem and_0x80_eq_zero_iff (x : UInt8) : x &&& 0x80 = 0 ↔ x.toNat < 128 := by
  have hbyte : ∀ v, v < 256 → (v &&& 128 = 0 ↔ v < 128) := by decide +kernel
  rw [← UInt8.toNat_inj, UInt8.toNat_and]
  exact hbyte _ x.toNat_lt

theorem continuation_byte_toNat (i : ℕ) :
    ((i.toUInt8 &&& 0x7f) ||| 0x80).toNat = i % 128 + 128 := by
  rw [UInt8.toNat_or, toNat_and_0x7f, toNat_toUInt8,
    Nat.mod_mod_of_dvd i (by norm_num : 128 ∣ 256)]
  exact Nat.or_two_pow_eq_add_of_lt (Nat.mod_lt i (by norm_num : 0 < 2 ^ 7))

theorem writeVarint_of_lt {i : ℕ} (h : i < 0x80) : writeVarint i = [i.toUInt8] := by
  rw [writeVarint, if_neg (by omega)]

theorem writeVarint_of_le {i : ℕ} (h : 0x80 ≤ i) :
    writeVarint i = ((i.toUInt8 &&& 0x7f) ||| 0x80) :: writeVarint (i / 2 ^ 7) := by
  rw [writeVarint, if_pos h, Nat.shiftRight_eq_div_pow]

theorem writeVarint_ne_nil (i : ℕ) : writeVarint i ≠ [] := by
  rw [writeVarint]
  split <;> simp

/-- A varint is at least one and at most ten bytes per 64-bit value: every byte carries seven
bits, and the last one a nonzero group unless the value is zero. -/
theorem length_writeVarint_le {i k : ℕ} (h : i < 2 ^ (7 * k)) (hk : 0 < k) :
    (writeVarint i).length ≤ k := by
  induction k generalizing i with
  | zero => omega
  | succ k ih =>
      by_cases hi : i < 0x80
      · rw [writeVarint_of_lt hi]
        simp only [List.length_singleton]
        omega
      · rw [writeVarint_of_le (by omega), List.length_cons]
        have hk' : 0 < k := by
          rcases Nat.eq_zero_or_pos k with rfl | hk'
          · simp at h
            omega
          · exact hk'
        have hlt : i / 2 ^ 7 < 2 ^ (7 * k) := by
          rw [Nat.div_lt_iff_lt_mul (by positivity), ← pow_add]
          rw [show 7 * k + 7 = 7 * (k + 1) by ring]
          exact h
        have := ih hlt hk'
        omega

/-! ### Reading back what was written -/

/-- Adding a group below the bits already read: the `|=` is an addition. -/
theorem or_shift_eq_add {w g shift bits : ℕ} (hw : w < 2 ^ shift) (hg : g * 2 ^ shift < 2 ^ bits) :
    w ||| (g <<< shift) % 2 ^ bits = w + g * 2 ^ shift := by
  rw [Nat.shiftLeft_eq, Nat.mod_eq_of_lt hg, Nat.or_comm, ← Nat.shiftLeft_eq,
    ← Nat.shiftLeft_add_eq_or_of_lt hw, Nat.shiftLeft_eq, Nat.add_comm]

/-- The loop invariant of the round trip: reading the encoding of `u` from bit `shift` on, with
`w` already read below it, adds `u * 2 ^ shift` and consumes exactly the encoding. The side
condition `shift = 0 ∨ 0 < u` is what the writer guarantees after its first byte: a group
written after a continuation is never zero. -/
theorem readVarintLoop_writeVarint (bits : ℕ) (rest : List UInt8) :
    ∀ (u shift w : ℕ) (read : ℤ), w < 2 ^ shift → w + u * 2 ^ shift < 2 ^ bits →
      (shift = 0 ∨ 0 < u) →
      readVarintLoop bits shift w read (writeVarint u ++ rest) =
        (read + (writeVarint u).length, w + u * 2 ^ shift, rest) := by
  intro u
  induction u using Nat.strong_induction_on with
  | _ u ih =>
    intro shift w read hw hfit hnz
    by_cases hu : u < 0x80
    · -- the last byte: the group `u` itself, without the continuation bit
      rw [writeVarint_of_lt hu, List.singleton_append, readVarintLoop]
      have hbyte : (u.toUInt8).toNat = u := by
        rw [toNat_toUInt8]
        exact Nat.mod_eq_of_lt (by omega)
      have hfit' : u * 2 ^ shift < 2 ^ bits := by omega
      have hnoOverflow : ¬(bits ≤ shift + 7 ∧ 1 <<< (bits - shift) ≤ (u.toUInt8).toNat) := by
        rintro ⟨_, hle⟩
        rw [hbyte, Nat.shiftLeft_eq, Nat.one_mul] at hle
        have hsb : shift ≤ bits := by
          by_contra hsb
          have : 2 ^ bits < 2 ^ shift := Nat.pow_lt_pow_right (by norm_num) (by omega)
          rcases Nat.eq_zero_or_pos u with rfl | hpos
          · omega
          · nlinarith
        have : 2 ^ (bits - shift) * 2 ^ shift = 2 ^ bits := by
          rw [← pow_add, Nat.sub_add_cancel hsb]
        nlinarith
      have hnoRepresent : ¬(u.toUInt8 = 0 ∧ shift ≠ 0) := by
        rintro ⟨h0, hs⟩
        have : (u.toUInt8).toNat = 0 := by rw [h0]; rfl
        omega
      have hgroup : (u.toUInt8 &&& 0x7f).toNat = u := by
        rw [toNat_and_0x7f, hbyte, Nat.mod_eq_of_lt hu]
      have hlast : u.toUInt8 &&& 0x80 = 0 := (and_0x80_eq_zero_iff _).mpr (by omega)
      rw [if_neg hnoOverflow, if_neg hnoRepresent]
      simp only [hgroup, hlast, if_true, or_shift_eq_add hw hfit', List.length_singleton,
        Nat.cast_one]
    · -- a continuation byte: seven bits of `u`, then the encoding of `u / 2 ^ 7`
      have hu' : 0x80 ≤ u := by omega
      rw [writeVarint_of_le hu', List.cons_append, readVarintLoop]
      set byte := (u.toUInt8 &&& 0x7f) ||| 0x80 with hbyteDef
      have hbyte : byte.toNat = u % 128 + 128 := continuation_byte_toNat u
      have hshift : shift + 7 < bits := by
        by_contra hs
        have h1 : 2 ^ 7 * 2 ^ shift ≤ u * 2 ^ shift := Nat.mul_le_mul_right _ hu'
        have h2 : 2 ^ bits ≤ 2 ^ 7 * 2 ^ shift := by
          rw [← pow_add]
          exact Nat.pow_le_pow_right (by norm_num) (by omega)
        omega
      have hnoOverflow : ¬(bits ≤ shift + 7 ∧ 1 <<< (bits - shift) ≤ byte.toNat) := by
        rintro ⟨h, _⟩
        omega
      have hnoRepresent : ¬(byte = 0 ∧ shift ≠ 0) := by
        rintro ⟨h0, _⟩
        have : byte.toNat = 0 := by rw [h0]; rfl
        omega
      have hgroup : (byte &&& 0x7f).toNat = u % 128 := by
        rw [toNat_and_0x7f, hbyte]
        omega
      have hcont : ¬(byte &&& 0x80 = 0) := by
        rw [and_0x80_eq_zero_iff]
        omega
      have hsplit : u = u % 128 + 128 * (u / 2 ^ 7) := by omega
      have hgroupFit : u % 128 * 2 ^ shift < 2 ^ bits := by
        calc u % 128 * 2 ^ shift ≤ u * 2 ^ shift := Nat.mul_le_mul_right _ (Nat.mod_le _ _)
          _ < 2 ^ bits := by omega
      have hw' : w + u % 128 * 2 ^ shift < 2 ^ (shift + 7) := by
        have : u % 128 * 2 ^ shift + 2 ^ shift ≤ 2 ^ 7 * 2 ^ shift := by
          have hm : u % 128 + 1 ≤ 2 ^ 7 := by omega
          nlinarith
        rw [pow_add]
        nlinarith
      have hval : w + u % 128 * 2 ^ shift + u / 2 ^ 7 * 2 ^ (shift + 7) =
          w + u * 2 ^ shift := by
        conv_rhs => rw [hsplit]
        rw [pow_add]
        ring
      have hrec := ih (u / 2 ^ 7) (by omega) (shift + 7) (w + u % 128 * 2 ^ shift) (read + 1)
        hw' (by rw [hval]; exact hfit) (Or.inr (by omega))
      rw [if_neg hnoOverflow, if_neg hnoRepresent]
      simp only [hgroup, hcont, if_false, or_shift_eq_add hw hgroupFit, hrec, hval,
        List.length_cons, Nat.cast_add, Nat.cast_one]
      refine Prod.ext ?_ rfl
      ring

/-- **Varint round trip.** For every width and every value of that width, reading the encoding
followed by any bytes returns the encoding's length and the value, and leaves the iterator just
after the encoding. -/
theorem readVarint_writeVarint (bits v : ℕ) (hv : v < 2 ^ bits) (rest : List UInt8) :
    readVarint bits (writeVarint v ++ rest) = (((writeVarint v).length : ℤ), v, rest) := by
  have h := readVarintLoop_writeVarint bits rest v 0 0 0 (by norm_num) (by simpa using hv)
    (Or.inl rfl)
  simpa [readVarint] using h

/-- `read_varint` only moves the iterator forward. -/
theorem readVarintLoop_suffix (bits shift write : ℕ) (read : ℤ) (bytes : List UInt8) :
    (readVarintLoop bits shift write read bytes).2.2 <:+ bytes := by
  induction bytes generalizing shift write read with
  | nil => simp [readVarintLoop]
  | cons byte rest ih =>
    have hcons : rest <:+ byte :: rest := List.suffix_cons byte rest
    simp only [readVarintLoop]
    split_ifs
    · exact hcons
    · exact hcons
    · exact hcons
    · exact (ih _ _ _).trans hcons

theorem readVarint_suffix (bits : ℕ) (bytes : List UInt8) : (readVarint bits bytes).2.2 <:+ bytes :=
  readVarintLoop_suffix bits 0 0 0 bytes

/-- The value `read_varint` writes fits its width, whatever it returns: each group is masked to
`bits` bits before it is or-ed in. -/
theorem readVarintLoop_lt (bits shift write : ℕ) (read : ℤ) (bytes : List UInt8)
    (hwrite : write < 2 ^ bits) : (readVarintLoop bits shift write read bytes).2.1 < 2 ^ bits := by
  induction bytes generalizing shift write read with
  | nil => simpa [readVarintLoop] using hwrite
  | cons byte rest ih =>
    have hor : write ||| ((byte &&& 0x7f).toNat <<< shift) % 2 ^ bits < 2 ^ bits :=
      Nat.or_lt_two_pow hwrite (Nat.mod_lt _ (Nat.two_pow_pos bits))
    simp only [readVarintLoop]
    split_ifs
    · exact hwrite
    · exact hwrite
    · exact hor
    · exact ih _ _ _ hor

theorem readVarint_lt (bits : ℕ) (bytes : List UInt8) : (readVarint bits bytes).2.1 < 2 ^ bits :=
  readVarintLoop_lt bits 0 0 0 bytes (Nat.two_pow_pos bits)

/-- The round trip for the widths `read_varint` is instantiated at, `uint8_t` to `uint64_t`:
reading the encoding of a value of that width followed by any bytes returns the encoding's
length and the value, and leaves the iterator just after the encoding. -/
theorem read_varint_undoes_write_varint (bits : ℕ) (hbits : bits ∈ [8, 16, 32, 64]) (v : ℕ)
    (hv : v < 2 ^ bits) (rest : List UInt8) :
    readVarint bits (writeVarint v ++ rest) = (((writeVarint v).length : ℤ), v, rest) ∧
      0 < (writeVarint v).length ∧ (writeVarint v).length ≤ (bits + 6) / 7 := by
  have hwidth : v < 2 ^ (7 * ((bits + 6) / 7)) :=
    lt_of_lt_of_le hv (Nat.pow_le_pow_right (by norm_num) (by omega))
  refine ⟨readVarint_writeVarint bits v hv rest, ?_, length_writeVarint_le hwidth ?_⟩
  · exact List.length_pos_iff.2 (writeVarint_ne_nil v)
  · simp only [List.mem_cons, List.not_mem_nil, or_false] at hbits
    omega

theorem read_varint_undoes_write_varint_uint64_max :
    (64 : ℕ) ∈ [8, 16, 32, 64] ∧ 2 ^ 64 - 1 < 2 ^ 64 ∧
      readVarint 64 (writeVarint (2 ^ 64 - 1) ++ [7]) =
        (((writeVarint (2 ^ 64 - 1)).length : ℤ), 2 ^ 64 - 1, [7]) :=
  ⟨by decide, by norm_num,
    (read_varint_undoes_write_varint 64 (by decide) (2 ^ 64 - 1) (by norm_num) [7]).1⟩

/-! ### What the reader accepts -/

/-- A continuation byte with the group `g` is the byte `g + 128`. -/
theorem continuation_byte_eq {byte : UInt8} (hbyte : 128 ≤ byte.toNat) (u : ℕ)
    (hu : u % 128 = byte.toNat % 128) : (u.toUInt8 &&& 0x7f) ||| 0x80 = byte := by
  rw [← UInt8.toNat_inj, continuation_byte_toNat, hu]
  have := byte.toNat_lt
  omega

/-- The group a byte adds to the value fits below `2 ^ bits` once the overflow check passed and
the byte is not a zero after the first: the shift stays within the width. -/
theorem group_fits {bits shift : ℕ} {byte : UInt8}
    (hov : ¬(bits ≤ shift + 7 ∧ 1 <<< (bits - shift) ≤ byte.toNat))
    (hrep : ¬(byte = 0 ∧ shift ≠ 0)) :
    shift ≤ bits ∧ byte.toNat % 128 * 2 ^ shift < 2 ^ bits := by
  rw [Nat.one_shiftLeft] at hov
  have hsb : shift ≤ bits := by
    by_contra hsb
    -- past the width the check leaves only a zero byte, which is not the first
    have hzero : byte.toNat = 0 := by
      rw [Nat.sub_eq_zero_of_le (by omega), pow_zero] at hov
      omega
    exact hrep ⟨UInt8.toNat_inj.mp (by rw [hzero]; rfl), by omega⟩
  refine ⟨hsb, ?_⟩
  have hsplit : 2 ^ bits = 2 ^ (bits - shift) * 2 ^ shift := by
    rw [← pow_add, Nat.sub_add_cancel hsb]
  by_cases hroom : bits ≤ shift + 7
  · -- the last groups of the width: the whole byte is below `2 ^ (bits - shift)`
    have hlt : byte.toNat < 2 ^ (bits - shift) := by omega
    rw [hsplit]
    exact Nat.mul_lt_mul_of_pos_right (lt_of_le_of_lt (Nat.mod_le _ _) hlt) (by positivity)
  · have h7 : 2 ^ 7 ≤ 2 ^ (bits - shift) := Nat.pow_le_pow_right (by norm_num) (by omega)
    rw [hsplit]
    exact Nat.mul_lt_mul_of_pos_right (by omega) (by positivity)

/-- What the loop can return from bit `shift` on, with `w` read below it: an error; a run of
continuation bytes cut off by the end of the input, counted as read; or the encoding of a group
value `u` (nonzero after the first byte, since a zero byte there is refused) followed by the
bytes left unread, with the value assembled below `2 ^ bits`. -/
theorem readVarintLoop_cases (bits : ℕ) : ∀ (bs : List UInt8) (shift w : ℕ) (read : ℤ),
    w < 2 ^ shift → w < 2 ^ bits →
      (readVarintLoop bits shift w read bs).1 = evarintOverflow ∨
      (readVarintLoop bits shift w read bs).1 = evarintRepresent ∨
      ((readVarintLoop bits shift w read bs).2.2 = [] ∧
        (readVarintLoop bits shift w read bs).1 = read + bs.length ∧ ∀ b ∈ bs, 128 ≤ b.toNat) ∨
      ∃ u, (shift = 0 ∨ 0 < u) ∧ (readVarintLoop bits shift w read bs).2.1 = w + u * 2 ^ shift ∧
        (readVarintLoop bits shift w read bs).2.1 < 2 ^ bits ∧
        bs = writeVarint u ++ (readVarintLoop bits shift w read bs).2.2 ∧
        (readVarintLoop bits shift w read bs).1 = read + (writeVarint u).length
  | [], shift, w, read, _, _ => by
    right; right; left
    simp [readVarintLoop]
  | byte :: rest, shift, w, read, hw, hwBits => by
    rw [readVarintLoop]
    by_cases hov : bits ≤ shift + 7 ∧ 1 <<< (bits - shift) ≤ byte.toNat
    · simp [hov]
    by_cases hrep : byte = 0 ∧ shift ≠ 0
    · simp [hrep]
    obtain ⟨hsb, hfit⟩ := group_fits hov hrep
    have hgroup : (byte &&& 0x7f).toNat = byte.toNat % 128 := toNat_and_0x7f byte
    -- the value read so far, with this byte's group added below the width
    have hadd : w ||| ((byte &&& 0x7f).toNat <<< shift) % 2 ^ bits =
        w + byte.toNat % 128 * 2 ^ shift := by
      rw [hgroup]
      exact or_shift_eq_add hw hfit
    have hnext : w + byte.toNat % 128 * 2 ^ shift < 2 ^ bits := by
      have hdvd : 2 ^ shift ∣ 2 ^ bits := pow_dvd_pow 2 hsb
      obtain ⟨q, hq⟩ := hdvd
      rw [hq] at hfit ⊢
      have hlt : byte.toNat % 128 < q := by
        rw [Nat.mul_comm] at hfit
        exact lt_of_mul_lt_mul_left hfit (Nat.zero_le _)
      nlinarith
    simp only [if_neg hov, if_neg hrep, hadd]
    by_cases hlast : byte &&& 0x80 = 0
    · -- the last byte: its group is the rest of the value
      have hsmall : byte.toNat < 128 := (and_0x80_eq_zero_iff byte).mp hlast
      right; right; right
      refine ⟨byte.toNat, ?_, by simp [hlast, Nat.mod_eq_of_lt hsmall], by simpa [hlast] using hnext,
        ?_, by simp [hlast, writeVarint_of_lt hsmall]⟩
      · by_cases hs : shift = 0
        · exact .inl hs
        · refine .inr (Nat.pos_of_ne_zero fun h0 => hrep ⟨UInt8.toNat_inj.mp ?_, hs⟩)
          rw [h0]
          rfl
      · rw [writeVarint_of_lt hsmall]
        simp [hlast]
    · -- a continuation byte: seven bits, then what the rest of the loop reads
      have hcont : 128 ≤ byte.toNat := by
        have := (and_0x80_eq_zero_iff byte).not.mp hlast
        omega
      have hw' : w + byte.toNat % 128 * 2 ^ shift < 2 ^ (shift + 7) := by
        have hm : byte.toNat % 128 + 1 ≤ 2 ^ 7 := by omega
        rw [pow_add]
        nlinarith
      simp only [hlast, if_false]
      rcases readVarintLoop_cases bits rest (shift + 7) _ (read + 1) hw' hnext with
        hov' | hrep' | ⟨hnil, hread, hall⟩ | ⟨u, hu, hval, hlt, hbytes, hread⟩
      · exact .inl hov'
      · exact .inr (.inl hrep')
      · right; right; left
        refine ⟨hnil, by rw [hread, List.length_cons]; push_cast; ring, ?_⟩
        intro b hb
        rcases List.mem_cons.mp hb with rfl | hb
        · exact hcont
        · exact hall b hb
      · right; right; right
        have hupos : 0 < u := hu.resolve_left (by omega)
        refine ⟨byte.toNat % 128 + 128 * u, .inr (by omega), ?_, hlt, ?_, ?_⟩
        · rw [hval, pow_add]
          ring
        · have hle : 0x80 ≤ byte.toNat % 128 + 128 * u := by omega
          have hdiv : (byte.toNat % 128 + 128 * u) / 2 ^ 7 = u := by omega
          rw [writeVarint_of_le hle, hdiv, continuation_byte_eq hcont _ (by omega), List.cons_append,
            ← hbytes]
        · have hle : 0x80 ≤ byte.toNat % 128 + 128 * u := by omega
          have hdiv : (byte.toNat % 128 + 128 * u) / 2 ^ 7 = u := by omega
          rw [hread, writeVarint_of_le hle, hdiv, List.length_cons]
          push_cast
          ring

/-- What `read_varint<bits>` accepts: when it returns a positive count, either the bytes start
with the writer's encoding of the value it set, of that width, and the iterator is just after
it; or the input ended inside a varint, every byte of it carrying the continuation bit, and the
count is the number of bytes. -/
theorem read_varint_accepts_canonical (bits : ℕ) (bs : List UInt8) (n : ℤ) (v : ℕ)
    (rest : List UInt8) (hread : readVarint bits bs = (n, v, rest)) (hpos : 0 < n) :
    (bs = writeVarint v ++ rest ∧ n = (writeVarint v).length ∧ v < 2 ^ bits) ∨
      (rest = [] ∧ n = bs.length ∧ ∀ b ∈ bs, 128 ≤ b.toNat) := by
  rcases readVarintLoop_cases bits bs 0 0 0 (by norm_num) (by positivity) with
    hov | hrep | ⟨hnil, hcount, hall⟩ | ⟨u, -, hval, hlt, hbytes, hcount⟩ <;>
    simp only [readVarint] at hread <;> rw [hread] at *
  · simp [evarintOverflow] at hov
    omega
  · simp [evarintRepresent] at hrep
    omega
  · exact .inr ⟨hnil, by simpa using hcount, hall⟩
  · simp only [pow_zero, mul_one, zero_add] at hval
    subst hval
    exact .inl ⟨hbytes, by simpa using hcount, hlt⟩

/-- The one-byte varint 5 before another byte is the writer's encoding of 5. -/
theorem read_varint_accepts_canonical_five :
    readVarint 64 [5, 9] = (1, 5, [9]) ∧ (0 : ℤ) < 1 ∧
      (([5, 9] : List UInt8) = writeVarint 5 ++ [9] ∧ (1 : ℤ) = (writeVarint 5).length ∧
          5 < 2 ^ 64 ∨
        ([9] : List UInt8) = [] ∧ (1 : ℤ) = ([5, 9] : List UInt8).length ∧
          ∀ b ∈ ([5, 9] : List UInt8), 128 ≤ b.toNat) := by
  have hread : readVarint 64 [5, 9] = (1, 5, [9]) := by decide
  exact ⟨hread, by norm_num, read_varint_accepts_canonical 64 [5, 9] 1 5 [9] hread (by norm_num)⟩

/-- A varint cut off before its last byte is still reported as read: `read_varint` returns
the count of bytes consumed, a positive number, and the callers that only test for a negative
result accept the value assembled so far. -/
theorem readVarint_truncated (bits : ℕ) (hbits : 8 ≤ bits) :
    readVarint bits [0x80] = (1, 0, []) := by
  have h7 : ¬bits ≤ 0 + 7 := by omega
  simp [readVarint, readVarintLoop, h7]

/-- **A cut-off varint is a success.** The lone continuation byte `0x80` is read as one byte
with the value 0 at the width of a `uint64_t`, although the writer encodes 0 as `0x00`. -/
theorem read_varint_truncated_is_success :
    readVarint 64 [0x80] = (1, 0, []) ∧ ([0x80] : List UInt8).take 1 ≠ writeVarint 0 := by
  refine ⟨by simp [readVarint, readVarintLoop], ?_⟩
  rw [writeVarint_of_lt (by norm_num)]
  decide

end Bittube.Common.Varint

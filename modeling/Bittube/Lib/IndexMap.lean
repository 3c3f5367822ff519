import Mathlib.Data.List.Nodup
import Mathlib.Logic.Function.Basic

/-!
# Maps from keys to positions in a list

A hash map kept beside a vector sends a key of each element to the element's index. Some
elements may have no key (`key a = none`). `Exact m key l` says that `m` answers exactly the keys
of `l`, each with its own index. Two elements of one key would need two answers, so an exact map
also says that the keys of `l` are distinct.

An exact map stays exact when an element is pushed, with or without registering its key, and
when elements change without changing their keys. `eraseEach` erases a list of keys one by one,
failing at a key that is missing, and erasing the keys of a suffix leaves the map exact for the
prefix. On a list along which `p` stays true once true, the prefix before the first element
satisfying `p` is the filter of the others.
-/

namespace IndexMap

variable {α κ ν : Type*}

/-- `m` maps exactly the keys of the elements of `l` to their positions. -/
def Exact (m : κ → Option ℕ) (key : α → Option κ) (l : List α) : Prop :=
  ∀ k i, m k = some i ↔ ∃ a, l[i]? = some a ∧ key a = some k

variable {m : κ → Option ℕ} {key : α → Option κ} {l : List α}

/-- A position of a list with one element pushed. -/
theorem getElem?_append_singleton_eq_some {a b : α} {i : ℕ} :
    (l ++ [a])[i]? = some b ↔ l[i]? = some b ∨ i = l.length ∧ a = b := by
  rw [List.getElem?_append]
  split_ifs with hi
  · constructor
    · exact Or.inl
    · rintro (h | ⟨rfl, -⟩)
      · exact h
      · omega
  · rw [List.getElem?_singleton]
    constructor
    · intro h
      rw [Option.ite_none_right_eq_some, Option.some.injEq] at h
      exact Or.inr ⟨by omega, h.2⟩
    · rintro (h | ⟨rfl, rfl⟩)
      · exact absurd (List.getElem?_eq_some_iff.mp h).1 hi
      · simp

theorem exact_nil : Exact (fun _ => none) key ([] : List α) := by
  intro k i
  simp

/-- In an exact map one key sits at one position only. -/
theorem Exact.index_eq (h : Exact m key l) {i j : ℕ} {a b : α} {k : κ} (hi : l[i]? = some a)
    (hj : l[j]? = some b) (ha : key a = some k) (hb : key b = some k) : i = j := by
  have hmi : m k = some i := (h k i).mpr ⟨a, hi, ha⟩
  have hmj : m k = some j := (h k j).mpr ⟨b, hj, hb⟩
  rw [hmi] at hmj
  exact Option.some.inj hmj

theorem Exact.ne_none (h : Exact m key l) {k : κ} (hk : k ∈ l.filterMap key) : m k ≠ none := by
  obtain ⟨a, ha, hka⟩ := List.mem_filterMap.mp hk
  obtain ⟨i, hi, rfl⟩ := List.getElem_of_mem ha
  rw [(h k i).mpr ⟨_, List.getElem?_eq_getElem hi, hka⟩]
  exact Option.some_ne_none i

theorem nodup_filterMap_of_pairwise :
    ∀ {l : List α}, l.Pairwise (fun a b => ∀ k, key a = some k → key b ≠ some k) →
      (l.filterMap key).Nodup
  | [], _ => List.nodup_nil
  | a :: l, hpair => by
    rw [List.pairwise_cons] at hpair
    rw [List.filterMap_cons]
    cases hka : key a with
    | none => exact nodup_filterMap_of_pairwise hpair.2
    | some k =>
      refine List.nodup_cons.mpr ⟨fun hk => ?_, nodup_filterMap_of_pairwise hpair.2⟩
      obtain ⟨b, hb, hkb⟩ := List.mem_filterMap.mp hk
      exact hpair.1 b hb k hka hkb

theorem Exact.pairwise (h : Exact m key l) :
    l.Pairwise fun a b => ∀ k, key a = some k → key b ≠ some k := by
  rw [List.pairwise_iff_getElem]
  intro i j hi hj hij k ha hb
  have := h.index_eq (List.getElem?_eq_getElem hi) (List.getElem?_eq_getElem hj) ha hb
  omega

/-- The keys of a list with an exact map are distinct. -/
theorem Exact.nodup (h : Exact m key l) : (l.filterMap key).Nodup :=
  nodup_filterMap_of_pairwise h.pairwise

/-- Pushing an element without a key. -/
theorem Exact.append_none (h : Exact m key l) {a : α} (ha : key a = none) :
    Exact m key (l ++ [a]) := by
  intro k i
  rw [h k i]
  constructor
  · rintro ⟨b, hb, hkb⟩
    exact ⟨b, getElem?_append_singleton_eq_some.mpr (Or.inl hb), hkb⟩
  · rintro ⟨b, hb, hkb⟩
    rcases getElem?_append_singleton_eq_some.mp hb with hb | ⟨-, rfl⟩
    · exact ⟨b, hb, hkb⟩
    · rw [ha] at hkb
      cases hkb

/-- Changing elements without changing their keys. -/
theorem Exact.congr (h : Exact m key l) {l' : List α} (hlen : l'.length = l.length)
    (hkey : ∀ i (hi : i < l.length) (hi' : i < l'.length), key l'[i] = key l[i]) :
    Exact m key l' := by
  intro k i
  rw [h k i]
  constructor
  · rintro ⟨a, ha, hka⟩
    obtain ⟨hi, rfl⟩ := List.getElem?_eq_some_iff.mp ha
    exact ⟨l'[i], List.getElem?_eq_getElem (hlen ▸ hi), (hkey i hi (hlen ▸ hi)).trans hka⟩
  · rintro ⟨a, ha, hka⟩
    obtain ⟨hi, rfl⟩ := List.getElem?_eq_some_iff.mp ha
    exact ⟨l[i], List.getElem?_eq_getElem (hlen ▸ hi), (hkey i (hlen ▸ hi) hi).symm.trans hka⟩

/-! ## The first element past a threshold -/

variable {p : α → Bool}

/-- On a list along which `p` stays true once it holds, the elements before the first one
satisfying `p` are those that do not. -/
theorem take_findIdx (hmono : l.Pairwise fun a b => p a → p b) :
    l.take (l.findIdx p) = l.filter fun a => !p a := by
  induction l with
  | nil => rfl
  | cons a l ih =>
    rw [List.pairwise_cons] at hmono
    rw [List.findIdx_cons, List.filter_cons]
    cases hpa : p a with
    | true =>
      have hall : ∀ b ∈ l, p b = true := fun b hb => hmono.1 b hb hpa
      have hnil : l.filter (fun a => !p a) = [] := by
        rw [List.filter_eq_nil_iff]
        intro b hb
        simp [hall b hb]
      simp [hnil]
    | false => simp [ih hmono.2]

theorem drop_findIdx (hmono : l.Pairwise fun a b => p a → p b) :
    l.drop (l.findIdx p) = l.filter p := by
  induction l with
  | nil => rfl
  | cons a l ih =>
    rw [List.pairwise_cons] at hmono
    rw [List.findIdx_cons, List.filter_cons]
    cases hpa : p a with
    | true =>
      have hall : ∀ b ∈ l, p b = true := fun b hb => hmono.1 b hb hpa
      simp [List.filter_eq_self.mpr hall]
    | false => simp [ih hmono.2]

variable [DecidableEq κ]

/-- Pushing an element and registering its key, which the map did not hold. -/
theorem Exact.append_some (h : Exact m key l) {a : α} {k : κ} (ha : key a = some k)
    (hk : m k = none) : Exact (Function.update m k (some l.length)) key (l ++ [a]) := by
  intro k' i
  by_cases hkk : k' = k
  · subst hkk
    rw [Function.update_self, Option.some.injEq]
    constructor
    · rintro rfl
      exact ⟨a, getElem?_append_singleton_eq_some.mpr (Or.inr ⟨rfl, rfl⟩), ha⟩
    · rintro ⟨b, hb, hkb⟩
      rcases getElem?_append_singleton_eq_some.mp hb with hb | ⟨hi, -⟩
      · rw [(h k' i).mpr ⟨b, hb, hkb⟩] at hk
        cases hk
      · exact hi.symm
  · rw [Function.update_of_ne hkk, h k' i]
    constructor
    · rintro ⟨b, hb, hkb⟩
      exact ⟨b, getElem?_append_singleton_eq_some.mpr (Or.inl hb), hkb⟩
    · rintro ⟨b, hb, hkb⟩
      rcases getElem?_append_singleton_eq_some.mp hb with hb | ⟨-, rfl⟩
      · exact ⟨b, hb, hkb⟩
      · rw [ha, Option.some.injEq] at hkb
        exact absurd hkb.symm hkk

/-! ## Erasing keys -/

/-- Each key erased in turn; `none` at the first key the map does not hold. -/
def eraseEach (m : κ → Option ν) : List κ → Option (κ → Option ν)
  | [] => some m
  | k :: ks =>
    match m k with
    | none => none
    | some _ => eraseEach (Function.update m k none) ks

theorem eraseEach_eq_some {m : κ → Option ν} :
    ∀ {ks : List κ}, ks.Nodup → (∀ k ∈ ks, m k ≠ none) →
      eraseEach m ks = some fun k => if k ∈ ks then none else m k
  | [], _, _ => by simp [eraseEach]
  | k :: ks, hnd, hmem => by
    obtain ⟨hk, hnd⟩ := List.nodup_cons.mp hnd
    obtain ⟨v, hv⟩ := Option.ne_none_iff_exists'.mp (hmem k List.mem_cons_self)
    have hrest : ∀ k' ∈ ks, Function.update m k none k' ≠ none := by
      intro k' hk'
      have hne : k' ≠ k := by
        rintro rfl
        exact hk hk'
      rw [Function.update_of_ne hne]
      exact hmem k' (List.mem_cons_of_mem k hk')
    rw [eraseEach, hv]
    show eraseEach (Function.update m k none) ks = _
    rw [eraseEach_eq_some hnd hrest]
    congr 1
    funext k'
    by_cases hkk : k' = k
    · subst hkk
      simp
    · simp [hkk]

/-- Erasing the keys of the elements from position `n` on leaves the map exact for the elements
before it. -/
theorem Exact.take (h : Exact m key l) (n : ℕ) :
    Exact (fun k => if k ∈ (l.drop n).filterMap key then none else m k) key (l.take n) := by
  intro k i
  by_cases hk : k ∈ (l.drop n).filterMap key
  · simp only [hk, if_true, reduceCtorEq, false_iff, not_exists, not_and]
    intro a ha hka
    -- the key also belongs to an element at or after `n`, which would be a second position
    obtain ⟨b, hb, hkb⟩ := List.mem_filterMap.mp hk
    obtain ⟨j, hj, rfl⟩ := List.getElem_of_mem hb
    rw [List.getElem?_take] at ha
    split_ifs at ha with hin
    have := h.index_eq ha (by rw [List.getElem_drop]; exact List.getElem?_eq_getElem _) hka hkb
    omega
  · simp only [hk, if_false, h k i]
    constructor
    · rintro ⟨a, ha, hka⟩
      refine ⟨a, ?_, hka⟩
      rw [List.getElem?_take, if_pos]
      · exact ha
      · -- an element at or after `n` would put its key in the erased list
        by_contra hin
        obtain ⟨hi, rfl⟩ := List.getElem?_eq_some_iff.mp ha
        refine hk (List.mem_filterMap.mpr ⟨l[i], ?_, hka⟩)
        rw [List.mem_iff_getElem]
        exact ⟨i - n, by simp; omega, by simp [List.getElem_drop]; congr 1; omega⟩
    · rintro ⟨a, ha, hka⟩
      rw [List.getElem?_take] at ha
      split_ifs at ha
      exact ⟨a, ha, hka⟩

end IndexMap

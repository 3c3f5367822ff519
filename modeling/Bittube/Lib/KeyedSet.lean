import Mathlib

/-!
# Sets of records ordered by one field

A `std::set` whose comparison reads one field of its elements (`operator<` on a key) holds its
elements in the order of the key, and never two with the same key: two elements are the same
for the set when neither key is below the other. Inserting an element whose key is already
there leaves the set as it is, and the insert says nothing about it.

`KeyedSet key` carries the order of its list as a field, so every set that can be built is
sorted by `key` without repeats. `insertSorted` walks the list to the first key not below the
new one and inserts there unless the keys are equal, in which case nothing changes. A key above
all others goes at the end, so inserting a sorted list in its order rebuilds it. `erase` removes
the element of one key, and a search for a condition that only one key meets finds the element
of that key.
-/

/-- The elements of a set sorted by `key`, without two of one key. -/
@[ext]
structure KeyedSet (α : Type*) {κ : Type*} [LinearOrder κ] (key : α → κ) where
  toList : List α
  sorted : toList.Pairwise fun a b => key a < key b

namespace KeyedSet

variable {α κ : Type*} [LinearOrder κ]

section Insert

variable (key : α → κ)

/-- `std::set::insert` on the sorted list: before the first key above the new one, and not at
all when an element of the same key is met. -/
def insertSorted (a : α) : List α → List α
  | [] => [a]
  | b :: l =>
    if key a < key b then a :: b :: l
    else if key b < key a then b :: insertSorted a l
    else b :: l

variable {key}

theorem mem_insertSorted {a x : α} : ∀ {l : List α}, x ∈ insertSorted key a l → x = a ∨ x ∈ l
  | [], h => Or.inl (List.mem_singleton.1 h)
  | b :: l, h => by
    rw [insertSorted] at h
    split_ifs at h with h1 h2
    · exact (List.mem_cons.1 h).imp id id
    · rcases List.mem_cons.1 h with rfl | h
      · exact Or.inr List.mem_cons_self
      · exact (mem_insertSorted h).imp id (List.mem_cons_of_mem b)
    · exact Or.inr h

theorem pairwise_insertSorted (a : α) :
    ∀ {l : List α}, l.Pairwise (fun a b => key a < key b) →
      (insertSorted key a l).Pairwise fun a b => key a < key b
  | [], _ => List.pairwise_singleton _ a
  | b :: l, h => by
    obtain ⟨hb, hl⟩ := List.pairwise_cons.1 h
    rw [insertSorted]
    split_ifs with h1 h2
    · exact List.Pairwise.cons (fun x hx => (List.mem_cons.1 hx).elim (· ▸ h1)
        fun hx => lt_trans h1 (hb x hx)) h
    · refine List.Pairwise.cons (fun x hx => ?_) (pairwise_insertSorted a hl)
      rcases mem_insertSorted hx with rfl | hx
      · exact h2
      · exact hb x hx
    · exact h

/-- An element whose key is not there joins the set. -/
theorem mem_insertSorted_of_fresh {a x : α} :
    ∀ {l : List α}, (∀ b ∈ l, key b ≠ key a) → (x ∈ insertSorted key a l ↔ x = a ∨ x ∈ l)
  | [], _ => by simp [insertSorted]
  | b :: l, h => by
    have hba := h b List.mem_cons_self
    have ih := mem_insertSorted_of_fresh (x := x) fun c hc => h c (List.mem_cons_of_mem b hc)
    rw [insertSorted]
    split_ifs with h1 h2
    · exact List.mem_cons
    · simp only [List.mem_cons, ih]
      exact or_left_comm
    · exact absurd (le_antisymm (not_lt.1 h1) (not_lt.1 h2)) hba

/-- An element whose key is there already leaves a sorted list as it is. -/
theorem insertSorted_of_key_mem {a : α} :
    ∀ {l : List α}, l.Pairwise (fun a b => key a < key b) → (∃ b ∈ l, key b = key a) →
      insertSorted key a l = l
  | [], _, ⟨_, hb, _⟩ => absurd hb List.not_mem_nil
  | b :: l, hs, ⟨c, hc, hca⟩ => by
    obtain ⟨hb, hl⟩ := List.pairwise_cons.1 hs
    rw [insertSorted]
    rcases List.mem_cons.1 hc with rfl | hc
    · rw [if_neg (lt_irrefl _ ∘ (hca ▸ ·)), if_neg (lt_irrefl _ ∘ (hca ▸ ·))]
    · -- the key is further on, so it is above `b`
      have hlt : key b < key a := hca ▸ hb c hc
      rw [if_neg (lt_asymm hlt), if_pos hlt, insertSorted_of_key_mem hl ⟨c, hc, hca⟩]

/-- An element whose key is above every key of the list goes at its end. -/
theorem insertSorted_of_forall_lt {a : α} :
    ∀ {l : List α}, (∀ b ∈ l, key b < key a) → insertSorted key a l = l ++ [a]
  | [], _ => rfl
  | b :: l, h => by
    have hba := h b List.mem_cons_self
    rw [insertSorted, if_neg (lt_asymm hba), if_pos hba,
      insertSorted_of_forall_lt fun c hc => h c (List.mem_cons_of_mem b hc)]
    rfl

/-- Inserting the elements of a sorted list in its order, after elements whose keys are below
all of theirs, appends the list. -/
theorem foldl_insertSorted :
    ∀ {l acc : List α}, l.Pairwise (fun a b => key a < key b) →
      (∀ a ∈ acc, ∀ b ∈ l, key a < key b) →
      l.foldl (fun s a => insertSorted key a s) acc = acc ++ l
  | [], acc, _, _ => by simp
  | a :: l, acc, hl, hacc => by
    obtain ⟨ha, hl⟩ := List.pairwise_cons.1 hl
    have hins : insertSorted key a acc = acc ++ [a] :=
      insertSorted_of_forall_lt fun c hc => hacc c hc a List.mem_cons_self
    have hacc' : ∀ c ∈ acc ++ [a], ∀ b ∈ l, key c < key b := by
      intro c hc b hb
      rcases List.mem_append.1 hc with hc | hc
      · exact hacc c hc b (List.mem_cons_of_mem a hb)
      · rw [List.mem_singleton.1 hc]
        exact ha b hb
    rw [List.foldl_cons, hins, foldl_insertSorted hl hacc', List.append_assoc, List.singleton_append]

end Insert

/-- The empty set. -/
def empty (key : α → κ) : KeyedSet α key := ⟨[], List.Pairwise.nil⟩

variable {key : α → κ}

/-- `s.insert(a)`. -/
def insert (s : KeyedSet α key) (a : α) : KeyedSet α key :=
  ⟨insertSorted key a s.toList, pairwise_insertSorted a s.sorted⟩

/-- `s.erase(j)` for the element `j` of key `k`. -/
def erase (s : KeyedSet α key) (k : κ) : KeyedSet α key :=
  ⟨s.toList.filter fun b => key b ≠ k, s.sorted.filter _⟩

theorem eq_of_key_eq_of_pairwise :
    ∀ {l : List α}, l.Pairwise (fun a b => key a < key b) →
      ∀ {a b : α}, a ∈ l → b ∈ l → key a = key b → a = b
  | [], _, _, _, ha, _, _ => absurd ha List.not_mem_nil
  | c :: l, hs, a, b, ha, hb, h => by
    obtain ⟨hc, hl⟩ := List.pairwise_cons.1 hs
    rcases List.mem_cons.1 ha with rfl | ha' <;> rcases List.mem_cons.1 hb with rfl | hb'
    · rfl
    · have hlt := hc b hb'
      rw [h] at hlt
      exact absurd hlt (lt_irrefl _)
    · have hlt := hc a ha'
      rw [h] at hlt
      exact absurd hlt (lt_irrefl _)
    · exact eq_of_key_eq_of_pairwise hl ha' hb' h

/-- The key names the element. -/
theorem eq_of_key_eq (s : KeyedSet α key) {a b : α} (ha : a ∈ s.toList) (hb : b ∈ s.toList)
    (h : key a = key b) : a = b :=
  eq_of_key_eq_of_pairwise s.sorted ha hb h

theorem mem_insert_of_fresh (s : KeyedSet α key) {a x : α}
    (h : ∀ b ∈ s.toList, key b ≠ key a) : x ∈ (s.insert a).toList ↔ x = a ∨ x ∈ s.toList :=
  mem_insertSorted_of_fresh h

theorem mem_insert (s : KeyedSet α key) {a x : α} (h : x ∈ (s.insert a).toList) :
    x = a ∨ x ∈ s.toList :=
  mem_insertSorted h

@[simp] theorem mem_erase (s : KeyedSet α key) {k : κ} {x : α} :
    x ∈ (s.erase k).toList ↔ x ∈ s.toList ∧ key x ≠ k := by
  simp [erase]

/-- A condition that holds of `a` and only of elements of `a`'s key finds `a`. -/
theorem find?_eq_some (s : KeyedSet α key) {p : α → Bool} {a : α} (ha : a ∈ s.toList)
    (hp : p a = true) (hkey : ∀ b, p b = true → key b = key a) : s.toList.find? p = some a := by
  rcases hf : s.toList.find? p with _ | b
  · exact absurd hp (List.find?_eq_none.1 hf a ha)
  · have hb := List.mem_of_find?_eq_some hf
    rw [s.eq_of_key_eq hb ha (hkey b (List.find?_some hf))]

end KeyedSet

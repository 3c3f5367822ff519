import Mathlib

/-!
# Ordered indices of `boost::multi_index`

An `ordered_unique` or `ordered_non_unique` index keeps its elements in a red-black tree sorted by
a comparison of their keys. `ordered_index_find` descends to the last node whose key is not below
the key sought, and answers it unless the key sought is below that node's. `link_point` descends
to the leaf where a new element goes, turning left where its key is below the node's; a unique
index refuses the element when the element just before that leaf has a key that is not below
the new one. A hinted insert first tries the place just before the hint. Erasing a node puts its
successor in its place, and `replace` keeps the node where it is when the new key still fits
between its neighbours.

The trees here are `BinaryTree`s without colours: rebalancing rotates a red-black tree, which
changes its shape and never the order of its elements. Nodes are named by `ident`, as iterators
name them in the library.

The operations are correct only where the comparison is a strict weak order. Here that is said
of a set of keys `P` on which the comparison is `<` of a linear order (`Agrees`), and a search
tree is one whose elements go in strictly increasing order of their keys, all in `P`
(`Sorted`). On a search tree `find` answers the element of the key sought, a unique insert that
links its element leaves a search tree with one element more, and unlinking or replacing a node
by one of the same key and name leaves a search tree with the same names. Each is a statement
about the list of elements in order, as rebalancing would leave it.
-/

namespace BinaryTree

variable {α κ ι : Type*}

/-- The elements in the order of the tree. -/
def inorder : BinaryTree α → List α
  | nil => []
  | node v l r => l.inorder ++ v :: r.inorder

@[simp] theorem inorder_nil : (nil : BinaryTree α).inorder = [] := rfl

@[simp] theorem inorder_node (v : α) (l r : BinaryTree α) :
    (node v l r).inorder = l.inorder ++ v :: r.inorder := rfl

@[simp] theorem inorder_map {β : Type*} (f : α → β) (t : BinaryTree α) :
    (t.map f).inorder = t.inorder.map f := by
  induction t with
  | nil => rfl
  | node v l r ihl ihr => simp [map, ihl, ihr]

/-! ## Linking and unlinking nodes -/

/-- Links `v` as the first element, below the leftmost node. -/
def linkMin (v : α) : BinaryTree α → BinaryTree α
  | nil => node v nil nil
  | node w l r => node w (linkMin v l) r

/-- Links `v` as the last element, below the rightmost node. -/
def linkMax (v : α) : BinaryTree α → BinaryTree α
  | nil => node v nil nil
  | node w l r => node w l (linkMax v r)

@[simp] theorem inorder_linkMin (v : α) (t : BinaryTree α) :
    (t.linkMin v).inorder = v :: t.inorder := by
  induction t with
  | nil => rfl
  | node w l r ihl _ => simp [linkMin, ihl]

@[simp] theorem inorder_linkMax (v : α) (t : BinaryTree α) :
    (t.linkMax v).inorder = t.inorder ++ [v] := by
  induction t with
  | nil => rfl
  | node w l r _ ihr => simp [linkMax, ihr]

/-- The leftmost element of `node v l r`, and the tree without it. -/
def popMin (v : α) : BinaryTree α → BinaryTree α → α × BinaryTree α
  | nil, r => (v, r)
  | node w ll lr, r => ((popMin w ll lr).1, node v (popMin w ll lr).2 r)

theorem popMin_spec (v : α) (l r : BinaryTree α) :
    (popMin v l r).1 :: (popMin v l r).2.inorder = l.inorder ++ v :: r.inorder := by
  induction l generalizing v r with
  | nil => rfl
  | node w ll lr ihl _ =>
    simp only [popMin, inorder_node]
    rw [← List.cons_append, ihl, List.append_assoc, List.cons_append]

/-- `rebalance_for_erase` without the colours: a node with at most one child gives way to it, one
with two to its successor, the leftmost node on its right. -/
def eraseRoot (l r : BinaryTree α) : BinaryTree α :=
  match l, r with
  | nil, r => r
  | l, nil => l
  | l, node w rl rr => node (popMin w rl rr).1 l (popMin w rl rr).2

theorem inorder_eraseRoot (l r : BinaryTree α) :
    (eraseRoot l r).inorder = l.inorder ++ r.inorder := by
  match l, r with
  | nil, r => rfl
  | node v ll lr, nil => simp [eraseRoot]
  | l, node w rl rr =>
    cases l with
    | nil => rfl
    | node v ll lr =>
      simp only [eraseRoot, inorder_node]
      rw [popMin_spec]

section Position

variable (ident : α → ι) [DecidableEq ι]

/-- Links `v` just before the node named `i`: as its left child when it has none, else below the
last node of its left subtree, as `hinted_link_point` does. -/
def linkBefore (i : ι) (v : α) : BinaryTree α → BinaryTree α
  | nil => nil
  | node w l r =>
    if ident w = i then node w (l.linkMax v) r
    else node w (linkBefore i v l) (linkBefore i v r)

/-- Unlinks the first node in order named `i`. -/
def eraseAt (i : ι) : BinaryTree α → BinaryTree α
  | nil => nil
  | node w l r =>
    if l.inorder.any fun b => ident b = i then node w (eraseAt i l) r
    else if ident w = i then eraseRoot l r
    else node w l (eraseAt i r)

/-- The element of the node named `i` replaced by `v`, in place. -/
def setAt (i : ι) (v : α) (t : BinaryTree α) : BinaryTree α :=
  t.map fun b => if ident b = i then v else b

/-- The node after the one named `i`, which an iterator at `i` names once incremented (`none`:
the end). -/
def next (i : ι) (t : BinaryTree α) : Option ι :=
  let l := t.inorder
  l[l.findIdx (fun b => ident b = i) + 1]?.map ident

variable {ident}

theorem inorder_eraseAt (i : ι) (t : BinaryTree α) :
    (t.eraseAt ident i).inorder = t.inorder.eraseP fun b => ident b = i := by
  induction t with
  | nil => rfl
  | node w l r ihl ihr =>
    rw [eraseAt, inorder_node, List.eraseP_append]
    split_ifs with hl hw
    · rw [inorder_node, ihl]
    · rw [inorder_eraseRoot, List.eraseP_cons_of_pos (by simpa using hw)]
    · rw [inorder_node, ihr, List.eraseP_cons_of_neg (by simpa using hw)]

/-- Linking before a name no node has changes nothing. -/
theorem linkBefore_of_forall_ne {i : ι} (v : α) :
    ∀ {t : BinaryTree α}, (∀ b ∈ t.inorder, ident b ≠ i) → t.linkBefore ident i v = t
  | nil, _ => rfl
  | node w l r, h => by
    simp only [inorder_node, List.mem_append, List.mem_cons] at h
    rw [linkBefore, if_neg (h w (.inr (.inl rfl))),
      linkBefore_of_forall_ne v fun b hb => h b (.inl hb),
      linkBefore_of_forall_ne v fun b hb => h b (.inr (.inr hb))]

/-- Where nodes have distinct names, `hinted_link_point` puts `v` just before the node named `i`. -/
theorem linkBefore_split {i : ι} (v : α) :
    ∀ {t : BinaryTree α}, (t.inorder.map ident).Nodup → (∃ b ∈ t.inorder, ident b = i) →
      ∃ l₁ w l₂, t.inorder = l₁ ++ w :: l₂ ∧ ident w = i ∧ (∀ a ∈ l₁, ident a ≠ i) ∧
        (t.linkBefore ident i v).inorder = l₁ ++ v :: w :: l₂
  | nil, _, ⟨_, hb, _⟩ => by simp at hb
  | node w l r, hnodup, hi => by
    rw [inorder_node, List.map_append, List.map_cons, List.nodup_append, List.nodup_cons] at hnodup
    obtain ⟨hl, ⟨hw, hr⟩, hdisj⟩ := hnodup
    -- a name in one part of the tree is in no other part
    have hnotl : ∀ a ∈ l.inorder, ident a = i → ∀ b ∈ w :: r.inorder, ident b ≠ i :=
      fun a ha hai b hb hbi => hdisj _ (List.mem_map_of_mem ha) _ (List.mem_map_of_mem hb)
        (hai.trans hbi.symm)
    by_cases hwi : ident w = i
    · have hl' : ∀ a ∈ l.inorder, ident a ≠ i := fun a ha hai =>
        hnotl a ha hai w (by simp) hwi
      refine ⟨l.inorder, w, r.inorder, rfl, hwi, hl', ?_⟩
      simp [linkBefore, hwi]
    · rw [linkBefore, if_neg hwi]
      by_cases hil : ∃ a ∈ l.inorder, ident a = i
      · obtain ⟨a, ha, hai⟩ := hil
        obtain ⟨l₁, w', l₂, hsplit, hw'i, hl₁, hlink⟩ := linkBefore_split v hl ⟨a, ha, hai⟩
        have hr' : ∀ b ∈ r.inorder, ident b ≠ i := fun b hb => hnotl a ha hai b (by simp [hb])
        refine ⟨l₁, w', l₂ ++ w :: r.inorder, by simp [hsplit], hw'i, hl₁, ?_⟩
        rw [inorder_node, hlink, linkBefore_of_forall_ne v hr']
        simp
      · simp only [not_exists, not_and] at hil
        have hir : ∃ b ∈ r.inorder, ident b = i := by
          obtain ⟨b, hb, hbi⟩ := hi
          simp only [inorder_node, List.mem_append, List.mem_cons] at hb
          rcases hb with hb | rfl | hb
          · exact absurd hbi (hil b hb)
          · exact absurd hbi hwi
          · exact ⟨b, hb, hbi⟩
        obtain ⟨r₁, w', r₂, hsplit, hw'i, hr₁, hlink⟩ := linkBefore_split v hr hir
        refine ⟨l.inorder ++ w :: r₁, w', r₂, by simp [hsplit], hw'i, ?_, ?_⟩
        · intro a ha
          simp only [List.mem_append, List.mem_cons] at ha
          rcases ha with ha | rfl | ha
          · exact hil a ha
          · exact hwi
          · exact hr₁ a ha
        · rw [inorder_node, hlink, linkBefore_of_forall_ne v hil]
          simp

end Position

/-! ## Descents under a comparison -/

/-- What an insert into a unique index gives: the tree with the element linked, or the element
already there whose key refuses it. -/
inductive Linked (α : Type*) where
  | ok (t : BinaryTree α)
  | dup (existing : α)

section Descent

variable (comp : κ → κ → Bool) (key : α → κ)

/-- The descent of `ordered_index_find`: the last node whose key is not below `x`. -/
def lowerBound (x : κ) : BinaryTree α → Option α
  | nil => none
  | node v l r => if comp (key v) x then lowerBound x r else (lowerBound x l).or (some v)

/-- `ordered_index_find`: the node the descent ends on, unless `x` is below its key. -/
def find (x : κ) (t : BinaryTree α) : Option α :=
  (t.lowerBound comp key x).filter fun y => !comp x (key y)

/-- The descent of `link_point`: the tree with `v` linked at the leaf it reaches, turning left
where the key of `v` is below the node's, and the last node where it turned right, the element
just before the leaf. -/
def linkAt (v : α) : BinaryTree α → BinaryTree α × Option α
  | nil => (node v nil nil, none)
  | node w l r =>
    if comp (key v) (key w) then (node w (linkAt v l).1 r, (linkAt v l).2)
    else (node w l (linkAt v r).1, (linkAt v r).2.or (some w))

/-- `insert` into an `ordered_unique` index: `link_point` refuses `v` when the element just before
its leaf has a key that is not below `v`'s. -/
def insertUnique (v : α) (t : BinaryTree α) : Linked α :=
  match (t.linkAt comp key v).2 with
  | some p => if comp (key p) (key v) then .ok (t.linkAt comp key v).1 else .dup p
  | none => .ok (t.linkAt comp key v).1

/-- `insert` into an `ordered_non_unique` index, which links every element. -/
def insertEqual (v : α) (t : BinaryTree α) : BinaryTree α := (t.linkAt comp key v).1

variable (ident : α → ι) [DecidableEq ι]

/-- `insert(position, v)` into an `ordered_unique` index (`hinted_link_point`), the hint being the
node named `i` or the end: `v` goes just before the hint when its key falls between the hint's
and its predecessor's, and through `link_point` otherwise. -/
def hintedInsertUnique (hint : Option ι) (v : α) (t : BinaryTree α) : Linked α :=
  let l := t.inorder
  match hint with
  | none =>
    match l.getLast? with
    | some m => if comp (key m) (key v) then .ok (t.linkMax v) else t.insertUnique comp key v
    | none => t.insertUnique comp key v
  | some i =>
    match l.findIdx (fun b => ident b = i), l.find? (fun b => ident b = i) with
    | 0, some w => if comp (key v) (key w) then .ok (t.linkMin v) else t.insertUnique comp key v
    | k + 1, some w =>
      if (l[k]?.all fun b => comp (key b) (key v)) && comp (key v) (key w) then
        .ok (t.linkBefore ident i v)
      else t.insertUnique comp key v
    | _, none => t.insertUnique comp key v

/-- `in_place` of an `ordered_unique` index: the key of `v` is above the key of the element before
the node named `i`, and below the key of the element after it. -/
def inPlace (i : ι) (v : α) (t : BinaryTree α) : Bool :=
  let l := t.inorder
  let k := l.findIdx fun b => ident b = i
  (k == 0 || l[k - 1]?.all fun b => comp (key b) (key v)) &&
    l[k + 1]?.all fun b => comp (key v) (key b)

/-- `in_place` of an `ordered_non_unique` index: the key of `v` is not below the key of the element
before the node named `i`, and the key of the element after it is not below `v`'s. -/
def inPlaceEqual (i : ι) (v : α) (t : BinaryTree α) : Bool :=
  let l := t.inorder
  let k := l.findIdx fun b => ident b = i
  (k == 0 || l[k - 1]?.all fun b => !comp (key v) (key b)) &&
    l[k + 1]?.all fun b => !comp (key b) (key v)

/-- `replace_` of an `ordered_unique` index at the node named `i`: in place when the key of `v`
fits there, else the node is unlinked and linked again where `link_point` puts `v`; when
`link_point` refuses it the node is restored and the replace fails. -/
def replaceUnique (i : ι) (v : α) (t : BinaryTree α) : Option (BinaryTree α) :=
  if t.inPlace comp key ident i v then some (t.setAt ident i v)
  else match (t.eraseAt ident i).insertUnique comp key v with
    | .ok t' => some t'
    | .dup _ => none

/-- `replace_` of an `ordered_non_unique` index at the node named `i`, which never fails. -/
def replaceEqual (i : ι) (v : α) (t : BinaryTree α) : BinaryTree α :=
  if t.inPlaceEqual comp key ident i v then t.setAt ident i v
  else (t.eraseAt ident i).insertEqual comp key v

end Descent

/-! ## Search trees over an order of the keys -/

section Sorted

variable {β : Type*} [LinearOrder β] (key : α → κ) (ord : κ → β)

/-- The comparison of an index is `<` of `ord` on the keys `P` admits: the strict weak order the
library asks for, on those keys. -/
def Agrees (comp : κ → κ → Bool) (P : κ → Prop) : Prop :=
  ∀ x y, P x → P y → (comp x y = true ↔ ord x < ord y)

/-- A search tree: its elements go in strictly increasing `ord` of their keys, all of which `P`
admits. -/
structure Sorted (P : κ → Prop) (t : BinaryTree α) : Prop where
  pairwise : t.inorder.Pairwise fun a b => ord (key a) < ord (key b)
  mem : ∀ a ∈ t.inorder, P (key a)

variable {key ord} {P : κ → Prop}

theorem Agrees.eq_false_iff {comp : κ → κ → Bool} (hc : Agrees ord comp P) {x y : κ} (hx : P x)
    (hy : P y) : comp x y = false ↔ ord y ≤ ord x := by
  rw [← Bool.not_eq_true, hc x y hx hy, not_lt]

theorem Sorted.of_sublist {t t' : BinaryTree α} (hs : Sorted key ord P t)
    (h : t'.inorder.Sublist t.inorder) : Sorted key ord P t' :=
  ⟨hs.pairwise.sublist h, fun a ha => hs.mem a (h.subset ha)⟩

/-- The keys of a search tree tell its elements apart. -/
theorem Sorted.eq_of_ord_eq {t : BinaryTree α} (hs : Sorted key ord P t) {a b : α}
    (ha : a ∈ t.inorder) (hb : b ∈ t.inorder) (h : ord (key a) = ord (key b)) : a = b := by
  have hnodup : (t.inorder.map fun a => ord (key a)).Nodup :=
    (List.pairwise_map.2 hs.pairwise).nodup
  exact List.inj_on_of_nodup_map hnodup ha hb h

/-- A search tree splits at its root into the search trees below it, one on each side. -/
theorem Sorted.node {v : α} {l r : BinaryTree α} (hs : Sorted key ord P (node v l r)) :
    Sorted key ord P l ∧ Sorted key ord P r ∧ P (key v) ∧
      (∀ a ∈ l.inorder, ord (key a) < ord (key v)) ∧
      ∀ b ∈ r.inorder, ord (key v) < ord (key b) := by
  obtain ⟨hp, hm⟩ := hs
  simp only [inorder_node, List.pairwise_append, List.pairwise_cons, List.mem_cons] at hp
  obtain ⟨hl, ⟨hv, hr⟩, hcross⟩ := hp
  have hmem : ∀ a, a ∈ l.inorder ∨ a = v ∨ a ∈ r.inorder → P (key a) := fun a ha =>
    hm a (by simpa using ha)
  exact ⟨⟨hl, fun a ha => hmem a (.inl ha)⟩, ⟨hr, fun a ha => hmem a (.inr (.inr ha))⟩,
    hmem v (.inr (.inl rfl)), fun a ha => hcross a ha v (.inl rfl), hv⟩

/-- An element linked between the elements below its key and those above it leaves a search
tree with one element more. -/
theorem Sorted.link {t t' : BinaryTree α} (hs : Sorted key ord P t) {v : α} (hv : P (key v))
    {l₁ l₂ : List α} (hsplit : t.inorder = l₁ ++ l₂) (ht' : t'.inorder = l₁ ++ v :: l₂)
    (hbelow : ∀ a ∈ l₁, ord (key a) < ord (key v)) (habove : ∀ b ∈ l₂, ord (key v) < ord (key b)) :
    Sorted key ord P t' ∧ t'.inorder.Perm (v :: t.inorder) := by
  have hpw := hs.pairwise
  rw [hsplit, List.pairwise_append] at hpw
  refine ⟨⟨?_, fun a ha => ?_⟩, ht' ▸ hsplit ▸ List.perm_middle⟩
  · rw [ht', List.pairwise_append, List.pairwise_cons]
    refine ⟨hpw.1, ⟨habove, hpw.2.1⟩, fun a ha b hb => ?_⟩
    rcases List.mem_cons.1 hb with rfl | hb
    · exact hbelow a ha
    · exact hpw.2.2 a ha b hb
  · rw [ht', List.mem_append, List.mem_cons] at ha
    rcases ha with ha | rfl | ha
    · exact hs.mem a (hsplit ▸ List.mem_append_left _ ha)
    · exact hv
    · exact hs.mem a (hsplit ▸ List.mem_append_right _ ha)

section Find

variable {comp : κ → κ → Bool} (hc : Agrees ord comp P) {x : κ} (hx : P x)
include hc hx

/-- On a search tree the descent of `ordered_index_find` ends on the first element whose key is
not below `x`. -/
theorem lowerBound_eq_find? :
    ∀ {t : BinaryTree α}, Sorted key ord P t →
      t.lowerBound comp key x = t.inorder.find? fun v => !comp (key v) x
  | nil, _ => rfl
  | node v l r, hs => by
    obtain ⟨hl, hr, hv, hlv, _⟩ := hs.node
    rw [lowerBound, inorder_node, List.find?_append, List.find?_cons]
    by_cases hvx : comp (key v) x = true
    · -- the root and everything on its left are below `x`
      have hnone : (l.inorder.find? fun v => !comp (key v) x) = none := by
        refine List.find?_eq_none.2 fun a ha => ?_
        have hax : ord (key a) < ord x := (hlv a ha).trans ((hc _ _ hv hx).1 hvx)
        simpa using (hc _ _ (hl.mem a ha) hx).2 hax
      simp [hvx, hnone, lowerBound_eq_find? hr]
    · simp [hvx, lowerBound_eq_find? hl]

/-- On a search tree `ordered_index_find` answers the element whose key is equivalent to `x`. -/
theorem find_eq_some_iff {t : BinaryTree α} (hs : Sorted key ord P t) {a : α} :
    t.find comp key x = some a ↔ a ∈ t.inorder ∧ ord (key a) = ord x := by
  rw [find, lowerBound_eq_find? hc hx hs, Option.filter_eq_some_iff]
  constructor
  · rintro ⟨hfind, hq⟩
    have hp := List.find?_some hfind
    have hmem := List.mem_of_find?_eq_some hfind
    have hge : ord x ≤ ord (key a) := (hc.eq_false_iff (hs.mem a hmem) hx).1 (by simpa using hp)
    have hle : ord (key a) ≤ ord x := (hc.eq_false_iff hx (hs.mem a hmem)).1 (by simpa using hq)
    exact ⟨hmem, le_antisymm hle hge⟩
  · rintro ⟨hmem, heq⟩
    have ha := hs.mem a hmem
    obtain ⟨as, bs, hsplit⟩ := List.append_of_mem hmem
    have hp : comp (key a) x = false := (hc.eq_false_iff ha hx).2 heq.ge
    have hq : comp x (key a) = false := (hc.eq_false_iff hx ha).2 heq.le
    refine ⟨List.find?_eq_some_iff_append.2 ⟨by simp [hp], as, bs, hsplit, ?_⟩, by simp [hq]⟩
    -- everything before `a` has a smaller key, so it is below `x`
    intro b hb
    have hpw := hs.pairwise
    rw [hsplit, List.pairwise_append] at hpw
    have hbx : ord (key b) < ord x := heq ▸ hpw.2.2 b hb a (by simp)
    have hbm : b ∈ t.inorder := hsplit ▸ List.mem_append_left _ hb
    simpa using (hc _ _ (hs.mem b hbm) hx).2 hbx

theorem find_eq_none_iff {t : BinaryTree α} (hs : Sorted key ord P t) :
    t.find comp key x = none ↔ ∀ a ∈ t.inorder, ord (key a) ≠ ord x := by
  rw [Option.eq_none_iff_forall_ne_some]
  simp only [ne_eq, find_eq_some_iff hc hx hs, not_and]

end Find

section Link

variable {comp : κ → κ → Bool} (hc : Agrees ord comp P) {v : α} (hv : P (key v))
include hc hv

/-- `link_point` on a search tree puts `v` after the elements whose keys are not above its own
and before those above it, and reports the last of the first ones. -/
theorem linkAt_split : ∀ {t : BinaryTree α}, Sorted key ord P t →
    ∃ l₁ l₂, t.inorder = l₁ ++ l₂ ∧ (t.linkAt comp key v).1.inorder = l₁ ++ v :: l₂ ∧
      (t.linkAt comp key v).2 = l₁.getLast? ∧ (∀ a ∈ l₁, ord (key a) ≤ ord (key v)) ∧
      ∀ b ∈ l₂, ord (key v) < ord (key b)
  | nil, _ => ⟨[], [], rfl, rfl, rfl, by simp, by simp⟩
  | node w l r, hs => by
    obtain ⟨hl, hr, hw, hlw, hwr⟩ := hs.node
    by_cases hvw : comp (key v) (key w) = true
    · -- `v` goes to the left of `w`, before `w` and everything on its right
      have hlt : ord (key v) < ord (key w) := (hc _ _ hv hw).1 hvw
      obtain ⟨l₁, l₂, hsplit, hlink, hlast, hle, hgt⟩ := linkAt_split hl
      refine ⟨l₁, l₂ ++ w :: r.inorder, by simp [hsplit], ?_, ?_, hle, ?_⟩
      · simp [linkAt, hvw, hlink]
      · simp [linkAt, hvw, hlast]
      · intro b hb
        simp only [List.mem_append, List.mem_cons] at hb
        rcases hb with hb | rfl | hb
        · exact hgt b hb
        · exact hlt
        · exact hlt.trans (hwr b hb)
    · -- `v` goes to the right of `w`, after everything on its left and `w` itself
      have hge : ord (key w) ≤ ord (key v) := (hc.eq_false_iff hv hw).1 (by simpa using hvw)
      obtain ⟨r₁, r₂, hsplit, hlink, hlast, hle, hgt⟩ := linkAt_split hr
      refine ⟨l.inorder ++ w :: r₁, r₂, by simp [hsplit], ?_, ?_, ?_, hgt⟩
      · simp [linkAt, hvw, hlink]
      · simp only [linkAt, hvw, Bool.false_eq_true, if_false, hlast, List.getLast?_append,
          List.getLast?_cons]
        cases r₁.getLast? <;> simp
      · intro a ha
        simp only [List.mem_append, List.mem_cons] at ha
        rcases ha with ha | rfl | ha
        · exact (hlw a ha).le.trans hge
        · exact hge
        · exact hle a ha

omit hc hv in
/-- In a list sorted by increasing keys, a key above the last element's is above them all. -/
theorem lt_of_getLast?_lt {l : List α} (hl : l.Pairwise fun a b => ord (key a) < ord (key b))
    {p x : α} (hp : l.getLast? = some p) (hpx : ord (key p) < ord (key x)) :
    ∀ a ∈ l, ord (key a) < ord (key x) := by
  have hsplit := List.dropLast_append_getLast? p hp
  rw [← hsplit, List.pairwise_append] at hl
  intro a ha
  rw [← hsplit, List.mem_append, List.mem_singleton] at ha
  rcases ha with ha | rfl
  · exact (hl.2.2 a ha p (by simp)).trans hpx
  · exact hpx

omit hc hv in
/-- In a list sorted by increasing keys, a key below the first element's is below them all. -/
theorem lt_of_lt_head {w x : α} {l : List α}
    (hl : (w :: l).Pairwise fun a b => ord (key a) < ord (key b))
    (hxw : ord (key x) < ord (key w)) : ∀ b ∈ w :: l, ord (key x) < ord (key b) := by
  intro b hb
  rcases List.mem_cons.1 hb with rfl | hb
  · exact hxw
  · exact hxw.trans (List.rel_of_pairwise_cons hl hb)

/-- An insert into a unique index of a search tree that links `v` leaves a search tree, with
`v` added to the elements. -/
theorem insertUnique_ok {t t' : BinaryTree α} (hs : Sorted key ord P t)
    (h : t.insertUnique comp key v = .ok t') :
    Sorted key ord P t' ∧ t'.inorder.Perm (v :: t.inorder) := by
  obtain ⟨l₁, l₂, hsplit, hlink, hlast, -, hgt⟩ := linkAt_split hc hv hs
  -- the element before the leaf, if any, is below `v`, and so is everything before it
  have hbelow : ∀ a ∈ l₁, ord (key a) < ord (key v) := by
    unfold insertUnique at h
    rw [hlast] at h
    cases hp : l₁.getLast? with
    | none => simp [List.getLast?_eq_none_iff.1 hp]
    | some p =>
      rw [hp] at h
      by_cases hpv : comp (key p) (key v) = true
      · have hpl : p ∈ l₁ := List.mem_of_getLast? hp
        have hl₁ := hs.pairwise
        rw [hsplit, List.pairwise_append] at hl₁
        exact lt_of_getLast?_lt hl₁.1 hp
          ((hc _ _ (hs.mem p (hsplit ▸ List.mem_append_left _ hpl)) hv).1 hpv)
      · simp [hpv] at h
  have ht' : t'.inorder = l₁ ++ v :: l₂ := by
    unfold insertUnique at h
    split at h
    · split at h
      · cases h
        exact hlink
      · cases h
    · cases h
      exact hlink
  exact hs.link hv hsplit ht' hbelow hgt

variable (ident : α → ι) [DecidableEq ι]

/-- A hinted insert into a unique index of a search tree whose nodes have distinct names that
links `v` leaves a search tree, with `v` added to the elements. -/
theorem hintedInsertUnique_ok {t t' : BinaryTree α} (hs : Sorted key ord P t)
    (hnodup : (t.inorder.map ident).Nodup) {hint : Option ι}
    (h : t.hintedInsertUnique comp key ident hint v = .ok t') :
    Sorted key ord P t' ∧ t'.inorder.Perm (v :: t.inorder) := by
  unfold hintedInsertUnique at h
  cases hint with
  | none =>
    dsimp only at h
    split at h
    · next m hm =>
      split_ifs at h with hmv
      · -- after the last element
        cases h
        have hmem : m ∈ t.inorder := List.mem_of_getLast? hm
        have hmv' : ord (key m) < ord (key v) := (hc _ _ (hs.mem m hmem) hv).1 hmv
        exact hs.link hv (List.append_nil _).symm (inorder_linkMax v t)
          (lt_of_getLast?_lt hs.pairwise hm hmv') (by simp)
      · exact insertUnique_ok hc hv hs h
    · exact insertUnique_ok hc hv hs h
  | some i =>
    dsimp only at h
    split at h
    · next w hidx hw =>
      split_ifs at h with hvw
      · -- before the first element, which is the hint
        cases h
        have h0 : t.inorder.head? = some w := by
          rw [List.head?_eq_getElem?, ← hidx, ← List.find?_eq_getElem?_findIdx]
          exact hw
        obtain ⟨rest, hrest⟩ := List.head?_eq_some_iff.1 h0
        have hwm : w ∈ t.inorder := by simp [hrest]
        have hvw' : ord (key v) < ord (key w) := (hc _ _ hv (hs.mem w hwm)).1 hvw
        refine hs.link hv (List.nil_append _).symm (inorder_linkMin v t) (by simp) ?_
        rw [hrest]
        exact lt_of_lt_head (hrest ▸ hs.pairwise) hvw'
      · exact insertUnique_ok hc hv hs h
    · next k w hidx hw =>
      split_ifs at h with hcond
      · -- between the hint and the element before it
        cases h
        rw [Bool.and_eq_true] at hcond
        obtain ⟨hprev, hvw⟩ := hcond
        obtain ⟨l₁, w', l₂, hsplit, hw'i, hl₁, hlink⟩ :=
          linkBefore_split v hnodup ⟨w, List.mem_of_find?_eq_some hw, by
            simpa using List.find?_some hw⟩
        -- the hint is the first node of its name, `k + 1` elements in
        have hw' : w = w' := by
          have h' : t.inorder.find? (fun b => ident b = i) = some w' := by
            rw [List.find?_eq_some_iff_append]
            exact ⟨by simpa using hw'i, l₁, l₂, hsplit, fun a ha => by simpa using hl₁ a ha⟩
          exact Option.some.inj (hw.symm.trans h')
        subst hw'
        have hlen : l₁.length = k + 1 := by
          have hidx' : t.inorder.findIdx (fun b => ident b = i) = l₁.length := by
            rw [hsplit, List.findIdx_append, List.findIdx_eq_length_of_false
              (fun a ha => by simpa using hl₁ a ha), if_neg (lt_irrefl _), List.findIdx_cons]
            simp [hw'i]
          rw [← hidx', hidx]
        have hpw := hs.pairwise
        rw [hsplit, List.pairwise_append] at hpw
        have hwm : w ∈ t.inorder := by simp [hsplit]
        have hvw' : ord (key v) < ord (key w) := (hc _ _ hv (hs.mem w hwm)).1 hvw
        -- the element before the hint is the last of `l₁`, below `v`
        obtain ⟨p, hp⟩ : ∃ p, l₁.getLast? = some p :=
          Option.isSome_iff_exists.1 (List.getLast?_isSome.2 (List.ne_nil_of_length_eq_add_one hlen))
        have hpk : t.inorder[k]? = some p := by
          rw [hsplit, List.getElem?_append_left (by omega), ← hp, List.getLast?_eq_getElem?, hlen]
          rfl
        rw [hpk] at hprev
        have hpm : p ∈ t.inorder := List.mem_of_getElem? hpk
        have hpv : ord (key p) < ord (key v) :=
          (hc _ _ (hs.mem p hpm) hv).1 (by simpa using hprev)
        exact hs.link hv hsplit hlink (lt_of_getLast?_lt hpw.1 hp hpv) (lt_of_lt_head hpw.2.1 hvw')
      · exact insertUnique_ok hc hv hs h
    · exact insertUnique_ok hc hv hs h

end Link

section Replace

variable (ident : α → ι) [DecidableEq ι]

/-- Where nodes have distinct names, unlinking the node named `i` leaves no node of that name. -/
theorem ne_of_mem_eraseP {i : ι} : ∀ {l : List α}, (l.map ident).Nodup → ∀ {b : α},
    b ∈ (l.eraseP fun a => ident a = i) → ident b ≠ i
  | [], _, _, hb => by simp at hb
  | a :: l, hnodup, b, hb => by
    rw [List.map_cons, List.nodup_cons] at hnodup
    by_cases ha : ident a = i
    · -- the first node is the one named `i`, and no later node shares its name
      rw [List.eraseP_cons_of_pos (by simpa using ha)] at hb
      intro hbi
      exact hnodup.1 (ha ▸ hbi ▸ List.mem_map_of_mem hb)
    · rw [List.eraseP_cons_of_neg (by simpa using ha), List.mem_cons] at hb
      rcases hb with rfl | hb
      · exact ha
      · exact ne_of_mem_eraseP hnodup.2 hb

/-- Unlinking the node named `i` and linking a node of that name again gives the same names. -/
theorem perm_map_eraseP {i : ι} {l : List α} (hi : ∃ b ∈ l, ident b = i) :
    (i :: (l.eraseP fun a => ident a = i).map ident).Perm (l.map ident) := by
  obtain ⟨b, hb, hbi⟩ := hi
  obtain ⟨a, l₁, l₂, -, hpa, rfl, heq⟩ :=
    List.exists_of_eraseP (p := fun a => decide (ident a = i)) hb (by simpa using hbi)
  have hai : ident a = i := by simpa using hpa
  rw [heq, ← hai, List.map_append, List.map_append, List.map_cons]
  exact List.perm_middle.symm

/-- Replacing the element of the nodes named `i` in place by one of the same key keeps a search
tree. -/
theorem Sorted.setAt {t : BinaryTree α} {i : ι} {v : α} (hs : Sorted key ord P t)
    (hv : P (key v)) (hsame : ∀ b ∈ t.inorder, ident b = i → ord (key b) = ord (key v)) :
    Sorted key ord P (t.setAt ident i v) := by
  have hkey : ∀ b ∈ t.inorder,
      ord (key (if ident b = i then v else b)) = ord (key b) := fun b hb => by
    split_ifs with hbi
    · exact (hsame b hb hbi).symm
    · rfl
  refine ⟨?_, fun a ha => ?_⟩
  · rw [BinaryTree.setAt, inorder_map, List.pairwise_map]
    exact hs.pairwise.imp_of_mem fun ha hb hab => by rwa [hkey _ ha, hkey _ hb]
  · rw [BinaryTree.setAt, inorder_map, List.mem_map] at ha
    obtain ⟨b, hb, rfl⟩ := ha
    split_ifs
    · exact hv
    · exact hs.mem b hb

/-- `replace_` of a unique index on a search tree, of a node by an element of the same key and
name: a search tree again, with the same names, holding `v` and elements it held. -/
theorem replaceUnique_some {comp : κ → κ → Bool} (hc : Agrees ord comp P)
    {t t' : BinaryTree α} {i : ι} {v : α} (hs : Sorted key ord P t) (hv : P (key v))
    (hid : ident v = i) (hi : ∃ b ∈ t.inorder, ident b = i)
    (hsame : ∀ b ∈ t.inorder, ident b = i → ord (key b) = ord (key v))
    (h : t.replaceUnique comp key ident i v = some t') :
    Sorted key ord P t' ∧ (t'.inorder.map ident).Perm (t.inorder.map ident) ∧
      ∀ a ∈ t'.inorder, a = v ∨ a ∈ t.inorder := by
  unfold replaceUnique at h
  split_ifs at h
  · -- in place: every node keeps its name
    cases h
    refine ⟨hs.setAt ident hv hsame, ?_, fun a ha => ?_⟩
    · rw [setAt, inorder_map, List.map_map]
      refine List.Perm.of_eq (List.map_congr_left fun b _ => ?_)
      by_cases hbi : ident b = i <;> simp [hbi, hid]
    · rw [setAt, inorder_map, List.mem_map] at ha
      obtain ⟨b, hb, rfl⟩ := ha
      split_ifs
      · exact .inl rfl
      · exact .inr hb
  · -- unlinked, then linked again where `link_point` puts `v`
    split at h
    · next t'' hins =>
      cases h
      have hsub : (t.eraseAt ident i).inorder.Sublist t.inorder := by
        rw [inorder_eraseAt]
        exact List.eraseP_sublist
      obtain ⟨hsorted, hperm⟩ := insertUnique_ok hc hv (hs.of_sublist hsub) hins
      refine ⟨hsorted, (hperm.map ident).trans ?_, fun a ha => ?_⟩
      · rw [inorder_eraseAt, List.map_cons, hid]
        exact perm_map_eraseP ident hi
      · rcases List.mem_cons.1 (hperm.subset ha) with rfl | ha
        · exact .inl rfl
        · exact .inr (hsub.subset ha)
    · cases h

end Replace

end Sorted

end BinaryTree

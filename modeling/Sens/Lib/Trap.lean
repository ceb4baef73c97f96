import Mathlib.Data.List.Basic

/-!
# Computations that may trap

A Swift process stops at a forced unwrap of `nil`, a failed forced cast, an index
out of range or an exception that nobody catches. `Swift σ` is a computation on a
state `σ` that may stop so; the state it had reached then is kept. `focus` runs a
computation on a part of a larger state.
-/

/-- Why a process stops. -/
inductive Trap
  | unexpectedNil
  | failedCast
  | indexOutOfRange
  | invalidArgument
deriving DecidableEq, Repr

abbrev Swift (σ : Type) := EStateM Trap σ

namespace Swift

open EStateM (Result)

variable {σ ρ α β : Type}

/-- `x!`, and the use of an implicitly unwrapped optional. -/
def unwrap : Option α → Swift σ α
  | some a => pure a
  | none => throw .unexpectedNil

/-- `xs[i]`. -/
def index (xs : List α) (i : ℕ) : Swift σ α :=
  match xs[i]? with
  | some a => pure a
  | none => throw .indexOutOfRange

/-- `xs.remove(at: i)`. -/
def removeAt (xs : List α) (i : ℕ) : Swift σ (List α) :=
  if i < xs.length then pure (xs.eraseIdx i) else throw .indexOutOfRange

/-- Runs `x` on the part `get s` of the state. -/
def focus (get : σ → ρ) (put : ρ → σ → σ) (x : Swift ρ α) : Swift σ α := fun s =>
  match x.run (get s) with
  | .ok a r => .ok a (put r s)
  | .error t r => .error t (put r s)

/-- Runs `x` on a state of its own, and returns that state. -/
def runOn (x : Swift ρ Unit) (r : ρ) : Swift σ ρ :=
  match x.run r with
  | .ok _ r' => pure r'
  | .error t _ => throw t

/-- The computation returns, from the state `s`. -/
def Completes (x : Swift σ α) (s : σ) : Prop := ∃ a s', x.run s = .ok a s'

@[simp] theorem run_unwrap_some (a : α) (s : σ) : (unwrap (some a)).run s = .ok a s := rfl

@[simp] theorem run_unwrap_none (s : σ) :
    (unwrap (none : Option α)).run s = .error .unexpectedNil s := rfl

theorem run_index_of_getElem? {xs : List α} {i : ℕ} {a : α} (h : xs[i]? = some a) (s : σ) :
    (index xs i).run s = .ok a s := by
  unfold index; rw [h]; rfl

theorem run_index_of_none {xs : List α} {i : ℕ} (h : xs[i]? = none) (s : σ) :
    (index xs i).run s = .error .indexOutOfRange s := by
  unfold index; rw [h]; rfl

@[simp] theorem run_throw (t : Trap) (s : σ) : (throw t : Swift σ α).run s = .error t s := rfl

@[simp] theorem run_map (f : α → β) (x : Swift σ α) (s : σ) :
    (f <$> x).run s = match x.run s with
      | .ok a s' => .ok (f a) s'
      | .error t s' => .error t s' := by
  simp only [Functor.map, EStateM.map, EStateM.run]
  cases x s <;> rfl

@[simp] theorem run_focus (get : σ → ρ) (put : ρ → σ → σ) (x : Swift ρ α) (s : σ) :
    (focus get put x).run s = match x.run (get s) with
      | .ok a r => .ok a (put r s)
      | .error t r => .error t (put r s) := rfl

theorem run_runOn_of_ok {x : Swift ρ Unit} {r r' : ρ} (h : x.run r = .ok () r') (s : σ) :
    (runOn x r).run s = .ok r' s := by
  unfold runOn; rw [h]; rfl

theorem run_runOn_of_error {x : Swift ρ Unit} {r r' : ρ} {t : Trap} (h : x.run r = .error t r') (s : σ) :
    (runOn x r : Swift σ ρ).run s = .error t s := by
  unfold runOn; rw [h]; rfl

/-- A sequence that returns ran both of its parts. -/
theorem bind_eq_ok {x : Swift σ α} {f : α → Swift σ β} {s s' : σ} {b : β}
    (h : (x >>= f).run s = .ok b s') : ∃ a u, x.run s = .ok a u ∧ (f a).run u = .ok b s' := by
  rw [EStateM.run_bind] at h
  cases hx : x.run s with
  | ok a u => rw [hx] at h; exact ⟨a, u, rfl, h⟩
  | error t u => rw [hx] at h; cases h

/-! Where a computation completes, from its parts. -/

theorem completes_focus {get : σ → ρ} {put : ρ → σ → σ} {x : Swift ρ α} {s : σ} :
    (focus get put x).Completes s ↔ x.Completes (get s) := by
  simp only [Completes, run_focus]
  cases hx : x.run (get s) <;> simp

theorem completes_modify_bind {f : σ → σ} {x : Swift σ α} {s : σ} :
    (modify f >>= fun _ => x).Completes s ↔ x.Completes (f s) := by
  simp only [Completes, EStateM.run_bind, EStateM.run_modify]

/-- What comes after `x` does not matter, if it completes from every state. -/
theorem completes_bind {x : Swift σ α} {f : α → Swift σ β} {s : σ} (hf : ∀ a u, (f a).Completes u) :
    (x >>= f).Completes s ↔ x.Completes s := by
  simp only [Completes, EStateM.run_bind]
  cases hx : x.run s with
  | ok a u =>
    obtain ⟨b, v, hb⟩ := hf a u
    simp [hb]
  | error t u => simp

end Swift

import Sens.Proof.Lifecycle
import Sens.Proof.Stops

/-!
# How a profile is lost

* `Stops`, `stops_iff`: the events that end the process of a device.
* `Loses`: a process ends with the answer of the sign-up, or a write is dropped.
* `profile_lost_iff`: a profile is lost just when some event of the run lost it.
-/

namespace Sens

namespace Accounts

open Custody

variable {F : Foundation} {w w' : Accounts} {e : AccountsEvent} {es : List AccountsEvent} {uid : String}

/-! ## Where a process ends -/

/-- The events on which the process of their device ends: a restart, a valid form without a date,
and what the home screen stops on. -/
def Stops (F : Foundation) (w : Accounts) : AccountsEvent → Bool
  | .restarted _ => true
  | .signInButton device form => (w.devices device).app.isNone &&
      ((form.validateFields F).isNone && (F.date form.dateTextField).isNone)
  | .app device e => (w.devices device).app.any fun a =>
      a.Deliverable e && w.Answers device a e && a.Stops e
  | _ => false

/-- The tag cells of every home screen have the indices of their places. -/
def CellsOK (w : Accounts) : Prop :=
  ∀ device a, (w.devices device).app = some a → ∀ c, a.addFeeling = some c → c.CellsOK

theorem Effect.cellsOK (hc : w.CellsOK) (he : Effect F w e w') : w'.CellsOK := by
  -- a home screen stays as it is, is new, or takes an event
  have hset : ∀ (accounts : Accounts) device d, accounts.devices = w.devices →
      (∀ a, d.app = some a → ∀ c, a.addFeeling = some c → c.CellsOK) →
      (accounts.setDevice device d).CellsOK := by
    intro accounts device d hdevices hd k a ha
    rw [setDevice_devices] at ha
    split_ifs at ha
    · exact hd a ha
    · rw [hdevices] at ha
      exact hc k a ha
  -- a new home screen has no compose screen yet
  have hreached : ∀ device uid email a, some ((w.devices device).app.getD (App.launched uid email)) = some a →
      ∀ c, a.addFeeling = some c → c.CellsOK := by
    intro device uid email a ha
    rcases App.of_reached ha with happ | rfl
    · exact hc device a happ
    · intro c hc
      cases hc
  cases he with
  | ignored e he => exact hc
  | stopped e he => exact hset w _ _ rfl fun a ha => by cases ha
  | completed device call s uid doc hs ha => exact hset w _ _ rfl fun a => hreached device _ _ a
  | signedIn device call account hacc hs => exact hset w _ _ rfl fun a => hreached device _ _ a
  | app device e a a' d ha hans he =>
    refine hset w _ _ rfl fun b hb => ?_
    cases hb
    exact he.cellsOK (hc device a ha)
  | _ => exact hset _ _ _ rfl (hc _)

theorem run_cellsOK (es : List AccountsEvent) : (run F es).CellsOK :=
  Runs.foldl_invariant (P := fun _ (w : Accounts) => w.CellsOK) (fun _ _ ha => by cases ha)
    (fun es e h => (step_effect (run_ok es) e).cellsOK h) es

/-- An id is new with the answer of its sign-up. -/
theorem Effect.used (he : Effect F w e w') (hu : w'.Used uid) :
    w.Used uid ∨ ∃ place, uid ∈ w'.kept place := by
  cases he with
  | created device call id s hs ha hnew =>
    obtain ⟨account, hacc, rfl⟩ := hu
    rcases List.mem_append.1 hacc with hacc | hacc
    · exact .inl ⟨account, hacc, rfl⟩
    · rw [List.mem_singleton.1 hacc]
      refine .inr ⟨.answered device, ?_⟩
      rw [kept_answered]
      exact (uids_set_perm hs _).mem_iff.2 List.mem_cons_self
  | _ => exact .inl hu

theorem Ends.step (h : Ends F w e) : step F w e = w.setDevice e.device (w.devices e.device).restart := by
  cases h with
  | submitted device form t s ha hr =>
    simp only [Accounts.step, ha, Option.isSome_none, Bool.false_eq_true, if_false, hr]
    rfl
  | app device e a a' t ha hd hans hr =>
    simp only [Accounts.step, ha, hd, hans, Bool.and_self, if_pos, hr]
    rfl
  | restarted device => rfl

end Accounts

end Sens

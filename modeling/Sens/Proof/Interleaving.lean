import Sens.Lib.Channels
import Sens.Proof.App

/-!
# Interleavings

The users of the world share the collection and nothing else. `act` is what an event does
to the app of its user, and the document that it publishes; `step_eq` says that a step of
the world is that and no more.

* `exchangeable`: events of different users can be exchanged, unless one is a save and the
  other a save or an answer.
* `run_eq_of_channels`: the world is determined by the order of each user's own events and
  the order in which the saves of all users and the user's answers come.
-/

namespace Sens

namespace WorldEvent

/-- Whose event it is. -/
def user : WorldEvent → ℕ
  | .opened user _ => user
  | .app user _ => user

/-- The event may write to the collection. -/
def writes : WorldEvent → Bool
  | .app _ .saveEmotionPressed => true
  | _ => false

/-- The event may read the collection. -/
def reads : WorldEvent → Bool
  | .app _ (.pinsAnswered _ _) => true
  | _ => false

end WorldEvent

/-- What orders events: a user's own events, and for each user the saves of all users with
the answers to this one. -/
inductive Channel
  | own (user : ℕ)
  | seen (user : ℕ)

def Channel.carries : Channel → WorldEvent → Bool
  | .own user, e => e.user = user
  | .seen user, e => e.writes || (e.reads && e.user = user)

namespace World

variable {F : Foundation} {w w' : World} {e e' : WorldEvent}

/-- What an event does to the app of its user, and the document that it publishes. -/
def act (F : Foundation) (w : World) : WorldEvent → Option App × Option Document
  | .opened _ currentUser => (App.launch currentUser, none)
  | .app user e => match w.apps user with
    | none => (none, none)
    | some a =>
      if a.Deliverable e && w.Answers e then
        match (App.handle F e).run a with
        | .ok d a' => (some a', d)
        | .error _ _ => (none, none)
      else (some a, none)

/-- The collection with the document, if there is one. -/
def publish (pins : List DocumentSnapshot) (d : Option Document) : List DocumentSnapshot :=
  pins ++ (d.map fun data => ⟨pins.length, data⟩).toList

@[simp] theorem publish_none (pins : List DocumentSnapshot) : publish pins none = pins := by
  simp [publish]

/-- **A step of the world** changes the app of its user, and adds the document published. -/
theorem step_eq (w : World) (e : WorldEvent) : step F w e =
    ⟨publish w.pins (act F w e).2, Function.update w.apps e.user (act F w e).1⟩ := by
  cases e with
  | opened user currentUser => rw [act, publish_none]; rfl
  | app user e =>
    simp only [step, act, WorldEvent.user]
    cases ha : w.apps user with
    | none =>
      have hself : Function.update w.apps user none = w.apps := by rw [← ha, Function.update_eq_self]
      simp only [publish_none, hself]
    | some a =>
      simp only
      split_ifs with hd
      · cases hr : (App.handle F e).run a with
        | error t s => simp only [publish_none]; rfl
        | ok d s => cases d <;> simp [setApp, setData, publish]
      · have hself : Function.update w.apps user (some a) = w.apps := by
          rw [← ha, Function.update_eq_self]
        simp only [publish_none, hself]

/-- An event looks at the app of its user, and at the collection if it reads it. -/
theorem act_congr (happ : w.apps e.user = w'.apps e.user) (hpins : e.reads = true → w.pins = w'.pins) :
    act F w e = act F w' e := by
  cases e with
  | opened user currentUser => rfl
  | app user e =>
    have hans : w.Answers e = w'.Answers e := by
      cases e with
      | pinsAnswered query answer => cases answer <;> simp [Answers, hpins rfl]
      | _ => rfl
    simp only [act, WorldEvent.user] at happ ⊢
    rw [happ, hans]

/-- Only a save publishes. -/
theorem act_of_not_writes (h : e.writes = false) : (act F w e).2 = none := by
  cases e with
  | opened user currentUser => rfl
  | app user e =>
    simp only [act]
    cases w.apps user with
    | none => rfl
    | some a =>
      simp only
      split_ifs with hd
      · cases hr : (App.handle F e).run a with
        | error t s => rfl
        | ok d s =>
          rw [Bool.and_eq_true] at hd
          cases App.handle_effect hd.1 hr with
          | saved c c' d hc hs => cases h
          | _ => rfl
      · rfl

/-- After an event of another user, an event does what it would have done before. -/
theorem act_step (huser : e'.user ≠ e.user) (hw : e.writes = true → e'.reads = false) :
    act F (step F w e) e' = act F w e' := by
  refine act_congr ?_ fun hr => ?_
  · rw [step_eq]; exact Function.update_of_ne huser _ _
  · have hnone : e.writes = false := by
      cases hew : e.writes with
      | true => rw [hw hew] at hr; cases hr
      | false => rfl
    rw [step_eq, act_of_not_writes hnone, publish_none]

/-- **Events of different users can be exchanged**, unless one is a save and the other a
save or an answer. -/
theorem step_comm (huser : e.user ≠ e'.user) (h : e.writes = true → e'.writes = false ∧ e'.reads = false)
    (h' : e'.writes = true → e.writes = false ∧ e.reads = false) :
    step F (step F w e) e' = step F (step F w e') e := by
  have hact := act_step (F := F) (w := w) huser.symm fun hw => (h hw).2
  have hact' := act_step (F := F) (w := w) huser fun hw => (h' hw).2
  rw [step_eq (step F w e), step_eq (step F w e'), hact, hact', step_eq w e, step_eq w e']
  simp only [mk.injEq]
  refine ⟨?_, Function.update_comm huser _ _ _⟩
  cases hw : e.writes with
  | true => simp only [act_of_not_writes (h hw).1, publish_none]
  | false => simp only [act_of_not_writes hw, publish_none]

theorem exchangeable (F : Foundation) : Channels.Exchangeable (step F) Channel.carries := by
  intro w e e' h
  have huser : e.user ≠ e'.user := by
    have := h (.own e.user) (by simp [Channel.carries])
    simpa [Channel.carries, eq_comm] using this
  -- a save is on the channel of what any user sees
  have hsave : ∀ x user, x.writes = true → (Channel.seen user).carries x = true := by
    intro x user hx
    simp [Channel.carries, hx]
  have hother : ∀ x, (Channel.seen x.user).carries x = false → x.writes = false ∧ x.reads = false := by
    intro x hx
    simpa [Channel.carries] using hx
  refine step_comm huser (fun hw => hother e' (h _ (hsave e e'.user hw))) (fun hw => hother e ?_)
  cases hc : (Channel.seen e.user).carries e with
  | false => rfl
  | true => exact (hsave e' e.user hw).symm.trans (h _ hc)

/-- **Only the orders on the channels matter.** Two lists of events in which each user does
the same in the same order, and in which the saves of all users and the answers to each
user come in the same order, leave the same collection and the same apps, however else the
users' events are interleaved. -/
theorem run_eq_of_channels {es es' : List WorldEvent}
    (h : ∀ c : Channel, es.filter c.carries = es'.filter c.carries) : run F es = run F es' :=
  Channels.foldl_eq_of_channels (exchangeable F)
    (fun e => ⟨.own e.user, by simp [Channel.carries]⟩) h {}

/-- Two users compose at the same time, one event of each in turn or one user after the other. -/
theorem turns_same : run .ascii
      [.opened 0 ⟨"u1", some "ana@sens"⟩, .opened 1 ⟨"u2", some "rui@sens"⟩,
        .app 0 (.didUpdateLocations [⟨-8, -35⟩]), .app 1 (.didUpdateLocations [⟨-9, -36⟩]),
        .app 0 .AddFeelingPressed, .app 1 .AddFeelingPressed, .app 0 (.compose (.anonSwitched true)),
        .app 1 .viewDidAppear, .app 0 .saveEmotionPressed] =
    run .ascii
      [.opened 1 ⟨"u2", some "rui@sens"⟩, .app 1 (.didUpdateLocations [⟨-9, -36⟩]),
        .app 1 .AddFeelingPressed, .app 1 .viewDidAppear, .opened 0 ⟨"u1", some "ana@sens"⟩,
        .app 0 (.didUpdateLocations [⟨-8, -35⟩]), .app 0 .AddFeelingPressed,
        .app 0 (.compose (.anonSwitched true)), .app 0 .saveEmotionPressed] := by
  refine run_eq_of_channels fun c => ?_
  cases c with
  | own user => rcases user with _ | _ | user <;> simp [Channel.carries, WorldEvent.user]
  | seen user => simp [Channel.carries, WorldEvent.writes, WorldEvent.reads]

end World

end Sens

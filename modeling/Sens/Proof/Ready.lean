import Sens.Proof.App

/-!
# What has to arrive before the compose screen works

The home screen hands its location and its user to the compose screen, which unwraps
both. They are filled by callbacks.

* `compose_opens_iff`: both ways to open the compose screen work once the device was
  located, and not before.
* `save_safe_iff`: a save is safe once the profile arrived, or under the anonymity
  switch.
-/

namespace Sens

namespace App

open Runs Session

variable {F : Foundation} {currentUser : Option AuthUser} {es : List AppEvent} {a a' : App}

/-! ## The location -/

theorem lastLocation_isSome : (∃ user, lastLocation es = some user) ↔
    ∃ locations, locations ≠ [] ∧ .didUpdateLocations locations ∈ es := by
  rw [← Option.isSome_iff_exists, lastLocation, List.getLast?_isSome, ne_eq, List.filterMap_eq_nil_iff]
  push Not
  constructor
  · rintro ⟨e, he, hl⟩
    cases e with
    | didUpdateLocations locations =>
      exact ⟨locations, fun h => hl (by rw [h]; rfl), he⟩
    | _ => exact absurd rfl hl
  · rintro ⟨locations, hne, he⟩
    exact ⟨_, he, fun h => hne (List.getLast?_eq_none_iff.1 h)⟩

/-- **Opening the compose screen**, by a long press anywhere and by the button: the new
screen loads exactly when the device was located before. -/
theorem compose_opens_iff (h : run F currentUser es = some a) :
    ((∀ newCoordinate, ∃ c home', (HomeViewController.tapGesture .began newCoordinate).run a.home =
        .ok (some c) home') ∧
      ∃ c home', HomeViewController.AddFeelingPressed.run a.home = .ok c home') ↔
    ∃ locations, locations ≠ [] ∧ .didUpdateLocations locations ∈ es := by
  rw [← lastLocation_isSome, ← run_userLocation h]
  constructor
  · rintro ⟨-, c, home', hr⟩
    cases hu : a.home.userLocation with
    | none => rw [AddFeelingPressed_error hu] at hr; cases hr
    | some user => exact ⟨user, rfl⟩
  · rintro ⟨user, hu⟩
    have hadd := AddFeelingPressed_run hu
    refine ⟨?_, _, _, hadd⟩
    intro newCoordinate
    exact ⟨_, _, tapGesture_run hu newCoordinate⟩

/-- After one fix, and a failure before it. -/
theorem compose_opens_iff_located : ∃ a, run .ascii (some ⟨"u1", some "ana@sens"⟩)
      [.didFailWithError, .didUpdateLocations [⟨-8, -35⟩]] = some a ∧
    (((∀ newCoordinate, ∃ c home', (HomeViewController.tapGesture .began newCoordinate).run a.home =
        .ok (some c) home') ∧
      ∃ c home', HomeViewController.AddFeelingPressed.run a.home = .ok c home') ↔
    ∃ locations, locations ≠ [] ∧ AppEvent.didUpdateLocations locations ∈
      [.didFailWithError, .didUpdateLocations [⟨-8, -35⟩]]) :=
  ⟨_, rfl, @compose_opens_iff .ascii (some ⟨"u1", some "ana@sens"⟩)
    [.didFailWithError, .didUpdateLocations [⟨-8, -35⟩]] _ rfl⟩

/-- Without a fix the button traps, and so does a long press. -/
theorem unlocated_compose_traps : ¬ ∀ (es : List AppEvent) (a : App),
    run .ascii (some ⟨"u1", some "ana@sens"⟩) es = some a →
    (∀ newCoordinate, ∃ c home', (HomeViewController.tapGesture .began newCoordinate).run a.home =
        .ok (some c) home') ∧
      ∃ c home', HomeViewController.AddFeelingPressed.run a.home = .ok c home' := by
  intro h
  obtain ⟨-, c, home', hr⟩ := h [.didFailWithError] _ rfl
  cases hr

/-! ## The profile -/

theorem name_isSome (h : run F currentUser es = some a) :
    a.home.user._name.isSome = true ↔ ∃ documents, .profileAnswered (some documents) ∈ es := by
  refine run_invariant (P := fun es a => a.home.user._name.isSome = true ↔
    ∃ documents, .profileAnswered (some documents) ∈ es) (fun _ _ => ?_) ?_ es a h
  · simp [launched]
  · intro es e u t d _ hP he
    simp only [List.mem_append, List.mem_singleton]
    cases he with
    | profileLoaded d ds p hd =>
      exact iff_of_true rfl ⟨d :: ds, Or.inr rfl⟩
    | pinsLoaded query documents l hl hr =>
      simpa [HomeViewController.pushAll_eq] using hP
    | calloutTapped view control => simpa [HomeViewController.tapped] using hP
    | _ => simpa using hP

/-- The save writes a document under the author's display name, or it does not start. -/
def SavesOrStays (F : Foundation) (a : App) (c : AddFeelingViewController) : Prop :=
  (∃ d a' userName, (handle F .saveEmotionPressed).run a = .ok (some d) a' ∧
      c.displayName a.home.user = some userName ∧ d.get "userName" = some (.string userName)) ∨
    ∃ a', (handle F .saveEmotionPressed).run a = .ok none a' ∧ a'.addFeeling = some c

/-- **A save is safe** exactly when the anonymity switch is on or a profile arrived, at a
location that Firestore takes. -/
theorem save_safe_iff {u : AuthUser} {c : AddFeelingViewController}
    (h : run F (some u) es = some a) (hc : a.addFeeling = some c) :
    SavesOrStays F a c ↔
      (c.anonSwitch = true ∨ ∃ documents, .profileAnswered (some documents) ∈ es) ∧
        ∃ l, c.chosenLocation = some l ∧ l.InRange := by
  have hname : (∃ userName, c.displayName a.home.user = some userName) ↔
      (c.anonSwitch = true ∨ ∃ documents, .profileAnswered (some documents) ∈ es) := by
    rw [← name_isSome h, ← Option.isSome_iff_exists, AddFeelingViewController.displayName_isSome]
  rw [← hname]
  have hdel : a.Deliverable .saveEmotionPressed = true := by simp [Deliverable, hc]
  constructor
  · rintro (⟨d, a', userName, hr, hn, -⟩ | ⟨a', hr, -⟩)
    · -- the save found a name and a location
      cases handle_effect hdel hr with
      | saved c₀ c' d hc₀ hs =>
        rw [hc] at hc₀; cases hc₀
        obtain ⟨id, userName', l, hl, -, -, hcl, -⟩ := AddFeelingViewController.save_iff.1 ⟨c', hs⟩
        exact ⟨⟨userName, hn⟩, l, hcl, hl⟩
    · -- a save that returns has written a document
      cases handle_effect hdel hr
  · rintro ⟨⟨userName, hn⟩, l, hcl, hl⟩
    let p := c.post u.uid userName ⟨l.latitude, l.longitude, hl.1, hl.2⟩
    have hstores := AddFeelingViewController.postDocument_stores p
    have hsave := AddFeelingViewController.save_run hl (run_id h) hn hcl
    exact .inl ⟨_, _, userName, handle_save hc hsave, hn, hstores.userName⟩

/-- A named save before the profile arrived. -/
theorem early_save_safe_iff : ∃ a c, run .ascii (some ⟨"u1", some "ana@sens"⟩)
      [.didUpdateLocations [⟨-8, -35⟩], .AddFeelingPressed] = some a ∧ a.addFeeling = some c ∧
    (SavesOrStays .ascii a c ↔
      (c.anonSwitch = true ∨ ∃ documents, AppEvent.profileAnswered (some documents) ∈
        [.didUpdateLocations [⟨-8, -35⟩], .AddFeelingPressed]) ∧
      ∃ l, c.chosenLocation = some l ∧ l.InRange) :=
  ⟨_, _, rfl, rfl, @save_safe_iff .ascii [.didUpdateLocations [⟨-8, -35⟩], .AddFeelingPressed] _
    ⟨"u1", some "ana@sens"⟩ _ rfl rfl⟩

/-- A named save before the profile arrived traps, with the draft already signed. -/
theorem early_save_traps : ¬ ∀ (es : List AppEvent) (a : App) (c : AddFeelingViewController),
    run .ascii (some ⟨"u1", some "ana@sens"⟩) es = some a → a.addFeeling = some c →
    SavesOrStays .ascii a c := by
  intro h
  rcases h [.didUpdateLocations [⟨-8, -35⟩], .AddFeelingPressed] _ _ rfl rfl with
    ⟨d, a', userName, hr, -⟩ | ⟨a', hr, -⟩ <;> cases hr

end App

end Sens

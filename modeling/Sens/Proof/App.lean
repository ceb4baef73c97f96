import Mathlib.Data.List.Nodup
import Sens.Purpose.Session
import Sens.Proof.AddFeeling
import Sens.Proof.Home

/-!
# Runs of the app

* `Effect`, `handle_effect`: what each event of the app can do.
* `HomeOK`, `run_homeOK`: every pin has objects of its own, and the map has the
  annotations of the pins.
* `Later`, `after_later`: pins are only added, and keep their contents.
* `run_invariant`, `after_frame`, `run_last`: a fact about runs from one about events.
* `run_userLocation`, `run_name`, `run_id`: what the home screen knows of the user.
* `after_compose`: a session on the compose screen is a run of that screen.
-/

namespace Sens

namespace App

open Runs

variable {F : Foundation} {a a' : App} {e : AppEvent} {d : Option Document}

/-! ## Opening the compose screen -/

theorem tapGesture_run {h : HomeViewController} {user : CLLocationCoordinate2D}
    (hu : h.userLocation = some user) (newCoordinate : CLLocationCoordinate2D) :
    (HomeViewController.tapGesture .began newCoordinate).run h =
      .ok (some (AddFeelingViewController.opened (some newCoordinate) user)) h := by
  have load := Swift.run_runOn_of_ok
    (AddFeelingViewController.viewDidLoad_run (some newCoordinate) user) h
  unfold HomeViewController.tapGesture
  rw [if_pos rfl]
  simp only [EStateM.run_bind, EStateM.run_get, hu, load, EStateM.run_pure]

theorem tapGesture_error {h : HomeViewController} (hu : h.userLocation = none)
    (newCoordinate : CLLocationCoordinate2D) :
    (HomeViewController.tapGesture .began newCoordinate).run h = .error .unexpectedNil h := by
  obtain ⟨c, hc⟩ := AddFeelingViewController.viewDidLoad_error (some newCoordinate)
  have load := Swift.run_runOn_of_error hc h
  unfold HomeViewController.tapGesture
  rw [if_pos rfl]
  simp only [EStateM.run_bind, EStateM.run_get, hu, load]

theorem AddFeelingPressed_run {h : HomeViewController} {user : CLLocationCoordinate2D}
    (hu : h.userLocation = some user) :
    HomeViewController.AddFeelingPressed.run h =
      .ok (AddFeelingViewController.opened none user) h := by
  have load := Swift.run_runOn_of_ok (AddFeelingViewController.viewDidLoad_run none user) h
  unfold HomeViewController.AddFeelingPressed
  simp only [EStateM.run_bind, EStateM.run_get, hu, load]

theorem AddFeelingPressed_error {h : HomeViewController} (hu : h.userLocation = none) :
    HomeViewController.AddFeelingPressed.run h = .error .unexpectedNil h := by
  obtain ⟨c, hc⟩ := AddFeelingViewController.viewDidLoad_error none
  have load := Swift.run_runOn_of_error hc h
  unfold HomeViewController.AddFeelingPressed
  simp only [EStateM.run_bind, EStateM.run_get, hu, load]

theorem onAddFeeling_run {α : Type} {c : AddFeelingViewController} (hc : a.addFeeling = some c)
    (x : Swift AddFeelingViewController α) :
    (onAddFeeling x).run a = match x.run c with
      | .ok v c' => .ok (some v) { a with addFeeling := some c' }
      | .error t c' => .error t { a with addFeeling := some c' } := by
  change onAddFeeling x a = _
  unfold onAddFeeling
  cases hx : x.run c with
  | ok v c' => simp only [hc, hx]
  | error t c' => simp only [hc, hx]

/-- A save hands out the document of its draft, and closes the screen. -/
theorem handle_save {c c' : AddFeelingViewController} {d : Document} (hc : a.addFeeling = some c)
    (hs : (AddFeelingViewController.saveEmotionPressed a.home.user).run c = .ok d c') :
    (handle F .saveEmotionPressed).run a = .ok (some d) { a with addFeeling := none } := by
  simp only [handle, EStateM.run_bind, EStateM.run_get, onAddFeeling_run hc, hs]
  rfl

/-- A save that writes is of a compose screen. -/
theorem addFeeling_of_save {d : Document} (hr : (handle F .saveEmotionPressed).run a = .ok (some d) a') :
    a.addFeeling.isSome = true := by
  cases hc : a.addFeeling with
  | some c => rfl
  | none =>
    have hnone : (onAddFeeling (AddFeelingViewController.saveEmotionPressed a.home.user)).run a =
        .ok none a := by
      simp only [EStateM.run, onAddFeeling, hc]
    simp [handle, hnone] at hr

/-- The document that a save would write now. -/
def saved (F : Foundation) (a : App) : Option Document :=
  match (handle F .saveEmotionPressed).run a with
  | .ok d _ => d
  | .error _ _ => none

/-- A save that writes. -/
theorem exists_save {app : Option App} (h : (app.bind (saved F)).isSome = true) :
    ∃ a d a', app = some a ∧ (handle F .saveEmotionPressed).run a = .ok (some d) a' := by
  obtain ⟨d, hd⟩ := Option.isSome_iff_exists.1 h
  obtain ⟨a, ha, hd⟩ := Option.bind_eq_some_iff.1 hd
  unfold saved at hd
  cases hr : (handle F .saveEmotionPressed).run a with
  | ok v a' =>
    rw [hr] at hd
    cases hd
    exact ⟨a, d, a', ha, hr⟩
  | error t a' => rw [hr] at hd; cases hd

/-! ## One event -/

/-- **What an event can do.** A document comes out of a save only. -/
inductive Effect (F : Foundation) (a : App) : AppEvent → Option Document → App → Prop
  | viewDidAppear : Effect F a .viewDidAppear none
      { a with pinsQueries := a.pinsQueries ++ [a.nextQuery], nextQuery := a.nextQuery + 1 }
  | pinsFailed (query : ℕ) : Effect F a (.pinsAnswered query none) none
      { a with pinsQueries := a.pinsQueries.erase query }
  | pinsLoaded (query : ℕ) (documents : List DocumentSnapshot)
      (l : List (EmotionPin × MKPointAnnotation)) (hl : l.length = documents.length)
      (hr : (HomeViewController.pinsCompletion F (some documents)).run a.home =
        .ok () (a.home.pushAll l)) :
      Effect F a (.pinsAnswered query (some documents)) none
        { a with pinsQueries := a.pinsQueries.erase query, home := a.home.pushAll l }
  | profileFailed : Effect F a (.profileAnswered none) none { a with profileQuery := false }
  | profileLoaded (d : Document) (ds : List Document) (p : Profile) (hd : StoresProfile d p) :
      Effect F a (.profileAnswered (some (d :: ds))) none
        { a with profileQuery := false, home.user := a.home.user.withProfile p }
  | located (locations : List CLLocationCoordinate2D) (location : CLLocationCoordinate2D)
      (hl : locations.getLast? = some location) :
      Effect F a (.didUpdateLocations locations) none { a with home.userLocation := some location }
  | notLocated : Effect F a (.didUpdateLocations []) none a
  | locationFailed : Effect F a .didFailWithError none a
  | tapped (newCoordinate user : CLLocationCoordinate2D) (ha : a.addFeeling = none)
      (hu : a.home.userLocation = some user) :
      Effect F a (.tapGesture .began newCoordinate) none
        { a with addFeeling := some (AddFeelingViewController.opened (some newCoordinate) user) }
  | tapIgnored (state : GestureState) (newCoordinate : CLLocationCoordinate2D) (hs : state ≠ .began) :
      Effect F a (.tapGesture state newCoordinate) none a
  | added (user : CLLocationCoordinate2D) (ha : a.addFeeling = none)
      (hu : a.home.userLocation = some user) :
      Effect F a .AddFeelingPressed none
        { a with addFeeling := some (AddFeelingViewController.opened none user) }
  | viewForUser (dequeued : Option Ref) : Effect F a (.viewFor .userLocation dequeued) none a
  | viewFresh (r : Ref) (hr : r ∈ a.home.mapAnnotations) : Effect F a (.viewFor (.point r) none) none
      { a with home.views := a.home.views.alloc (a.home.freshView r), home.count := a.home.count + 1 }
  | viewRecycled (r w : Ref) (hr : r ∈ a.home.mapAnnotations) (hw : w ∈ a.home.reuseQueue) :
      Effect F a (.viewFor (.point r) (some w)) none
        { a with
          home.views := a.home.views.modify w fun v => { v with annotation := some r }
          home.reuseQueue := a.home.reuseQueue.erase w
          home.count := a.home.count + 1 }
  | viewOffScreen (view : Ref) (hv : view < a.home.views.size) :
      Effect F a (.viewOffScreen view) none
        { a with home.reuseQueue := a.home.reuseQueue ++ [view] }
  | calloutTapped (view control : Ref) : Effect F a (.calloutTapped view control) none
      { a with home := a.home.tapped (MKAnnotationView.annotation (a.home.views.read view)) }
  | composed (e : AddFeelingEvent) (c c' : AddFeelingViewController) (hc : a.addFeeling = some c)
      (hs : AddFeelingViewController.step F c e = some c') :
      Effect F a (.compose e) none { a with addFeeling := some c' }
  | saved (c c' : AddFeelingViewController) (d : Document) (hc : a.addFeeling = some c)
      (hs : (AddFeelingViewController.saveEmotionPressed a.home.user).run c = .ok d c') :
      Effect F a .saveEmotionPressed (some d) { a with addFeeling := none }
  | cancelled : Effect F a .cancelPressed none { a with addFeeling := none }

theorem handle_effect (hd : a.Deliverable e = true) (h : (handle F e).run a = .ok d a') :
    Effect F a e d a' := by
  -- a handler of the home screen runs on a part of the state: its run is put in place first
  cases e with
  | viewDidAppear => cases h; exact .viewDidAppear
  | pinsAnswered query answer =>
    cases answer with
    | none => cases h; exact .pinsFailed query
    | some documents =>
      simp only [handle, onHome, EStateM.run_bind, EStateM.run_modify, Swift.run_focus] at h
      cases hr : (HomeViewController.pinsCompletion F (some documents)).run a.home with
      | error t s => rw [hr] at h; cases h
      | ok u s =>
        rw [hr] at h
        obtain ⟨l, hl, rfl⟩ := HomeViewController.pinsCompletion_ok hr
        cases h; exact .pinsLoaded query documents l hl hr
  | profileAnswered answer =>
    cases answer with
    | none => cases h; exact .profileFailed
    | some documents =>
      simp only [handle, onUser, EStateM.run_bind, EStateM.run_modify, Swift.run_focus] at h
      cases hr : (HomeViewController.profileCompletion (some documents)).run a.home.user with
      | error t s => rw [hr] at h; cases h
      | ok u s =>
        rw [hr] at h
        obtain ⟨d, ds, p, rfl, hp, rfl⟩ := HomeViewController.profileCompletion_ok hr
        cases h; exact .profileLoaded d ds p hp
  | didUpdateLocations locations =>
    simp only [handle, onHome, EStateM.run_bind, HomeViewController.didUpdateLocations,
      Swift.run_focus] at h
    cases hl : locations.getLast? with
    | none =>
      obtain rfl := List.getLast?_eq_none_iff.1 hl
      cases h; exact .notLocated
    | some location => rw [hl] at h; cases h; exact .located locations location hl
  | didFailWithError => cases h; exact .locationFailed
  | tapGesture state newCoordinate =>
    simp only [handle, onHome, EStateM.run_bind, Swift.run_focus] at h
    by_cases hs : state = .began
    · subst hs
      have ha : a.addFeeling = none := by simpa [Deliverable] using hd
      cases hu : a.home.userLocation with
      | none => rw [tapGesture_error hu] at h; cases h
      | some user => rw [tapGesture_run hu] at h; cases h; exact .tapped newCoordinate user ha hu
    · simp only [HomeViewController.tapGesture, if_neg hs] at h
      cases h; exact .tapIgnored state newCoordinate hs
  | AddFeelingPressed =>
    have ha : a.addFeeling = none := by simpa [Deliverable] using hd
    simp only [handle, onHome, EStateM.run_bind, Swift.run_focus] at h
    cases hu : a.home.userLocation with
    | none => rw [AddFeelingPressed_error hu] at h; cases h
    | some user => rw [AddFeelingPressed_run hu] at h; cases h; exact .added user ha hu
  | viewFor annotation dequeued =>
    cases annotation with
    | userLocation => cases h; exact .viewForUser dequeued
    | point r =>
      simp only [Deliverable, Bool.and_eq_true, decide_eq_true_eq] at hd
      cases dequeued with
      | none =>
        simp only [handle, onHome, EStateM.run_bind, Swift.run_focus,
          HomeViewController.viewFor_fresh] at h
        cases h; exact .viewFresh r hd.1
      | some w => cases h; exact .viewRecycled r w hd.1 (by simpa using hd.2)
  | viewOffScreen view =>
    simp only [Deliverable, Bool.and_eq_true, decide_eq_true_eq] at hd
    cases h; exact .viewOffScreen view hd.1
  | calloutTapped view control =>
    simp only [handle, onHome, EStateM.run_bind, EStateM.run_get, Swift.run_focus,
      HomeViewController.calloutTapped_run] at h
    cases h; exact .calloutTapped view control
  | compose e =>
    obtain ⟨c, hc⟩ : ∃ c, a.addFeeling = some c := by
      cases hc : a.addFeeling with
      | none => simp [Deliverable, hc] at hd
      | some c => exact ⟨c, rfl⟩
    have hde : c.Deliverable e = true := by simpa [Deliverable, hc] using hd
    simp only [handle, EStateM.run_bind, onAddFeeling_run hc] at h
    cases hr : (AddFeelingViewController.handle F e).run c with
    | error t s => rw [hr] at h; cases h
    | ok u s =>
      rw [hr] at h
      cases h
      exact .composed e c s hc (AddFeelingViewController.step_eq_some.2 ⟨hde, hr⟩)
  | saveEmotionPressed =>
    obtain ⟨c, hc⟩ : ∃ c, a.addFeeling = some c := Option.isSome_iff_exists.1 hd
    simp only [handle, EStateM.run_bind, EStateM.run_get, onAddFeeling_run hc] at h
    cases hr : (AddFeelingViewController.saveEmotionPressed a.home.user).run c with
    | error t s => rw [hr] at h; cases h
    | ok u s => rw [hr] at h; cases h; exact .saved c s u hc hr
  | cancelPressed => cases h; exact .cancelled

theorem step_eq_some : step F a e = some a' ↔
    a.Deliverable e = true ∧ ∃ d, (handle F e).run a = .ok d a' := by
  unfold step
  by_cases hd : a.Deliverable e = true
  · rw [if_pos hd]
    cases hr : (handle F e).run a with
    | ok v s => simp [hd]
    | error t s => simp
  · rw [if_neg hd]; simp [hd]

theorem step_effect (h : step F a e = some a') : ∃ d, Effect F a e d a' := by
  obtain ⟨hd, d, h⟩ := step_eq_some.1 h
  exact ⟨d, handle_effect hd h⟩

/-! ## The home screen -/

/-- The invariant of the home screen. Every pin has objects of its own: their
references are new when the pin is made. -/
structure HomeOK (h : HomeViewController) : Prop where
  emotionPin : ∀ i ∈ h.pins, i.emotionPin < h.emotionPins.size
  infoAnnotation : ∀ i ∈ h.pins, i.infoAnnotation < h.annotations.size
  mapAnnotations : h.mapAnnotations = h.pins.map Pin.infoAnnotation
  nodup : h.mapAnnotations.Nodup
  nodup_emotionPin : (h.pins.map (·.emotionPin)).Nodup
  reuseQueue : ∀ w ∈ h.reuseQueue, w < h.views.size

theorem HomeOK.pushAll {h : HomeViewController} (hh : HomeOK h)
    (l : List (EmotionPin × MKPointAnnotation)) : HomeOK (h.pushAll l) := by
  have hpins : ∀ i ∈ (h.pushAll l).pins, i ∈ h.pins ∨ i ∈ h.newPins l.length := by
    intro i hi
    rw [HomeViewController.pushAll_pins] at hi
    exact List.mem_append.1 hi
  constructor
  · intro i hi
    rw [HomeViewController.pushAll_emotionPins_size]
    rcases hpins i hi with hi | hi
    · exact Nat.lt_add_right _ (hh.emotionPin i hi)
    · obtain ⟨k, hk, rfl⟩ := HomeViewController.mem_newPins.1 hi
      exact Nat.add_lt_add_left hk _
  · intro i hi
    rw [HomeViewController.pushAll_annotations_size]
    rcases hpins i hi with hi | hi
    · exact Nat.lt_add_right _ (hh.infoAnnotation i hi)
    · obtain ⟨k, hk, rfl⟩ := HomeViewController.mem_newPins.1 hi
      exact Nat.add_lt_add_left hk _
  · rw [HomeViewController.pushAll_mapAnnotations, HomeViewController.pushAll_pins, List.map_append,
      hh.mapAnnotations]
  · rw [HomeViewController.pushAll_mapAnnotations, HomeViewController.newPins_infoAnnotation]
    refine Heap.nodup_append_next hh.nodup ?_ _
    intro r hr
    rw [hh.mapAnnotations] at hr
    obtain ⟨i, hi, rfl⟩ := List.mem_map.1 hr
    exact hh.infoAnnotation i hi
  · rw [HomeViewController.pushAll_pins, List.map_append, HomeViewController.newPins_emotionPin]
    refine Heap.nodup_append_next hh.nodup_emotionPin ?_ _
    intro r hr
    obtain ⟨i, hi, rfl⟩ := List.mem_map.1 hr
    exact hh.emotionPin i hi
  · rw [HomeViewController.pushAll_eq]; exact hh.reuseQueue

theorem Effect.homeOK (ha : HomeOK a.home) (h : Effect F a e d a') : HomeOK a'.home := by
  cases h with
  | pinsLoaded query documents l hl hr => exact ha.pushAll l
  | viewFresh r hr =>
    refine { ha with reuseQueue := fun w hw => ?_ }
    rw [Heap.size_alloc]
    exact Nat.lt_succ_of_lt (ha.reuseQueue w hw)
  | viewRecycled r w hr hw =>
    refine { ha with reuseQueue := fun v hv => ?_ }
    rw [Heap.size_modify]
    exact ha.reuseQueue v (List.mem_of_mem_erase hv)
  | viewOffScreen view hv =>
    refine { ha with reuseQueue := fun w hw => ?_ }
    rcases List.mem_append.1 hw with hw | hw
    · exact ha.reuseQueue w hw
    · rw [List.mem_singleton] at hw; subst hw; exact hv
  | _ => exact { ha with }

/-- What stays: pins are only added, and no object changes after its pin is made. -/
structure Later (h h' : HomeViewController) : Prop where
  emotionPins : h.emotionPins.Extends h'.emotionPins
  annotations : h.annotations.Extends h'.annotations
  pins : h.pins <+: h'.pins

theorem Later.refl (h : HomeViewController) : Later h h :=
  ⟨.refl _, .refl _, List.prefix_refl _⟩

theorem Later.trans {h₁ h₂ h₃ : HomeViewController} (h12 : Later h₁ h₂) (h23 : Later h₂ h₃) :
    Later h₁ h₃ :=
  ⟨h12.emotionPins.trans h23.emotionPins, h12.annotations.trans h23.annotations,
    h12.pins.trans h23.pins⟩

/-- What a pin shows stays what it shows. -/
theorem Later.shows {h h' : HomeViewController} (hl : Later h h') (hh : HomeOK h) {i : Pin} {p : Post}
    (hi : i ∈ h.pins) (hs : h.Shows F i p) : h'.Shows F i p :=
  ⟨by rw [hl.emotionPins.read (hh.emotionPin i hi), hs.emotionPin],
    by rw [hl.annotations.read (hh.infoAnnotation i hi), hs.annotation]⟩

theorem Effect.later (h : Effect F a e d a') : Later a.home a'.home := by
  cases h with
  | pinsLoaded query documents l hl hr =>
    simp only [HomeViewController.pushAll_eq]
    exact ⟨List.prefix_append _ _, List.prefix_append _ _, List.prefix_append _ _⟩
  | _ => exact ⟨.refl _, .refl _, List.prefix_refl _⟩

/-- The frame of a run, from what an event can do. -/
theorem after_frame {R : App → App → Prop} {es : List AppEvent} (hrefl : ∀ a, R a a)
    (htrans : ∀ a b c, R a b → R b c → R a c) (heff : ∀ a e d b, Effect F a e d b → R a b)
    (h : after (step F) a es = some a') : R a a' := by
  refine after_rel hrefl htrans ?_ h
  intro a e b hs
  obtain ⟨d, he⟩ := step_effect hs
  exact heff a e d b he

/-- **Pins are only added in a run**, and keep their contents. -/
theorem after_later {es : List AppEvent} (h : after (step F) a es = some a') : Later a.home a'.home :=
  after_frame (R := fun a b => Later a.home b.home) (fun _ => .refl _) (fun _ _ _ => Later.trans)
    (fun _ _ _ _ => Effect.later) h

/-! ## Runs from the launch -/

variable {currentUser : Option AuthUser} {es fs : List AppEvent}

/-- The app as it is launched. -/
def launched (uid email : String) : App where
  home := { user := { _id := some uid, _email := some email } }

theorem launch_eq_some : launch currentUser = some a ↔
    ∃ uid email, currentUser = some ⟨uid, some email⟩ ∧ a = launched uid email := by
  constructor
  · intro h
    rcases currentUser with _ | ⟨uid, _ | email⟩
    · cases h
    · cases h
    · cases h; exact ⟨uid, email, rfl, rfl⟩
  · rintro ⟨uid, email, rfl, rfl⟩; rfl

theorem run_eq_some : run F currentUser es = some a ↔ ∃ uid email,
    currentUser = some ⟨uid, some email⟩ ∧ after (step F) (launched uid email) es = some a := by
  unfold run
  rw [Option.bind_eq_some_iff]
  simp only [launch_eq_some]
  constructor
  · rintro ⟨_, ⟨uid, email, hu, rfl⟩, h⟩; exact ⟨uid, email, hu, h⟩
  · rintro ⟨uid, email, hu, h⟩; exact ⟨_, ⟨uid, email, hu, rfl⟩, h⟩

theorem run_append_eq_some : run F currentUser (es ++ fs) = some a' ↔
    ∃ a, run F currentUser es = some a ∧ after (step F) a fs = some a' := by
  unfold run
  cases launch currentUser with
  | none => simp
  | some a₀ => simp only [Option.bind_some, after_append_eq_some]

theorem run_concat_eq_some : run F currentUser (es ++ [e]) = some a' ↔
    ∃ a, run F currentUser es = some a ∧ step F a e = some a' := by
  simp only [run_append_eq_some, after_singleton]

/-- **Invariants of runs from the launch.** -/
theorem run_invariant {P : List AppEvent → App → Prop} (h0 : ∀ uid email, P [] (launched uid email))
    (hstep : ∀ es e u t d, run F currentUser es = some u → P es u → Effect F u e d t → P (es ++ [e]) t) :
    ∀ es a, run F currentUser es = some a → P es a := by
  intro es a h
  obtain ⟨uid, email, hc, h⟩ := run_eq_some.1 h
  refine after_invariant (h0 uid email) (fun es e u t hu hP he => ?_) es a h
  obtain ⟨d, hd⟩ := step_effect he
  exact hstep es e u t d (run_eq_some.2 ⟨uid, email, hc, hu⟩) hP hd

/-- A part of the app that is empty at the launch, and that an event fills or leaves:
its last writer wins. -/
theorem run_last {β : Type} (π : App → Option β) (f : AppEvent → Option β)
    (h0 : ∀ uid email, π (launched uid email) = none)
    (heff : ∀ a e d b, Effect F a e d b → π b = (f e).or (π a))
    (h : run F currentUser es = some a) : π a = (es.filterMap f).getLast? := by
  obtain ⟨uid, email, -, h⟩ := run_eq_some.1 h
  refine after_last π f ?_ (h0 uid email) h
  intro a e b hs
  obtain ⟨d, he⟩ := step_effect hs
  exact heff a e d b he

theorem launched_homeOK (uid email : String) : HomeOK (launched uid email).home where
  emotionPin _ hi := nomatch hi
  infoAnnotation _ hi := nomatch hi
  mapAnnotations := rfl
  nodup := List.nodup_nil
  nodup_emotionPin := List.nodup_nil
  reuseQueue _ hw := nomatch hw

/-- **The home screen has its invariant**, in every run. -/
theorem run_homeOK (h : run F currentUser es = some a) : HomeOK a.home :=
  run_invariant (P := fun _ a => HomeOK a.home) launched_homeOK
    (fun _ _ _ _ _ _ ha he => he.homeOK ha) es a h

theorem Effect.userLocation (h : Effect F a e d a') :
    a'.home.userLocation = (Session.located e).or a.home.userLocation := by
  cases h with
  | pinsLoaded query documents l hl hr => rw [HomeViewController.pushAll_eq]; rfl
  | located locations location hl => simp [Session.located, hl]
  | _ => rfl

/-- **The user's location is the last one reported.** -/
theorem run_userLocation (h : run F currentUser es = some a) :
    a.home.userLocation = Session.lastLocation es :=
  run_last (·.home.userLocation) Session.located (fun _ _ => rfl)
    (fun _ _ _ _ => Effect.userLocation) h

theorem Effect.name (h : Effect F a e d a') :
    a'.home.user._name = (Session.named e).or a.home.user._name := by
  cases h with
  | pinsLoaded query documents l hl hr => rw [HomeViewController.pushAll_eq]; rfl
  | profileLoaded d ds p hd =>
    simp only [Session.named, hd.name, FieldValue.string, User.withProfile, Option.some_or]
  | _ => rfl

/-- **The user's name is the first name that the profile gave.** -/
theorem run_name (h : run F currentUser es = some a) : a.home.user._name = Session.firstName es :=
  run_last (·.home.user._name) Session.named (fun _ _ => rfl) (fun _ _ _ _ => Effect.name) h

theorem Effect.id (h : Effect F a e d a') : a'.home.user._id = a.home.user._id := by
  cases h with
  | pinsLoaded query documents l hl hr => rw [HomeViewController.pushAll_eq]
  | _ => rfl

/-- **The user's id is the one that signed in.** -/
theorem run_id {u : AuthUser} (h : run F (some u) es = some a) : a.home.user._id = some u.uid := by
  obtain ⟨uid, email, hu, h⟩ := run_eq_some.1 h
  cases hu
  exact after_frame (R := fun a b => b.home.user._id = a.home.user._id) (fun _ => rfl)
    (fun _ _ _ h1 h2 => h2.trans h1) (fun _ _ _ _ => Effect.id) h

/-! ## Sessions on the compose screen -/

/-- While the compose screen is open, only its own events change it. -/
theorem Effect.compose {c : AddFeelingViewController} (hc : a.addFeeling = some c)
    (he : Session.Closes e = false) (h : Effect F a e d a') : ∃ c', a'.addFeeling = some c' ∧
      after (AddFeelingViewController.step F) c (Session.composed e).toList = some c' := by
  cases h with
  | tapped newCoordinate user ha hu => rw [hc] at ha; cases ha
  | added user ha hu => rw [hc] at ha; cases ha
  | composed e c₀ c' hc₀ hs =>
    rw [hc] at hc₀; cases hc₀
    exact ⟨c', rfl, by rw [Session.composed, Option.toList_some, after_singleton, hs]⟩
  | saved c₀ c' d hc₀ hs => cases he
  | cancelled => cases he
  | _ => exact ⟨c, hc, rfl⟩

/-- **A session of the app is a run of the compose screen** on the events meant for it. -/
theorem after_compose {c : AddFeelingViewController} (hc : a.addFeeling = some c)
    (hes : ∀ e ∈ es, Session.Closes e = false) (h : after (step F) a es = some a') :
    ∃ c', a'.addFeeling = some c' ∧
      after (AddFeelingViewController.step F) c (Session.composeEvents es) = some c' := by
  refine after_invariant (P := fun es b => (∀ e ∈ es, Session.Closes e = false) →
    ∃ c', b.addFeeling = some c' ∧
      after (AddFeelingViewController.step F) c (Session.composeEvents es) = some c')
    (fun _ => ⟨c, hc, rfl⟩) ?_ es a' h hes
  intro es e u t _ hP he hes
  have hlast : Session.Closes e = false := hes e (List.mem_append_right _ (List.mem_singleton_self e))
  obtain ⟨c₁, hc₁, h1⟩ := hP fun x hx => hes x (List.mem_append_left _ hx)
  obtain ⟨d, hd⟩ := step_effect he
  obtain ⟨c₂, hc₂, h2⟩ := hd.compose hc₁ hlast
  refine ⟨c₂, hc₂, ?_⟩
  -- an event of another screen is no step of the compose screen
  have happ : Session.composeEvents (es ++ [e]) =
      Session.composeEvents es ++ (Session.composed e).toList := by
    simp only [Session.composeEvents, List.filterMap_append]
    cases hce : Session.composed e <;> simp [hce]
  rw [happ, after_append_eq_some]
  exact ⟨c₁, h1, h2⟩

theorem Effect.opens {touched : Option CLLocationCoordinate2D} (ho : Session.Opens e touched)
    (h : Effect F a e d a') : ∃ user, a.home.userLocation = some user ∧
      a'.addFeeling = some (AddFeelingViewController.opened touched user) := by
  cases ho with
  | tapped newCoordinate =>
    cases h with
    | tapped _ user ha hu => exact ⟨user, hu, rfl⟩
    | tapIgnored _ _ hs => exact absurd rfl hs
  | added =>
    cases h with
    | added user ha hu => exact ⟨user, hu, rfl⟩

/-- **What a session leaves on the compose screen**, from the launch on. -/
theorem run_session {before during : List AppEvent} {opening : AppEvent}
    {touched : Option CLLocationCoordinate2D} (ho : Session.Opens opening touched)
    (hd : ∀ e ∈ during, Session.Closes e = false)
    (h : run F currentUser (before ++ opening :: during) = some a) :
    ∃ c user, Session.lastLocation before = some user ∧ a.addFeeling = some c ∧
      after (AddFeelingViewController.step F) (AddFeelingViewController.opened touched user)
        (Session.composeEvents during) = some c := by
  obtain ⟨a₁, h1, h2⟩ := run_append_eq_some.1 h
  obtain ⟨a₂, he, h3⟩ := after_cons_eq_some.1 h2
  obtain ⟨d, heff⟩ := step_effect he
  obtain ⟨user, hu, hc⟩ := heff.opens ho
  obtain ⟨c, hc', hcomp⟩ := after_compose hc hd h3
  exact ⟨c, user, by rw [← run_userLocation h1, hu], hc', hcomp⟩

end App

end Sens

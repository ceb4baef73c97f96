import Sens.Proof.Stops

/-!
# What the screens show of an author

A document carries the id of its author, and every viewer downloads it. The screens never
show it: `step_withoutUser` says that taking the ids out of everything that an app is told
takes them out of its pins and changes nothing else, and `run_withoutUser` says so of a
whole run.
-/

namespace Sens

/-! ## Documents and pins -/

namespace Document

variable (d : Document)

theorem get_withoutUser (field : String) : d.withoutUser.get field =
    if field = "user" then (d.get field).map FieldValue.withoutText else d.get field := by
  induction d with
  | nil => simp [withoutUser, get]
  | cons x d ih =>
    obtain ⟨k, v⟩ := x
    have hcons : (withoutUser ((k, v) :: d)) =
        (k, if k = "user" then v.withoutText else v) :: withoutUser d := by
      by_cases hk : k = "user" <;> simp [withoutUser, hk]
    simp only [get] at ih ⊢
    rw [hcons, List.lookup_cons, List.lookup_cons, ih]
    by_cases hf : field = k
    · subst hf
      by_cases hu : field = "user" <;> simp [hu]
    · rw [beq_false_of_ne hf]

theorem emotionPin?_withoutUser :
    d.withoutUser.emotionPin? = d.emotionPin?.map EmotionPin.withoutUser := by
  have huser : d.withoutUser.string? "user" = (d.string? "user").map fun _ => "" := by
    simp only [string?, get_withoutUser, if_true]
    rcases d.get "user" with _ | ((s | p | t) | vs) <;> rfl
  have hget : ∀ field ≠ "user", d.withoutUser.get field = d.get field := fun field hf => by
    rw [get_withoutUser, if_neg hf]
  have hstring : ∀ field ≠ "user", d.withoutUser.string? field = d.string? field := fun field hf => by
    rw [string?, hget field hf]; rfl
  have hcoordinate : d.withoutUser.coordinate? = d.coordinate? := by
    rw [coordinate?, hget _ (by decide)]; rfl
  have htags : d.withoutUser.tags? = d.tags? := by
    rw [tags?, hget _ (by decide)]; rfl
  simp only [emotionPin?, huser, hcoordinate, htags, hstring _ (by decide : "testimonial" ≠ "user"),
    hstring _ (by decide : "color" ≠ "user"), hstring _ (by decide : "icon" ≠ "user"),
    hstring _ (by decide : "userName" ≠ "user"), Option.bind_eq_bind, Option.bind_map, Option.map_bind,
    Function.comp_def]
  rfl

end Document

namespace HomeViewController

variable (h : HomeViewController)

theorem emotionPinAt_withoutUser (i : Pin) :
    h.withoutUser.emotionPinAt i = (h.emotionPinAt i).withoutUser := by
  simp only [emotionPinAt, withoutUser, Heap.read, List.getD_eq_getElem?_getD, List.getElem?_map]
  cases h.emotionPins.cells[i.emotionPin]? <;> rfl

theorem freshView_withoutUser (r : Ref) : h.withoutUser.freshView r = h.freshView r := by
  simp only [freshView, emotionPinAt_withoutUser]
  rfl

theorem pushAll_withoutUser (l : List (EmotionPin × MKPointAnnotation)) : (h.pushAll l).withoutUser =
    h.withoutUser.pushAll (l.map fun x => (x.1.withoutUser, x.2)) := by
  simp only [pushAll_eq, withoutUser, newPins, Heap.size, List.map_append, List.length_map, List.map_map]
  rfl

/-- The details behind a callout do not tell the id. -/
theorem shown_withoutUser (F : Foundation) (view : MKAnnotationView) :
    detail F (h.withoutUser.emotionPinAt (h.withoutUser.tapped view.annotation).infoPin) =
      detail F (h.emotionPinAt (h.tapped view.annotation).infoPin) := by
  rw [emotionPinAt_withoutUser]; rfl

end HomeViewController

/-! ## The app -/

namespace App

open Runs

variable {F : Foundation} {currentUser : Option AuthUser} {es es' : List AppEvent} {a b b' : App}
  {e : AppEvent} {d d' : Option Document}

theorem deliverable_withoutUser (a : App) (e : AppEvent) :
    a.withoutUser.Deliverable e.withoutUser = a.Deliverable e := by
  cases e with
  | pinsAnswered query answer => cases answer <;> rfl
  | _ => rfl

theorem stops_withoutUser (a : App) (e : AppEvent) : a.withoutUser.Stops e.withoutUser = a.Stops e := by
  cases e with
  | pinsAnswered query answer =>
    cases answer with
    | none => rfl
    | some documents =>
      simp only [AppEvent.withoutUser, Stops, List.any_map, Function.comp_def,
        Document.emotionPin?_withoutUser, Option.isNone_map]
  | profileAnswered answer => cases answer <;> rfl
  | tapGesture state newCoordinate => cases state <;> rfl
  | _ => rfl

/-- An event does the same without the ids, but for the ids in the pins. -/
theorem Effect.withoutUser (h : Effect F a e d b)
    (h' : Effect F a.withoutUser e.withoutUser d' b') : b' = b.withoutUser := by
  cases h with
  | pinsLoaded query documents l hl hr =>
    cases h' with
    | pinsLoaded query _ l' hl' hr' =>
      -- both snapshots are read, into pins that differ in the ids
      obtain ⟨ps, hps, heq⟩ := HomeViewController.pinsCompletion_eq_ok.1 hr
      obtain ⟨ps', hps', heq'⟩ := HomeViewController.pinsCompletion_eq_ok.1 hr'
      rw [Decode.mapM_map_of_comm (fun d => Document.emotionPin?_withoutUser d.data) hps,
        Option.some.injEq] at hps'
      subst hps'
      have hhome : a.withoutUser.home.pushAll l' = (a.home.pushAll l).withoutUser := by
        rw [heq', heq, HomeViewController.pushAll_withoutUser]
        simp only [List.map_map]
        rfl
      rw [hhome]; rfl
  | profileLoaded d ds p hd =>
    cases h' with
    | profileLoaded _ _ p' hd' =>
      obtain rfl : p' = p :=
        Option.some.inj ((Document.profile?_eq_some.2 hd').symm.trans (Document.profile?_eq_some.2 hd))
      rfl
  | located locations location hl =>
    cases h' with
    | located _ location' hl' => obtain rfl := Option.some.inj (hl'.symm.trans hl); rfl
    | notLocated => cases hl
  | notLocated =>
    cases h' with
    | located _ location' hl' => cases hl'
    | notLocated => rfl
  | tapped newCoordinate user ha hu =>
    cases h' with
    | tapped _ user' ha' hu' => obtain rfl := Option.some.inj (hu'.symm.trans hu); rfl
    | tapIgnored _ _ hs => exact absurd rfl hs
  | tapIgnored state newCoordinate hs =>
    cases h' with
    | tapped _ user' ha' hu' => exact absurd rfl hs
    | tapIgnored => rfl
  | added user ha hu =>
    cases h' with
    | added user' ha' hu' => obtain rfl := Option.some.inj (hu'.symm.trans hu); rfl
  | composed e c c' hc hs =>
    cases h' with
    | composed _ c₁ c₁' hc₁ hs₁ =>
      obtain rfl := Option.some.inj (hc₁.symm.trans hc)
      obtain rfl := Option.some.inj (hs₁.symm.trans hs)
      rfl
  | viewFresh r hr =>
    cases h'
    have hview := HomeViewController.freshView_withoutUser a.home r
    simp only [App.withoutUser]
    rw [hview]
    rfl
  | _ => cases h'; rfl

/-- **An app makes the same step without the ids**, but for the ids in the pins. -/
theorem step_withoutUser (hcells : ∀ c, a.addFeeling = some c → c.CellsOK)
    (hid : ∃ id, a.home.user._id = some id) :
    step F a.withoutUser e.withoutUser = (step F a e).map App.withoutUser := by
  by_cases hd : a.Deliverable e = true
  · have hd' : a.withoutUser.Deliverable e.withoutUser = true := by rw [deliverable_withoutUser, hd]
    have hstop := stops_withoutUser a e
    cases hs : a.Stops e with
    | true =>
      -- both stop
      have h1 : step F a e = none :=
        (step_eq_none hd).2 fun hc => by rw [completes_iff hcells hid hd, hs] at hc; cases hc
      have h2 : step F a.withoutUser e.withoutUser = none :=
        (step_eq_none hd').2 fun hc => by
          rw [completes_iff (a := a.withoutUser) hcells hid hd', hstop, hs] at hc; cases hc
      rw [h1, h2]; rfl
    | false =>
      obtain ⟨d, b, hr⟩ := (completes_iff (F := F) hcells hid hd).2 hs
      obtain ⟨d', b', hr'⟩ := (completes_iff (F := F) (a := a.withoutUser) hcells hid hd').2 (hstop.trans hs)
      have hb := (handle_effect hd hr).withoutUser (handle_effect hd' hr')
      rw [step_eq_some.2 ⟨hd, d, hr⟩, step_eq_some.2 ⟨hd', d', hr'⟩, hb]; rfl
  · have hd' : ¬ a.withoutUser.Deliverable e.withoutUser = true := by rwa [deliverable_withoutUser]
    simp [step, hd, hd']

/-- **A run without the ids** ends as the run does, but for the ids in the pins. -/
theorem run_withoutUser (F : Foundation) (currentUser : Option AuthUser) (es : List AppEvent) :
    run F currentUser (es.map AppEvent.withoutUser) = (run F currentUser es).map App.withoutUser := by
  unfold run
  cases hl : launch currentUser with
  | none => rfl
  | some a =>
    obtain ⟨uid, email, -, rfl⟩ := launch_eq_some.1 hl
    simp only [Option.bind_some]
    refine after_map (f := App.withoutUser) (g := AppEvent.withoutUser) (s := launched uid email)
      (I := fun a => (∀ c, a.addFeeling = some c → c.CellsOK) ∧ ∃ id, a.home.user._id = some id)
      ?_ (fun a e ha => step_withoutUser ha.1 ha.2) ?_ es
    · rintro a e b ⟨hcells, id, hid⟩ hs
      obtain ⟨d, he⟩ := step_effect hs
      exact ⟨he.cellsOK hcells, id, by rw [he.id, hid]⟩
    · exact ⟨fun c hc => (by cases hc), uid, rfl⟩

/-- **The screens do not show who wrote a document.** Two runs of an app that differ in the
ids in the documents only go on together: the same annotations, the same views, the same
draft and, behind every callout, the same details. -/
theorem screens_hide_users (hsame : es.map AppEvent.withoutUser = es'.map AppEvent.withoutUser)
    (h : run F currentUser es = some a) : ∃ b, run F currentUser es' = some b ∧
      b.home.pins = a.home.pins ∧ b.home.annotations = a.home.annotations ∧ b.home.views = a.home.views ∧
      b.addFeeling = a.addFeeling ∧ ∀ view control, ∃ shown home home',
        (HomeViewController.calloutAccessoryControlTapped F view control).run a.home = .ok shown home ∧
        (HomeViewController.calloutAccessoryControlTapped F view control).run b.home = .ok shown home' := by
  have hrun := run_withoutUser F currentUser es
  rw [hsame, run_withoutUser, h, Option.map_some, Option.map_eq_some_iff] at hrun
  obtain ⟨b, hb, hab⟩ := hrun
  have hhome : b.home.withoutUser = a.home.withoutUser := congrArg App.home hab
  refine ⟨b, hb, congrArg (·.home.pins) hab, congrArg (·.home.annotations) hab,
    congrArg (·.home.views) hab, congrArg (·.addFeeling) hab, ?_⟩
  intro view control
  have hshown := HomeViewController.shown_withoutUser a.home F view
  rw [← hhome, HomeViewController.shown_withoutUser] at hshown
  refine ⟨_, _, b.home.tapped view.annotation,
    HomeViewController.calloutTapped_run a.home view control, ?_⟩
  rw [HomeViewController.calloutTapped_run, hshown]

/-- A snapshot of one document by the user. -/
def oneBy (user : String) : List AppEvent :=
  [.viewDidAppear, .pinsAnswered 0 (some [⟨0, [("user", .string user), ("icon", .string "☀"),
    ("color", .string ""), ("tags", .strings ["paz"]), ("testimonial", .string ""),
    ("userName", .string "Anonimo")]⟩])]

/-- An anonymous document by one user or by another. -/
theorem ana_or_rui_unseen : ∃ a b, run .ascii (some ⟨"u3", some "eva@sens"⟩) (oneBy "u1") = some a ∧
    run .ascii (some ⟨"u3", some "eva@sens"⟩) (oneBy "u2") = some b ∧
    b.home.annotations = a.home.annotations := by
  have hrun : (run .ascii (some ⟨"u3", some "eva@sens"⟩) (oneBy "u1")).isSome = true := by decide +kernel
  obtain ⟨a, ha⟩ := Option.isSome_iff_exists.1 hrun
  have hsame : (oneBy "u1").map AppEvent.withoutUser = (oneBy "u2").map AppEvent.withoutUser := by
    decide +kernel
  obtain ⟨b, hb, -, hann, -⟩ := screens_hide_users hsame ha
  exact ⟨a, b, ha, hb, hann⟩

end App

end Sens

import Sens.Purpose.Geocoder
import Sens.Lib.Separator
import Sens.Proof.Session

/-!
# The addresses that the author sees

* `viewDidLoad_run`: the requests that the compose screen makes when it is opened.
* `after_screen`, `after_lift`: the labels only watch the rest of the screen.
* `after_label`: a label shows the answer to its own request, in whichever order they come.
* `saved_place_is_shown`: beside the button that is on stands the address of the place that a
  save publishes.
* `addressText_inj`: the address text, read back.
-/

namespace Sens

namespace AddressScreen

open Runs

variable {F : Foundation} {s s' : AddressScreen} {e : AddressEvent} {es : List AddressEvent}
  {touched : Option CLLocationCoordinate2D} {user : CLLocationCoordinate2D}

/-! ## Opening -/

/-- The requests of a screen that is opened. -/
def opening (touched : Option CLLocationCoordinate2D) (user : CLLocationCoordinate2D) :
    List GeocodeRequest := (touched.map fun l => ⟨l, 1⟩).toList ++ [⟨user, 0⟩]

/-- The compose screen and its labels just after it is opened. -/
def opened (touched : Option CLLocationCoordinate2D) (user : CLLocationCoordinate2D) : AddressScreen where
  screen := AddFeelingViewController.opened touched user
  requests := opening touched user
  pending := List.range (opening touched user).length

theorem viewDidLoad_run (touched : Option CLLocationCoordinate2D) (user : CLLocationCoordinate2D) :
    viewDidLoad.run { screen := { AddFeelingViewController.instantiate with
      userLocation := some user, touchedLocation := touched } } = .ok () (opened touched user) := by
  simp only [viewDidLoad, onScreen, EStateM.run_bind, Swift.run_focus,
    AddFeelingViewController.viewDidLoad_run, EStateM.run_get]
  cases touched <;> rfl

/-! ## One event -/

theorem step_eq_some : step F s e = some s' ↔ s.Deliverable e = true ∧ (handle F e).run s = .ok () s' := by
  unfold step
  split_ifs with hd
  · cases hr : (handle F e).run s <;> simp [hd]
  · simp [hd]

/-- The handler of a request writes the label that its `type` is for. -/
theorem addressCompletion_run (type : ℕ) (error : Bool) (locationDetais : Option (List CLPlacemark))
    (s : AddressScreen) : (addressCompletion type error locationDetais).run s = .ok () { s with
      userLocationLabel :=
        if type = 0 then (textOf error locationDetais).getD s.userLocationLabel else s.userLocationLabel
      tappedLocationlabel :=
        if type = 1 then (textOf error locationDetais).getD s.tappedLocationlabel
        else s.tappedLocationlabel } := by
  unfold addressCompletion textOf
  cases error with
  | true => simp
  | false =>
    cases locationDetais.bind List.head? with
    | none => simp
    | some p =>
      by_cases h0 : type = 0
      · simp [h0]
      · by_cases h1 : type = 1 <;> simp [h0, h1]

/-- **What an event can do**: a step of the rest of the screen, or a text in one label. -/
inductive Effect (F : Foundation) (s : AddressScreen) : AddressEvent → AddressScreen → Prop
  | screen (e : AddFeelingEvent) (c : AddFeelingViewController)
      (h : AddFeelingViewController.step F s.screen e = some c) :
      Effect F s (.screen e) { s with screen := c }
  | geocoded (request : ℕ) (error : Bool) (locationDetais : Option (List CLPlacemark)) (r : GeocodeRequest)
      (h : s.requests[request]? = some r) : Effect F s (.geocoded request error locationDetais) { s with
        pending := s.pending.erase request
        userLocationLabel :=
          if r.type = 0 then (textOf error locationDetais).getD s.userLocationLabel else s.userLocationLabel
        tappedLocationlabel :=
          if r.type = 1 then (textOf error locationDetais).getD s.tappedLocationlabel
          else s.tappedLocationlabel }
  | unknown (request : ℕ) (error : Bool) (locationDetais : Option (List CLPlacemark))
      (h : s.requests[request]? = none) :
      Effect F s (.geocoded request error locationDetais) { s with pending := s.pending.erase request }

theorem step_effect (h : step F s e = some s') : Effect F s e s' := by
  obtain ⟨hd, hr⟩ := step_eq_some.1 h
  cases e with
  | screen e =>
    simp only [handle, onScreen, Swift.run_focus] at hr
    cases hc : (AddFeelingViewController.handle F e).run s.screen with
    | error t c => rw [hc] at hr; cases hr
    | ok v c =>
      rw [hc] at hr
      cases hr
      exact .screen e c (AddFeelingViewController.step_eq_some.2 ⟨hd, hc⟩)
  | geocoded request error locationDetais =>
    simp only [handle, EStateM.run_bind, EStateM.run_modify, EStateM.run_get] at hr
    cases hreq : s.requests[request]? with
    | none =>
      rw [hreq] at hr
      cases hr
      exact .unknown request error locationDetais hreq
    | some r =>
      simp only [hreq, addressCompletion_run] at hr
      cases hr
      exact .geocoded request error locationDetais r hreq

/-! ## The rest of the screen -/

theorem screenEvents_concat (es : List AddressEvent) (e : AddressEvent) :
    screenEvents (es ++ [e]) = screenEvents es ++ (screenEvent e).toList := by
  simp only [screenEvents, List.filterMap_append]
  cases h : screenEvent e <;> simp [h]

theorem completions_concat (es : List AddressEvent) (e : AddressEvent) :
    completions (es ++ [e]) = completions es ++ (completed e).toList := by
  simp only [completions, List.filterMap_append]
  cases h : completed e <;> simp [h]

/-- **The labels only watch**: what the author does is a session on the rest of the screen. -/
theorem after_screen (h : after (step F) (opened touched user) es = some s) :
    after (AddFeelingViewController.step F) (AddFeelingViewController.opened touched user)
      (screenEvents es) = some s.screen := by
  refine after_invariant (P := fun es s => after (AddFeelingViewController.step F)
    (AddFeelingViewController.opened touched user) (screenEvents es) = some s.screen) rfl ?_ es s h
  intro es e u t _ hu he
  rw [screenEvents_concat, after_append_eq_some]
  refine ⟨u.screen, hu, ?_⟩
  cases step_effect he with
  | screen e c hc => exact (after_singleton _ _).trans hc
  | _ => rfl

/-- The requests that are not completed. -/
theorem after_pending (h : after (step F) (opened touched user) es = some s) :
    s.pending.Nodup ∧ ∀ n, n ∈ s.pending ↔ n < (opening touched user).length ∧ n ∉ completions es := by
  refine after_invariant (P := fun es s => s.pending.Nodup ∧ ∀ n, n ∈ s.pending ↔
    n < (opening touched user).length ∧ n ∉ completions es) ?_ ?_ es s h
  · exact ⟨List.nodup_range, fun n => by simp [opened, completions]⟩
  · intro es e u t _ ⟨hnodup, hmem⟩ he
    have hcompleted : ∀ request n, n ∈ u.pending.erase request ↔
        n < (opening touched user).length ∧ n ∉ completions es ++ [request] := by
      intro request n
      rw [hnodup.mem_erase_iff, hmem, List.mem_append, List.mem_singleton, not_or, and_comm, and_assoc]
    rw [completions_concat]
    cases step_effect he with
    | screen e c hc =>
      refine ⟨hnodup, fun n => ?_⟩
      simpa [completed] using hmem n
    | _ => exact ⟨hnodup.erase _, hcompleted _⟩

/-- What the author does is done as it is on the rest of the screen. -/
theorem step_screen {e : AddFeelingEvent} {c : AddFeelingViewController}
    (h : AddFeelingViewController.step F s.screen e = some c) :
    step F s (.screen e) = some { s with screen := c } := by
  obtain ⟨hd, hr⟩ := AddFeelingViewController.step_eq_some.1 h
  refine step_eq_some.2 ⟨hd, ?_⟩
  simp only [handle, onScreen, Swift.run_focus, hr]

/-- An answer to a request that is not completed is taken. -/
theorem step_geocoded {request : ℕ} (h : request ∈ s.pending) (error : Bool)
    (locationDetais : Option (List CLPlacemark)) :
    ∃ s', step F s (.geocoded request error locationDetais) = some s' := by
  have hd : s.Deliverable (.geocoded request error locationDetais) = true := decide_eq_true h
  have hr : ∃ s', (handle F (.geocoded request error locationDetais)).run s = .ok () s' := by
    simp only [handle, EStateM.run_bind, EStateM.run_modify, EStateM.run_get]
    cases s.requests[request]? with
    | none => exact ⟨_, rfl⟩
    | some r => exact ⟨_, addressCompletion_run _ _ _ _⟩
  obtain ⟨s', hs'⟩ := hr
  exact ⟨s', step_eq_some.2 ⟨hd, hs'⟩⟩

/-- **An answer can come at any time**, but once: what the author does and the answers run
together just when each of them runs alone. -/
theorem after_isSome_iff : (∃ s, after (step F) (opened touched user) es = some s) ↔
    (∃ c, after (AddFeelingViewController.step F) (AddFeelingViewController.opened touched user)
      (screenEvents es) = some c) ∧ (completions es).Nodup ∧
      ∀ n ∈ completions es, n < (opening touched user).length := by
  induction es using List.reverseRecOn with
  | nil => exact iff_of_true ⟨_, rfl⟩ ⟨⟨_, rfl⟩, List.nodup_nil, fun n hn => absurd hn List.not_mem_nil⟩
  | append_singleton es e ih =>
    rw [completions_concat]
    constructor
    · rintro ⟨s, hs⟩
      refine ⟨⟨s.screen, after_screen hs⟩, ?_⟩
      obtain ⟨u, hu, he⟩ := after_concat_eq_some.1 hs
      obtain ⟨-, hnodup, hlt⟩ := ih.1 ⟨u, hu⟩
      cases e with
      | screen e => simpa [completed] using ⟨hnodup, hlt⟩
      | geocoded request error locationDetais =>
        have hpending : request ∈ u.pending := of_decide_eq_true (step_eq_some.1 he).1
        obtain ⟨hreq, hnot⟩ := ((after_pending hu).2 request).1 hpending
        refine ⟨List.concat_eq_append ▸ hnodup.concat hnot, fun n hn => ?_⟩
        rcases List.mem_append.1 hn with hn | hn
        · exact hlt n hn
        · rw [List.mem_singleton.1 hn]; exact hreq
    · rintro ⟨⟨c, hc⟩, hnodup, hlt⟩
      have hbefore := fun hscreen => ih.2 ⟨hscreen, hnodup.of_append_left,
        fun n hn => hlt n (List.mem_append_left _ hn)⟩
      cases e with
      | screen e =>
        rw [screenEvents_concat] at hc
        obtain ⟨c₀, hc₀, hstep⟩ := after_append_eq_some.1 hc
        obtain ⟨u, hu⟩ := hbefore ⟨c₀, hc₀⟩
        -- the rest of the screen is where the author's events lead
        have hscreen : u.screen = c₀ := Option.some.inj ((after_screen hu).symm.trans hc₀)
        subst hscreen
        exact ⟨_, after_concat_eq_some.2 ⟨u, hu, step_screen ((after_singleton _ _).symm.trans hstep)⟩⟩
      | geocoded request error locationDetais =>
        rw [screenEvents_concat, screenEvent, Option.toList_none, List.append_nil] at hc
        obtain ⟨u, hu⟩ := hbefore ⟨c, hc⟩
        have hreq : request < (opening touched user).length :=
          hlt request (List.mem_append_right _ (List.mem_singleton_self _))
        have hnot : request ∉ completions es := fun h =>
          (List.nodup_append.1 hnodup).2.2 request h request (List.mem_singleton_self _) rfl
        obtain ⟨s, hs⟩ := step_geocoded (((after_pending hu).2 request).2 ⟨hreq, hnot⟩) error locationDetais
        exact ⟨s, after_concat_eq_some.2 ⟨u, hu, hs⟩⟩

/-! ## The labels -/

theorem after_requests (h : after (step F) (opened touched user) es = some s) :
    s.requests = opening touched user := by
  refine after_invariant (P := fun _ s => s.requests = opening touched user) rfl ?_ es s h
  intro es e u t _ hu he
  cases step_effect he <;> exact hu

/-- No two requests are for the same label. -/
theorem opening_type_nodup (touched : Option CLLocationCoordinate2D) (user : CLLocationCoordinate2D) :
    ((opening touched user).map (·.type)).Nodup := by
  cases touched <;> simp [opening]

/-- The request for the label beside a button. -/
theorem exists_request {b : LocationButton} {l : CLLocationCoordinate2D}
    (hl : Choice.place touched user b = some l) :
    ∃ n : ℕ, (opening touched user)[n]? = some ⟨l, typeOf b⟩ := by
  cases b with
  | tapped =>
    obtain rfl : touched = some l := hl
    exact ⟨0, rfl⟩
  | user =>
    cases hl
    exact ⟨touched.toList.length, by cases touched <;> rfl⟩

/-- **One event and one label**: only the answer to the label's own request changes it. -/
theorem step_label {b : LocationButton} {l : CLLocationCoordinate2D} {n : ℕ}
    (hs : s.requests = opening touched user) (hn : (opening touched user)[n]? = some ⟨l, typeOf b⟩)
    (h : step F s e = some s') : s'.label b = (answer n e).getD (s.label b) := by
  -- another request is for the other label
  have hother : ∀ (m : ℕ) (r : GeocodeRequest), s.requests[m]? = some r → (r.type = typeOf b ↔ m = n) := by
    intro m r hm
    rw [hs] at hm
    have hget : ∀ (k : ℕ) (x : GeocodeRequest), (opening touched user)[k]? = some x →
        ((opening touched user).map (·.type))[k]? = some x.type := by
      intro k x hk
      rw [List.getElem?_map, hk]; rfl
    constructor
    · intro ht
      have hlt := (List.getElem?_eq_some_iff.1 (hget m r hm)).1
      refine (List.getElem?_inj hlt (opening_type_nodup touched user)).1 ?_
      rw [hget m r hm, hget n _ hn, ht]
    · rintro rfl
      rw [hm] at hn
      cases hn; rfl
  cases step_effect h with
  | screen e c hc => rfl
  | geocoded request error locationDetais r hr =>
    have hiff := hother request r hr
    cases b with
    | tapped =>
      simp only [label, answer]
      simp only [typeOf] at hiff
      by_cases hreq : request = n <;> simp [hiff, hreq]
    | user =>
      simp only [label, answer]
      simp only [typeOf] at hiff
      by_cases hreq : request = n <;> simp [hiff, hreq]
  | unknown request error locationDetais hr =>
    have hne : request ≠ n := by
      rintro rfl
      rw [hs, hn] at hr
      cases hr
    simp only [answer, if_neg hne, Option.getD_none]
    rfl

/-- **A label shows the answer to its own request**, in whichever order answers come. -/
theorem after_label {b : LocationButton} {l : CLLocationCoordinate2D} {n : ℕ}
    (hn : (opening touched user)[n]? = some ⟨l, typeOf b⟩)
    (h : after (step F) (opened touched user) es = some s) :
    s.label b = (es.filterMap (answer n)).getLastD addressHere := by
  have hlast := after_register (I := fun s : AddressScreen => s.requests = opening touched user)
    (fun u e t hu he => ?_) (label · b) (answer n) (fun _ _ _ hu he => step_label hu hn he) rfl h
  · rw [hlast]
    cases b <;> rfl
  · cases step_effect he <;> exact hu

theorem after_showsPlace (h : after (step F) (opened touched user) es = some s) :
    ∃ l, s.screen.chosenLocation = some l ∧ ShowsPlace s es s.screen.selected l := by
  have hok := AddFeelingViewController.after_ok (after_screen h)
  obtain ⟨l, hl⟩ := hok.chosenLocation
  have hplace := hok.chosenLocation_eq.symm.trans hl
  obtain ⟨n, hn⟩ := exists_request hplace
  refine ⟨l, hl, ?_, n, by rw [after_requests h]; exact hn, after_label hn h⟩
  intro hb
  rw [hb] at hplace
  rw [hok.hidden, Option.isNone_eq_false_iff, show touched = some l from hplace]
  rfl

end AddressScreen

namespace App

open Runs Session AddressScreen

variable {F : Foundation} {author : AuthUser} {before during : List AppEvent} {event : AppEvent}
  {touched : Option CLLocationCoordinate2D} {a : App}

/-- **What stands beside the selected button is published.** In every run of the app, however
the answers of the geocoder fall among the author's events, the label beside the button that is
on is in sight and shows the place that a save writes. -/
theorem saved_place_is_shown (ho : Opens event touched) (hd : ∀ e ∈ during, Closes e = false)
    (hrun : run F (some author) (before ++ event :: during) = some a) :
    ∃ c user l, a.addFeeling = some c ∧ lastLocation before = some user ∧
      (∀ d a', (handle F .saveEmotionPressed).run a = .ok (some d) a' →
        ∃ g : GeoPoint, d.get "location" = some (.single (.geoPoint g)) ∧
          (⟨g.latitude, g.longitude⟩ : CLLocationCoordinate2D) = l) ∧
      ∀ es, screenEvents es = composeEvents during → (completions es).Nodup →
        (∀ n ∈ completions es, n < (opening touched user).length) →
        ∃ s, after (AddressScreen.step F) (AddressScreen.opened touched user) es = some s ∧
          s.screen = c ∧ s.ShowsPlace es c.selected l := by
  obtain ⟨c, user, hc, hu, hafter, hdraft⟩ := run_draft ho hd hrun
  obtain ⟨l, hl⟩ := (AddFeelingViewController.after_ok hafter).chosenLocation
  refine ⟨c, user, l, hc, hu, fun d a' hsave => ?_, fun es hes hnodup hlt => ?_⟩
  · obtain ⟨userName, l', hl', -, hcl, rfl⟩ := hdraft d a' hsave
    rw [hl] at hcl; cases hcl
    exact ⟨_, (AddFeelingViewController.postDocument_stores _).location, rfl⟩
  · obtain ⟨s, hs⟩ := after_isSome_iff.2 ⟨⟨c, by rw [hes]; exact hafter⟩, hnodup, hlt⟩
    have hscreen : s.screen = c := by
      have := after_screen hs
      rw [hes, hafter] at this
      exact (Option.some.inj this).symm
    obtain ⟨l', hl', hshows⟩ := after_showsPlace hs
    rw [hscreen, hl] at hl'
    cases hl'
    exact ⟨s, hs, hscreen, hscreen ▸ hshows⟩

/-- A long press, the button tapped over, and the answers in the other order. -/
theorem ana_is_shown_recife : ∃ (a : App) (c : AddFeelingViewController) (s : AddressScreen)
    (l : CLLocationCoordinate2D),
    run .ascii (some ⟨"u1", some "ana@sens"⟩) ([.didUpdateLocations [⟨-8, -35⟩]] ++
      .tapGesture .began ⟨-9, -36⟩ :: [.compose (.anonSwitched true), .compose (.locationTapped .user)]) =
        some a ∧ a.addFeeling = some c ∧ s.screen = c ∧
    s.ShowsPlace [.geocoded 1 false (some [{ locality := some "Recife" }]), .screen (.anonSwitched true),
      .screen (.locationTapped .user), .geocoded 0 false (some [{ locality := some "Garanhuns" }])]
      c.selected l := by
  have hrun : (run .ascii (some ⟨"u1", some "ana@sens"⟩) ([.didUpdateLocations [⟨-8, -35⟩]] ++
      .tapGesture .began ⟨-9, -36⟩ :: [.compose (.anonSwitched true),
        .compose (.locationTapped .user)])).isSome = true := by decide +kernel
  obtain ⟨a, ha⟩ := Option.isSome_iff_exists.1 hrun
  obtain ⟨c, user, l, hc, -, -, hshown⟩ := saved_place_is_shown (.tapped ⟨-9, -36⟩) (by decide) ha
  obtain ⟨s, -, hscreen, hs⟩ := hshown
    [.geocoded 1 false (some [{ locality := some "Recife" }]), .screen (.anonSwitched true),
      .screen (.locationTapped .user), .geocoded 0 false (some [{ locality := some "Garanhuns" }])]
    (by decide) (by decide) (by simp [completions, completed, opening])
  exact ⟨a, c, s, l, ha, hc, hscreen, hs⟩

end App

/-! ## The address text -/

namespace CLPlacemark

open AddressScreen

variable {p q : CLPlacemark}

def comma : Separator Char := ⟨[], ',', [' '], List.not_mem_nil⟩

def hyphen : Separator Char := ⟨[' '], '-', [' '], by decide⟩

/-- The text, as its fields and separators. -/
theorem addressText_toList (p : CLPlacemark) : (addressText p).toList =
    Separator.line [comma, hyphen, hyphen, hyphen, hyphen]
      [(p.thoroughfare.getD "").toList, (p.subThoroughfare.getD "").toList, (p.subLocality.getD "").toList,
        (p.locality.getD "").toList, (p.administrativeArea.getD "").toList] (p.country.getD "").toList := by
  simp only [addressText, String.toList_append, Separator.line, List.append_assoc]
  rfl

theorem Plain.clear (h : p.Plain) : Separator.Clear [comma, hyphen, hyphen, hyphen, hyphen]
    [(p.thoroughfare.getD "").toList, (p.subThoroughfare.getD "").toList, (p.subLocality.getD "").toList,
      (p.locality.getD "").toList, (p.administrativeArea.getD "").toList] :=
  .cons h.thoroughfare (.cons h.subThoroughfare (.cons h.subLocality (.cons h.locality
    (.cons h.administrativeArea .nil))))

/-- **The address text tells the parts apart.** -/
theorem addressText_inj (hp : p.Plain) (hq : q.Plain) :
    addressText p = addressText q ↔ p.parts = q.parts := by
  rw [← String.toList_inj, addressText_toList, addressText_toList, Separator.line_inj hp.clear hq.clear]
  simp [parts, String.toList_inj, and_assoc]

/-- Two cities. -/
theorem recife_garanhuns_inj :
    addressText { locality := some "Recife" } = addressText { locality := some "Garanhuns" } ↔
      CLPlacemark.parts { locality := some "Recife" } =
        CLPlacemark.parts { locality := some "Garanhuns" } :=
  addressText_inj (by constructor <;> decide) (by constructor <;> decide)

end CLPlacemark

end Sens

import Sens.Proof.SignIn
import Sens.Proof.System

/-!
# Getting a post published

* `after_session`: a session on the compose screen, from a home screen.
* `foldl_accounts`, `foldl_app`: a run of the accounts, or of one home screen, in the system.
* `foldl_home`, `foldl_post`: a new form gets to a home screen, whose sessions are published.
* `foldl_post_outside`: a session with a selected place that Firestore does not take is not.
* `newcomer_publishes`: both, from every state.
-/

namespace Sens

namespace App

open Runs

variable {F : Foundation} {a : App}

/-- The compose screen steps as it does alone. -/
theorem step_compose {c c' : AddFeelingViewController} {e : AddFeelingEvent} (hc : a.addFeeling = some c)
    (h : AddFeelingViewController.step F c e = some c') :
    step F a (.compose e) = some { a with addFeeling := some c' } := by
  obtain ⟨hd, hr⟩ := AddFeelingViewController.step_eq_some.1 h
  refine step_eq_some.2 ⟨by simp [Deliverable, hc, hd], none, ?_⟩
  simp only [handle, EStateM.run_bind, onAddFeeling_run hc, hr]
  rfl

/-- A gesture that opens the compose screen, from a home screen that is in front. -/
theorem step_opening {opening : AppEvent} {touched : Option CLLocationCoordinate2D}
    {user : CLLocationCoordinate2D} (ho : Session.Opens opening touched) (ha : a.addFeeling = none)
    (hu : a.home.userLocation = some user) :
    step F a opening = some { a with addFeeling := some (AddFeelingViewController.opened touched user) } := by
  cases ho with
  | tapped newCoordinate =>
    refine step_eq_some.2 ⟨by simp [Deliverable, ha], none, ?_⟩
    simp only [handle, onHome, EStateM.run_bind, Swift.run_focus, tapGesture_run hu newCoordinate]
    rfl
  | added =>
    refine step_eq_some.2 ⟨by simp [Deliverable, ha], none, ?_⟩
    simp only [handle, onHome, EStateM.run_bind, Swift.run_focus, AddFeelingPressed_run hu]
    rfl

/-- **A session on the compose screen**, from a home screen that is in front. -/
theorem after_session {opening : AppEvent} {touched : Option CLLocationCoordinate2D}
    {l : CLLocationCoordinate2D} {ces : List AddFeelingEvent} {c : AddFeelingViewController}
    (ho : Session.Opens opening touched) (ha : a.addFeeling = none)
    (hc : after (AddFeelingViewController.step F) (AddFeelingViewController.opened touched l) ces = some c) :
    after (step F) a (.didUpdateLocations [l] :: opening :: ces.map .compose) =
      some { a with home.userLocation := some l, addFeeling := some c } := by
  have hopen := step_opening (F := F) (a := { a with home.userLocation := some l }) ho ha rfl
  refine after_cons_eq_some.2 ⟨{ a with home.userLocation := some l }, rfl,
    after_cons_eq_some.2 ⟨_, hopen, ?_⟩⟩
  -- event by event
  refine after_invariant (P := fun ces c => after (step F) { a with
    home.userLocation := some l
    addFeeling := some (AddFeelingViewController.opened touched l) } (ces.map .compose) =
      some { a with home.userLocation := some l, addFeeling := some c }) rfl ?_ ces c hc
  intro ces e u t _ hu he
  rw [List.map_append, after_append_eq_some]
  exact ⟨_, hu, (after_singleton _ _).trans (step_compose rfl he)⟩

end App

namespace System

open Runs

variable {F : Foundation} {s : System} {es : List AccountsEvent} {device : ℕ} {a a' : App}

/-! ## Parts of the system -/

/-- **The accounts in the system**: what happens on no home screen leaves the collection alone. -/
theorem foldl_accounts (hes : ∀ e ∈ es, ∀ device e', e ≠ .app device e') (s : System) :
    es.foldl (step F) s = ⟨es.foldl (Accounts.step F) s.accounts, s.pins⟩ := by
  induction es generalizing s with
  | nil => rfl
  | cons e es ih =>
    rw [List.foldl_cons, List.foldl_cons, step_of_not_app (hes e List.mem_cons_self),
      ih fun e he => hes e (List.mem_cons_of_mem _ he)]

/-- An event that a home screen takes. -/
theorem step_app {e : AppEvent} {data : Option Document} (ha : (s.accounts.devices device).app = some a)
    (hd : a.Deliverable e = true) (hans : s.Answers (.app device e) = true)
    (hacc : s.accounts.Answers device a e = true) (hr : (App.handle F e).run a = .ok data a') :
    step F s (.app device e) =
      ⟨s.accounts.setDevice device { s.accounts.devices device with app := some a' },
        World.publish s.pins data⟩ := by
  simp only [step, if_pos hans, saved, Accounts.step, ha, hd, hacc, Bool.and_self, if_pos, hr]
  rfl

/-- The event needs no answer, and saves nothing. -/
def Quiet : AppEvent → Bool
  | .pinsAnswered _ _ | .profileAnswered _ | .saveEmotionPressed => false
  | _ => true

theorem step_quiet {e : AppEvent} (he : Quiet e = true) (ha : (s.accounts.devices device).app = some a)
    (h : App.step F a e = some a') : step F s (.app device e) =
      ⟨s.accounts.setDevice device { s.accounts.devices device with app := some a' }, s.pins⟩ := by
  obtain ⟨hd, data, hr⟩ := App.step_eq_some.1 h
  have hans : s.Answers (.app device e) = true := by cases e <;> first | rfl | cases he
  have hacc : s.accounts.Answers device a e = true := by cases e <;> first | rfl | cases he
  have hdata : data = none := by
    cases App.handle_effect hd hr with
    | saved c c' d hc hs => cases he
    | _ => rfl
  rw [step_app ha hd hans hacc hr, hdata, World.publish_none]

/-- **A home screen in the system** runs as it does alone. -/
theorem foldl_app {aes : List AppEvent} (hes : ∀ e ∈ aes, Quiet e = true)
    (ha : (s.accounts.devices device).app = some a) (h : after (App.step F) a aes = some a') :
    (((aes.map (.app device)).foldl (step F) s).accounts.devices device).app = some a' ∧
      ((aes.map (.app device)).foldl (step F) s).pins = s.pins := by
  induction aes generalizing s a with
  | nil => cases h; exact ⟨ha, rfl⟩
  | cons e aes ih =>
    obtain ⟨b, hb, h⟩ := after_cons_eq_some.1 h
    have hstep := step_quiet (hes e List.mem_cons_self) ha hb
    rw [List.map_cons, List.foldl_cons, hstep]
    refine ih (fun e he => hes e (List.mem_cons_of_mem _ he)) ?_ h
    rw [Accounts.setDevice_devices, if_pos rfl]

/-! ## From the form to the post -/

/-- The sign-up of a form, and the full answer to the profile query of its home screen. -/
def homeEvents (F : Foundation) (s : System) (device : ℕ) (form : SingUpViewController) (uid : String) :
    List AccountsEvent :=
  let signUp := Accounts.signUpEvents s.accounts device form uid
  signUp ++ [.app device (.profileAnswered (some
    ((signUp.foldl (step F) s).accounts.profileDocuments device uid)))]

/-- A session on the compose screen, opened by the gesture at the user's location `l`. -/
def sessionEvents (device : ℕ) (l : CLLocationCoordinate2D) (opening : AppEvent)
    (ces : List AddFeelingEvent) : List AccountsEvent :=
  (.didUpdateLocations [l] :: opening :: ces.map .compose).map (.app device)

/-- A session, and its save. -/
def postEvents (device : ℕ) (l : CLLocationCoordinate2D) (opening : AppEvent)
    (ces : List AddFeelingEvent) : List AccountsEvent :=
  sessionEvents device l opening ces ++ [.app device .saveEmotionPressed]

theorem signUpEvents_not_app {w : Accounts} {form : SingUpViewController} {uid : String} :
    ∀ e ∈ w.signUpEvents device form uid, ∀ device' e', e ≠ .app device' e' := by
  intro e he device' e'
  rcases List.mem_append.1 he with he | he
  · unfold Accounts.formEvents at he
    split_ifs at he
    · rw [List.mem_singleton.1 he]
      simp
    · exact absurd he List.not_mem_nil
  · simp only [List.mem_cons, List.not_mem_nil, or_false] at he
    rcases he with rfl | rfl | rfl <;> simp

/-- **A new form gets home**, and the collection stays as it is. -/
theorem foldl_home (h : Accounts.OK F s.accounts) {form : SingUpViewController} {uid : String}
    (hv : form.validateFields F = none) (hd : (F.date form.dateTextField).isSome = true)
    (hnew : ∀ account ∈ s.accounts.accounts,
      account.email ≠ trimmingCharacters form.emailTextField ∧ account.uid ≠ uid) (device : ℕ) :
    ∃ p a, form.profile F = some p ∧
      ((homeEvents F s device form uid).foldl (step F) s).pins = s.pins ∧
      (((homeEvents F s device form uid).foldl (step F) s).accounts.devices device).app = some a ∧
      a.addFeeling = none ∧ a.home.user = (Accounts.accountOf form uid).user.withProfile p := by
  obtain ⟨doc, hsigned⟩ := Accounts.foldl_signUp hv hd hnew device
  have hrun : (Accounts.signUpEvents s.accounts device form uid).foldl (step F) s =
      ⟨(Accounts.signUpEvents s.accounts device form uid).foldl (Accounts.step F) s.accounts, s.pins⟩ :=
    foldl_accounts signUpEvents_not_app s
  have hok := Runs.foldl_invariant (P := fun _ w => Accounts.OK F w) h
    (fun _ e hw => Accounts.step_ok hw e) (Accounts.signUpEvents s.accounts device form uid)
  simp only [homeEvents, List.foldl_append, List.foldl_cons, List.foldl_nil, hrun]
  generalize (Accounts.signUpEvents s.accounts device form uid).foldl (Accounts.step F) s.accounts = w
    at hsigned hok ⊢
  have hacc : Accounts.accountOf form uid ∈ w.accounts := by
    rw [hsigned]
    exact List.mem_append_right _ (List.mem_singleton_self _)
  have happ : (w.devices device).app =
      some (App.launched uid (Accounts.accountOf form uid).email) := by
    rw [hsigned, Accounts.setDevice_devices, if_pos rfl]
  have hwrite : (uid, doc) ∈ (w.devices device).writes := by
    rw [hsigned, Accounts.setDevice_devices, if_pos rfl]
    exact List.mem_append_right _ (List.mem_singleton_self _)
  -- the query sees the write of this very device
  obtain ⟨d, ds, hdocs⟩ := List.exists_cons_of_ne_nil (hok.profileDocuments_ne_nil hwrite)
  have hmem : d ∈ w.profileDocuments device (Accounts.accountOf form uid).uid :=
    hdocs ▸ List.mem_cons_self
  obtain ⟨p, hp, hst⟩ := hok.profileDocuments hacc hmem
  have hans : w.Answers device (App.launched uid (Accounts.accountOf form uid).email)
      (.profileAnswered (some (w.profileDocuments device uid))) = true := by
    have hid : (App.launched uid (Accounts.accountOf form uid).email).home.user._id = some uid := rfl
    simp [Accounts.Answers, hid]
  rw [hdocs] at hans ⊢
  have hstep := step_app (F := F) (s := ⟨w, s.pins⟩) happ rfl rfl hans (App.profileAnswered_run hst ds)
  rw [hstep, Accounts.setDevice_devices, if_pos rfl]
  exact ⟨p, _, hp, World.publish_none _, rfl, rfl, rfl⟩

section Session

variable {uid userName : String} {opening : AppEvent} {touched : Option CLLocationCoordinate2D}
  {l place : CLLocationCoordinate2D} {ces : List AddFeelingEvent} {c : AddFeelingViewController}

/-- The compose screen that a session leaves, over the home screen that it began on. -/
theorem foldl_session (ha : (s.accounts.devices device).app = some a) (hfree : a.addFeeling = none)
    (ho : Session.Opens opening touched)
    (hc : after (AddFeelingViewController.step F) (AddFeelingViewController.opened touched l) ces = some c) :
    (((sessionEvents device l opening ces).foldl (step F) s).accounts.devices device).app =
        some { a with home.userLocation := some l, addFeeling := some c } ∧
      ((sessionEvents device l opening ces).foldl (step F) s).pins = s.pins := by
  have hquiet : ∀ e ∈ .didUpdateLocations [l] :: opening :: ces.map AppEvent.compose,
      Quiet e = true := by
    cases ho <;> simp [Quiet]
  exact foldl_app hquiet ha (App.after_session ho hfree hc)

/-- **A session is published**, from a home screen that knows its user. -/
theorem foldl_post (ha : (s.accounts.devices device).app = some a) (hfree : a.addFeeling = none)
    (hid : a.home.user._id = some uid) (hname : a.home.user._name = some userName)
    (ho : Session.Opens opening touched)
    (hc : after (AddFeelingViewController.step F) (AddFeelingViewController.opened touched l) ces = some c)
    (hplace : Choice.place touched l (Choice.lastButton ces touched) = some place) (hl : place.InRange) :
    ((postEvents device l opening ces).foldl (step F) s).pins = s.pins ++ [⟨s.pins.length,
      AddFeelingViewController.postDocument (c.post uid (if c.anonSwitch then "Anonimo" else userName)
        ⟨place.latitude, place.longitude, hl.1, hl.2⟩)⟩] := by
  obtain ⟨ha', hpins⟩ := foldl_session ha hfree ho hc
  have hn : c.displayName a.home.user = some (if c.anonSwitch then "Anonimo" else userName) := by
    rw [AddFeelingViewController.displayName, hname]
    split_ifs <;> rfl
  have hchosen : c.chosenLocation = some place := by
    rw [AddFeelingViewController.after_chosenLocation hc, hplace]
  have hsave := App.handle_save (F := F) (a := { a with home.userLocation := some l, addFeeling := some c })
    rfl (AddFeelingViewController.save_run hl hid hn hchosen)
  rw [postEvents, List.foldl_append, List.foldl_cons, List.foldl_nil,
    step_app ha' rfl rfl rfl hsave, hpins]
  rfl

/-- **A session at a place that Firestore does not take** is not published. -/
theorem foldl_post_outside (ha : (s.accounts.devices device).app = some a) (hfree : a.addFeeling = none)
    (ho : Session.Opens opening touched)
    (hc : after (AddFeelingViewController.step F) (AddFeelingViewController.opened touched l) ces = some c)
    (hplace : Choice.place touched l (Choice.lastButton ces touched) = some place) (hl : ¬ place.InRange) :
    ((postEvents device l opening ces).foldl (step F) s).pins = s.pins := by
  obtain ⟨ha', hpins⟩ := foldl_session ha hfree ho hc
  rw [postEvents, List.foldl_append, List.foldl_cons, List.foldl_nil]
  generalize (sessionEvents device l opening ces).foldl (step F) s = t at ha' hpins ⊢
  have hnone : t.saved F (.app device .saveEmotionPressed) = none := by
    rw [Option.eq_none_iff_forall_ne_some]
    intro data hdata
    obtain ⟨device', b, c₀, c', hdevice, hb, hc₀, hs⟩ := saved_eq_some hdata
    cases hdevice
    rw [ha'] at hb
    cases hb
    cases hc₀
    -- a save that writes has found the place in range
    obtain ⟨id, userName, l', hl', -, -, hcl, -⟩ := AddFeelingViewController.save_iff.1 ⟨c', hs⟩
    rw [AddFeelingViewController.after_chosenLocation hc, hplace] at hcl
    cases hcl
    exact hl hl'
  unfold step
  split_ifs
  · simp [hnone, hpins]
  · exact hpins

end Session

/-- **Every newcomer can publish.** From every state of the system and on every device, a valid
form with a date and a new e-mail leads to a home screen on which every session of the author,
opened either way, is published as it stands: the collection gains the post of the draft, at the
place that was selected last, and nothing else. Where Firestore does not take this place, it
gains nothing. -/
theorem newcomer_publishes {form : SingUpViewController} {uid : String}
    (hv : form.validateFields F = none) (hd : (F.date form.dateTextField).isSome = true)
    (hnew : ∀ account ∈ (run F es).accounts.accounts,
      account.email ≠ trimmingCharacters form.emailTextField ∧ account.uid ≠ uid) (device : ℕ)
    {opening : AppEvent} {touched : Option CLLocationCoordinate2D} (ho : Session.Opens opening touched)
    {l : CLLocationCoordinate2D} {ces : List AddFeelingEvent} {c : AddFeelingViewController}
    (hc : after (AddFeelingViewController.step F) (AddFeelingViewController.opened touched l) ces = some c) :
    ∃ place, Choice.place touched l (Choice.lastButton ces touched) = some place ∧
      (∀ hl : place.InRange,
        (run F (es ++ homeEvents F (run F es) device form uid ++ postEvents device l opening ces)).pins =
          (run F es).pins ++ [⟨(run F es).pins.length, AddFeelingViewController.postDocument
            (c.post uid (if c.anonSwitch then "Anonimo" else trimmingCharacters form.firstName)
              ⟨place.latitude, place.longitude, hl.1, hl.2⟩)⟩]) ∧
      (¬ place.InRange →
        (run F (es ++ homeEvents F (run F es) device form uid ++ postEvents device l opening ces)).pins =
          (run F es).pins) := by
  obtain ⟨p, a, hp, hpins, ha, hfree, huser⟩ := foldl_home (run_ok es) hv hd hnew device
  obtain ⟨date, -, rfl⟩ := Option.map_eq_some_iff.1 hp
  have hid : a.home.user._id = some uid := by rw [huser]; rfl
  have hname : a.home.user._name = some (trimmingCharacters form.firstName) := by rw [huser]; rfl
  obtain ⟨place, hplace⟩ := (AddFeelingViewController.after_ok hc).chosenLocation
  rw [AddFeelingViewController.after_chosenLocation hc] at hplace
  have hrun : run F (es ++ homeEvents F (run F es) device form uid ++ postEvents device l opening ces) =
      (postEvents device l opening ces).foldl (step F)
        ((homeEvents F (run F es) device form uid).foldl (step F) (run F es)) := by
    rw [run, List.foldl_append, List.foldl_append]
    rfl
  refine ⟨place, hplace, fun hl => ?_, fun hl => ?_⟩
  · have hpost := foldl_post ha hfree hid hname ho hc hplace hl
    rw [hrun, hpost, hpins]
  · rw [hrun, foldl_post_outside ha hfree ho hc hplace hl, hpins]

/-- The first post of the first account, with one tag, where its author pressed the map. -/
theorem ana_publishes_paz : ∃ p : Post, p.tags = ["paz"] ∧ p.userName = "ana" ∧ p.location.latitude = -9 ∧
    (run .ascii (homeEvents .ascii {} 0 Accounts.anaForm "u1" ++ postEvents 0 ⟨-8, -35⟩
      (.tapGesture .began ⟨-9, -36⟩) [.tagTextEdited "paz", .addEmotionTagPressed])).pins =
        [⟨0, AddFeelingViewController.postDocument p⟩] := by
  have hv : Accounts.anaForm.validateFields .ascii = none := by decide +kernel
  have hd : (Foundation.ascii.date Accounts.anaForm.dateTextField).isSome = true := by decide +kernel
  have hnew : ∀ account ∈ (run .ascii []).accounts.accounts,
      account.email ≠ trimmingCharacters Accounts.anaForm.emailTextField ∧ account.uid ≠ "u1" :=
    fun _ hacc => absurd hacc List.not_mem_nil
  have hsession : (after (AddFeelingViewController.step .ascii)
      (AddFeelingViewController.opened (some ⟨-9, -36⟩) ⟨-8, -35⟩)
        [.tagTextEdited "paz", .addEmotionTagPressed]).map (fun c => (c.pin.tags, c.anonSwitch)) =
      some (["paz"], false) := by decide +kernel
  obtain ⟨c, hc, htags⟩ := Option.map_eq_some_iff.1 hsession
  obtain ⟨htags, hanon⟩ := Prod.mk.inj htags
  have hname : trimmingCharacters Accounts.anaForm.firstName = "ana" := by decide +kernel
  obtain ⟨place, hplace, hpublished, -⟩ := newcomer_publishes hv hd hnew 0 (.tapped ⟨-9, -36⟩) hc
  cases hplace
  refine ⟨_, htags, ?_, ?_, hpublished (by decide)⟩
  · simp [AddFeelingViewController.post, hanon, hname]
  · rfl

end System

end Sens

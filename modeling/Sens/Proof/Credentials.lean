import Sens.Purpose.Accounts
import Sens.Proof.Accounts
import Sens.Proof.Reader

/-!
# Who an account and a home screen belong to

* `Effect`, `step_effect`: what each event can do to the accounts.
* `accounts_are_submitted`: every account is what a valid form asked for, and the only one
  of its e-mail and id.
* `home_is_authenticated`: who is on a home screen has typed the credentials of its account
  on that device since it was restarted, and the screen knows nobody else's profile.
-/

namespace Sens

namespace SingUpViewController

variable {F : Foundation} {form : SingUpViewController} {σ : Type}

/-- A call that is made comes from a valid form. -/
theorem validateFields_of_ok {call : CreateUser} {s s' : σ}
    (h : (form.signInButton F).run s = .ok (some call) s') : form.validateFields F = none := by
  cases hv : form.validateFields F with
  | none => rfl
  | some error => rw [signInButton_of_invalid hv] at h; cases h

end SingUpViewController

namespace Accounts

variable {F : Foundation} {w w' : Accounts} {e : AccountsEvent} {es : List AccountsEvent} {device : ℕ}

@[simp] theorem setDevice_accounts (w : Accounts) (device : ℕ) (d : Device) :
    (w.setDevice device d).accounts = w.accounts := rfl

@[simp] theorem setDevice_users (w : Accounts) (device : ℕ) (d : Device) :
    (w.setDevice device d).users = w.users := rfl

theorem setDevice_devices (w : Accounts) (device k : ℕ) (d : Device) :
    (w.setDevice device d).devices k = if k = device then d else w.devices k :=
  Function.update_apply ..

/-! ## One event -/

/-- The event ends the process of its device. -/
inductive Ends (F : Foundation) (w : Accounts) : AccountsEvent → Prop
  | submitted (device : ℕ) (form : SingUpViewController) (t : Trap) (s : Unit)
      (ha : (w.devices device).app = none) (hr : (form.signInButton F).run () = .error t s) :
      Ends F w (.signInButton device form)
  | app (device : ℕ) (e : AppEvent) (a a' : App) (t : Trap) (ha : (w.devices device).app = some a)
      (hd : a.Deliverable e = true) (hans : w.Answers device a e = true)
      (hr : (App.handle F e).run a = .error t a') : Ends F w (.app device e)
  | restarted (device : ℕ) : Ends F w (.restarted device)

/-- **What an event can do.** -/
inductive Effect (F : Foundation) (w : Accounts) : AccountsEvent → Accounts → Prop
  | ignored (e : AccountsEvent) (he : e ≠ .restarted e.device) : Effect F w e w
  | stopped (e : AccountsEvent) (he : Ends F w e) :
      Effect F w e (w.setDevice e.device (w.devices e.device).restart)
  | submitted (device : ℕ) (form : SingUpViewController) (call : CreateUser)
      (hv : form.validateFields F = none) (hc : form.Submits F call) :
      Effect F w (.signInButton device form) (w.setDevice device { w.devices device with
        signUps := (w.devices device).signUps ++ [⟨form, call, none⟩] })
  | refused (device call : ℕ) (s : SignUp) (hs : (w.devices device).signUps[call]? = some s)
      (ha : s.answer = none) :
      Effect F w (.createUserAnswered device call none) (w.setDevice device { w.devices device with
        signUps := (w.devices device).signUps.set call { s with answer := some none } })
  | created (device call : ℕ) (uid : String) (s : SignUp)
      (hs : (w.devices device).signUps[call]? = some s) (ha : s.answer = none)
      (hnew : ∀ account ∈ w.accounts, account.email ≠ s.call.email ∧ account.uid ≠ uid) :
      Effect F w (.createUserAnswered device call (some uid)) (Accounts.setDevice
        { w with accounts := w.accounts ++ [⟨uid, s.call.email, s.call.password, s.form⟩] } device
        { w.devices device with
          signUps := (w.devices device).signUps.set call { s with answer := some (some uid) } })
  | failed (device call : ℕ) (s : SignUp) (hs : (w.devices device).signUps[call]? = some s)
      (ha : s.answer = some none) :
      Effect F w (.createUserCompleted device call) (w.setDevice device { w.devices device with
        signUps := (w.devices device).signUps.eraseIdx call })
  | completed (device call : ℕ) (s : SignUp) (uid : String) (doc : Document)
      (hs : (w.devices device).signUps[call]? = some s) (ha : s.answer = some (some uid)) :
      Effect F w (.createUserCompleted device call) (w.setDevice device { w.devices device with
        signUps := (w.devices device).signUps.eraseIdx call
        writes := (w.devices device).writes ++ [(uid, doc)]
        app := some ((w.devices device).app.getD (App.launched uid s.call.email)) })
  | asked (device : ℕ) (form : LoginViewController) :
      Effect F w (.login device form) (w.setDevice device { w.devices device with
        signIns := (w.devices device).signIns ++ [form.login] })
  | notSignedIn (device call : ℕ) :
      Effect F w (.signInCompleted device call none) (w.setDevice device { w.devices device with
        signIns := (w.devices device).signIns.eraseIdx call })
  | signedIn (device call : ℕ) (account : Account) (ha : account ∈ w.accounts)
      (hs : (account.email, account.password) ∈ (w.devices device).signIns) :
      Effect F w (.signInCompleted device call (some account.uid)) (w.setDevice device
        { w.devices device with
          signIns := (w.devices device).signIns.eraseIdx call
          app := some ((w.devices device).app.getD (App.launched account.uid account.email)) })
  | dropped (device write : ℕ) :
      Effect F w (.writeSettled device write false) (w.setDevice device { w.devices device with
        writes := (w.devices device).writes.eraseIdx write })
  | stored (device write : ℕ) (x : String × Document) (hx : (w.devices device).writes[write]? = some x) :
      Effect F w (.writeSettled device write true) { w.setDevice device { w.devices device with
        writes := (w.devices device).writes.eraseIdx write } with users := setData w.users x }
  | app (device : ℕ) (e : AppEvent) (a a' : App) (d : Option Document)
      (ha : (w.devices device).app = some a) (hans : w.Answers device a e = true)
      (he : App.Effect F a e d a') :
      Effect F w (.app device e) (w.setDevice device { w.devices device with app := some a' })

theorem createUserAnswered_effect (w : Accounts) (device call : ℕ) (uid : Option String) :
    Effect F w (.createUserAnswered device call uid) (step F w (.createUserAnswered device call uid)) := by
  simp only [step]
  cases hs : (w.devices device).signUps[call]? with
  | none => exact .ignored _ (by simp)
  | some s =>
    simp only
    split_ifs with ha
    · exact .ignored _ (by simp)
    · rw [Option.not_isSome_iff_eq_none] at ha
      cases uid with
      | none => exact .refused device call s hs ha
      | some uid =>
        simp only
        cases hc : w.createAccount s uid with
        | none => exact .ignored _ (by simp)
        | some w' =>
          unfold Accounts.createAccount at hc
          split_ifs at hc with hnew
          cases hc
          refine .created device call uid s hs ha fun account hacc => ?_
          simpa using List.all_eq_true.1 hnew account hacc

theorem createUserCompleted_effect (h : OK F w) (device call : ℕ) :
    Effect F w (.createUserCompleted device call) (step F w (.createUserCompleted device call)) := by
  simp only [step]
  cases hs : (w.devices device).signUps[call]? with
  | none => exact .ignored _ (by simp)
  | some s =>
    simp only
    split_ifs with ha
    · obtain ⟨answer, ha⟩ := Option.isSome_iff_exists.1 ha
      unfold completeSignUp
      cases answer with
      | none => simp only [ha]; exact .failed device call s hs ha
      | some uid =>
        -- the object that the handler captured has every field
        obtain ⟨p, -, hp⟩ := ((h.devices device).signUps s (List.mem_of_getElem? hs)).holds
        obtain ⟨doc, hrun, -⟩ := SingUpViewController.createUserCompletion_run hp uid ()
        simp only [ha, hrun, Device.transitionToHome_eq]
        exact .completed device call s uid doc hs ha
    · exact .ignored _ (by simp)

theorem signInCompleted_effect (w : Accounts) (device call : ℕ) (uid : Option String) :
    Effect F w (.signInCompleted device call uid) (step F w (.signInCompleted device call uid)) := by
  simp only [step]
  cases hs : (w.devices device).signIns[call]? with
  | none => exact .ignored _ (by simp)
  | some x =>
    cases uid with
    | none => exact .notSignedIn device call
    | some uid =>
      simp only
      split_ifs with hany
      · obtain ⟨account, hacc, hx⟩ := List.any_eq_true.1 hany
        simp only [decide_eq_true_eq] at hx
        obtain ⟨rfl, hemail, hpassword⟩ := hx
        have hmem : (account.email, account.password) ∈ (w.devices device).signIns := by
          rw [hemail, hpassword]
          exact List.mem_of_getElem? hs
        rw [← hemail, Device.transitionToHome_eq]
        exact .signedIn device call account hacc hmem
      · exact .ignored _ (by simp)

theorem step_effect (h : OK F w) (e : AccountsEvent) : Effect F w e (step F w e) := by
  cases e with
  | signInButton device form =>
    simp only [step]
    split_ifs with ha
    · exact .ignored _ (by simp)
    · rw [Option.not_isSome_iff_eq_none] at ha
      cases hr : (form.signInButton F).run () with
      | error t s => exact .stopped _ (.submitted device form t s ha hr)
      | ok call s =>
        cases call with
        | none => exact .ignored _ (by simp)
        | some call =>
          exact .submitted device form call (SingUpViewController.validateFields_of_ok hr)
            (SingUpViewController.submits_of_ok hr)
  | createUserAnswered device call uid => exact createUserAnswered_effect w device call uid
  | createUserCompleted device call => exact createUserCompleted_effect h device call
  | login device form =>
    simp only [step]
    split_ifs
    · exact .ignored _ (by simp)
    · exact .asked device form
  | signInCompleted device call uid => exact signInCompleted_effect w device call uid
  | writeSettled device write stored =>
    simp only [step]
    cases hx : (w.devices device).writes[write]? with
    | none => exact .ignored _ (by simp)
    | some x =>
      cases stored with
      | true => exact .stored device write x hx
      | false => exact .dropped device write
  | app device e =>
    simp only [step]
    cases ha : (w.devices device).app with
    | none => exact .ignored _ (by simp)
    | some a =>
      simp only
      split_ifs with hd
      · rw [Bool.and_eq_true] at hd
        cases hr : (App.handle F e).run a with
        | error t s => exact .stopped _ (.app device e a s t ha hd.1 hd.2 hr)
        | ok d a' => exact .app device e a a' d ha hd.2 (App.handle_effect hd.1 hr)
      · exact .ignored _ (by simp)
  | restarted device => exact .stopped _ (.restarted device)

/-- Accounts are only added. -/
theorem Effect.accounts_subset (he : Effect F w e w') : w.accounts ⊆ w'.accounts := by
  cases he with
  | created device call uid s hs ha hnew => exact List.subset_append_left _ _
  | _ => exact List.Subset.refl _

theorem run_append (es fs : List AccountsEvent) : run F (es ++ fs) = fs.foldl (step F) (run F es) :=
  List.foldl_append ..

/-! ## The credentials -/

/-- A sign-up in progress on the device: its form is valid and was submitted there, and an
id that was answered is that of the account it asked for. -/
structure SignUpEntered (F : Foundation) (accounts : List Account) (device : ℕ) (es : List AccountsEvent)
    (s : SignUp) : Prop where
  valid : s.form.validateFields F = none
  submits : s.form.Submits F s.call
  entered : .signInButton device s.form ∈ es
  answer : ∀ uid, s.answer = some (some uid) → ∃ account ∈ accounts, account.uid = uid ∧
    account.form = s.form ∧ account.email = s.call.email

/-- The device knows only what was typed on it in the events. -/
structure DeviceEntered (F : Foundation) (accounts : List Account) (device : ℕ) (es : List AccountsEvent)
    (d : Device) : Prop where
  signUps : ∀ s ∈ d.signUps, SignUpEntered F accounts device es s
  signIns : ∀ x ∈ d.signIns, ∃ form, .login device form ∈ es ∧ form.login = x
  app : ∀ a, d.app = some a →
    ∃ account ∈ accounts, account.Knows F a.home.user ∧ Entered account device es

/-- A home screen that is reached is that of an account whose credentials were typed. -/
theorem DeviceEntered.reached {accounts : List Account} {d : Device}
    (h : DeviceEntered F accounts device es d) {account : Account} (hacc : account ∈ accounts)
    (hent : Entered account device es) {a : App}
    (ha : some (d.app.getD (App.launched account.uid account.email)) = some a) :
    ∃ account ∈ accounts, account.Knows F a.home.user ∧ Entered account device es := by
  rcases App.of_reached ha with happ | rfl
  · exact h.app a happ
  · exact ⟨account, hacc, .inl rfl, hent⟩

/-- The invariant of the credentials, with the events so far. -/
structure Credited (F : Foundation) (es : List AccountsEvent) (w : Accounts) : Prop where
  accounts : ∀ account ∈ w.accounts,
    account.Registered F ∧ ∃ device, .signInButton device account.form ∈ es
  emails : (w.accounts.map (·.email)).Nodup
  devices : ∀ device, DeviceEntered F w.accounts device (sinceRestart device es) (w.devices device)

theorem sinceRestart_concat (he : e ≠ .restarted device) :
    sinceRestart device (es ++ [e]) = sinceRestart device es ++ [e] :=
  List.rtakeWhile_concat_pos _ _ _ (by simpa using he)

theorem sinceRestart_subset : sinceRestart device es ⊆ es := (List.rtakeWhile_suffix _ _).subset

theorem Entered.mono {es' : List AccountsEvent} (hsub : es ⊆ es') {account : Account}
    (h : Entered account device es) : Entered account device es' := by
  rcases h with h | ⟨form, h, hx⟩
  · exact .inl (hsub h)
  · exact .inr ⟨form, hsub h, hx⟩

section Mono

variable {accounts accounts' : List Account} {es' : List AccountsEvent} {d : Device}

theorem SignUpEntered.mono (hacc : accounts ⊆ accounts') (hes : es ⊆ es') {s : SignUp}
    (h : SignUpEntered F accounts device es s) : SignUpEntered F accounts' device es' s where
  valid := h.valid
  submits := h.submits
  entered := hes h.entered
  answer uid hu := by
    obtain ⟨account, ha, hx⟩ := h.answer uid hu
    exact ⟨account, hacc ha, hx⟩

theorem DeviceEntered.mono (hacc : accounts ⊆ accounts') (hes : es ⊆ es')
    (h : DeviceEntered F accounts device es d) : DeviceEntered F accounts' device es' d where
  signUps s hs := (h.signUps s hs).mono hacc hes
  signIns x hx := by
    obtain ⟨form, hf, hx⟩ := h.signIns x hx
    exact ⟨form, hes hf, hx⟩
  app a ha := by
    obtain ⟨account, hmem, hk, hent⟩ := h.app a ha
    exact ⟨account, hacc hmem, hk, Entered.mono hes hent⟩

theorem DeviceEntered.restart (d : Device) : DeviceEntered F accounts device es d.restart where
  signUps _ hs := absurd hs List.not_mem_nil
  signIns _ hx := absurd hx List.not_mem_nil
  app _ ha := by cases ha

end Mono

/-- The device of the event is changed, and no other. -/
theorem Credited.setDevice (h : Credited F es w) {d : Device}
    (hd : DeviceEntered F w.accounts e.device (sinceRestart e.device (es ++ [e])) d) :
    Credited F (es ++ [e]) (w.setDevice e.device d) where
  accounts account ha := by
    obtain ⟨hreg, device, hes⟩ := h.accounts account ha
    exact ⟨hreg, device, List.mem_append_left _ hes⟩
  emails := h.emails
  devices k := by
    rw [setDevice_devices]
    split_ifs with hk
    · subst hk; exact hd
    · have he : e ≠ .restarted k := by
        rintro rfl
        exact hk rfl
      refine (h.devices k).mono (List.Subset.refl _) ?_
      rw [sinceRestart_concat he]
      exact List.subset_append_left _ _

/-- A new account is what the form of its sign-up asked for. -/
theorem Credited.createAccount (h : Credited F es w) {s : SignUp} {uid : String}
    (hs : SignUpEntered F w.accounts device (sinceRestart device es) s)
    (hnew : ∀ account ∈ w.accounts, account.email ≠ s.call.email ∧ account.uid ≠ uid) :
    Credited F es
      { w with accounts := w.accounts ++ [⟨uid, s.call.email, s.call.password, s.form⟩] } where
  accounts account ha := by
    rcases List.mem_append.1 ha with ha | ha
    · exact h.accounts account ha
    · rw [List.mem_singleton.1 ha]
      obtain ⟨date, hdate, -⟩ := hs.submits.birthDate
      refine ⟨⟨hs.valid, ?_, hs.submits.email, hs.submits.password⟩, device,
        sinceRestart_subset hs.entered⟩
      simp [SingUpViewController.profile, hdate]
  emails := by
    rw [List.map_append]
    refine List.nodup_append.2 ⟨h.emails, List.nodup_singleton _, ?_⟩
    rintro email hemail email' hemail' rfl
    obtain ⟨account, hacc, rfl⟩ := List.mem_map.1 hemail
    exact (hnew account hacc).1 (List.mem_singleton.1 hemail')
  devices k := (h.devices k).mono (List.subset_append_left _ _) (List.Subset.refl _)

/-- An event of the home screen leaves its user as it is, or gives it the profile. -/
theorem Knows.step {account : Account} {a a' : App} {e : AppEvent} {d : Option Document} (h : OK F w)
    (hacc : account ∈ w.accounts) (hk : account.Knows F a.home.user)
    (hans : w.Answers device a e = true) (he : App.Effect F a e d a') : account.Knows F a'.home.user := by
  cases he with
  | profileLoaded doc docs p hp =>
    have hid : a.home.user._id = some account.uid := by
      rcases hk with hk | ⟨q, -, hk⟩
      · rw [hk]; rfl
      · rw [hk]; rfl
    have hsub : doc ∈ w.profileDocuments device account.uid := by
      simp only [Answers, hid, Option.any_some, List.isSublist_iff_sublist] at hans
      exact hans.subset List.mem_cons_self
    obtain ⟨q, hq, hst⟩ := h.profileDocuments hacc hsub
    have hqp := (Document.profile?_eq_some.2 hst).symm.trans (Document.profile?_eq_some.2 hp)
    obtain rfl : q = p := Option.some.inj hqp
    refine .inr ⟨q, hq, ?_⟩
    rcases hk with hk | ⟨q', -, hk⟩
    · simp only [hk]
    · simp only [hk]; rfl
  | pinsLoaded query documents l hl hr => simpa only [HomeViewController.pushAll_eq] using hk
  | _ => exact hk

theorem setDevice_self (w : Accounts) (device : ℕ) : w.setDevice device (w.devices device) = w := by
  rw [Accounts.setDevice, Function.update_eq_self]

/-- An event that is no restart, from what it makes of its device. -/
theorem Credited.onDevice (h : Credited F es w) (he : e ≠ .restarted e.device) {d : Device}
    (hd : ∀ es', e ∈ es' → DeviceEntered F w.accounts e.device es' (w.devices e.device) →
      DeviceEntered F w.accounts e.device es' d) :
    Credited F (es ++ [e]) (w.setDevice e.device d) := by
  refine h.setDevice ?_
  rw [sinceRestart_concat he]
  refine hd _ (List.mem_append_right _ (List.mem_singleton_self e)) ?_
  exact (h.devices _).mono (List.Subset.refl _) (List.subset_append_left _ _)

/-- A sign-up that gets an answer. -/
theorem DeviceEntered.answered {accounts : List Account} {d : Device} {s : SignUp} {call : ℕ}
    {uid : Option String} (hd : DeviceEntered F accounts device es d) (hs : s ∈ d.signUps)
    (hu : ∀ id, uid = some id → ∃ account ∈ accounts, account.uid = id ∧ account.form = s.form ∧
      account.email = s.call.email) :
    DeviceEntered F accounts device es
      { d with signUps := d.signUps.set call { s with answer := some uid } } := by
  refine ⟨fun t ht => ?_, hd.signIns, hd.app⟩
  rcases List.mem_or_eq_of_mem_set ht with ht | rfl
  · exact hd.signUps t ht
  · have hs' := hd.signUps s hs
    exact ⟨hs'.valid, hs'.submits, hs'.entered, fun id hid => hu id (Option.some.inj hid)⟩

theorem Effect.credited (hok : OK F w) (h : Credited F es w) (he : Effect F w e w') :
    Credited F (es ++ [e]) w' := by
  cases he with
  | ignored e he =>
    have hsame := h.onDevice he fun es' _ hd => hd
    rwa [setDevice_self] at hsame
  | stopped e he => exact h.setDevice (.restart _)
  | submitted device form call hv hc =>
    refine h.onDevice (e := .signInButton device form) (by simp) fun es' he hd => ?_
    refine ⟨fun s hs => ?_, hd.signIns, hd.app⟩
    rcases List.mem_append.1 hs with hs | hs
    · exact hd.signUps s hs
    · rw [List.mem_singleton.1 hs]
      exact ⟨hv, hc, he, fun uid hu => by cases hu⟩
  | refused device call s hs ha =>
    exact h.onDevice (e := .createUserAnswered device call none) (by simp) fun es' _ hd =>
      hd.answered (List.mem_of_getElem? hs) fun id hid => by cases hid
  | created device call uid s hs ha hnew =>
    have hs' : s ∈ (w.devices device).signUps := List.mem_of_getElem? hs
    have h' := h.createAccount ((h.devices device).signUps s hs') hnew
    refine h'.onDevice (e := .createUserAnswered device call (some uid)) (by simp) fun es' _ hd => ?_
    refine hd.answered hs' ?_
    rintro id ⟨⟩
    exact ⟨_, List.mem_append_right _ (List.mem_singleton_self _), rfl, rfl, rfl⟩
  | failed device call s hs ha =>
    exact h.onDevice (e := .createUserCompleted device call) (by simp) fun es' _ hd =>
      ⟨fun t ht => hd.signUps t (List.mem_of_mem_eraseIdx ht), hd.signIns, hd.app⟩
  | completed device call s uid doc hs ha =>
    refine h.onDevice (e := .createUserCompleted device call) (by simp) fun es' _ hd => ?_
    refine ⟨fun t ht => hd.signUps t (List.mem_of_mem_eraseIdx ht), hd.signIns, fun a hreached => ?_⟩
    -- the form that was submitted has the account's credentials
    have hs' := hd.signUps s (List.mem_of_getElem? hs)
    obtain ⟨account, hacc, rfl, hform, hemail⟩ := hs'.answer uid ha
    rw [← hemail] at hreached
    exact hd.reached hacc (.inl (hform ▸ hs'.entered)) hreached
  | asked device form =>
    refine h.onDevice (e := .login device form) (by simp) fun es' he hd => ?_
    refine ⟨hd.signUps, fun x hx => ?_, hd.app⟩
    rcases List.mem_append.1 hx with hx | hx
    · exact hd.signIns x hx
    · exact ⟨form, he, (List.mem_singleton.1 hx).symm⟩
  | notSignedIn device call =>
    exact h.onDevice (e := .signInCompleted device call none) (by simp) fun es' _ hd =>
      ⟨hd.signUps, fun x hx => hd.signIns x (List.mem_of_mem_eraseIdx hx), hd.app⟩
  | signedIn device call account hacc hs =>
    refine h.onDevice (e := .signInCompleted device call (some account.uid)) (by simp) fun es' _ hd => ?_
    exact ⟨hd.signUps, fun x hx => hd.signIns x (List.mem_of_mem_eraseIdx hx), fun a hreached =>
      hd.reached hacc (.inr (hd.signIns _ hs)) hreached⟩
  | dropped device write =>
    exact h.onDevice (e := .writeSettled device write false) (by simp) fun es' _ hd =>
      ⟨hd.signUps, hd.signIns, hd.app⟩
  | stored device write x hx =>
    have h' := h.onDevice (e := .writeSettled device write true) (by simp)
      (d := { w.devices device with writes := (w.devices device).writes.eraseIdx write })
      fun es' _ hd => ⟨hd.signUps, hd.signIns, hd.app⟩
    exact ⟨h'.accounts, h'.emails, h'.devices⟩
  | app device e a a' d ha hans he =>
    refine h.onDevice (e := .app device e) (by simp) fun es' _ hd => ⟨hd.signUps, hd.signIns, ?_⟩
    rintro b ⟨⟩
    obtain ⟨account, hacc, hk, hent⟩ := hd.app a ha
    exact ⟨account, hacc, Knows.step hok hacc hk hans he, hent⟩

/-- **The credentials have their invariant**, in every run. -/
theorem run_credited (es : List AccountsEvent) : Credited F es (run F es) := by
  refine Runs.foldl_invariant (P := fun es w => Credited F es w) ?_ (fun es e h => ?_) es
  · exact ⟨fun _ h => absurd h List.not_mem_nil, List.nodup_nil, fun _ => .restart {}⟩
  · exact (step_effect (run_ok es) e).credited (run_ok es) h

/-! ## Every run -/

/-- **Every account is what a valid form asked for**, on some device, and it is the only one
of its e-mail and of its id. -/
theorem accounts_are_submitted (F : Foundation) (es : List AccountsEvent) :
    (∀ account ∈ (run F es).accounts, account.Registered F ∧
      ∃ device, .signInButton device account.form ∈ es) ∧
      ((run F es).accounts.map (·.email)).Nodup ∧ ((run F es).accounts.map (·.uid)).Nodup :=
  ⟨(run_credited es).accounts, (run_credited es).emails, (run_ok es).nodup⟩

/-- **Nobody is on another's home screen.** A home screen is that of an account whose
credentials were typed on this device since it was last restarted, and what it knows of its
user is what the form of this account said, or nothing yet. -/
theorem home_is_authenticated {a : App} (h : ((run F es).devices device).app = some a) :
    ∃ account ∈ (run F es).accounts, account.Knows F a.home.user ∧
      Entered account device (sinceRestart device es) :=
  ((run_credited es).devices device).app a h

/-- A sign-up on one device, and a sign-in with its credentials on another. -/
theorem rui_is_authenticated : ∃ (es : List AccountsEvent) (a : App),
    ((run .ascii es).devices 1).app = some a ∧ ∃ account ∈ (run .ascii es).accounts,
      account.Knows .ascii a.home.user ∧ Entered account 1 (sinceRestart 1 es) := by
  have happ : ((run .ascii [
      .signInButton 0 ⟨"rui", "lima", "rui@sens", "abcdefg1$", "Aug 22, 2019"⟩,
      .createUserAnswered 0 0 (some "u1"), .restarted 1, .login 1 ⟨" rui@sens", "abcdefg1$ "⟩,
      .signInCompleted 1 0 (some "u1")]).devices 1).app = some (App.launched "u1" "rui@sens") := by
    decide +kernel
  exact ⟨_, _, happ, home_is_authenticated happ⟩

end Accounts

end Sens

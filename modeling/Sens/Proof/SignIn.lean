import Sens.Proof.Lifecycle

/-!
# Reaching the home screen

* `signUp_reaches_home`: from every state a valid form with a new e-mail leads to a home
  screen that knows its profile.
* `signIn_reaches_home_iff`: an account can sign in on a device just when its profile is
  stored, or is on its way from this very device.
-/

namespace Sens

/-- A document that stores a profile completes the query. -/
theorem App.profileAnswered_run {F : Foundation} {a : App} {d : Document} {p : Profile}
    (hd : StoresProfile d p) (ds : List Document) :
    (App.handle F (.profileAnswered (some (d :: ds)))).run a =
      .ok none { a with profileQuery := false, home.user := a.home.user.withProfile p } := by
  simp only [App.handle, App.onUser, EStateM.run_bind, EStateM.run_modify, Swift.run_focus,
    HomeViewController.profileCompletion_run hd]
  rfl

namespace Device

/-- The device with the forms in front: it is restarted where it shows a home screen. -/
def atForms (d : Device) : Device := if d.app.isSome then d.restart else d

@[simp] theorem atForms_app (d : Device) : d.atForms.app = none := by
  unfold atForms
  split_ifs with ha
  · rfl
  · exact Option.not_isSome_iff_eq_none.1 ha

@[simp] theorem atForms_writes (d : Device) : d.atForms.writes = d.writes := by
  unfold atForms
  split_ifs <;> rfl

end Device

namespace Accounts

open Custody

variable {F : Foundation} {w : Accounts} {es : List AccountsEvent} {device : ℕ} {account : Account}

/-- **The full answer to the profile query** of a home screen that was just reached: the screen
knows the profile just when the query saw a document. -/
theorem launched_answered_iff (h : OK F w) (hacc : account ∈ w.accounts)
    (happ : (w.devices device).app = some (App.launched account.uid account.email)) :
    (∃ p a, account.form.profile F = some p ∧ ((step F w (.app device (.profileAnswered
      (some (w.profileDocuments device account.uid))))).devices device).app = some a ∧
      a.home.user = account.user.withProfile p) ↔ w.profileDocuments device account.uid ≠ [] := by
  have hdel : (App.launched account.uid account.email).Deliverable
      (.profileAnswered (some (w.profileDocuments device account.uid))) = true := rfl
  have hid : (App.launched account.uid account.email).home.user._id = some account.uid := rfl
  have hans : w.Answers device (App.launched account.uid account.email)
      (.profileAnswered (some (w.profileDocuments device account.uid))) = true := by
    simp [Answers, hid]
  simp only [step, happ, hdel, hans, Bool.and_self, if_pos]
  cases hdocs : w.profileDocuments device account.uid with
  | nil =>
    refine iff_of_false ?_ (by simp)
    rintro ⟨p, a, -, ha, -⟩
    rw [hdocs] at hdel
    cases hr : (App.handle F (.profileAnswered (some []))).run (App.launched account.uid account.email) with
    | ok d a' => cases App.handle_effect hdel hr
    | error t a' =>
      simp only [hr, setDevice_devices, if_pos] at ha
      cases ha
  | cons d ds =>
    refine iff_of_true ?_ (by simp)
    obtain ⟨p, hp, hst⟩ := h.profileDocuments hacc (hdocs ▸ List.mem_cons_self : d ∈ _)
    simp only [App.profileAnswered_run hst, setDevice_devices, if_pos]
    exact ⟨p, _, hp, rfl, rfl⟩

theorem setDevice_setDevice (w : Accounts) (device : ℕ) (d d' : Device) :
    (w.setDevice device d).setDevice device d' = w.setDevice device d' := by
  simp only [Accounts.setDevice, Function.update_idem]

theorem eraseIdx_concat {α : Type} (l : List α) (a : α) : (l ++ [a]).eraseIdx l.length = l := by
  rw [List.eraseIdx_append_of_length_le (le_refl _)]
  simp

/-! ## The forms -/

/-- A device that shows a home screen shows the forms again after a restart. -/
def formEvents (w : Accounts) (device : ℕ) : List AccountsEvent :=
  if (w.devices device).app.isSome then [.restarted device] else []

theorem foldl_formEvents (w : Accounts) (device : ℕ) :
    (formEvents w device).foldl (step F) w = w.setDevice device (w.devices device).atForms := by
  unfold formEvents Device.atForms
  split_ifs
  · rfl
  · exact (setDevice_self w device).symm

/-! ## Signing in -/

/-- The sign-in of an account from the forms, and that the service accepts it. -/
def signInEvents (w : Accounts) (device : ℕ) (form : LoginViewController) (uid : String) :
    List AccountsEvent :=
  formEvents w device ++ [.login device form,
    .signInCompleted device (w.devices device).atForms.signIns.length (some uid)]

theorem step_login (ha : (w.devices device).app = none) (form : LoginViewController) :
    step F w (.login device form) = w.setDevice device
      { w.devices device with signIns := (w.devices device).signIns ++ [form.login] } := by
  simp only [step, ha, Option.isSome_none, Bool.false_eq_true, if_false]

theorem run_signIn (hacc : account ∈ (run F es).accounts) {form : LoginViewController}
    (hform : form.login = (account.email, account.password)) (device : ℕ) :
    run F (es ++ signInEvents (run F es) device form account.uid) =
      (run F es).setDevice device { ((run F es).devices device).atForms with
        app := some (App.launched account.uid account.email) } := by
  have hany : (run F es).accounts.any (fun x => x.uid = account.uid ∧ x.email = account.email ∧
      x.password = account.password) = true := List.any_eq_true.2 ⟨account, hacc, by simp⟩
  have hforms := ((run F es).devices device).atForms_app
  rw [run_append, signInEvents, List.foldl_append, foldl_formEvents, List.foldl_cons,
    step_login (by rw [setDevice_devices, if_pos rfl, hforms])]
  simp only [List.foldl_cons, List.foldl_nil, step, setDevice_devices, if_pos, hform,
    List.getElem?_concat_length, setDevice_accounts, hany, setDevice_setDevice, eraseIdx_concat,
    Device.transitionToHome_eq, hforms, Option.getD_none]

/-- **Who can sign in.** From every state and on every device, an account can sign in with its
credentials and gets to a home screen that knows its profile just when its profile is stored,
or on its way from this very device. -/
theorem signIn_reaches_home_iff (hacc : account ∈ (run F es).accounts) {form : LoginViewController}
    (hform : form.login = (account.email, account.password)) (device : ℕ) :
    (∃ p a, account.form.profile F = some p ∧
      ((run F (es ++ signInEvents (run F es) device form account.uid ++
        [.app device (.profileAnswered (some ((run F es).profileDocuments device account.uid)))])).devices
          device).app = some a ∧
      a.home.user = account.user.withProfile p) ↔
    At (run F es).kept account.uid (some .stored) ∨
      At (run F es).kept account.uid (some (.writing device)) := by
  have hrun := run_signIn hacc hform device
  have hdocs : (run F (es ++ signInEvents (run F es) device form account.uid)).profileDocuments device
      account.uid = (run F es).profileDocuments device account.uid := by
    simp only [hrun, Accounts.profileDocuments, setDevice_devices, if_pos, setDevice_users,
      Device.atForms_writes]
  have hok := run_ok (F := F) (es ++ signInEvents (run F es) device form account.uid)
  have hacc' : account ∈ (run F (es ++ signInEvents (run F es) device form account.uid)).accounts := by
    rw [hrun]
    exact hacc
  have happ : ((run F (es ++ signInEvents (run F es) device form account.uid)).devices device).app =
      some (App.launched account.uid account.email) := by
    rw [hrun, setDevice_devices, if_pos rfl]
  have hlaunched := launched_answered_iff hok hacc' happ
  rw [hdocs] at hlaunched
  rw [run_append, List.foldl_cons, List.foldl_nil, hlaunched, ne_eq, (run_ok es).profileDocuments_eq_nil,
    not_and_or, not_not, not_not]
  rfl

/-- A form that can be submitted. -/
def anaForm : SingUpViewController := ⟨"ana", "lima", "ana@sens", "abcdefg1$", "Aug 22, 2019"⟩

/-- A stored profile, on a second device. -/
theorem ana_signs_in : ∃ p, ∃ a : App, anaForm.profile .ascii = some p ∧
    a.home.user = ({ _id := some "u1", _email := some "ana@sens" } : User).withProfile p := by
  let es : List AccountsEvent := [.signInButton 0 anaForm, .createUserAnswered 0 0 (some "u1"),
    .createUserCompleted 0 0, .writeSettled 0 0 true]
  have hrun : (run .ascii es).accounts = [⟨"u1", "ana@sens", "abcdefg1$", anaForm⟩] := by decide +kernel
  have hacc : ⟨"u1", "ana@sens", "abcdefg1$", anaForm⟩ ∈ (run .ascii es).accounts :=
    hrun ▸ List.mem_singleton_self _
  have hform : LoginViewController.login ⟨"ana@sens", "abcdefg1$"⟩ = ("ana@sens", "abcdefg1$") := by
    decide +kernel
  have hstored : "u1" ∈ (run .ascii es).kept .stored := by decide +kernel
  obtain ⟨p, a, hp, -, hu⟩ := (signIn_reaches_home_iff hacc hform 1).2 (.inl hstored)
  exact ⟨p, a, hp, hu⟩

/-! ## Signing up -/

/-- The sign-up of a form, that the service accepts it, and that the device learns of it. -/
def signUpEvents (w : Accounts) (device : ℕ) (form : SingUpViewController) (uid : String) :
    List AccountsEvent :=
  let call := (w.devices device).atForms.signUps.length
  formEvents w device ++ [.signInButton device form, .createUserAnswered device call (some uid),
    .createUserCompleted device call]

/-- The account that a form asks for. -/
def accountOf (form : SingUpViewController) (uid : String) : Account where
  uid := uid
  email := trimmingCharacters form.emailTextField
  password := trimmingCharacters form.passwordTextField
  form := form

theorem step_created {call : ℕ} {s : SignUp} {uid : String}
    (hs : (w.devices device).signUps[call]? = some s) (ha : s.answer = none)
    (hnew : ∀ account ∈ w.accounts, account.email ≠ s.call.email ∧ account.uid ≠ uid) :
    step F w (.createUserAnswered device call (some uid)) = Accounts.setDevice
      { w with accounts := w.accounts ++ [⟨uid, s.call.email, s.call.password, s.form⟩] } device
      { w.devices device with
        signUps := (w.devices device).signUps.set call { s with answer := some (some uid) } } := by
  have hall : w.accounts.all (fun account => account.email ≠ s.call.email ∧ account.uid ≠ uid) = true :=
    List.all_eq_true.2 fun account hacc => decide_eq_true (hnew account hacc)
  simp only [step, hs, ha, Option.isSome_none, Bool.false_eq_true, if_false, Accounts.createAccount,
    if_pos hall]

theorem step_completed {call : ℕ} {s : SignUp} {uid : String} {doc : Document}
    (hs : (w.devices device).signUps[call]? = some s) (ha : s.answer = some (some uid))
    (hdoc : (SingUpViewController.createUserCompletion s.call.user uid).run () = .ok (uid, doc) ()) :
    step F w (.createUserCompleted device call) = w.setDevice device
      { w.devices device with
        signUps := (w.devices device).signUps.eraseIdx call
        writes := (w.devices device).writes ++ [(uid, doc)]
        app := some ((w.devices device).app.getD (App.launched uid s.call.email)) } := by
  simp only [step, hs, ha, Option.isSome_some, if_true, completeSignUp, hdoc, Device.transitionToHome_eq]

/-- **A new form signs up**, from any state. -/
theorem foldl_signUp {form : SingUpViewController} {uid : String} (hv : form.validateFields F = none)
    (hd : (F.date form.dateTextField).isSome = true)
    (hnew : ∀ account ∈ w.accounts,
      account.email ≠ trimmingCharacters form.emailTextField ∧ account.uid ≠ uid) (device : ℕ) :
    ∃ doc, (signUpEvents w device form uid).foldl (step F) w = Accounts.setDevice
      { w with accounts := w.accounts ++ [accountOf form uid] } device
      { (w.devices device).atForms with
        writes := (w.devices device).writes ++ [(uid, doc)]
        app := some (App.launched uid (accountOf form uid).email) } := by
  obtain ⟨date, hdate⟩ := Option.isSome_iff_exists.1 hd
  obtain ⟨call, hcall, hbutton⟩ := SingUpViewController.signInButton_of_date hv hdate ()
  obtain ⟨p, -, hholds⟩ := SingUpViewController.signInButton_ok hbutton
  obtain ⟨doc, hdoc, -⟩ := SingUpViewController.createUserCompletion_run hholds uid ()
  have hforms := (w.devices device).atForms_app
  have hsubmitted : step F (w.setDevice device (w.devices device).atForms) (.signInButton device form) =
      w.setDevice device { (w.devices device).atForms with
        signUps := (w.devices device).atForms.signUps ++ [⟨form, call, none⟩] } := by
    simp only [step, setDevice_devices, if_pos, hforms, Option.isSome_none, Bool.false_eq_true, if_false,
      hbutton, setDevice_setDevice]
  rw [← hcall.email] at hnew
  refine ⟨doc, ?_⟩
  rw [signUpEvents, List.foldl_append, foldl_formEvents]
  simp only [List.foldl_cons, List.foldl_nil, hsubmitted]
  rw [step_created (s := ⟨form, call, none⟩) (by simp [setDevice_devices]) rfl (by exact hnew),
    step_completed (s := ⟨form, call, some (some uid)⟩) (by simp [setDevice_devices]) rfl hdoc]
  simp [Accounts.setDevice, accountOf, hcall.email, hcall.password, eraseIdx_concat]

theorem run_signUp {form : SingUpViewController} {uid : String} (hv : form.validateFields F = none)
    (hd : (F.date form.dateTextField).isSome = true)
    (hnew : ∀ account ∈ (run F es).accounts,
      account.email ≠ trimmingCharacters form.emailTextField ∧ account.uid ≠ uid) (device : ℕ) :
    ∃ doc, run F (es ++ signUpEvents (run F es) device form uid) = Accounts.setDevice
      { run F es with accounts := (run F es).accounts ++ [accountOf form uid] } device
      { ((run F es).devices device).atForms with
        writes := ((run F es).devices device).writes ++ [(uid, doc)]
        app := some (App.launched uid (accountOf form uid).email) } := by
  rw [run_append]
  exact foldl_signUp hv hd hnew device

/-- A device sees the profile that it writes. -/
theorem OK.profileDocuments_ne_nil (h : OK F w) {uid : String} {doc : Document}
    (hw : (uid, doc) ∈ (w.devices device).writes) : w.profileDocuments device uid ≠ [] := by
  rw [ne_eq, h.profileDocuments_eq_nil, not_and_or, not_not, not_not]
  exact .inr (List.mem_map_of_mem hw)

/-- **Every new form gets home.** From every state and on every device, a valid form with a date
and an e-mail that no account has leads to a home screen that knows its profile, once the service
has accepted it under a new id and the profile query is answered in full. -/
theorem signUp_reaches_home {form : SingUpViewController} {uid : String}
    (hv : form.validateFields F = none) (hd : (F.date form.dateTextField).isSome = true)
    (hnew : ∀ account ∈ (run F es).accounts,
      account.email ≠ trimmingCharacters form.emailTextField ∧ account.uid ≠ uid) (device : ℕ) :
    ∃ p a, form.profile F = some p ∧
      ((run F (es ++ signUpEvents (run F es) device form uid ++ [.app device (.profileAnswered (some
        ((run F (es ++ signUpEvents (run F es) device form uid)).profileDocuments device uid)))])).devices
          device).app = some a ∧
      a.home.user = (accountOf form uid).user.withProfile p := by
  obtain ⟨doc, hrun⟩ := run_signUp hv hd hnew device
  have hok := run_ok (F := F) (es ++ signUpEvents (run F es) device form uid)
  have hacc : accountOf form uid ∈ (run F (es ++ signUpEvents (run F es) device form uid)).accounts := by
    rw [hrun]
    exact List.mem_append_right _ (List.mem_singleton_self _)
  have happ : ((run F (es ++ signUpEvents (run F es) device form uid)).devices device).app =
      some (App.launched (accountOf form uid).uid (accountOf form uid).email) := by
    rw [hrun, setDevice_devices, if_pos rfl]
    rfl
  have hsees : (run F (es ++ signUpEvents (run F es) device form uid)).profileDocuments device
      (accountOf form uid).uid ≠ [] := by
    have hwrite : (uid, doc) ∈ ((run F (es ++ signUpEvents (run F es) device form uid)).devices
        device).writes := by
      rw [hrun, setDevice_devices, if_pos rfl]
      exact List.mem_append_right _ (List.mem_singleton_self _)
    exact hok.profileDocuments_ne_nil hwrite
  rw [run_append (es ++ signUpEvents (run F es) device form uid), List.foldl_cons, List.foldl_nil]
  exact (launched_answered_iff hok hacc happ).2 hsees

/-- The first account there is. -/
theorem ana_reaches_home : ∃ p, ∃ a : App, anaForm.profile .ascii = some p ∧
    a.home.user = (accountOf anaForm "u1").user.withProfile p := by
  have hv : anaForm.validateFields .ascii = none := by decide +kernel
  have hd : (Foundation.ascii.date anaForm.dateTextField).isSome = true := by decide +kernel
  have hnew : ∀ account ∈ (run .ascii []).accounts,
      account.email ≠ trimmingCharacters anaForm.emailTextField ∧ account.uid ≠ "u1" :=
    fun _ hacc => absurd hacc List.not_mem_nil
  obtain ⟨p, a, hp, -, hu⟩ := signUp_reaches_home hv hd hnew 0
  exact ⟨p, a, hp, hu⟩

end Accounts

end Sens

import Mathlib.Data.List.Nodup
import Sens.Proof.App
import Sens.Proof.SignUp
import Sens.Spec.Accounts

/-!
# Accounts and their profiles

* `signInButton_ok`, `createUserCompletion_run`: what the form supplies is what is
  written to `users`.
* `OK`, `run_ok`: every document of `users`, stored or on its way, describes the account
  under its id, and every home screen is that of an account.
* `profile_completion_iff`: when the completion of the profile query returns.
-/

namespace Sens

/-! ## The forms -/

namespace SingUpViewController

variable {F : Foundation} {form : SingUpViewController} {σ : Type} {s s' : σ}

/-- The object that the completion handler captures holds the profile. -/
structure Holds (user : User) (p : Profile) : Prop where
  name : user._name = some p.name
  lastName : user._lastName = some p.lastName
  birthDate : user._birthDate = some p.birthDate

/-- **A submitted form has a profile**, and the call carries it. -/
theorem signInButton_ok {call : CreateUser} (h : (form.signInButton F).run s = .ok (some call) s') :
    ∃ p, form.profile F = some p ∧ Holds call.user p := by
  have hcall := submits_of_ok h
  obtain ⟨date, hd, hdate⟩ := hcall.birthDate
  exact ⟨_, by rw [profile, hd, Option.map_some], hcall.firstName, hcall.lastName, hdate⟩

/-- **The document of a completed sign-up** stores the profile, under the new id. -/
theorem createUserCompletion_run {user : User} {p : Profile} (h : Holds user p) (uid : String) (s : σ) :
    ∃ d, (createUserCompletion user uid).run s = .ok (uid, d) s ∧ StoresProfile d p ∧
      d.get "uid" = some (.string uid) := by
  refine ⟨[("firstname", .string p.name), ("lastname", .string p.lastName), ("uid", .string uid),
    ("birthDate", .single (.timestamp p.birthDate))], ?_, ⟨rfl, rfl, rfl⟩, rfl⟩
  simp [createUserCompletion, User.id, User.name, User.lastName, User.birthDate, h.name, h.lastName,
    h.birthDate]

end SingUpViewController

/-- The home screen that is there stays. -/
theorem Device.transitionToHome_eq (d : Device) (uid email : String) :
    d.transitionToHome uid email = { d with app := some (d.app.getD (App.launched uid email)) } := by
  obtain ⟨signUps, signIns, writes, app⟩ := d
  cases app <;> rfl

/-- A home screen that is reached was there, or is new. -/
theorem App.of_reached {app : Option App} {a b : App} (h : some (app.getD b) = some a) :
    app = some a ∨ a = b := by
  cases app with
  | some c => exact .inl h
  | none => exact .inr (Option.some.inj h).symm

namespace Accounts

variable {F : Foundation} {w : Accounts} {accounts accounts' : List Account}

/-! ## The invariant -/

/-- The document, under its id, describes the account of that id. -/
def Describes (F : Foundation) (accounts : List Account) (x : String × Document) : Prop :=
  ∃ account ∈ accounts, account.uid = x.1 ∧ x.2.get "uid" = some (.string x.1) ∧
    ∃ p, account.form.profile F = some p ∧ StoresProfile x.2 p

/-- A sign-up in progress: the call holds the profile of its form, and an id that was
answered is that of an account of this form. -/
structure SignUpOK (F : Foundation) (accounts : List Account) (s : SignUp) : Prop where
  holds : ∃ p, s.form.profile F = some p ∧ SingUpViewController.Holds s.call.user p
  answer : ∀ uid, s.answer = some (some uid) → ∃ account ∈ accounts, account.uid = uid ∧
    account.form = s.form

structure DeviceOK (F : Foundation) (accounts : List Account) (d : Device) : Prop where
  signUps : ∀ s ∈ d.signUps, SignUpOK F accounts s
  writes : ∀ x ∈ d.writes, Describes F accounts x
  app : ∀ a, d.app = some a → ∃ account ∈ accounts, a.home.user._id = some account.uid

/-- The invariant of the accounts. -/
structure OK (F : Foundation) (w : Accounts) : Prop where
  nodup : (w.accounts.map (·.uid)).Nodup
  users : ∀ x ∈ w.users, Describes F w.accounts x
  devices : ∀ device, DeviceOK F w.accounts (w.devices device)

theorem Describes.mono (hsub : accounts ⊆ accounts') {x : String × Document}
    (h : Describes F accounts x) : Describes F accounts' x := by
  obtain ⟨account, ha, hx⟩ := h
  exact ⟨account, hsub ha, hx⟩

theorem DeviceOK.mono (hsub : accounts ⊆ accounts') {d : Device} (h : DeviceOK F accounts d) :
    DeviceOK F accounts' d where
  signUps s hs := ⟨(h.signUps s hs).holds, fun uid hu => by
    obtain ⟨account, ha, hx⟩ := (h.signUps s hs).answer uid hu
    exact ⟨account, hsub ha, hx⟩⟩
  writes x hx := (h.writes x hx).mono hsub
  app a ha := by
    obtain ⟨account, hacc, hx⟩ := h.app a ha
    exact ⟨account, hsub hacc, hx⟩

theorem DeviceOK.restart {d : Device} (h : DeviceOK F accounts d) : DeviceOK F accounts d.restart where
  signUps s hs := absurd hs List.not_mem_nil
  writes := h.writes
  app a ha := by cases ha

theorem DeviceOK.transitionToHome {d : Device} (h : DeviceOK F accounts d) {account : Account}
    (ha : account ∈ accounts) (email : String) :
    DeviceOK F accounts (d.transitionToHome account.uid email) where
  signUps := by rw [d.transitionToHome_eq]; exact h.signUps
  writes := by rw [d.transitionToHome_eq]; exact h.writes
  app a hl := by
    rw [d.transitionToHome_eq] at hl
    rcases App.of_reached hl with happ | rfl
    · exact h.app a happ
    · exact ⟨account, ha, rfl⟩

theorem OK.setDevice (h : OK F w) (device : ℕ) {d : Device} (hd : DeviceOK F w.accounts d) :
    OK F (w.setDevice device d) where
  nodup := h.nodup
  users := h.users
  devices device' := by
    simp only [Accounts.setDevice, Function.update_apply]
    split_ifs
    · exact hd
    · exact h.devices device'

theorem OK.setData (h : OK F w) {x : String × Document} (hx : Describes F w.accounts x) :
    OK F { w with users := Accounts.setData w.users x } where
  nodup := h.nodup
  users y hy := by
    rcases List.mem_append.1 hy with hy | hy
    · exact h.users y (List.mem_filter.1 hy).1
    · rw [List.mem_singleton.1 hy]; exact hx
  devices := h.devices

/-! ## One event -/

/-- An account that the service creates has a new id. -/
theorem OK.createAccount (h : OK F w) {s : SignUp} {uid : String} {w' : Accounts}
    (hc : w.createAccount s uid = some w') : OK F w' ∧ w'.devices = w.devices ∧
      w.accounts ⊆ w'.accounts ∧ ∃ account ∈ w'.accounts, account.uid = uid ∧ account.form = s.form := by
  unfold Accounts.createAccount at hc
  split_ifs at hc with hnew
  cases hc
  have hsub : w.accounts ⊆ w.accounts ++ [⟨uid, s.call.email, s.call.password, s.form⟩] :=
    List.subset_append_left _ _
  refine ⟨⟨?_, fun x hx => (h.users x hx).mono hsub, fun device => (h.devices device).mono hsub⟩, rfl,
    hsub, ⟨uid, s.call.email, s.call.password, s.form⟩, List.mem_append_right _ (List.mem_singleton_self _),
    rfl, rfl⟩
  simp only [List.map_append, List.map_cons, List.map_nil]
  refine List.nodup_append.2 ⟨h.nodup, List.nodup_singleton _, ?_⟩
  rintro id hid id' hid' rfl
  rw [List.mem_singleton] at hid'
  obtain ⟨account, ha, rfl⟩ := List.mem_map.1 hid
  have := List.all_eq_true.1 hnew account ha
  simp only [Bool.decide_and, Bool.and_eq_true, decide_eq_true_eq] at this
  exact this.2 hid'

/-- A sign-up that gets an answer. -/
theorem DeviceOK.answered {d : Device} {s : SignUp} {call : ℕ} {uid : Option String}
    (hd : DeviceOK F accounts d) (hs : s ∈ d.signUps)
    (hu : ∀ id, uid = some id → ∃ account ∈ accounts, account.uid = id ∧ account.form = s.form) :
    DeviceOK F accounts { d with signUps := d.signUps.set call { s with answer := some uid } } := by
  refine ⟨fun t ht => ?_, hd.writes, hd.app⟩
  rcases List.mem_or_eq_of_mem_set ht with ht | rfl
  · exact hd.signUps t ht
  · exact ⟨(hd.signUps s hs).holds, fun id hid => hu id (Option.some.inj hid)⟩

theorem completeSignUp_ok {d : Device} {s : SignUp} (hd : DeviceOK F accounts d)
    (hs : SignUpOK F accounts s) : DeviceOK F accounts (completeSignUp d s) := by
  unfold completeSignUp
  split
  · next uid ha =>
    obtain ⟨account, hacc, hu, hform⟩ := hs.answer uid ha
    obtain ⟨p, hp, hholds⟩ := hs.holds
    obtain ⟨doc, hrun, hst, hget⟩ := SingUpViewController.createUserCompletion_run hholds uid ()
    rw [hrun]
    subst hu
    have hd' : DeviceOK F accounts { d with writes := d.writes ++ [(account.uid, doc)] } := by
      refine ⟨hd.signUps, fun x hx => ?_, hd.app⟩
      rcases List.mem_append.1 hx with hx | hx
      · exact hd.writes x hx
      · rw [List.mem_singleton.1 hx]
        exact ⟨account, hacc, rfl, hget, p, by rw [hform, hp], hst⟩
    exact hd'.transitionToHome hacc _
  · exact hd

theorem OK.signInButton (h : OK F w) (device : ℕ) (form : SingUpViewController) :
    OK F (step F w (.signInButton device form)) := by
  have hd := h.devices device
  simp only [step]
  split_ifs
  · exact h
  · cases hr : (form.signInButton F).run () with
    | error t s => exact h.setDevice device hd.restart
    | ok call s =>
      cases call with
      | none => exact h
      | some call =>
        obtain ⟨p, hp⟩ := SingUpViewController.signInButton_ok hr
        have hnew : SignUpOK F w.accounts ⟨form, call, none⟩ := ⟨⟨p, hp⟩, fun uid hu => by cases hu⟩
        refine h.setDevice device ⟨?_, hd.writes, hd.app⟩
        intro s hs
        rcases List.mem_append.1 hs with hs | hs
        · exact hd.signUps s hs
        · rw [List.mem_singleton.1 hs]; exact hnew

theorem OK.login (h : OK F w) (device : ℕ) (form : LoginViewController) :
    OK F (step F w (.login device form)) := by
  have hd := h.devices device
  simp only [step]
  split_ifs
  · exact h
  · exact h.setDevice device ⟨hd.signUps, hd.writes, hd.app⟩

theorem OK.createUserAnswered (h : OK F w) (device call : ℕ) (uid : Option String) :
    OK F (step F w (.createUserAnswered device call uid)) := by
  have hd := h.devices device
  simp only [step]
  split
  · next s hs =>
    have hmem : s ∈ (w.devices device).signUps := List.mem_of_getElem? hs
    split_ifs
    · exact h
    · split
      · exact h.setDevice device (hd.answered hmem fun id hid => by cases hid)
      · next uid =>
        split
        · -- the service has a new account, under the id that it answers
          next w' hc =>
          obtain ⟨h', hdev, hsub, account, ha, hu, hform⟩ := h.createAccount hc
          refine h'.setDevice device ((hd.mono hsub).answered hmem ?_)
          intro id hid
          cases hid
          exact ⟨account, ha, hu, hform⟩
        · exact h
  · exact h

theorem OK.createUserCompleted (h : OK F w) (device call : ℕ) :
    OK F (step F w (.createUserCompleted device call)) := by
  have hd := h.devices device
  simp only [step]
  split
  · next s hs =>
    have hs' : SignUpOK F w.accounts s := hd.signUps s (List.mem_of_getElem? hs)
    have hd' : DeviceOK F w.accounts
        { w.devices device with signUps := (w.devices device).signUps.eraseIdx call } :=
      ⟨fun t ht => hd.signUps t (List.mem_of_mem_eraseIdx ht), hd.writes, hd.app⟩
    split_ifs
    · exact h.setDevice device (completeSignUp_ok hd' hs')
    · exact h
  · exact h

theorem OK.signInCompleted (h : OK F w) (device call : ℕ) (uid : Option String) :
    OK F (step F w (.signInCompleted device call uid)) := by
  have hd := h.devices device
  simp only [step]
  split
  · next email password hs =>
    have hd' : DeviceOK F w.accounts
        { w.devices device with signIns := (w.devices device).signIns.eraseIdx call } :=
      ⟨hd.signUps, hd.writes, hd.app⟩
    split
    · exact h.setDevice device hd'
    · next uid =>
      split_ifs with hany
      · -- who signs in has an account, and the home screen is that account's
        obtain ⟨account, ha, hacc⟩ := List.any_eq_true.1 hany
        simp only [decide_eq_true_eq] at hacc
        rw [← hacc.1]
        exact h.setDevice device (hd'.transitionToHome ha email)
      · exact h
  · exact h

theorem OK.writeSettled (h : OK F w) (device write : ℕ) (stored : Bool) :
    OK F (step F w (.writeSettled device write stored)) := by
  have hd := h.devices device
  simp only [step]
  split
  · next x hx =>
    have hdesc : Describes F w.accounts x := hd.writes x (List.mem_of_getElem? hx)
    have hd' : DeviceOK F w.accounts
        { w.devices device with writes := (w.devices device).writes.eraseIdx write } :=
      ⟨hd.signUps, fun y hy => hd.writes y (List.mem_of_mem_eraseIdx hy), hd.app⟩
    have h' := h.setDevice device hd'
    split_ifs
    · exact h'.setData hdesc
    · exact h'
  · exact h

theorem OK.app (h : OK F w) (device : ℕ) (e : AppEvent) : OK F (step F w (.app device e)) := by
  have hd := h.devices device
  simp only [step]
  split
  · next a ha =>
    split_ifs with hdel
    · rw [Bool.and_eq_true] at hdel
      cases hr : (App.handle F e).run a with
      | error t s => exact h.setDevice device hd.restart
      | ok doc a' =>
        -- no event of the home screen changes whose it is
        have hid : a'.home.user._id = a.home.user._id := (App.handle_effect hdel.1 hr).id
        refine h.setDevice device ⟨hd.signUps, hd.writes, ?_⟩
        intro b hb
        cases hb
        rw [hid]; exact hd.app a ha
    · exact h
  · exact h

theorem step_ok (h : OK F w) (e : AccountsEvent) : OK F (step F w e) := by
  cases e with
  | signInButton device form => exact h.signInButton device form
  | createUserAnswered device call uid => exact h.createUserAnswered device call uid
  | createUserCompleted device call => exact h.createUserCompleted device call
  | login device form => exact h.login device form
  | signInCompleted device call uid => exact h.signInCompleted device call uid
  | writeSettled device write stored => exact h.writeSettled device write stored
  | app device e => exact h.app device e
  | restarted device => exact h.setDevice device (h.devices device).restart

theorem ok_nil : OK F {} where
  nodup := List.nodup_nil
  users _ hx := absurd hx List.not_mem_nil
  devices _ := ⟨fun _ hs => absurd hs List.not_mem_nil, fun _ hx => absurd hx List.not_mem_nil,
    fun _ ha => by cases ha⟩

/-- **The accounts have their invariant**, in every run. -/
theorem run_ok (es : List AccountsEvent) : OK F (run F es) :=
  Runs.foldl_invariant (P := fun _ w => OK F w) ok_nil (fun _ e hw => step_ok hw e) es

/-! ## The profile query -/

theorem mem_foldl_setData {x : String × Document} (writes : List (String × Document)) :
    ∀ users : List (String × Document), x ∈ writes.foldl setData users → x ∈ users ∨ x ∈ writes := by
  induction writes with
  | nil => intro users h; exact Or.inl h
  | cons write writes ih =>
    intro users h
    rcases ih _ h with h | h
    · rcases List.mem_append.1 h with h | h
      · exact Or.inl (List.mem_filter.1 h).1
      · exact Or.inr (List.mem_cons.2 (Or.inl (List.mem_singleton.1 h)))
    · exact Or.inr (List.mem_cons_of_mem _ h)

/-- **A document that the profile query sees** stores the profile of the account. -/
theorem OK.profileDocuments (h : OK F w) {device : ℕ} {account : Account} (ha : account ∈ w.accounts)
    {d : Document} (hd : d ∈ w.profileDocuments device account.uid) :
    ∃ p, account.form.profile F = some p ∧ StoresProfile d p := by
  obtain ⟨x, hx, rfl⟩ := List.mem_map.1 hd
  obtain ⟨hmem, huid⟩ := List.mem_filter.1 hx
  have hdesc : Describes F w.accounts x := by
    rcases mem_foldl_setData _ _ hmem with hmem | hmem
    · exact h.users x hmem
    · exact (h.devices device).writes x hmem
  obtain ⟨account', ha', hu, hget, p, hp, hst⟩ := hdesc
  have hx1 : x.1 = account.uid := by
    rw [decide_eq_true_eq, hget, Option.some.injEq] at huid
    exact FieldValue.string_inj.1 huid
  obtain rfl : account' = account := List.inj_on_of_nodup_map h.nodup ha' ha (hu.trans hx1)
  exact ⟨p, hp, hst⟩

/-- **The completion of the profile query.** Every home screen is that of an account. Its
completion returns, and sets the user's names and date of birth to those of the account's
form, exactly when the query failed or its answer has a document. -/
theorem profile_completion_iff {es : List AccountsEvent} {device : ℕ} {a : App}
    {answer : Option (List Document)} (happ : ((run F es).devices device).app = some a)
    (hq : a.profileQuery = true) (hans : (run F es).Answers device a (.profileAnswered answer) = true) :
    ∃ account ∈ (run F es).accounts, a.home.user._id = some account.uid ∧
      ((∃ a', App.step F a (.profileAnswered answer) = some a' ∧ (answer ≠ none →
          ∃ p, account.form.profile F = some p ∧ a'.home.user = a.home.user.withProfile p)) ↔
        answer ≠ some []) := by
  obtain ⟨account, hacc, hid⟩ := ((run_ok es).devices device).app a happ
  refine ⟨account, hacc, hid, ?_⟩
  have hdel : a.Deliverable (.profileAnswered answer) = true := hq
  constructor
  · rintro ⟨a', hs, -⟩ rfl
    obtain ⟨d, he⟩ := App.step_effect hs
    cases he
  · intro hne
    rcases answer with _ | _ | ⟨d, ds⟩
    · exact ⟨_, App.step_eq_some.2 ⟨hdel, none, rfl⟩, fun h => absurd rfl h⟩
    · exact absurd rfl hne
    · have hsub : d ∈ (run F es).profileDocuments device account.uid := by
        simp only [Answers, hid, Option.any_some, List.isSublist_iff_sublist] at hans
        exact hans.subset List.mem_cons_self
      obtain ⟨p, hp, hst⟩ := (run_ok es).profileDocuments hacc hsub
      refine ⟨{ a with profileQuery := false, home.user := a.home.user.withProfile p },
        App.step_eq_some.2 ⟨hdel, none, ?_⟩, fun _ => ⟨p, hp, rfl⟩⟩
      simp only [App.handle, App.onUser, EStateM.run_bind, EStateM.run_modify, Swift.run_focus,
        HomeViewController.profileCompletion_run hst]
      rfl

/-- A device that signed up, and the profile query that sees its own write. -/
theorem ana_profile_iff : ∃ (es : List AccountsEvent) (a : App) (d : Document),
    ((run .ascii es).devices 0).app = some a ∧
    ∃ account ∈ (run .ascii es).accounts, a.home.user._id = some account.uid ∧
      ((∃ a', App.step .ascii a (.profileAnswered (some [d])) = some a' ∧ (some [d] ≠ none →
        ∃ p, account.form.profile .ascii = some p ∧ a'.home.user = a.home.user.withProfile p)) ↔
        some [d] ≠ some []) := by
  let es : List AccountsEvent := [
    .signInButton 0 ⟨"ana", "lima", "ana@sens", "abcdefg1$", "Aug 22, 2019"⟩,
    .createUserAnswered 0 0 (some "u1"), .createUserCompleted 0 0]
  let d : Document := [("firstname", .string "ana"), ("lastname", .string "lima"), ("uid", .string "u1"),
    ("birthDate", .single (.timestamp 588124800))]
  have happ : ((run .ascii es).devices 0).app = some (App.launched "u1" "ana@sens") := by decide +kernel
  have hans : (run .ascii es).Answers 0 (App.launched "u1" "ana@sens") (.profileAnswered (some [d])) =
      true := by decide +kernel
  exact ⟨es, _, d, happ, profile_completion_iff happ rfl hans⟩

/-- The app stops after the account is created and before the completion handler runs:
the account can sign in, and its home screen traps. -/
theorem lost_profile_traps : ¬ ∀ (es : List AccountsEvent) (device : ℕ) (a : App)
    (answer : Option (List Document)), ((run .ascii es).devices device).app = some a →
    a.profileQuery = true →
    (run .ascii es).Answers device a (.profileAnswered answer) = true →
    ∃ a', App.step .ascii a (.profileAnswered answer) = some a' := by
  intro h
  obtain ⟨a', hs⟩ := h [
      .signInButton 0 ⟨"ana", "lima", "ana@sens", "abcdefg1$", "Aug 22, 2019"⟩,
      .createUserAnswered 0 0 (some "u1"), .restarted 0, .login 0 ⟨"ana@sens", "abcdefg1$"⟩,
      .signInCompleted 0 0 (some "u1")] 0
    (App.launched "u1" "ana@sens") (some []) (by decide +kernel) rfl (by decide +kernel)
  obtain ⟨d, he⟩ := App.step_effect hs
  cases he

end Accounts

end Sens

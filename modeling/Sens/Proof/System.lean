import Sens.Proof.Credentials
import Sens.Proof.Provenance
import Sens.Spec.System

/-!
# The whole system

* `run_simulates`: a run of the system is one of the accounts that leaves out some events,
  and its collection and home screens are those of a run of the world.
* `documents_have_authors`: behind every document is an account, which alone can have saved
  it.
* `screens_show_accounts`: whatever a home screen shows, the owner of an account chose.
-/

namespace Sens

namespace System

variable {F : Foundation} {s : System} {e : AccountsEvent} {es : List AccountsEvent} {device : ℕ}

theorem run_concat (es : List AccountsEvent) (e : AccountsEvent) :
    run F (es ++ [e]) = step F (run F es) e := by
  rw [run, List.foldl_append]; rfl

/-- What happens on no home screen leaves the collection alone. -/
theorem step_of_not_app (he : ∀ device e', e ≠ .app device e') (s : System) :
    step F s e = ⟨s.accounts.step F e, s.pins⟩ := by
  unfold step
  cases e with
  | app device e' => exact absurd rfl (he device e')
  | _ => simp [Answers, saved]

/-! ## The accounts -/

/-- To the accounts an event is one of theirs, or nothing. -/
theorem step_accounts (h : Accounts.OK F s.accounts) (e : AccountsEvent) :
    Accounts.Effect F s.accounts e (step F s e).accounts := by
  unfold step
  split_ifs with hans
  · exact Accounts.step_effect h e
  · refine .ignored e ?_
    rintro he
    rw [he] at hans
    exact hans rfl

theorem step_ok (h : Accounts.OK F s.accounts) (e : AccountsEvent) :
    Accounts.OK F (step F s e).accounts := by
  unfold step
  split_ifs
  · exact Accounts.step_ok h e
  · exact h

theorem run_ok (es : List AccountsEvent) : Accounts.OK F (run F es).accounts :=
  Runs.foldl_invariant (P := fun _ (s : System) => Accounts.OK F s.accounts) Accounts.ok_nil
    (fun _ e h => step_ok h e) es

theorem run_credited (es : List AccountsEvent) : Accounts.Credited F es (run F es).accounts := by
  refine Runs.foldl_invariant (P := fun es (s : System) => Accounts.Credited F es s.accounts) ?_
    (fun es e h => ?_) es
  · exact Accounts.run_credited []
  · exact (step_accounts (run_ok es) e).credited (run_ok es) h

/-! ## The world -/

/-- The world has the collection of the system, and its home screens among its own. -/
structure Simulates (s : System) (w : World) : Prop where
  pins : w.pins = s.pins
  apps : ∀ device a, (s.accounts.devices device).app = some a → w.apps device = some a

variable {w : World}

/-- Home screens may stop. -/
theorem Simulates.fewer (h : Simulates s w) {accounts : Accounts}
    (happ : ∀ device a, (accounts.devices device).app = some a →
      (s.accounts.devices device).app = some a) : Simulates ⟨accounts, s.pins⟩ w :=
  ⟨h.pins, fun device a ha => h.apps device a (happ device a ha)⟩

/-- A home screen may be launched. -/
theorem Simulates.launch (h : Simulates s w) (F : Foundation) {accounts : Accounts} {d : Device}
    {uid email : String} (happ : ∀ device, accounts.devices device = s.accounts.devices device)
    (hd : d.app = some (App.launched uid email)) :
    Simulates ⟨accounts.setDevice device d, s.pins⟩
      (World.step F w (.opened device ⟨uid, some email⟩)) where
  pins := h.pins
  apps k a ha := by
    rw [Accounts.setDevice_devices] at ha
    simp only [World.step, World.setApp, Function.update_apply]
    split_ifs at ha ⊢ with hk
    · rw [hd] at ha; exact ha
    · rw [happ] at ha; exact h.apps k a ha

/-- A home screen may take an event, and what it saves goes to the collection. -/
theorem Simulates.take (h : Simulates s w) {e : AppEvent} {a a' : App} {data : Option Document}
    (ha : (s.accounts.devices device).app = some a) (hd : a.Deliverable e = true)
    (hans : s.Answers (.app device e) = true) (hr : (App.handle F e).run a = .ok data a') :
    Simulates ⟨s.accounts.setDevice device { s.accounts.devices device with app := some a' },
      World.publish s.pins data⟩ (World.step F w (.app device e)) := by
  have hw : w.Answers e = true := by
    cases e with
    | pinsAnswered query answer =>
      cases answer with
      | none => rfl
      | some documents => simpa [World.Answers, Answers, h.pins] using hans
    | _ => rfl
  have hact : World.act F w (.app device e) = (some a', data) := by
    simp only [World.act, h.apps device a ha, hd, hw, Bool.and_self, if_pos, hr]
  rw [World.step_eq, hact]
  refine ⟨by rw [h.pins], fun k b hb => ?_⟩
  rw [Accounts.setDevice_devices] at hb
  simp only [WorldEvent.user, Function.update_apply]
  split_ifs at hb ⊢ with hk
  · exact hb
  · exact h.apps k b hb

theorem step_app_simulates (h : Simulates s w) (device : ℕ) (e : AppEvent) :
    ∃ ws : List WorldEvent, Simulates (step F s (.app device e)) (ws.foldl (World.step F) w) ∧
      ∀ user u, WorldEvent.opened user u ∉ ws := by
  have hstay : Simulates s w → ∃ ws : List WorldEvent, Simulates s (List.foldl (World.step F) w ws) ∧
      ∀ user u, WorldEvent.opened user u ∉ ws := fun h => ⟨[], h, fun _ _ => List.not_mem_nil⟩
  unfold step
  split_ifs with hans
  · simp only [saved, Accounts.step]
    cases ha : (s.accounts.devices device).app with
    | none => simpa using hstay h
    | some a =>
      simp only
      split_ifs with hd
      · rw [Bool.and_eq_true] at hd
        cases hr : (App.handle F e).run a with
        | ok data a' => exact ⟨[.app device e], h.take ha hd.1 hans hr, by simp⟩
        | error t a' =>
          refine ⟨[], ⟨by simpa using h.pins, fun k b hb => ?_⟩, fun _ _ => List.not_mem_nil⟩
          rw [Accounts.setDevice_devices] at hb
          split_ifs at hb with hk
          · cases hb
          · exact h.apps k b hb
      · simpa using hstay h
  · exact hstay h

/-- The world event opens the app of an account. -/
def OpensAccount (accounts : List Account) (e : WorldEvent) : Prop :=
  ∀ user u, e = .opened user u → ∃ account ∈ accounts, u = ⟨account.uid, some account.email⟩

/-- **A step of the system is followed by the world**: a home screen that is reached is an
app that is opened, for an account. -/
theorem step_simulates (hc : Accounts.Credited F es s.accounts) (hok : Accounts.OK F s.accounts)
    (h : Simulates s w) (e : AccountsEvent) :
    ∃ ws : List WorldEvent, Simulates (step F s e) (ws.foldl (World.step F) w) ∧
      ∀ e' ∈ ws, OpensAccount (step F s e).accounts.accounts e' := by
  by_cases happ : ∃ device e', e = .app device e'
  · obtain ⟨device, e', rfl⟩ := happ
    obtain ⟨ws, hs, hws⟩ := step_app_simulates (F := F) h device e'
    exact ⟨ws, hs, fun x hx user u hu => absurd (hu ▸ hx) (hws user u)⟩
  · have heff := Accounts.step_effect hok e
    rw [step_of_not_app fun device e' he => happ ⟨device, e', he⟩]
    generalize Accounts.step F s.accounts e = accounts at heff ⊢
    -- an event that leaves the home screens, or stops one, is nothing to the world
    have hfewer : (∀ device a, (accounts.devices device).app = some a →
        (s.accounts.devices device).app = some a) → ∃ ws : List WorldEvent,
          Simulates ⟨accounts, s.pins⟩ (ws.foldl (World.step F) w) ∧
            ∀ e' ∈ ws, OpensAccount accounts.accounts e' := fun hf =>
      ⟨[], h.fewer hf, fun _ hx => absurd hx List.not_mem_nil⟩
    -- a home screen that is reached opens an app, unless there is one
    have hreached : ∀ device d, ∀ account ∈ s.accounts.accounts,
        d.app = some ((s.accounts.devices device).app.getD (App.launched account.uid account.email)) →
        ∃ ws : List WorldEvent,
          Simulates ⟨s.accounts.setDevice device d, s.pins⟩ (ws.foldl (World.step F) w) ∧
            ∀ e' ∈ ws, OpensAccount s.accounts.accounts e' := by
      intro device d account hacc hd
      cases happ : (s.accounts.devices device).app with
      | some b =>
        refine ⟨[], h.fewer fun k a ha => ?_, fun _ hx => absurd hx List.not_mem_nil⟩
        rw [Accounts.setDevice_devices] at ha
        split_ifs at ha with hk
        · rw [hk, happ, ← ha, hd, happ]; rfl
        · exact ha
      | none =>
        rw [happ] at hd
        refine ⟨[.opened device ⟨account.uid, some account.email⟩], h.launch F (fun _ => rfl) hd, ?_⟩
        simp only [List.mem_singleton, forall_eq, OpensAccount, WorldEvent.opened.injEq]
        rintro user u ⟨-, rfl⟩
        exact ⟨account, hacc, rfl⟩
    cases heff with
    | ignored e he => exact hfewer fun _ _ ha => ha
    | stopped e he =>
      refine hfewer fun k a ha => ?_
      rw [Accounts.setDevice_devices] at ha
      split_ifs at ha
      · cases ha
      · exact ha
    | completed device call t uid doc ht hans =>
      obtain ⟨account, hacc, rfl, -, hemail⟩ :=
        ((hc.devices device).signUps t (List.mem_of_getElem? ht)).answer uid hans
      exact hreached device _ account hacc (by rw [hemail])
    | signedIn device call account hacc hs => exact hreached device _ account hacc rfl
    | app device e a a' d ha hans he => exact absurd ⟨device, e, rfl⟩ happ
    | _ =>
      refine hfewer fun k a ha => ?_
      simp only [Accounts.setDevice_devices] at ha
      split_ifs at ha with hk
      · subst hk; exact ha
      · exact ha

/-- **The system is a run of the world**, whose apps are opened for accounts only. -/
theorem run_world (es : List AccountsEvent) : ∃ ws : List WorldEvent,
    Simulates (run F es) (World.run F ws) ∧
      ∀ e ∈ ws, OpensAccount (run F es).accounts.accounts e := by
  induction es using List.reverseRecOn with
  | nil => exact ⟨[], ⟨rfl, fun _ _ ha => by cases ha⟩, fun _ hx => absurd hx List.not_mem_nil⟩
  | append_singleton es e ih =>
    obtain ⟨ws, hs, hws⟩ := ih
    obtain ⟨ws', hs', hws'⟩ := step_simulates (run_credited es) (run_ok es) hs e
    rw [run_concat]
    refine ⟨ws ++ ws', by rw [World.run, List.foldl_append]; exact hs', fun x hx => ?_⟩
    rcases List.mem_append.1 hx with hx | hx
    · intro user u hu
      obtain ⟨account, hacc, heq⟩ := hws x hx user u hu
      exact ⟨account, (step_accounts (run_ok es) e).accounts_subset hacc, heq⟩
    · exact hws' x hx

/-! ## The documents -/

/-- The document is the post that the owner of the account saved, on a device where the
credentials of the account were typed since it was restarted. -/
structure Authored (F : Foundation) (es : List AccountsEvent) (d : DocumentSnapshot) (account : Account)
    (p : Post) : Prop where
  saved : ∃ before device after, es = before ++ .app device .saveEmotionPressed :: after ∧
    d.documentID = (run F before).pins.length ∧ Entered account device (sinceRestart device before)
  data : d.data = AddFeelingViewController.postDocument p
  user : p.user = account.uid
  userName : p.userName = "Anonimo" ∨ ∃ q, account.form.profile F = some q ∧ p.userName = q.name

theorem Authored.append {d : DocumentSnapshot} {account : Account} {p : Post}
    (h : Authored F es d account p) (fs : List AccountsEvent) : Authored F (es ++ fs) d account p where
  saved := by
    obtain ⟨before, device, after, rfl, hid, hent⟩ := h.saved
    exact ⟨before, device, after ++ fs, by simp, hid, hent⟩
  data := h.data
  user := h.user
  userName := h.userName

/-- What an event writes to `pins` is the document of a save. -/
theorem saved_eq_some {data : Document} (h : s.saved F e = some data) :
    ∃ device a c c', e = .app device .saveEmotionPressed ∧ (s.accounts.devices device).app = some a ∧
      a.addFeeling = some c ∧
      (AddFeelingViewController.saveEmotionPressed a.home.user).run c = .ok data c' := by
  cases e with
  | app device e =>
    simp only [saved] at h
    cases ha : (s.accounts.devices device).app with
    | none => rw [ha] at h; cases h
    | some a =>
      simp only [ha] at h
      split_ifs at h with hd
      rw [Bool.and_eq_true] at hd
      cases hr : (App.handle F e).run a with
      | error t a' => rw [hr] at h; cases h
      | ok d a' =>
        rw [hr] at h
        cases h
        cases App.handle_effect hd.1 hr with
        | saved c c' data hc hs => exact ⟨device, a, c, c', rfl, ha, hc, hs⟩
  | _ => cases h

/-- A save writes what its account may write. -/
theorem saved_authored {data : Document} (h : (run F es).saved F e = some data) :
    ∃ account ∈ (run F es).accounts.accounts, ∃ p,
      Authored F (es ++ [e]) ⟨(run F es).pins.length, data⟩ account p := by
  obtain ⟨device, a, c, c', rfl, ha, hc, hs⟩ := saved_eq_some h
  obtain ⟨account, hacc, hk, hent⟩ := ((run_credited es).devices device).app a ha
  obtain ⟨id, userName, l, hl, hid, hn, -, rfl⟩ := AddFeelingViewController.save_iff.1 ⟨c', hs⟩
  refine ⟨account, hacc, _, ⟨es, device, [], rfl, rfl, hent⟩, rfl, ?_, ?_⟩
  · rcases hk with hk | ⟨q, -, hk⟩ <;> rw [hk] at hid <;> cases hid <;> rfl
  · unfold AddFeelingViewController.displayName at hn
    split_ifs at hn
    · cases hn; exact .inl rfl
    · rcases hk with hk | ⟨q, hq, hk⟩
      · rw [hk] at hn; cases hn
      · rw [hk] at hn; cases hn; exact .inr ⟨q, hq, rfl⟩

/-- **Every document has its author.** -/
theorem run_authored (es : List AccountsEvent) : ∀ d ∈ (run F es).pins,
    ∃ account ∈ (run F es).accounts.accounts, ∃ p, Authored F es d account p := by
  induction es using List.reverseRecOn with
  | nil => intro d hd; exact absurd hd List.not_mem_nil
  | append_singleton es e ih =>
    have hstep := (step_accounts (run_ok (F := F) es) e).accounts_subset
    intro d hd
    rw [run_concat] at hd ⊢
    have hmem : d ∈ (run F es).pins ∨ ∃ data, (run F es).saved F e = some data ∧
        d = ⟨(run F es).pins.length, data⟩ := by
      unfold step at hd
      split_ifs at hd
      · refine (List.mem_append.1 hd).imp_right fun h => ?_
        rw [Option.mem_toList, Option.map_eq_some_iff] at h
        obtain ⟨data, hdata, rfl⟩ := h
        exact ⟨data, hdata, rfl⟩
      · exact .inl hd
    rcases hmem with hd | ⟨data, hdata, rfl⟩
    · obtain ⟨account, hacc, p, hp⟩ := ih d hd
      exact ⟨account, hstep hacc, p, hp.append [e]⟩
    · obtain ⟨account, hacc, p, hp⟩ := saved_authored hdata
      exact ⟨account, hstep hacc, p, hp⟩

/-! ## Every run -/

/-- **The system is made of its parts.** Its accounts are those of a run of the accounts that
leaves out some of the events. Its collection is that of a run of the world, whose apps are
opened for accounts only and are the home screens wherever there is one. -/
theorem system_refines_parts (F : Foundation) (es : List AccountsEvent) :
    (∃ fs : List AccountsEvent, fs.Sublist es ∧ (run F es).accounts = Accounts.run F fs) ∧
      ∃ ws : List WorldEvent, Simulates (run F es) (World.run F ws) ∧
        ∀ e ∈ ws, OpensAccount (run F es).accounts.accounts e := by
  refine ⟨?_, run_world es⟩
  induction es using List.reverseRecOn with
  | nil => exact ⟨[], List.Sublist.refl _, rfl⟩
  | append_singleton es e ih =>
    obtain ⟨fs, hsub, hfs⟩ := ih
    rw [run_concat]
    unfold step
    split_ifs
    · refine ⟨fs ++ [e], hsub.append (.refl _), ?_⟩
      rw [Accounts.run_append, ← hfs]; rfl
    · exact ⟨fs, hsub.trans (List.sublist_append_left _ _), hfs⟩

/-- One user publishes anonymously, and another loads the collection on a second device. -/
def anaAndRui : List AccountsEvent := [
  .signInButton 0 ⟨"ana", "lima", "ana@sens", "abcdefg1$", "Aug 22, 2019"⟩,
  .createUserAnswered 0 0 (some "u1"), .createUserCompleted 0 0,
  .signInButton 1 ⟨"rui", "lima", "rui@sens", "abcdefg1$", "Aug 22, 2019"⟩,
  .createUserAnswered 1 0 (some "u2"), .createUserCompleted 1 0,
  .app 0 (.didUpdateLocations [⟨-8, -35⟩]), .app 0 .AddFeelingPressed,
  .app 0 (.compose (.anonSwitched true)), .app 0 (.compose (.tagTextEdited "paz")),
  .app 0 (.compose .addEmotionTagPressed), .app 0 .saveEmotionPressed, .app 1 .viewDidAppear,
  .app 1 (.pinsAnswered 0 (some [⟨0, AddFeelingViewController.postDocument World.anaPost⟩]))]

/-- **Nobody writes for another.** Behind every document there is one account, whose id it
has: its credentials were typed where the document was saved, and the name in the document
is the first name of its form, or none. -/
theorem documents_have_authors (F : Foundation) (es : List AccountsEvent) :
    ∀ d ∈ (run F es).pins, ∃ account ∈ (run F es).accounts.accounts,
      (∃ p, Authored F es d account p) ∧ ∀ account' ∈ (run F es).accounts.accounts,
        d.data.get "user" = some (.string account'.uid) → account' = account := by
  intro d hd
  obtain ⟨account, hacc, p, hp⟩ := run_authored es d hd
  refine ⟨account, hacc, ⟨p, hp⟩, fun account' hacc' huser => ?_⟩
  have hget : d.data.get "user" = some (.string account.uid) := by
    rw [hp.data, ← hp.user]
    exact (AddFeelingViewController.postDocument_stores p).user
  refine List.inj_on_of_nodup_map (run_ok es).nodup hacc' hacc ?_
  exact FieldValue.string_inj.1 (Option.some.inj (huser.symm.trans hget))

/-- The author of the only document. -/
theorem ana_is_author : ∃ d, (run .ascii anaAndRui).pins = [d] ∧
    ∃ account ∈ (run .ascii anaAndRui).accounts.accounts, (∃ p, Authored .ascii anaAndRui d account p) ∧
      ∀ account' ∈ (run .ascii anaAndRui).accounts.accounts,
        d.data.get "user" = some (.string account'.uid) → account' = account := by
  have hrun : (run .ascii anaAndRui).pins.length = 1 := by decide +kernel
  obtain ⟨d, hd⟩ := List.length_eq_one_iff.1 hrun
  exact ⟨d, hd, documents_have_authors .ascii anaAndRui d (hd ▸ List.mem_singleton_self _)⟩

/-- **Whatever a home screen shows, an account saved.** -/
theorem screens_show_accounts {a : App} {i : Pin} (ha : ((run F es).accounts.devices device).app = some a)
    (hi : i ∈ a.home.pins) : ∃ d ∈ (run F es).pins, ∃ account ∈ (run F es).accounts.accounts, ∃ p,
      Authored F es d account p ∧ a.home.Shows F i p := by
  obtain ⟨ws, hs, -⟩ := run_world (F := F) es
  obtain ⟨d, hd, p, hshows⟩ := World.run_shows (hs.apps device a ha) hi
  rw [hs.pins] at hd
  obtain ⟨account, hacc, q, hq⟩ := run_authored es d hd
  have hstores := AddFeelingViewController.postDocument_stores
  have hpq : p.post = q := Document.stores_unique (p.data ▸ hstores p.post) (hq.data ▸ hstores q)
  exact ⟨d, hd, account, hacc, q, hq, hpq ▸ hshows⟩

theorem rui_sees_ana : ∃ a, ((run .ascii anaAndRui).accounts.devices 1).app = some a ∧
    ∃ d ∈ (run .ascii anaAndRui).pins, ∃ account ∈ (run .ascii anaAndRui).accounts.accounts, ∃ p,
      Authored .ascii anaAndRui d account p ∧ a.home.Shows .ascii ⟨1, 1⟩ p := by
  have hrun : ((run .ascii anaAndRui).accounts.devices 1).app.map (·.home.pins) = some [⟨1, 1⟩] := by
    decide +kernel
  obtain ⟨a, ha, hp⟩ := Option.map_eq_some_iff.1 hrun
  exact ⟨a, ha, screens_show_accounts ha (hp ▸ List.mem_singleton_self _)⟩

end System

end Sens

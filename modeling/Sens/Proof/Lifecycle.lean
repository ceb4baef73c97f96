import Sens.Lib.Custody
import Sens.Proof.Credentials

/-!
# What becomes of a profile

* `Effect.change`: what each event does to the places where profiles are.
* `OK.profileDocuments_eq_nil`: what the profile query of a device sees.
* `profile_moves_on`: a profile is in one place or lost, and goes only from the answer of
  the sign-up to the device's writes to `users`.
* `stored_profile_stays`: a stored document is never written again.
* `lost_profile_locks`: an account whose profile is lost never gets past the profile query.
-/

namespace Sens

namespace Accounts

open Custody

variable {F : Foundation} {w w' : Accounts} {e : AccountsEvent} {es : List AccountsEvent} {device : ℕ}
  {d : Device}

/-! ## The places -/

theorem kept_answered (w : Accounts) (device : ℕ) (d : Device) :
    (w.setDevice device d).kept (.answered device) = d.signUps.filterMap SignUp.uid := by
  simp only [kept, setDevice_devices, if_pos]

theorem kept_writing (w : Accounts) (device : ℕ) (d : Device) :
    (w.setDevice device d).kept (.writing device) = d.writes.map (·.1) := by
  simp only [kept, setDevice_devices, if_pos]

theorem kept_of_ne {place : Place} (ha : place ≠ .answered device) (hw : place ≠ .writing device) :
    (w.setDevice device d).kept place = w.kept place := by
  cases place with
  | answered k => simp only [kept, setDevice_devices, if_neg (fun h => ha (h ▸ rfl) : ¬ k = device)]
  | writing k => simp only [kept, setDevice_devices, if_neg (fun h => hw (h ▸ rfl) : ¬ k = device)]
  | stored => rfl

theorem kept_users {place : Place} (hp : place ≠ .stored) (w : Accounts)
    (users : List (String × Document)) :
    ({ w with users := users } : Accounts).kept place = w.kept place := by
  cases place with
  | stored => exact absurd rfl hp
  | _ => rfl

/-- The service has an account of the id. -/
def Used (w : Accounts) (uid : String) : Prop := ∃ account ∈ w.accounts, account.uid = uid

theorem OK.used (h : OK F w) (place : Place) : ∀ uid ∈ w.kept place, w.Used uid := by
  intro uid hu
  cases place with
  | answered device =>
    obtain ⟨s, hs, hx⟩ := List.mem_filterMap.1 hu
    have hs' := (h.devices device).signUps s hs
    obtain ⟨account, hacc, hid, -⟩ := hs'.answer uid (Option.join_eq_some_iff.1 hx)
    exact ⟨account, hacc, hid⟩
  | writing device =>
    obtain ⟨x, hx, rfl⟩ := List.mem_map.1 hu
    obtain ⟨account, hacc, hid, -⟩ := (h.devices device).writes x hx
    exact ⟨account, hacc, hid⟩
  | stored =>
    obtain ⟨x, hx, rfl⟩ := List.mem_map.1 hu
    obtain ⟨account, hacc, hid, -⟩ := h.users x hx
    exact ⟨account, hacc, hid⟩

/-! ## One event -/

section Lists

variable {l : List SignUp} {call : ℕ} {s : SignUp}

theorem uids_perm (hs : l[call]? = some s) :
    (l.filterMap SignUp.uid).Perm (s.uid.toList ++ (l.eraseIdx call).filterMap SignUp.uid) := by
  obtain ⟨hlt, rfl⟩ := List.getElem?_eq_some_iff.1 hs
  refine ((List.getElem_cons_eraseIdx_perm hlt).symm.filterMap _).trans ?_
  cases h : SignUp.uid l[call] <;> simp [h]

theorem uids_set_perm (hs : l[call]? = some s) (t : SignUp) :
    ((l.set call t).filterMap SignUp.uid).Perm (t.uid.toList ++ (l.eraseIdx call).filterMap SignUp.uid) := by
  obtain ⟨hlt, -⟩ := List.getElem?_eq_some_iff.1 hs
  refine ((List.set_perm_cons_eraseIdx hlt t).filterMap _).trans ?_
  cases h : SignUp.uid t <;> simp [h]

end Lists

/-- A new document is appended. -/
theorem setData_of_notMem {users : List (String × Document)} {x : String × Document}
    (h : x.1 ∉ users.map (·.1)) : setData users x = users ++ [x] := by
  rw [setData, List.filter_eq_self.2]
  intro y hy
  rw [decide_eq_true_eq]
  intro hyx
  exact h (hyx ▸ List.mem_map_of_mem hy)

/-- A device that may lose sign-ups and writes. -/
theorem setDevice_subperm
    (hs : (d.signUps.filterMap SignUp.uid).Subperm ((w.devices device).signUps.filterMap SignUp.uid))
    (hw : d.writes.Sublist (w.devices device).writes) (place : Place) :
    ((w.setDevice device d).kept place).Subperm (w.kept place) := by
  by_cases ha : place = .answered device
  · subst ha; rw [kept_answered]; exact hs
  · by_cases hwr : place = .writing device
    · subst hwr; rw [kept_writing]; exact (hw.map _).subperm
    · rw [kept_of_ne ha hwr]

/-- A device that keeps its sign-ups and writes, or loses some where they can get lost. -/
theorem setDevice_change {lossy : Place → Prop} {used : String → Prop}
    (hs : (d.signUps.filterMap SignUp.uid).Perm ((w.devices device).signUps.filterMap SignUp.uid) ∨
      lossy (.answered device) ∧ d.signUps = [])
    (hw : d.writes = (w.devices device).writes ∨
      lossy (.writing device) ∧ d.writes.Sublist (w.devices device).writes) :
    Change Place.Moves lossy used w.kept (w.setDevice device d).kept := by
  refine .lose (setDevice_subperm ?_ ?_) fun place hp => ?_
  · rcases hs with hs | ⟨-, hs⟩
    · exact hs.subperm
    · rw [hs]; exact List.nil_subperm
  · rcases hw with hw | ⟨-, hw⟩
    · rw [hw]
    · exact hw
  · by_cases ha : place = .answered device
    · subst ha
      rw [kept_answered]
      exact hs.resolve_right fun h => hp h.1
    · by_cases hwr : place = .writing device
      · subst hwr
        rw [kept_writing, hw.resolve_right fun h => hp h.1]
        exact .refl _
      · rw [kept_of_ne ha hwr]

/-- **What an event does to the places**: it moves a profile or issues one, and where the event
ends a process or drops a write, profiles can get lost. -/
theorem Effect.change {lossy : Place → Prop} (hends : Ends F w e → lossy (.answered e.device))
    (hdrop : ∀ device write, e = .writeSettled device write false → lossy (.writing device))
    (hsep : Separate w.kept) (he : Effect F w e w') :
    Change Place.Moves lossy w.Used w.kept w'.kept := by
  cases he with
  | ignored e he => exact .same rfl
  | stopped e he => exact setDevice_change (.inr ⟨hends he, rfl⟩) (.inl rfl)
  | submitted device form call hv hc =>
    refine setDevice_change (.inl ?_) (.inl rfl)
    rw [List.filterMap_append]
    exact (List.append_nil _).symm ▸ .refl _
  | refused device call s hs ha =>
    refine setDevice_change (.inl ?_) (.inl rfl)
    have hnone : s.uid = none := by simp [SignUp.uid, ha]
    have hset := uids_set_perm hs { s with answer := some none }
    have hold := uids_perm hs
    rw [hnone] at hold
    exact hset.trans hold.symm
  | created device call uid s hs ha hnew =>
    have hnone : s.uid = none := by simp [SignUp.uid, ha]
    refine .add (.answered device) uid ?_ ?_ fun place hp => ?_
    · rintro ⟨account, hacc, hid⟩
      exact (hnew account hacc).2 hid
    · rw [kept_answered]
      have hset := uids_set_perm hs { s with answer := some (some uid) }
      have hold := uids_perm hs
      rw [hnone] at hold
      exact hset.trans (hold.symm.cons uid)
    · by_cases hwr : place = .writing device
      · subst hwr; rw [kept_writing]; rfl
      · rw [kept_of_ne hp hwr]; cases place <;> rfl
  | failed device call s hs ha =>
    have hnone : s.uid = none := by simp [SignUp.uid, ha]
    have hold := uids_perm hs
    rw [hnone] at hold
    exact setDevice_change (.inl hold.symm) (.inl rfl)
  | completed device call s uid doc hs ha =>
    have hsome : s.uid = some uid := by simp [SignUp.uid, ha]
    refine .move (.answered device) (.writing device) uid (.completed device) (by simp) ?_ ?_
      fun place hp hq => kept_of_ne hp hq
    · rw [kept_answered]
      have hold := uids_perm hs
      rwa [hsome] at hold
    · rw [kept_writing, List.map_append]
      exact List.perm_append_singleton _ _
  | asked device form => exact setDevice_change (.inl (.refl _)) (.inl rfl)
  | notSignedIn device call => exact setDevice_change (.inl (.refl _)) (.inl rfl)
  | signedIn device call account ha hs => exact setDevice_change (.inl (.refl _)) (.inl rfl)
  | dropped device write =>
    exact setDevice_change (.inl (.refl _)) (.inr ⟨hdrop device write rfl, List.eraseIdx_sublist _ _⟩)
  | stored device write x hx =>
    obtain ⟨hlt, rfl⟩ := List.getElem?_eq_some_iff.1 hx
    have hmem : (w.devices device).writes[write] ∈ (w.devices device).writes := List.getElem_mem hlt
    refine .move (.writing device) .stored (w.devices device).writes[write].1 (.stored device) (by simp)
      ?_ ?_ fun place hp hq => ?_
    · rw [kept_users (by simp) (w.setDevice device _), kept_writing]
      exact (List.getElem_cons_eraseIdx_perm hlt).symm.map (·.1)
    · -- the id is at the device, and so not in the collection yet
      have hnew : (w.devices device).writes[write].1 ∉ w.users.map (·.1) := fun h => by
        cases hsep.unique (.writing device) .stored _ (List.mem_map_of_mem hmem) h
      change (List.map _ (setData _ _)).Perm _
      rw [setData_of_notMem hnew, List.map_append]
      exact List.perm_append_singleton _ _
    · rw [kept_users hq (w.setDevice device _)]
      by_cases ha : place = .answered device
      · subst ha; rw [kept_answered]; rfl
      · exact kept_of_ne ha hp
  | app device e a a' d ha hans he => exact setDevice_change (.inl (.refl _)) (.inl rfl)

/-- What can get lost at all. -/
theorem Effect.change_lossy (hsep : Separate w.kept) (he : Effect F w e w') :
    Change Place.Moves Place.Lossy w.Used w.kept w'.kept :=
  he.change (fun _ => .answered _) (fun device _ _ => .writing device) hsep

/-- An event changes its device only. -/
theorem Effect.frame (he : Effect F w e w') {k : ℕ} (hk : e.device ≠ k) : w'.devices k = w.devices k := by
  cases he with
  | ignored e he => rfl
  | _ => exact Function.update_of_ne (Ne.symm hk) _ _

/-- A device without events is as it was installed. -/
theorem run_device (h : ∀ e ∈ es, e.device ≠ device) : (run F es).devices device = {} := by
  induction es using List.reverseRecOn with
  | nil => rfl
  | append_singleton es e ih =>
    have he := step_effect (F := F) (run_ok es) e
    rw [run, List.foldl_append]
    exact (he.frame (h e (by simp))).trans (ih fun x hx => h x (List.mem_append_left _ hx))

/-- **No profile is in two places**, in every run. -/
theorem run_separate (es : List AccountsEvent) : Separate (run F es).kept := by
  refine Runs.foldl_invariant (P := fun _ (w : Accounts) => Separate w.kept) ?_ (fun es e h => ?_) es
  · refine ⟨fun place => ?_, fun i j uid hi _ => ?_⟩
    · cases place <;> exact List.nodup_nil
    · cases i <;> exact absurd hi List.not_mem_nil
  · exact ((step_effect (run_ok es) e).change_lossy h).separate h (run_ok es).used

/-! ## The profile query -/

/-- Writes add ids, and take none away. -/
theorem mem_keys_foldl_setData (uid : String) (writes : List (String × Document)) :
    ∀ users : List (String × Document), uid ∈ (writes.foldl setData users).map (·.1) ↔
      uid ∈ users.map (·.1) ∨ uid ∈ writes.map (·.1) := by
  induction writes with
  | nil => simp
  | cons write writes ih =>
    intro users
    rw [List.foldl_cons, ih, List.map_cons, List.mem_cons, ← or_assoc]
    refine or_congr_left ?_
    simp only [setData, List.map_append, List.mem_append, List.map_cons, List.map_nil, List.mem_singleton]
    by_cases hu : uid = write.1
    · simp [hu]
    · simp only [hu, or_false, List.mem_map, List.mem_filter, decide_eq_true_eq]
      constructor
      · rintro ⟨x, ⟨hx, -⟩, rfl⟩
        exact ⟨x, hx, rfl⟩
      · rintro ⟨x, hx, rfl⟩
        exact ⟨x, ⟨hx, hu⟩, rfl⟩

/-- **What a device sees of a profile**: the stored one, and one that waits on the device. -/
theorem OK.profileDocuments_eq_nil (h : OK F w) {uid : String} : w.profileDocuments device uid = [] ↔
    uid ∉ w.kept .stored ∧ uid ∉ w.kept (.writing device) := by
  have hkeys := mem_keys_foldl_setData uid (w.devices device).writes w.users
  rw [← not_or]
  refine Iff.trans ?_ (not_congr hkeys)
  simp only [Accounts.profileDocuments, List.map_eq_nil_iff, List.filter_eq_nil_iff, decide_eq_true_eq,
    List.mem_map, not_exists, not_and]
  refine forall₂_congr fun x hx => not_congr ?_
  -- a document describes the account that it is kept under
  have hdesc : Describes F w.accounts x := by
    rcases mem_foldl_setData _ _ hx with hx | hx
    · exact h.users x hx
    · exact (h.devices device).writes x hx
  obtain ⟨-, -, -, hget, -⟩ := hdesc
  rw [hget, Option.some.injEq, FieldValue.string_inj]

/-! ## Every run -/

/-- What each event keeps from a point of the run on is kept by the rest of the run. -/
theorem run_later {P : Accounts → Prop} (h0 : P (run F es))
    (hstep : ∀ gs e w', P (run F gs) → Effect F (run F gs) e w' → P w') (fs : List AccountsEvent) :
    P (run F (es ++ fs)) := by
  induction fs using List.reverseRecOn with
  | nil => rwa [List.append_nil]
  | append_singleton fs e ih =>
    rw [← List.append_assoc, run_append]
    exact hstep (es ++ fs) e _ ih (step_effect (run_ok _) e)

/-- A profile goes from where it is by the moves. -/
theorem run_next {account : Account} (ha : account ∈ (run F es).accounts) {p : Option Place}
    (hp : At (run F es).kept account.uid p) (fs : List AccountsEvent) {q : Option Place}
    (hq : At (run F (es ++ fs)).kept account.uid q) :
    Relation.ReflTransGen (Next Place.Moves Place.Lossy) p q := by
  have hnow : (run F es).Used account.uid ∧ ∀ q, At (run F es).kept account.uid q →
      Relation.ReflTransGen (Next Place.Moves Place.Lossy) p q :=
    ⟨⟨account, ha, rfl⟩, fun q hq => (run_separate es).at_unique hp hq ▸ .refl⟩
  refine (run_later (P := fun w => w.Used account.uid ∧ ∀ q, At w.kept account.uid q →
    Relation.ReflTransGen (Next Place.Moves Place.Lossy) p q) hnow ?_ fs).2 q hq
  rintro gs e w' ⟨⟨account', ha', hid⟩, h⟩ he
  refine ⟨⟨account', he.accounts_subset ha', hid⟩, fun q hq => ?_⟩
  obtain ⟨r, hr⟩ := exists_at (run F gs).kept account.uid
  have hsep := run_separate (F := F) gs
  rcases (he.change_lossy hsep).next hsep (run_ok gs).used ⟨account', ha', hid⟩ hr hq with rfl | hn
  · exact h r hr
  · exact (h r hr).tail hn

/-- **How a profile moves on.** The profile of an account is in one place, or lost. Later it is
there still, or where the moves took it: from the answer of the sign-up to the writes of the
same device, from there to `users`; from the first two it can get lost. -/
theorem profile_moves_on {account : Account} (ha : account ∈ (run F es).accounts) :
    (∃! p, At (run F es).kept account.uid p) ∧
      ∀ fs p q, At (run F es).kept account.uid p → At (run F (es ++ fs)).kept account.uid q →
        Relation.ReflTransGen (Next Place.Moves Place.Lossy) p q := by
  obtain ⟨p, hp⟩ := exists_at (run F es).kept account.uid
  refine ⟨⟨p, hp, fun q hq => (run_separate es).at_unique hq hp⟩, fun fs p q hp hq => ?_⟩
  exact run_next ha hp fs hq

/-- The profile of a sign-up whose device stops before the answer is handled. -/
theorem u1_moves_on : ∃ es account, account ∈ (run .ascii es).accounts ∧
    (∃! p, At (run .ascii es).kept account.uid p) ∧
      ∀ fs p q, At (run .ascii es).kept account.uid p → At (run .ascii (es ++ fs)).kept account.uid q →
        Relation.ReflTransGen (Next Place.Moves Place.Lossy) p q := by
  have hrun : ((run .ascii [.signInButton 0 ⟨"ana", "lima", "ana@sens", "abcdefg1$", "Aug 22, 2019"⟩,
      .createUserAnswered 0 0 (some "u1"), .restarted 0]).accounts.head?).isSome = true := by decide +kernel
  obtain ⟨account, ha⟩ := Option.isSome_iff_exists.1 hrun
  have hmem := List.mem_of_mem_head? ha
  exact ⟨_, account, hmem, profile_moves_on hmem⟩

theorem Effect.users_grow (hsep : Separate w.kept) (he : Effect F w e w') : w.users <+: w'.users := by
  cases he with
  | stored device write x hx =>
    have hnew : x.1 ∉ w.users.map (·.1) := fun h => by
      cases hsep.unique (.writing device) .stored _ (List.mem_map_of_mem (List.mem_of_getElem? hx)) h
    change w.users <+: setData w.users x
    rw [setData_of_notMem hnew]
    exact List.prefix_append _ _
  | _ => exact List.prefix_refl _

/-- **A stored profile stays.** `users` has one document for an id, and is only added to: no
write finds a document under its id, although nothing checks that. -/
theorem stored_profile_stays (F : Foundation) (es fs : List AccountsEvent) :
    ((run F es).users.map (·.1)).Nodup ∧ (run F es).users <+: (run F (es ++ fs)).users := by
  refine ⟨(run_separate es).nodup .stored, ?_⟩
  exact run_later (P := fun w => (run F es).users <+: w.users) (List.prefix_refl _)
    (fun gs _ _ h he => h.trans (he.users_grow (run_separate gs))) fs

/-- **A lost profile locks its account.** From when the profile of an account is in no place,
the app of the account stops, on any device and for good, at every answer with documents
that its profile query can get. -/
theorem lost_profile_locks {account : Account} (ha : account ∈ (run F es).accounts)
    (hn : At (run F es).kept account.uid none) {fs : List AccountsEvent} {a : App}
    {documents : List Document} (happ : ((run F (es ++ fs)).devices device).app = some a)
    (hid : a.home.user._id = some account.uid) (hq : a.profileQuery = true)
    (hans : (run F (es ++ fs)).Answers device a (.profileAnswered (some documents)) = true) :
    (run F (es ++ fs ++ [.app device (.profileAnswered (some documents))])).devices device =
      ((run F (es ++ fs)).devices device).restart := by
  have hlater : At (run F (es ++ fs)).kept account.uid none := by
    obtain ⟨q, hq⟩ := exists_at (run F (es ++ fs)).kept account.uid
    rwa [nowhere_of_reflTransGen (run_next ha hn fs hq)] at hq
  have hsees : (run F (es ++ fs)).profileDocuments device account.uid = [] :=
    (run_ok (es ++ fs)).profileDocuments_eq_nil.2 ⟨hlater .stored, hlater (.writing device)⟩
  have hnil : documents = [] := by
    simpa only [Answers, hid, Option.any_some, hsees, List.isSublist_iff_sublist, List.sublist_nil] using hans
  subst hnil
  have hdel : a.Deliverable (.profileAnswered (some [])) = true := hq
  rw [run_append, List.foldl_cons, List.foldl_nil]
  simp only [step, happ, hdel, hans, Bool.and_self, if_pos]
  cases hr : (App.handle F (.profileAnswered (some []))).run a with
  | ok d a' => cases App.handle_effect hdel hr
  | error t s => simp only [setDevice_devices, if_pos]

/-- The account of a sign-up that lost its answer signs in on another device. -/
theorem ana_is_locked : ∃ es device a, ((run .ascii es).devices device).app = some a ∧
    (run .ascii (es ++ [.app device (.profileAnswered (some []))])).devices device =
      ((run .ascii es).devices device).restart := by
  let es : List AccountsEvent := [
    .signInButton 0 ⟨"ana", "lima", "ana@sens", "abcdefg1$", "Aug 22, 2019"⟩,
    .createUserAnswered 0 0 (some "u1"), .restarted 0]
  let fs : List AccountsEvent := [.login 1 ⟨"ana@sens", "abcdefg1$"⟩, .signInCompleted 1 0 (some "u1")]
  have hrun : (run .ascii es).accounts.map (·.uid) = ["u1"] := by decide +kernel
  obtain ⟨account, ha, hu⟩ : ∃ account ∈ (run .ascii es).accounts, account.uid = "u1" :=
    List.mem_map.1 (hrun ▸ List.mem_singleton_self _)
  have happ : ((run .ascii (es ++ fs)).devices 1).app = some (App.launched "u1" "ana@sens") := by
    decide +kernel
  have hkept : ∀ device, (run .ascii es).devices device = {} := by
    intro device
    by_cases h0 : device = 0
    · subst h0; decide +kernel
    · refine run_device fun e he => ?_
      simp only [es, List.mem_cons, List.not_mem_nil, or_false] at he
      rcases he with rfl | rfl | rfl <;> exact Ne.symm h0
  have husers : (run .ascii es).users = [] := by decide +kernel
  have hn : At (run .ascii es).kept account.uid none := by
    intro place
    cases place with
    | answered device => simp [kept, hkept]
    | writing device => simp [kept, hkept]
    | stored => simp [kept, husers]
  exact ⟨es ++ fs, 1, _, happ, lost_profile_locks ha hn happ (by rw [hu]; rfl) rfl (by decide +kernel)⟩

end Accounts

end Sens

import Mathlib.Data.List.Perm.Basic
import Sens.Proof.App

/-!
# Many users on one collection

* `step_pins`: only a save that publishes its draft adds a document.
* `run_apps`: every running app of the world is in a state that a run of the app
  reaches.
* `run_pins`: the documents of the collection store posts, and their tags are those
  of the drafts that were saved.
* `viewer_loads_iff`: every viewer can load the collection exactly when every
  published draft had a tag.
-/

namespace Sens

namespace World

variable {F : Foundation} {w : World} {e : WorldEvent}

/-- The user's save publishes the draft `c`: there is a name to publish under, and a
location that Firestore takes. -/
def Publishes (w : World) (user : ℕ) (c : AddFeelingViewController) : Prop :=
  ∃ a, w.apps user = some a ∧ a.addFeeling = some c ∧ (c.displayName a.home.user).isSome = true ∧
    ∃ l, c.chosenLocation = some l ∧ l.InRange

/-- Every draft that the events publish has a tag. -/
def PublishesTags (F : Foundation) (es : List WorldEvent) : Prop :=
  ∀ before user after c, es = before ++ .app user .saveEmotionPressed :: after →
    (run F before).Publishes user c → c.pin.tags ≠ []

/-- A user has one draft at most. -/
theorem Publishes.unique {user : ℕ} {c c' : AddFeelingViewController} (h : w.Publishes user c)
    (h' : w.Publishes user c') : c = c' := by
  obtain ⟨a, ha, hc, -⟩ := h
  obtain ⟨a', ha', hc', -⟩ := h'
  rw [ha, Option.some.injEq] at ha'
  subst ha'
  rw [hc] at hc'
  exact Option.some.inj hc'

/-! ## One event -/

theorem run_concat (es : List WorldEvent) (e : WorldEvent) : run F (es ++ [e]) = step F (run F es) e := by
  simp [run]

theorem setApp_apps (user user' : ℕ) (a : Option App) :
    (w.setApp user a).apps user' = if user' = user then a else w.apps user' := by
  simp only [setApp, Function.update_apply]

/-- An app in the world is launched, makes a step of its own, or stays. -/
theorem step_apps {user : ℕ} {a' : App} (h : (step F w e).apps user = some a') :
    (∃ u, e = .opened user u ∧ App.launch (some u) = some a') ∨
      (∃ a e', e = .app user e' ∧ w.apps user = some a ∧ App.step F a e' = some a') ∨
      w.apps user = some a' := by
  cases e with
  | opened user' u =>
    rw [step, setApp_apps] at h
    split_ifs at h with hu
    · subst hu; exact .inl ⟨u, rfl, h⟩
    · exact .inr (.inr h)
  | app user' e' =>
    simp only [step] at h
    cases ha : w.apps user' with
    | none => rw [ha] at h; exact .inr (.inr h)
    | some a =>
      rw [ha] at h
      simp only at h
      split_ifs at h with hd
      · rw [Bool.and_eq_true] at hd
        cases hr : (App.handle F e').run a with
        | error t s =>
          -- the app that trapped is gone, so the app at hand is another one
          rw [hr] at h
          simp only [setApp_apps] at h
          split_ifs at h with hu
          exact .inr (.inr h)
        | ok d s =>
          have h' : (w.setApp user' (some s)).apps user = some a' := by
            rw [hr] at h
            cases d <;> exact h
          rw [setApp_apps] at h'
          split_ifs at h' with hu
          · subst hu; cases h'
            have hs : App.step F a e' = some a' := App.step_eq_some.2 ⟨hd.1, d, hr⟩
            exact .inr (.inl ⟨a, e', rfl, ha, hs⟩)
          · exact .inr (.inr h')
      · exact .inr (.inr h)

/-- **Every app of the world is in a state that a run of the app reaches.** -/
theorem run_apps (es : List WorldEvent) : ∀ user a, (run F es).apps user = some a →
    ∃ u es', App.run F (some u) es' = some a := by
  refine Runs.foldl_invariant (P := fun _ (w : World) => ∀ user a, w.apps user = some a →
    ∃ u es', App.run F (some u) es' = some a) ?_ ?_ es
  · intro user a h; cases h
  · intro es e ih user a' h
    rcases step_apps h with ⟨u, -, hl⟩ | ⟨a, e', -, ha, hs⟩ | h
    · refine ⟨u, [], ?_⟩
      rw [App.run, hl]; rfl
    · obtain ⟨u, es', hr⟩ := ih user a ha
      exact ⟨u, es' ++ [e'], App.run_concat_eq_some.2 ⟨a, hr, hs⟩⟩
    · exact ih user a' h

/-! ## The documents of the collection -/

/-- The collection after a save. -/
theorem save_pins {user : ℕ} {a : App} {c c' : AddFeelingViewController} {d : Document}
    (ha : w.apps user = some a) (hc : a.addFeeling = some c)
    (hr : (AddFeelingViewController.saveEmotionPressed a.home.user).run c = .ok d c') :
    (step F w (.app user .saveEmotionPressed)).pins = w.pins ++ [⟨w.pins.length, d⟩] := by
  have hd : (a.Deliverable .saveEmotionPressed && w.Answers .saveEmotionPressed) = true := by
    simp [App.Deliverable, Answers, hc]
  have hh := App.handle_save (F := F) hc hr
  simp only [step, ha, hd, if_true, hh]
  rfl

/-- An event that is no save, or a save that traps, leaves the collection as it is. -/
theorem step_pins (h : ∀ user a c d c', e = .app user .saveEmotionPressed → w.apps user = some a →
      a.addFeeling = some c →
      (AddFeelingViewController.saveEmotionPressed a.home.user).run c ≠ .ok d c') :
    (step F w e).pins = w.pins := by
  cases e with
  | opened user u => rfl
  | app user e =>
    simp only [step]
    cases ha : w.apps user with
    | none => rfl
    | some a =>
      simp only
      split_ifs with hd
      · rw [Bool.and_eq_true] at hd
        cases hr : (App.handle F e).run a with
        | error t s => rfl
        | ok d s =>
          cases d with
          | none => rfl
          | some d =>
            cases App.handle_effect hd.1 hr with
            | saved c c' d hc hs => exact absurd hs (h user a c d c' rfl ha hc)
      · rfl

variable {es : List WorldEvent} {user : ℕ} {c : AddFeelingViewController}

/-- **A published draft becomes a document** that stores a post with its tags. -/
theorem publish_pins (hp : (run F es).Publishes user c) :
    ∃ (p : Post) (d : DocumentSnapshot), Stores d.data p ∧ p.tags = c.pin.tags ∧
      (run F (es ++ [.app user .saveEmotionPressed])).pins = (run F es).pins ++ [d] := by
  obtain ⟨a, ha, hc, hn, l, hl, hr⟩ := hp
  obtain ⟨u, es', hes'⟩ := run_apps es user a ha
  obtain ⟨userName, hn⟩ := Option.isSome_iff_exists.1 hn
  have hs := AddFeelingViewController.save_run hr (App.run_id hes') hn hl
  let p := c.post u.uid userName ⟨l.latitude, l.longitude, hr.1, hr.2⟩
  refine ⟨p, ⟨(run F es).pins.length, AddFeelingViewController.postDocument p⟩,
    AddFeelingViewController.postDocument_stores p, rfl, ?_⟩
  rw [run_concat, save_pins ha hc hs]

/-- Nothing but a published draft adds a document. -/
theorem other_pins (hp : ∀ user c, e = .app user .saveEmotionPressed → ¬ (run F es).Publishes user c) :
    (run F (es ++ [e])).pins = (run F es).pins := by
  rw [run_concat]
  refine step_pins fun user a c d c' he ha hc hr => hp user c he ?_
  obtain ⟨id, userName, l, hl, -, hn, hcl, -⟩ := AddFeelingViewController.save_iff.1 ⟨c', hr⟩
  exact ⟨a, ha, hc, by rw [hn]; rfl, l, hcl, hl⟩

theorem publishesTags_concat : PublishesTags F (es ++ [e]) ↔ PublishesTags F es ∧
    ∀ user c, e = .app user .saveEmotionPressed → (run F es).Publishes user c → c.pin.tags ≠ [] := by
  constructor
  · intro h
    refine ⟨fun before user after c hes => ?_, fun user c he => ?_⟩
    · exact h before user (after ++ [e]) c (by rw [hes]; simp)
    · exact h es user [] c (by rw [he])
  · rintro ⟨h1, h2⟩ before user after c hes
    -- the save is the last event, or one of those before it
    rcases List.eq_nil_or_concat after with rfl | ⟨after, e', rfl⟩
    · obtain ⟨rfl, he⟩ := List.append_inj' hes rfl
      exact h2 user c (List.singleton_inj.1 he)
    · rw [List.concat_eq_append, ← List.cons_append, ← List.append_assoc] at hes
      exact h1 before user after c (List.append_inj' hes rfl).1

/-- **The collection stores the published posts**, and every one of them has a tag
exactly when every published draft had one. -/
theorem run_pins (es : List WorldEvent) :
    ∃ posts, List.Forall₂ (fun d p => Stores d.data p) (run F es).pins posts ∧
      ((∀ p ∈ posts, p.tags ≠ []) ↔ PublishesTags F es) := by
  refine Runs.foldl_invariant (P := fun es (w : World) => ∃ posts,
    List.Forall₂ (fun d p => Stores d.data p) w.pins posts ∧
      ((∀ p ∈ posts, p.tags ≠ []) ↔ PublishesTags F es)) ?_ ?_ es
  · refine ⟨[], .nil, iff_of_true ?_ ?_⟩
    · intro p hp; cases hp
    · intro before user after c hes; simp at hes
  · intro es e ih
    obtain ⟨posts, hf, ht⟩ := ih
    rw [← run] at hf
    rw [← run, ← run_concat]
    by_cases hp : ∃ user c, e = .app user .saveEmotionPressed ∧ (run F es).Publishes user c
    · -- one more document, and one more post with the tags of the draft
      obtain ⟨user, c, rfl, hp⟩ := hp
      obtain ⟨p, d, hd, hpt, hpins⟩ := publish_pins hp
      refine ⟨posts ++ [p], ?_, ?_⟩
      · rw [hpins]; exact List.rel_append hf (.cons hd .nil)
      · rw [publishesTags_concat, ← ht]
        constructor
        · intro h
          refine ⟨fun q hq => h q (List.mem_append_left _ hq), ?_⟩
          intro user' c' he hp'
          cases he
          have hc : c' = c := hp'.unique hp
          have hnew := h p (List.mem_append_right _ (List.mem_singleton_self p))
          rw [hc, ← hpt]; exact hnew
        · rintro ⟨h1, h2⟩ q hq
          rcases List.mem_append.1 hq with hq | hq
          · exact h1 q hq
          · rw [List.mem_singleton.1 hq, hpt]; exact h2 user c rfl hp
    · -- the same documents, and no draft that counts
      push Not at hp
      refine ⟨posts, ?_, ?_⟩
      · rw [other_pins hp]; exact hf
      · rw [ht, publishesTags_concat]
        exact ⟨fun h => ⟨h, fun user c he hc => absurd hc (hp user c he)⟩, fun h => h.1⟩

/-- **Every viewer can load the collection** exactly when every published draft had a
tag, in whichever order the documents arrive and whatever was loaded before. -/
theorem viewer_loads_iff (F : Foundation) (es : List WorldEvent) (h : HomeViewController) :
    (∀ documents : List DocumentSnapshot, documents.Perm (run F es).pins → h.LoadsAll F documents) ↔
      PublishesTags F es := by
  obtain ⟨posts, hf, ht⟩ := run_pins (F := F) es
  rw [← ht]
  constructor
  · intro hl
    exact (HomeViewController.loadsAll_iff hf).1 (hl _ (.refl _))
  · intro htags documents hperm
    obtain ⟨posts', hf', hperm'⟩ := List.perm_comp_forall₂ hperm hf
    exact (HomeViewController.loadsAll_iff hf').2 fun p hp => htags p (hperm'.mem_iff.1 hp)

/-- An anonymous save of an untouched draft: no viewer can load its document. -/
theorem untagged_save_crashes_viewer : ¬ ∀ documents : List DocumentSnapshot,
    documents.Perm (run .ascii [.opened 0 ⟨"u1", some "ana@sens"⟩, .app 0 (.didUpdateLocations [⟨-8, -35⟩]),
      .app 0 .AddFeelingPressed, .app 0 (.compose (.anonSwitched true)),
      .app 0 .saveEmotionPressed]).pins →
    ({} : HomeViewController).LoadsAll .ascii documents := by
  intro hall
  obtain ⟨h', new, posts, hr, -⟩ := hall _ (.refl _)
  cases hr

end World

end Sens

import Sens.Proof.Provenance

/-!
# Posts without a tag

A viewer cannot read a document that was saved without a tag, and nothing takes a document
out of the collection.

* `answer_stops_iff`: an answer stops an app exactly when it holds such a document.
* `untagged_posts_lock_out`: the same for good, from the save on.
* `newcomer_sees_all_iff`: whoever opens the app next can see the whole collection just when it
  holds no such document.
-/

namespace Sens

namespace World

variable {F : Foundation} {es : List WorldEvent} {user query : ℕ} {a : App} {d : DocumentSnapshot}
  {documents : List DocumentSnapshot}

/-- The document is in the collection, and the session that published it left no tag. -/
def Untagged (F : Foundation) (es : List WorldEvent) (d : DocumentSnapshot) : Prop :=
  d ∈ (run F es).pins ∧ ∃ p : Published F es d, p.session.draft.pin.tags = []

theorem Untagged.append (h : Untagged F es d) (fs : List WorldEvent) : Untagged F (es ++ fs) d := by
  obtain ⟨hd, p, hp⟩ := h
  exact ⟨(pins_later es fs).subset hd, p.append fs, hp⟩

/-- **A viewer can read the documents that have a tag**, and no others. -/
theorem emotionPin?_eq_none_iff (hd : d ∈ (run F es).pins) : d.data.emotionPin? = none ↔ Untagged F es d := by
  -- what is read of a document that was published
  have hread : ∀ p : Published F es d,
      d.data.emotionPin? = none ↔ p.session.draft.pin.tags = [] := by
    intro p
    have hstores : Stores d.data p.post := p.data ▸ AddFeelingViewController.postDocument_stores p.post
    rw [Document.emotionPin?_of_stores hstores, ← p.chooses.tags]
    split_ifs with ht <;> simp [ht]
  constructor
  · intro hnone
    obtain ⟨p⟩ := run_published es d hd
    exact ⟨hd, p, (hread p).1 hnone⟩
  · rintro ⟨-, p, hp⟩
    exact (hread p).2 hp

/-- An event that can be delivered is taken by the app of its user. -/
theorem step_apps_self {w : World} {e : AppEvent} (ha : w.apps user = some a)
    (hd : a.Deliverable e = true) (hans : w.Answers e = true) :
    (step F w (.app user e)).apps user = App.step F a e := by
  have hboth : (a.Deliverable e && w.Answers e) = true := by rw [hd, hans]; rfl
  simp only [step, App.step, ha, if_pos hboth, if_pos hd]
  cases (App.handle F e).run a with
  | ok d a' => cases d <;> simp [setData, setApp_apps]
  | error t s => simp [setApp_apps]

/-- **Which answers stop an app**: those with a document that was saved without a tag. -/
theorem answer_stops_iff (ha : (run F es).apps user = some a) (hq : query ∈ a.pinsQueries)
    (hdocs : ∀ d ∈ documents, d ∈ (run F es).pins) :
    (run F (es ++ [.app user (.pinsAnswered query (some documents))])).apps user = none ↔
      ∃ d ∈ documents, Untagged F es d := by
  have hdel : a.Deliverable (.pinsAnswered query (some documents)) = true := decide_eq_true hq
  have hans : (run F es).Answers (.pinsAnswered query (some documents)) = true := by
    simpa [Answers] using hdocs
  have htaken := App.step_pinsAnswered (F := F) hq documents
  rw [run_concat, step_apps_self ha hdel hans, Option.eq_none_iff_forall_ne_some, ← not_exists, htaken,
    Decode.mapM_isSome, Bool.not_eq_false, List.any_eq_true]
  refine exists_congr fun d => and_congr_right fun hd => ?_
  rw [Option.isNone_iff_eq_none]
  exact emotionPin?_eq_none_iff (hdocs d hd)

/-- **A post without a tag locks its readers out.** In every run an answer of documents of the
collection stops the app that asked exactly when one of them was saved without a tag; and from
such a save on, however the users go on, every answer with its document stops the app that asked. -/
theorem untagged_posts_lock_out (F : Foundation) (es : List WorldEvent) :
    (∀ user a query documents, (run F es).apps user = some a → query ∈ a.pinsQueries →
      (∀ d ∈ documents, d ∈ (run F es).pins) →
      ((run F (es ++ [.app user (.pinsAnswered query (some documents))])).apps user = none ↔
        ∃ d ∈ documents, Untagged F es d)) ∧
    ∀ d, Untagged F es d → ∀ fs, d ∈ (run F (es ++ fs)).pins ∧
      ∀ user a query documents, (run F (es ++ fs)).apps user = some a → query ∈ a.pinsQueries →
        (∀ d ∈ documents, d ∈ (run F (es ++ fs)).pins) → d ∈ documents →
        (run F (es ++ fs ++ [.app user (.pinsAnswered query (some documents))])).apps user = none := by
  refine ⟨fun user a query documents ha hq hdocs => answer_stops_iff ha hq hdocs, fun d hd fs => ?_⟩
  have hlater : Untagged F (es ++ fs) d := hd.append fs
  refine ⟨hlater.1, fun user a query documents ha hq hdocs hmem => ?_⟩
  exact (answer_stops_iff ha hq hdocs).2 ⟨d, hmem, hlater⟩

/-- An author saves without a tag, and a second user waits for the collection. -/
def anaForgetsTags : List WorldEvent := [.opened 0 ⟨"u1", some "ana@sens"⟩,
  .app 0 (.didUpdateLocations [⟨-8, -35⟩]), .app 0 .AddFeelingPressed,
  .app 0 (.compose (.anonSwitched true)), .app 0 .saveEmotionPressed,
  .opened 1 ⟨"u2", some "rui@sens"⟩, .app 1 .viewDidAppear]

/-- The document stops the second user, and a third one who comes later. -/
theorem rui_is_locked_out : ∃ d, Untagged .ascii anaForgetsTags d ∧
    (run .ascii (anaForgetsTags ++ [.app 1 (.pinsAnswered 0 (some [d]))])).apps 1 = none ∧
    (run .ascii (anaForgetsTags ++ [.opened 2 ⟨"u3", some "lia@sens"⟩, .app 2 .viewDidAppear] ++
      [.app 2 (.pinsAnswered 0 (some [d]))])).apps 2 = none := by
  let d : DocumentSnapshot := ⟨0, AddFeelingViewController.postDocument { anaPost with tags := [] }⟩
  let fs : List WorldEvent := [.opened 2 ⟨"u3", some "lia@sens"⟩, .app 2 .viewDidAppear]
  obtain ⟨hstops, hlater⟩ := untagged_posts_lock_out .ascii anaForgetsTags
  have hasks : ((run .ascii anaForgetsTags).apps 1).map (·.pinsQueries) = some [0] := by decide +kernel
  have hasks' : ((run .ascii (anaForgetsTags ++ fs)).apps 2).map (·.pinsQueries) = some [0] := by
    decide +kernel
  obtain ⟨a, ha, hq⟩ := Option.map_eq_some_iff.1 hasks
  obtain ⟨b, hb, hq'⟩ := Option.map_eq_some_iff.1 hasks'
  have hdocs : ∀ x ∈ [d], x ∈ (run .ascii anaForgetsTags).pins := by decide +kernel
  have hnone : ((run .ascii (anaForgetsTags ++ [.app 1 (.pinsAnswered 0 (some [d]))])).apps 1).isNone =
      true := by decide +kernel
  rw [Option.isNone_iff_eq_none] at hnone
  obtain ⟨x, hx, hd⟩ := (hstops 1 a 0 [d] ha (hq ▸ List.mem_singleton_self 0) hdocs).1 hnone
  obtain rfl := List.mem_singleton.1 hx
  obtain ⟨hmem, hstops'⟩ := hlater d hd fs
  refine ⟨d, hd, hnone, hstops' 2 b 0 [d] hb (hq' ▸ List.mem_singleton_self 0) ?_ (List.mem_singleton_self d)⟩
  intro x hx
  rw [List.mem_singleton.1 hx]
  exact hmem

/-! ## The next one to open the app -/

/-- A user opens the app, the home screen appears, and its query is answered in full. -/
def arrival (w : World) (user : ℕ) (u : AuthUser) : List WorldEvent :=
  [.opened user u, .app user .viewDidAppear, .app user (.pinsAnswered 0 (some w.pins))]

theorem step_pins_of_not_writes {w : World} {e : WorldEvent} (he : e.writes = false) :
    (step F w e).pins = w.pins := by
  rw [step_eq, act_of_not_writes he, publish_none]

/-- **A user who arrives** is alone with the collection. -/
theorem run_arrival (es : List WorldEvent) (user : ℕ) (uid email : String) :
    (run F (es ++ arrival (run F es) user ⟨uid, some email⟩)).apps user =
      App.run F (some ⟨uid, some email⟩) [.viewDidAppear, .pinsAnswered 0 (some (run F es).pins)] := by
  let w₁ : World := step F (run F es) (.opened user ⟨uid, some email⟩)
  let w₂ : World := step F w₁ (.app user .viewDidAppear)
  let a : App := { App.launched uid email with pinsQueries := [0], nextQuery := 1 }
  have hpins : w₂.pins = (run F es).pins :=
    (step_pins_of_not_writes rfl).trans (step_pins_of_not_writes rfl)
  have h₁ : w₁.apps user = some (App.launched uid email) := Function.update_self ..
  have h₂ : w₂.apps user = some a := step_apps_self h₁ rfl rfl
  have hans : w₂.Answers (.pinsAnswered 0 (some (run F es).pins)) = true := by
    simp [Answers, hpins]
  have halone : App.run F (some ⟨uid, some email⟩) [.viewDidAppear] = some a := rfl
  rw [run, List.foldl_append]
  refine (step_apps_self h₂ rfl hans).trans (Option.ext fun b => ?_)
  rw [← List.singleton_append, App.run_concat_eq_some, halone]
  simp

/-- **Who arrives sees the whole collection**, one pin for each document in their order, just when
no document was published without a tag. Otherwise the app stops. -/
theorem newcomer_sees_all_iff (F : Foundation) (es : List WorldEvent) (user : ℕ) (uid email : String) :
    ((∃ a, (run F (es ++ arrival (run F es) user ⟨uid, some email⟩)).apps user = some a ∧
      App.Stands F a.home (run F es).pins) ↔ ∀ d ∈ (run F es).pins, ¬ Untagged F es d) ∧
    ((run F (es ++ arrival (run F es) user ⟨uid, some email⟩)).apps user = none ↔
      ∃ d ∈ (run F es).pins, Untagged F es d) := by
  have hread : (∀ d ∈ (run F es).pins, ¬ Untagged F es d) ↔
      ((run F es).pins.any fun d => d.data.emotionPin?.isNone) = false := by
    rw [List.any_eq_false]
    refine forall₂_congr fun d hd => ?_
    rw [← emotionPin?_eq_none_iff hd, Option.isNone_iff_eq_none]
  have hloads := App.step_pinsAnswered (F := F) (a := { App.launched uid email with
    pinsQueries := [0], nextQuery := 1 }) (List.mem_singleton_self 0) (run F es).pins
  have halone : App.run F (some ⟨uid, some email⟩) [.viewDidAppear] =
      some { App.launched uid email with pinsQueries := [0], nextQuery := 1 } := rfl
  -- the app goes on just when every document can be read
  have hruns : (∃ a, (run F (es ++ arrival (run F es) user ⟨uid, some email⟩)).apps user = some a) ↔
      ∀ d ∈ (run F es).pins, ¬ Untagged F es d := by
    rw [hread, ← Decode.mapM_isSome, ← hloads, run_arrival, ← List.singleton_append]
    simp only [App.run_concat_eq_some, halone, Option.some.injEq, exists_eq_left']
  constructor
  · rw [← hruns]
    refine exists_congr fun a => and_iff_left_of_imp fun ha => ?_
    rw [run_arrival] at ha
    simpa [Session.answered, Session.documents] using App.run_stands ha
  · rw [Option.eq_none_iff_forall_ne_some, ← not_exists, hruns]
    push Not
    rfl

end World

end Sens

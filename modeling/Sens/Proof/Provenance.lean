import Sens.Proof.Interleaving
import Sens.Proof.Reader
import Sens.Proof.World

/-!
# Where the documents come from

* `ComposeSession`, `run_composeSession`: an open compose screen is what a session left.
* `act_cases`: what an event of the world can do to the app of its user.
* `run_own`: every running app of the world is the run of events of its own user alone,
  and the documents it was answered are of the collection.
* `run_published`: every document of the collection is the post of one save, and the save
  ends a session that chose it.
* `collection_is_published`: the collection is the posts of the saves, and of all of them.
* `viewer_sees_published`: whatever a viewer sees on the map, an author chose.
-/

namespace Sens

namespace App

open Runs Session

variable {F : Foundation} {currentUser : Option AuthUser} {es : List AppEvent} {a a' : App}

/-! ## Sessions -/

/-- The session on the compose screen that the events end in: how it was opened, and the
draft that it leaves. -/
structure ComposeSession (F : Foundation) (es : List AppEvent) where
  before : List AppEvent
  opening : AppEvent
  during : List AppEvent
  touched : Option CLLocationCoordinate2D
  user : CLLocationCoordinate2D
  draft : AddFeelingViewController
  split : es = before ++ opening :: during
  opens : Opens opening touched
  notClosed : ∀ e ∈ during, Closes e = false
  located : lastLocation before = some user
  composed : after (AddFeelingViewController.step F) (AddFeelingViewController.opened touched user)
    (composeEvents during) = some draft

namespace ComposeSession

/-- A session that has just begun. -/
def start (F : Foundation) {opening : AppEvent} {touched : Option CLLocationCoordinate2D}
    {user : CLLocationCoordinate2D} (ho : Opens opening touched) (hu : lastLocation es = some user) :
    ComposeSession F (es ++ [opening]) where
  before := es
  opening := opening
  during := []
  touched := touched
  user := user
  draft := AddFeelingViewController.opened touched user
  split := rfl
  opens := ho
  notClosed _ he := absurd he List.not_mem_nil
  located := hu
  composed := rfl

theorem composeEvents_concat (es : List AppEvent) (e : AppEvent) :
    composeEvents (es ++ [e]) = composeEvents es ++ (Session.composed e).toList := by
  simp only [composeEvents, List.filterMap_append]
  cases h : Session.composed e <;> simp [h]

/-- A session goes on while nothing closes it. -/
def extend (s : ComposeSession F es) {e : AppEvent} (he : Closes e = false) {c : AddFeelingViewController}
    (hc : after (AddFeelingViewController.step F) s.draft (Session.composed e).toList = some c) :
    ComposeSession F (es ++ [e]) where
  before := s.before
  opening := s.opening
  during := s.during ++ [e]
  touched := s.touched
  user := s.user
  draft := c
  split := (congrArg (· ++ [e]) s.split).trans (List.append_assoc _ _ _)
  opens := s.opens
  notClosed x hx := by
    rcases List.mem_append.1 hx with hx | hx
    · exact s.notClosed x hx
    · rw [List.mem_singleton.1 hx]; exact he
  located := s.located
  composed := by
    rw [composeEvents_concat, after_append_eq_some]
    exact ⟨s.draft, s.composed, hc⟩

/-- The post is what the author chose in the session. The emoji, the colour, the name and the
place are read off the author's events, the tags and the testimonial off the draft. -/
structure Chooses (s : ComposeSession F es) (author : AuthUser) (p : Post) : Prop where
  user : p.user = author.uid
  icon : p.icon = Choice.lastEmoji (composeEvents s.during)
  color : p.color = Choice.lastColor (composeEvents s.during)
  tags : p.tags = s.draft.pin.tags
  testimonial : p.testimonial = s.draft.testimonialTextView.text
  userName : some p.userName =
    if Choice.lastAnon (composeEvents s.during) then some "Anonimo" else firstName es
  location : Choice.place s.touched s.user (Choice.lastButton (composeEvents s.during) s.touched) =
    some ⟨p.location.latitude, p.location.longitude⟩

end ComposeSession

/-- **An open compose screen is what a session left.** -/
theorem run_composeSession (h : run F currentUser es = some a) : ∀ c, a.addFeeling = some c →
    ∃ s : ComposeSession F es, s.draft = c := by
  refine run_invariant (P := fun es a => ∀ c, a.addFeeling = some c →
    ∃ s : ComposeSession F es, s.draft = c) (fun _ _ c hc => by cases hc) ?_ es a h
  intro es e u t d hrun hP he c hc
  cases hu : u.addFeeling with
  | none =>
    -- the event has opened the screen
    cases he with
    | tapped newCoordinate user ha hl =>
      cases hc
      exact ⟨.start F (.tapped newCoordinate) (by rw [← run_userLocation hrun, hl]), rfl⟩
    | added user ha hl =>
      cases hc
      exact ⟨.start F .added (by rw [← run_userLocation hrun, hl]), rfl⟩
    | composed e c₀ c' hc₀ hs => rw [hu] at hc₀; cases hc₀
    | saved c₀ c' d hc₀ hs => cases hc
    | cancelled => cases hc
    | _ => rw [hu] at hc; cases hc
  | some c₀ =>
    obtain ⟨s, rfl⟩ := hP c₀ hu
    cases hcl : Closes e with
    | true =>
      cases he with
      | saved c₁ c' d hc₁ hs => cases hc
      | cancelled => cases hc
      | _ => cases hcl
    | false =>
      obtain ⟨c', hc', hs⟩ := he.compose hu hcl
      rw [hc'] at hc
      cases hc
      exact ⟨s.extend hcl hs, rfl⟩

/-- **What a save publishes** is a post that its session chose. -/
theorem run_chooses {author : AuthUser} {c c' : AddFeelingViewController} {d : Document}
    (h : run F (some author) es = some a) (hc : a.addFeeling = some c)
    (hs : (AddFeelingViewController.saveEmotionPressed a.home.user).run c = .ok d c') :
    ∃ (s : ComposeSession F es) (p : Post), s.Chooses author p ∧
      d = AddFeelingViewController.postDocument p := by
  obtain ⟨s, rfl⟩ := run_composeSession h c hc
  obtain ⟨id, userName, l, hl, hid, hn, hcl, rfl⟩ := AddFeelingViewController.save_iff.1 ⟨c', hs⟩
  rw [run_id h] at hid
  cases hid
  refine ⟨s, _, ?_, rfl⟩
  constructor
  · rfl
  · exact AddFeelingViewController.after_emoji s.composed
  · exact AddFeelingViewController.after_color s.composed
  · rfl
  · rfl
  · rw [← AddFeelingViewController.after_anon s.composed, ← run_name h]
    exact hn.symm
  · rw [← AddFeelingViewController.after_chosenLocation s.composed, hcl]
    rfl

end App

namespace World

variable {F : Foundation} {w : World} {e : WorldEvent} {es : List WorldEvent} {user : ℕ} {a a' : App}

/-! ## One user's events -/

/-- The event of the user's app. -/
def appEvent (user : ℕ) : WorldEvent → Option AppEvent
  | .app user' e => if user' = user then some e else none
  | .opened _ _ => none

/-- The events of the user's app, in order. -/
def ownEvents (user : ℕ) (es : List WorldEvent) : List AppEvent := es.filterMap (appEvent user)

/-- The event opens the app of the user. -/
def Opens (user : ℕ) : WorldEvent → Bool
  | .opened user' _ => user' = user
  | .app _ _ => false

/-- **What an event can do to the app of its user**: launch it, make a step of it, leave it,
or stop it. -/
inductive Act (F : Foundation) (w : World) : WorldEvent → Option App → Option Document → Prop
  | launched (user : ℕ) (u : AuthUser) (a : Option App) (ha : App.launch (some u) = a) :
      Act F w (.opened user u) a none
  | stepped (user : ℕ) (e : AppEvent) (a a' : App) (d : Option Document) (ha : w.apps user = some a)
      (hd : a.Deliverable e = true) (hans : w.Answers e = true)
      (hr : (App.handle F e).run a = .ok d a') : Act F w (.app user e) (some a') d
  | stopped (user : ℕ) (e : AppEvent) : Act F w (.app user e) none none
  | stayed (user : ℕ) (e : AppEvent) (a : Option App) (ha : w.apps user = a) :
      Act F w (.app user e) a none

theorem act_cases (w : World) (e : WorldEvent) : Act F w e (act F w e).1 (act F w e).2 := by
  cases e with
  | opened user u => exact .launched user u _ rfl
  | app user e =>
    simp only [act]
    cases ha : w.apps user with
    | none => exact .stayed user e none ha
    | some a =>
      simp only
      split_ifs with hd
      · rw [Bool.and_eq_true] at hd
        cases hr : (App.handle F e).run a with
        | ok d a' => exact .stepped user e a a' d ha hd.1 hd.2 hr
        | error t s => exact .stopped user e
      · exact .stayed user e (some a) ha

/-- Documents are only added to the collection. -/
theorem pins_grow (es : List WorldEvent) (e : WorldEvent) :
    (run F es).pins <+: (run F (es ++ [e])).pins := by
  rw [run_concat, step_eq]
  exact List.prefix_append _ _

/-- Nothing is taken out of the collection. -/
theorem pins_later (es fs : List WorldEvent) : (run F es).pins <+: (run F (es ++ fs)).pins := by
  induction fs using List.reverseRecOn with
  | nil => simp
  | append_singleton fs e ih =>
    rw [← List.append_assoc]
    exact ih.trans (pins_grow (es ++ fs) e)

/-- **A save that writes adds its document**, which is there for good. -/
theorem run_saved {before after : List WorldEvent} {d : Document} (ha : (run F before).apps user = some a)
    (hr : (App.handle F .saveEmotionPressed).run a = .ok (some d) a') :
    (run F (before ++ .app user .saveEmotionPressed :: after)).pins[(run F before).pins.length]? =
      some ⟨(run F before).pins.length, d⟩ := by
  have hdel : a.Deliverable .saveEmotionPressed = true := App.addFeeling_of_save hr
  have hstep : (run F (before ++ [.app user .saveEmotionPressed])).pins =
      (run F before).pins ++ [⟨(run F before).pins.length, d⟩] := by
    cases App.handle_effect hdel hr with
    | saved c c' d hc hs => rw [run_concat, save_pins ha hc hs]
  obtain ⟨l, hl⟩ := pins_later (F := F) (before ++ [.app user .saveEmotionPressed]) after
  rw [List.append_assoc, List.singleton_append, hstep] at hl
  rw [← hl]
  simp

/-- The app of the user is the run of events that the user made since it was opened, and
every document it was answered is in the collection. -/
structure Own (F : Foundation) (es : List WorldEvent) (user : ℕ) (a : App) where
  before : List WorldEvent
  currentUser : AuthUser
  since : List WorldEvent
  taken : List AppEvent
  split : es = before ++ .opened user currentUser :: since
  notOpened : ∀ e ∈ since, Opens user e = false
  sublist : taken.Sublist (ownEvents user since)
  answered : ∀ d ∈ Session.answered taken, d ∈ (run F es).pins
  app : App.run F (some currentUser) taken = some a

namespace Own

theorem ownEvents_concat (user : ℕ) (es : List WorldEvent) (e : WorldEvent) :
    ownEvents user (es ++ [e]) = ownEvents user es ++ (appEvent user e).toList := by
  simp only [ownEvents, List.filterMap_append]
  cases h : appEvent user e <;> simp [h]

/-- An app that has just been opened. -/
def start {u : AuthUser} (ha : App.launch (some u) = some a) :
    Own F (es ++ [.opened user u]) user a where
  before := es
  currentUser := u
  since := []
  taken := []
  split := rfl
  notOpened _ he := absurd he List.not_mem_nil
  sublist := List.nil_sublist _
  answered _ hd := absurd hd List.not_mem_nil
  app := by rw [App.run, ha]; rfl

/-- An event that the app does not take. -/
def pass (o : Own F es user a) {e : WorldEvent} (he : Opens user e = false) : Own F (es ++ [e]) user a where
  before := o.before
  currentUser := o.currentUser
  since := o.since ++ [e]
  taken := o.taken
  split := (congrArg (· ++ [e]) o.split).trans (List.append_assoc _ _ _)
  notOpened x hx := by
    rcases List.mem_append.1 hx with hx | hx
    · exact o.notOpened x hx
    · rw [List.mem_singleton.1 hx]; exact he
  sublist := by
    rw [ownEvents_concat]
    exact o.sublist.trans (List.sublist_append_left _ _)
  answered d hd := (pins_grow es e).subset (o.answered d hd)
  app := o.app

/-- An event that the app takes. -/
def take (o : Own F es user a) {e : AppEvent} (hans : (run F es).Answers e = true)
    (hs : App.step F a e = some a') : Own F (es ++ [.app user e]) user a' where
  before := o.before
  currentUser := o.currentUser
  since := o.since ++ [.app user e]
  taken := o.taken ++ [e]
  split := (congrArg (· ++ [.app user e]) o.split).trans (List.append_assoc _ _ _)
  notOpened x hx := by
    rcases List.mem_append.1 hx with hx | hx
    · exact o.notOpened x hx
    · rw [List.mem_singleton.1 hx]; rfl
  sublist := by
    rw [ownEvents_concat]
    exact o.sublist.append (by simp [appEvent])
  answered d hd := by
    simp only [Session.answered, List.flatMap_append, List.flatMap_singleton, List.mem_append] at hd
    rcases hd with hd | hd
    · exact (pins_grow es _).subset (o.answered d hd)
    · cases e with
      | pinsAnswered query answer =>
        cases answer with
        | none => exact absurd hd List.not_mem_nil
        | some documents =>
          have hmem : ∀ d ∈ documents, d ∈ (run F es).pins := by simpa [Answers] using hans
          exact (pins_grow es _).subset (hmem d hd)
      | _ => exact absurd hd List.not_mem_nil
  app := App.run_concat_eq_some.2 ⟨a, o.app, hs⟩

end Own

/-- **Every running app is the run of its own user's events.** -/
theorem run_own (es : List WorldEvent) : ∀ user a, (run F es).apps user = some a →
    Nonempty (Own F es user a) := by
  induction es using List.reverseRecOn with
  | nil => intro user a h; cases h
  | append_singleton es e ih =>
    intro user a' h
    rw [run_concat, step_eq] at h
    simp only [Function.update_apply] at h
    split_ifs at h with hu
    · subst hu
      have hact := act_cases (F := F) (run F es) e
      rw [h] at hact
      generalize (act F (run F es) e).2 = d at hact
      cases hact with
      | launched user u a ha =>
        exact ⟨.start ha⟩
      | stepped user e a a' d ha hd hans hr =>
        obtain ⟨o⟩ := ih user a ha
        exact ⟨o.take hans (App.step_eq_some.2 ⟨hd, d, hr⟩)⟩
      | stayed user e a ha =>
        obtain ⟨o⟩ := ih user a' ha
        exact ⟨o.pass rfl⟩
    · obtain ⟨o⟩ := ih user a' h
      refine ⟨o.pass ?_⟩
      cases e with
      | opened user' u => simpa [Opens, WorldEvent.user, eq_comm] using hu
      | app user' e => rfl

/-! ## The documents -/

/-- A document of the collection, with the save that published it: whose app it was, the
session that the save ended, and the post that the author chose in it. -/
structure Published (F : Foundation) (es : List WorldEvent) (d : DocumentSnapshot) where
  before : List WorldEvent
  user : ℕ
  after : List WorldEvent
  split : es = before ++ .app user .saveEmotionPressed :: after
  id : d.documentID = (run F before).pins.length
  app : App
  own : Own F before user app
  session : App.ComposeSession F own.taken
  post : Post
  chooses : session.Chooses own.currentUser post
  data : d.data = AddFeelingViewController.postDocument post

/-- A document stays published. -/
def Published.append {d : DocumentSnapshot} (p : Published F es d) (fs : List WorldEvent) :
    Published F (es ++ fs) d where
  before := p.before
  user := p.user
  after := p.after ++ fs
  split := (congrArg (· ++ fs) p.split).trans (List.append_assoc _ _ _)
  id := p.id
  app := p.app
  own := p.own
  session := p.session
  post := p.post
  chooses := p.chooses
  data := p.data

/-- What a save adds to the collection is published by it. -/
theorem act_published {data : Document} (h : (act F (run F es) e).2 = some data) :
    Nonempty (Published F (es ++ [e]) ⟨(run F es).pins.length, data⟩) := by
  have hact := act_cases (F := F) (run F es) e
  rw [h] at hact
  generalize (act F (run F es) e).1 = a' at hact
  cases hact with
  | stepped user e a a' d ha hd hans hr =>
    obtain ⟨o⟩ := run_own es user a ha
    cases App.handle_effect hd hr with
    | saved c c' d hc hs =>
      obtain ⟨s, p, hp, hdata⟩ := App.run_chooses o.app hc hs
      exact ⟨⟨es, user, [], rfl, rfl, a, o, s, p, hp, hdata⟩⟩

/-- **Every document of the collection was published**, by one save. -/
theorem run_published (es : List WorldEvent) : ∀ d ∈ (run F es).pins, Nonempty (Published F es d) := by
  induction es using List.reverseRecOn with
  | nil => intro d hd; exact absurd hd List.not_mem_nil
  | append_singleton es e ih =>
    intro d hd
    rw [run_concat, step_eq] at hd
    rcases List.mem_append.1 hd with hd | hd
    · obtain ⟨p⟩ := ih d hd
      exact ⟨p.append [e]⟩
    · rw [Option.mem_toList, Option.map_eq_some_iff] at hd
      obtain ⟨data, hdata, rfl⟩ := hd
      exact act_published hdata

/-- **The documents are numbered** in the order of their saves. -/
theorem run_documentID (es : List WorldEvent) :
    (run F es).pins.map (·.documentID) = List.range (run F es).pins.length := by
  induction es using List.reverseRecOn with
  | nil => rfl
  | append_singleton es e ih =>
    rw [run_concat, step_eq]
    cases (act F (run F es) e).2 with
    | none => simpa using ih
    | some data => simp [publish, ih, List.range_succ]

/-! ## What a viewer sees -/

/-- **A pin of a viewer** shows a document of the collection, and so a post that an author
chose. -/
theorem run_shows {i : Pin} (h : (run F es).apps user = some a) (hi : i ∈ a.home.pins) :
    ∃ d ∈ (run F es).pins, ∃ p : Published F es d, a.home.Shows F i p.post := by
  obtain ⟨o⟩ := run_own es user a h
  have hstands := App.run_stands o.app
  obtain ⟨d, hd, hread⟩ := Decode.exists_of_mem_mapM hstands.emotionPins (List.mem_map_of_mem hi)
  have hmem := o.answered d hd
  obtain ⟨p⟩ := run_published es d hmem
  have hstores : Stores d.data p.post := p.data ▸ AddFeelingViewController.postDocument_stores p.post
  rw [Document.emotionPin?_of_stores hstores] at hread
  split_ifs at hread
  have hpin : a.home.emotionPinAt i = p.post.emotionPin := (Option.some.inj hread).symm
  have hann := List.map_inj_left.1 (hstands.annotations.trans List.map_map) i hi
  refine ⟨d, hmem, p, hpin, ?_⟩
  rw [HomeViewController.annotationAt] at hann
  rw [hann, Function.comp_apply, hpin]
  rfl

/-- **An app depends on its own user only.** Every running app of the world is in the state
that it reaches alone, by some of what its user did since it was opened, in order; the
others come in only through the documents that it is answered, which are of the collection. -/
theorem apps_are_isolated (h : (run F es).apps user = some a) :
    ∃ before u since taken, es = before ++ .opened user u :: since ∧ (∀ e ∈ since, Opens user e = false) ∧
      taken.Sublist (ownEvents user since) ∧ (∀ d ∈ Session.answered taken, d ∈ (run F es).pins) ∧
      App.run F (some u) taken = some a := by
  obtain ⟨o⟩ := run_own es user a h
  exact ⟨o.before, o.currentUser, o.since, o.taken, o.split, o.notOpened, o.sublist, o.answered, o.app⟩

/-- One user of two. -/
theorem ana_is_isolated : ∃ a taken, (run .ascii [.opened 0 ⟨"u1", some "ana@sens"⟩,
      .opened 1 ⟨"u2", some "rui@sens"⟩, .app 1 .viewDidAppear, .app 0 .didFailWithError]).apps 0 = some a ∧
    taken.Sublist [AppEvent.didFailWithError] ∧ App.run .ascii (some ⟨"u1", some "ana@sens"⟩) taken = some a := by
  have hrun : ((run .ascii [.opened 0 ⟨"u1", some "ana@sens"⟩, .opened 1 ⟨"u2", some "rui@sens"⟩,
      .app 1 .viewDidAppear, .app 0 .didFailWithError]).apps 0).isSome = true := by decide +kernel
  obtain ⟨a, ha⟩ := Option.isSome_iff_exists.1 hrun
  obtain ⟨before, u, since, taken, hes, hopen, hsub, -, hr⟩ := apps_are_isolated ha
  cases before with
  | nil => cases hes; exact ⟨a, taken, ha, hsub, hr⟩
  | cons e before =>
    -- the app is opened once only
    have hmem : WorldEvent.opened 0 u ∈ [WorldEvent.opened 1 ⟨"u2", some "rui@sens"⟩,
        .app 1 .viewDidAppear, .app 0 .didFailWithError] := by
      rw [(List.cons.inj hes).2]; simp
    simp at hmem

theorem recife_inRange : CLLocationCoordinate2D.InRange ⟨-8, -35⟩ := by decide

/-- What one user publishes anonymously. -/
def anaPost : Post := ⟨"u1", "", "", ["paz"], AddFeelingViewController.placeholder, "Anonimo",
  ⟨-8, -35, recife_inRange.1, recife_inRange.2⟩⟩

/-- One user publishes anonymously, and another loads the collection. -/
def anaPublishes : List WorldEvent := [.opened 0 ⟨"u1", some "ana@sens"⟩,
  .app 0 (.didUpdateLocations [⟨-8, -35⟩]), .app 0 .AddFeelingPressed,
  .app 0 (.compose (.anonSwitched true)), .app 0 (.compose (.tagTextEdited "paz")),
  .app 0 (.compose .addEmotionTagPressed), .app 0 .saveEmotionPressed,
  .opened 1 ⟨"u2", some "rui@sens"⟩, .app 1 .viewDidAppear,
  .app 1 (.pinsAnswered 0 (some [⟨0, AddFeelingViewController.postDocument anaPost⟩]))]

/-- **The collection is what was published.** Its documents are numbered in the order of their
saves; each is the post of a save, chosen by the author in the session that the save ends,
and no two are of the same save. Every save that writes adds its document, which stays as it is. -/
theorem collection_is_published (F : Foundation) (es : List WorldEvent) :
    (run F es).pins.map (·.documentID) = List.range (run F es).pins.length ∧
      (∀ d ∈ (run F es).pins, Nonempty (Published F es d)) ∧
      (∀ d ∈ (run F es).pins, ∀ d' ∈ (run F es).pins, ∀ (p : Published F es d) (p' : Published F es d'),
        p.before = p'.before → d = d') ∧
      ∀ before user after a d a', es = before ++ .app user .saveEmotionPressed :: after →
        (run F before).apps user = some a →
        (App.handle F .saveEmotionPressed).run a = .ok (some d) a' →
        (run F es).pins[(run F before).pins.length]? = some ⟨(run F before).pins.length, d⟩ := by
  refine ⟨run_documentID es, run_published es, ?_, ?_⟩
  · intro d hd d' hd' p p' hb
    have hnodup : ((run F es).pins.map (·.documentID)).Nodup :=
      run_documentID (F := F) es ▸ List.nodup_range
    refine List.inj_on_of_nodup_map hnodup hd hd' ?_
    rw [p.id, p'.id, hb]
  · rintro before user after a d a' rfl ha hr
    exact run_saved ha hr

/-- The save of the first user. -/
theorem ana_is_published : ∃ a d a', (run .ascii (anaPublishes.take 6)).apps 0 = some a ∧
    (App.handle .ascii .saveEmotionPressed).run a = .ok (some d) a' ∧
    (run .ascii anaPublishes).pins[0]? = some ⟨0, d⟩ := by
  have hsaves : (((run .ascii (anaPublishes.take 6)).apps 0).bind (App.saved .ascii)).isSome = true := by
    decide +kernel
  obtain ⟨a, d, a', ha, hr⟩ := App.exists_save hsaves
  have hfirst : (run .ascii (anaPublishes.take 6)).pins.length = 0 := by decide +kernel
  obtain ⟨-, -, -, hstays⟩ := collection_is_published .ascii anaPublishes
  have hpins := hstays (anaPublishes.take 6) 0 (anaPublishes.drop 7) a d a' rfl ha hr
  rw [hfirst] at hpins
  exact ⟨a, d, a', ha, hr, hpins⟩

/-- **No viewer sees what nobody published.** Behind every pin of every running app there is
a document of the collection, and the pin shows the post that its author chose. -/
theorem viewer_sees_published {i : Pin} (h : (run F es).apps user = some a) (hi : i ∈ a.home.pins) :
    ∃ d ∈ (run F es).pins, ∃ p : Published F es d, a.home.Shows F i p.post :=
  run_shows h hi

theorem rui_sees_published : ∃ a, (run .ascii anaPublishes).apps 1 = some a ∧
    ∃ d ∈ (run .ascii anaPublishes).pins, ∃ p : Published .ascii anaPublishes d,
      a.home.Shows .ascii ⟨1, 1⟩ p.post := by
  have hrun : ((run .ascii anaPublishes).apps 1).map (·.home.pins) = some [⟨1, 1⟩] := by decide +kernel
  obtain ⟨a, ha, hp⟩ := Option.map_eq_some_iff.1 hrun
  exact ⟨a, ha, viewer_sees_published ha (hp ▸ List.mem_singleton_self _)⟩

/-! ## What the documents hold -/

/-- The emoji of the picker. -/
def emojis : List String := (EmojiPickerViewController.fetchEmojis {}).emojiList.flatten

theorem emoji_mem {e : AddFeelingEvent} {s : String} (h : Choice.emoji e = some s) : s ∈ emojis := by
  cases e with
  | emojiTapped sec item =>
    rw [Choice.emoji, ← AddFeelingViewController.didSelectItemAt_eq] at h
    obtain ⟨l, hl, hs⟩ := Option.bind_eq_some_iff.1 h
    exact List.mem_flatten.2 ⟨l, List.mem_of_getElem? hl, List.mem_of_getElem? hs⟩
  | _ => cases h

theorem lastEmoji_mem (es : List AddFeelingEvent) :
    Choice.lastEmoji es = "" ∨ Choice.lastEmoji es ∈ emojis := by
  have hmem : Choice.lastEmoji es ∈ "" :: es.filterMap Choice.emoji := List.getLastD_mem_cons
  refine (List.mem_cons.1 hmem).imp id fun h => ?_
  obtain ⟨e, -, he⟩ := List.mem_filterMap.1 h
  exact emoji_mem he

theorem lastColor_mem (es : List AddFeelingEvent) :
    Choice.lastColor es = "" ∨ Choice.lastColor es ∈ AddFeelingViewController.colors := by
  have hmem : Choice.lastColor es ∈ "" :: es.filterMap Choice.color := List.getLastD_mem_cons
  rcases List.mem_cons.1 hmem with h | h
  · exact .inl h
  · obtain ⟨e, -, he⟩ := List.mem_filterMap.1 h
    cases e with
    | colorTapped item => exact .inr (List.mem_of_getElem? he)
    | clearSelectedColor => exact .inl (Option.some.inj he).symm
    | _ => cases he

/-- **Every document of the collection is well formed**: the fields of a post, an emoji of
the picker or none, a colour of the palette or none, no blank tag, and for its user one who
opened the app. -/
theorem collection_is_wellFormed (F : Foundation) (es : List WorldEvent) :
    ∀ d ∈ (run F es).pins, ∃ p : Post, d.data = AddFeelingViewController.postDocument p ∧
      (p.icon = "" ∨ p.icon ∈ emojis) ∧ (p.color = "" ∨ p.color ∈ AddFeelingViewController.colors) ∧
      (∀ t ∈ p.tags, trimmingCharacters t ≠ "") ∧ ∃ user u, .opened user u ∈ es ∧ p.user = u.uid := by
  intro d hd
  obtain ⟨p⟩ := run_published es d hd
  have hopened : .opened p.user p.own.currentUser ∈ p.before :=
    (congrArg (WorldEvent.opened p.user p.own.currentUser ∈ ·) p.own.split).mpr (by simp)
  have hsub : p.before ⊆ es := fun x hx => (congrArg (x ∈ ·) p.split).mpr (List.mem_append_left _ hx)
  refine ⟨p.post, p.data, ?_, ?_, ?_, p.user, p.own.currentUser, hsub hopened, p.chooses.user⟩
  · rw [p.chooses.icon]; exact lastEmoji_mem _
  · rw [p.chooses.color]; exact lastColor_mem _
  · rw [p.chooses.tags]
    exact (AddFeelingViewController.after_ok p.session.composed).tags

/-- What the first user published. -/
theorem ana_is_wellFormed : ∃ d, (run .ascii anaPublishes).pins = [d] ∧
    ∃ p : Post, d.data = AddFeelingViewController.postDocument p ∧
      (p.icon = "" ∨ p.icon ∈ emojis) ∧ (p.color = "" ∨ p.color ∈ AddFeelingViewController.colors) ∧
      (∀ t ∈ p.tags, trimmingCharacters t ≠ "") ∧
      ∃ user u, .opened user u ∈ anaPublishes ∧ p.user = u.uid := by
  have hrun : (run .ascii anaPublishes).pins.length = 1 := by decide +kernel
  obtain ⟨d, hd⟩ := List.length_eq_one_iff.1 hrun
  exact ⟨d, hd, collection_is_wellFormed .ascii anaPublishes d (hd ▸ List.mem_singleton_self _)⟩

end World

end Sens

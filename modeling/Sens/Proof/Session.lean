import Sens.Proof.App

/-!
# What a session publishes

* `run_draft`, `run_save`: the draft that a session leaves, and the document of a save at
  its end.
* `load_shows`: a stored post among the documents of a snapshot has a pin that shows
  it, and keeps showing it.
* `viewers_see_choices`: what the author chose is what every viewer sees.
* `anonymous_same_iff`: when two authors publish the same anonymous document.
* `save_goes_where_selected`: a post goes where the last selected radio button says, and
  when there is one.
-/

namespace Sens

namespace App

open Runs Session

variable {F : Foundation} {author viewer : AuthUser} {before during : List AppEvent}
  {opening : AppEvent} {touched : Option CLLocationCoordinate2D} {a a' : App} {d : Document}

/-- **The draft of a session**, and the documents that a save of it can write: the draft that
the events of the compose screen leave, the author's id, and the name and location that the
draft chooses. -/
theorem run_draft (ho : Opens opening touched) (hd : ∀ e ∈ during, Closes e = false)
    (hrun : run F (some author) (before ++ opening :: during) = some a) :
    ∃ c user, a.addFeeling = some c ∧ lastLocation before = some user ∧
      after (AddFeelingViewController.step F) (AddFeelingViewController.opened touched user)
        (composeEvents during) = some c ∧
      ∀ d a', (handle F .saveEmotionPressed).run a = .ok (some d) a' →
        ∃ userName l, ∃ hl : l.InRange, c.displayName a.home.user = some userName ∧
          c.chosenLocation = some l ∧ d = AddFeelingViewController.postDocument
            (c.post author.uid userName ⟨l.latitude, l.longitude, hl.1, hl.2⟩) := by
  obtain ⟨c, user, hu, hc, hafter⟩ := run_session ho hd hrun
  refine ⟨c, user, hc, hu, hafter, ?_⟩
  intro d a' hsave
  have hdel : a.Deliverable .saveEmotionPressed = true := by simp [Deliverable, hc]
  cases handle_effect hdel hsave with
  | saved c₀ c' d hc₀ hs =>
    rw [hc] at hc₀; cases hc₀
    obtain ⟨id, userName, l, hl, hid, hn, hcl, rfl⟩ := AddFeelingViewController.save_iff.1 ⟨c', hs⟩
    rw [run_id hrun] at hid; cases hid
    exact ⟨userName, l, hl, hn, hcl, rfl⟩

/-- **The document of a session.** -/
theorem run_save (ho : Opens opening touched) (hd : ∀ e ∈ during, Closes e = false)
    (hrun : run F (some author) (before ++ opening :: during) = some a)
    (hsave : (handle F .saveEmotionPressed).run a = .ok (some d) a') :
    ∃ c user userName l, ∃ hl : l.InRange, a.addFeeling = some c ∧ lastLocation before = some user ∧
      after (AddFeelingViewController.step F) (AddFeelingViewController.opened touched user)
        (composeEvents during) = some c ∧
      c.displayName a.home.user = some userName ∧ c.chosenLocation = some l ∧
      d = AddFeelingViewController.postDocument
        (c.post author.uid userName ⟨l.latitude, l.longitude, hl.1, hl.2⟩) := by
  obtain ⟨c, user, hc, hu, hafter, hdraft⟩ := run_draft ho hd hrun
  obtain ⟨userName, l, hl, hn, hcl, hdoc⟩ := hdraft d a' hsave
  exact ⟨c, user, userName, l, hl, hc, hu, hafter, hn, hcl, hdoc⟩

/-- **A stored post among the documents of a snapshot** has a pin that shows it, with
objects of its own, and whatever happens later the pin keeps showing it. -/
theorem load_shows {es later : List AppEvent} {query : ℕ} {ds₁ ds₂ : List DocumentSnapshot}
    {d : DocumentSnapshot} {p : Post} {v v₁ v' : App} (hd : Stores d.data p)
    (hv : run F (some viewer) es = some v)
    (hload : step F v (.pinsAnswered query (some (ds₁ ++ d :: ds₂))) = some v₁)
    (hlater : after (step F) v₁ later = some v') :
    p.tags ≠ [] ∧ ∃ i, v'.home.pins[v.home.pins.length + ds₁.length]? = some i ∧ v'.home.Shows F i p := by
  have hv₁ : HomeOK v₁.home := run_homeOK (run_concat_eq_some.2 ⟨v, hv, hload⟩)
  obtain ⟨_, he⟩ := step_effect hload
  cases he with
  | pinsLoaded query documents l hl hr =>
    obtain ⟨l', hl', hx, ht⟩ := HomeViewController.pinsCompletion_mid hd hr
    obtain ⟨i, hi, he, ha⟩ := HomeViewController.pushAll_getElem? hx v.home
    have hi₁ : (v.home.pushAll l).pins[v.home.pins.length + ds₁.length]? = some i := by
      rw [hl', HomeViewController.pushAll_pins, List.getElem?_append_right (Nat.le_add_right _ _),
        Nat.add_sub_cancel_left, hi]
    have hs : (v.home.pushAll l).Shows F i p := hl' ▸ ⟨he, ha⟩
    -- the pins only grow, and no object of a pin changes
    have hfin := after_later hlater
    have hi' : v'.home.pins[v.home.pins.length + ds₁.length]? = some i := by
      obtain ⟨hk, hik⟩ := List.getElem?_eq_some_iff.1 hi₁
      rw [List.prefix_iff_getElem?.1 hfin.pins _ hk, hik]
    exact ⟨ht, i, hi', hfin.shows hv₁ (List.mem_of_getElem? hi₁) hs⟩

/-- The pin shows what the author chose by the events `during` the session that left
the draft `c`, after the events `es` of the app. -/
structure ShowsChoices (F : Foundation) (h : HomeViewController) (i : Pin) (uid : String)
    (es during : List AppEvent) (c : AddFeelingViewController) : Prop where
  icon : (h.emotionPinAt i).icon = Choice.lastEmoji (composeEvents during)
  color : (h.emotionPinAt i).color = Choice.lastColor (composeEvents during)
  tags : (h.emotionPinAt i).tags = c.pin.tags
  tags_ne_blank : ∀ t ∈ (h.emotionPinAt i).tags, trimmingCharacters t ≠ ""
  user : (h.emotionPinAt i).user = uid
  userName : some (h.emotionPinAt i).userName =
    if Choice.lastAnon (composeEvents during) then some "Anonimo" else firstName es
  title : (h.annotationAt i).title = some (F.capitalized (h.emotionPinAt i).userName)
  subtitle : ∃ t ts, (h.emotionPinAt i).tags = t :: ts ∧ (h.annotationAt i).subtitle = some t
  /-- No other pin has its objects. -/
  alone : ∀ j ∈ h.pins, j ≠ i → j.emotionPin ≠ i.emotionPin ∧ j.infoAnnotation ≠ i.infoAnnotation

/-- **What an author chooses is what every viewer sees.** -/
theorem viewers_see_choices {es later : List AppEvent} {query id : ℕ} {ds₁ ds₂ : List DocumentSnapshot}
    {v v₁ v' : App} (ho : Opens opening touched) (hd : ∀ e ∈ during, Closes e = false)
    (hrun : run F (some author) (before ++ opening :: during) = some a)
    (hsave : (handle F .saveEmotionPressed).run a = .ok (some d) a')
    (hv : run F (some viewer) es = some v)
    (hload : step F v (.pinsAnswered query (some (ds₁ ++ ⟨id, d⟩ :: ds₂))) = some v₁)
    (hlater : after (step F) v₁ later = some v') :
    ∃ c i, a.addFeeling = some c ∧ v'.home.pins[v.home.pins.length + ds₁.length]? = some i ∧
      ShowsChoices F v'.home i author.uid (before ++ opening :: during) during c := by
  obtain ⟨c, user, userName, l, hl, hc, hu, hafter, hn, hcl, rfl⟩ := run_save ho hd hrun hsave
  obtain ⟨ht, i, hi, hs⟩ := load_shows (AddFeelingViewController.postDocument_stores _) hv hload hlater
  have he : v'.home.emotionPinAt i = _ := hs.emotionPin
  have ha : v'.home.annotationAt i = _ := hs.annotation
  -- the draft, from the events of the compose screen
  have hicon := AddFeelingViewController.after_emoji hafter
  have hcolor := AddFeelingViewController.after_color hafter
  have htags := (AddFeelingViewController.after_ok hafter).tags
  have hanon := AddFeelingViewController.after_anon hafter
  have hname : (if c.anonSwitch then some "Anonimo" else a.home.user._name) = some userName := hn
  -- the pin among the viewer's other pins
  have hhome : HomeOK v'.home :=
    run_homeOK (run_append_eq_some.2 ⟨v, hv, after_cons_eq_some.2 ⟨v₁, hload, hlater⟩⟩)
  have hmem : i ∈ v'.home.pins := List.mem_of_getElem? hi
  have hnodup : (v'.home.pins.map Pin.infoAnnotation).Nodup := hhome.mapAnnotations ▸ hhome.nodup
  refine ⟨c, i, hc, hi, ?_⟩
  constructor
  · rw [he]; exact hicon
  · rw [he]; exact hcolor
  · rw [he]; rfl
  · rw [he]; exact htags
  · rw [he]; rfl
  · rw [he, ← hanon, ← run_name hrun]
    exact hname.symm
  · rw [he, ha]; rfl
  · obtain ⟨t, ts, hts⟩ := List.exists_cons_of_ne_nil ht
    refine ⟨t, ts, by rw [he]; exact hts, ?_⟩
    rw [ha, Post.annotation, hts]; rfl
  · intro j hj hji
    constructor
    · intro h
      exact hji (List.inj_on_of_nodup_map hhome.nodup_emotionPin hj hmem h)
    · intro h
      exact hji (List.inj_on_of_nodup_map hnodup hj hmem h)

/-- An author with a profile, whose emoji a second user sees. -/
theorem ana_is_seen : ∃ (a v : App) (c : AddFeelingViewController) (i : Pin),
    a.addFeeling = some c ∧ v.home.pins[0]? = some i ∧ (v.home.emotionPinAt i).icon = "😃" ∧
    ShowsChoices .ascii v.home i "u1"
      [.profileAnswered (some [[("firstname", .string "ana"), ("lastname", .string "lima"),
          ("birthDate", .single (.timestamp 0))]]),
        .didUpdateLocations [⟨-8, -35⟩], .AddFeelingPressed, .compose (.tagTextEdited "paz"),
        .compose .addEmotionTagPressed, .compose .selectEmojiPressed, .compose (.emojiTapped 0 2)]
      [.compose (.tagTextEdited "paz"), .compose .addEmotionTagPressed, .compose .selectEmojiPressed,
        .compose (.emojiTapped 0 2)] c := by
  obtain ⟨c, i, hc, hi, hs⟩ := @viewers_see_choices .ascii ⟨"u1", some "ana@sens"⟩ ⟨"u2", some "rui@sens"⟩
    [.profileAnswered (some [[("firstname", .string "ana"), ("lastname", .string "lima"),
      ("birthDate", .single (.timestamp 0))]]), .didUpdateLocations [⟨-8, -35⟩]]
    [.compose (.tagTextEdited "paz"), .compose .addEmotionTagPressed, .compose .selectEmojiPressed,
      .compose (.emojiTapped 0 2)]
    _ _ _ _ _ [.viewDidAppear] [.viewDidAppear] 0 0 [] [] _ _ _ .added (by decide) rfl rfl rfl rfl rfl
  exact ⟨_, _, c, i, hc, hi, hs.icon.trans (by decide +kernel), hs⟩

/-! ## Anonymity -/

/-- What an anonymous save of a draft publishes, whoever the author is. -/
theorem save_anonymous {c : AddFeelingViewController} {l : CLLocationCoordinate2D} {uid : String}
    (hc : a.addFeeling = some c) (hid : a.home.user._id = some uid) (hl : l.InRange)
    (hanon : c.anonSwitch = true) (hcl : c.chosenLocation = some l) :
    ∃ a', (handle F .saveEmotionPressed).run a = .ok (some (AddFeelingViewController.postDocument
      (c.post uid "Anonimo" ⟨l.latitude, l.longitude, hl.1, hl.2⟩))) a' := by
  have hn : c.displayName a.home.user = some "Anonimo" := by
    rw [AddFeelingViewController.displayName, hanon]; rfl
  have hsave := AddFeelingViewController.save_run hl hid hn hcl
  exact ⟨_, handle_save hc hsave⟩

/-- **Two authors publish the same anonymous document** only when they are one: after the
same session at the same places, the documents agree exactly when the ids do. -/
theorem anonymous_same_iff {A B : AuthUser} {beforeA beforeB duringA duringB : List AppEvent}
    {b : App} (ho : Opens opening touched) (hdA : ∀ e ∈ duringA, Closes e = false)
    (hdB : ∀ e ∈ duringB, Closes e = false) (hplace : lastLocation beforeA = lastLocation beforeB)
    (hsame : composeEvents duringA = composeEvents duringB)
    (hanon : Choice.lastAnon (composeEvents duringA) = true)
    (hA : run F (some A) (beforeA ++ opening :: duringA) = some a)
    (hB : run F (some B) (beforeB ++ opening :: duringB) = some b)
    (hsave : (handle F .saveEmotionPressed).run a = .ok (some d) a') :
    (∃ b', (handle F .saveEmotionPressed).run b = .ok (some d) b') ↔ A.uid = B.uid := by
  obtain ⟨c, user, userName, l, hl, hc, hu, hafter, hn, hcl, rfl⟩ := run_save ho hdA hA hsave
  obtain ⟨c', user', hu', hc', hafter'⟩ := run_session ho hdB hB
  -- at the same place and by the same events, the two drafts are the same
  have huser : user = user' := by
    rw [hu, hu'] at hplace
    exact Option.some.inj hplace
  subst huser
  have hdraft : c = c' := by
    rw [← hsame, hafter] at hafter'
    exact Option.some.inj hafter'
  subst hdraft
  have hsw : c.anonSwitch = true := by rw [AddFeelingViewController.after_anon hafter, hanon]
  have hname : userName = "Anonimo" := by
    unfold AddFeelingViewController.displayName at hn
    rw [hsw] at hn
    exact (Option.some.inj hn).symm
  subst hname
  obtain ⟨b', hb'⟩ := save_anonymous (F := F) hc' (run_id hB) hl hsw hcl
  constructor
  · rintro ⟨b'', hb''⟩
    rw [hb'] at hb''
    have hdoc := Option.some.inj (EStateM.Result.ok.inj hb'').1
    have hfield := congrArg (Document.get · "user") hdoc
    exact (FieldValue.string_inj.1 (Option.some.inj hfield)).symm
  · intro huid
    exact ⟨b', by rw [huid, hb']⟩

/-- Two users after the same anonymous session. -/
theorem ana_rui_same_iff : ∃ (a b a' : App) (d : Document),
    run .ascii (some ⟨"u1", some "ana@sens"⟩) [.didUpdateLocations [⟨-8, -35⟩], .AddFeelingPressed,
      .compose (.anonSwitched true)] = some a ∧
    run .ascii (some ⟨"u2", some "rui@sens"⟩) [.didUpdateLocations [⟨-8, -35⟩], .AddFeelingPressed,
      .compose (.anonSwitched true)] = some b ∧
    (handle .ascii .saveEmotionPressed).run a = .ok (some d) a' ∧
    ((∃ b', (handle .ascii .saveEmotionPressed).run b = .ok (some d) b') ↔ "u1" = "u2") := by
  have hd : ∀ e ∈ [AppEvent.compose (.anonSwitched true)], Closes e = false := by decide
  refine ⟨_, _, _, _, rfl, rfl, rfl, ?_⟩
  exact @anonymous_same_iff .ascii .AddFeelingPressed none _ _ _ ⟨"u1", some "ana@sens"⟩
    ⟨"u2", some "rui@sens"⟩ [.didUpdateLocations [⟨-8, -35⟩]] [.didUpdateLocations [⟨-8, -35⟩]]
    [.compose (.anonSwitched true)] [.compose (.anonSwitched true)] _ .added hd hd rfl rfl rfl rfl rfl rfl

/-- The id tells two users apart, in documents of the same anonymous session. -/
theorem anonymous_document_names_author : ¬ ∀ (A B : AuthUser) (es : List AppEvent) (a b a' : App)
    (d : Document), run .ascii (some A) es = some a → run .ascii (some B) es = some b →
    (∃ c, a.addFeeling = some c ∧ c.anonSwitch = true) →
    (handle .ascii .saveEmotionPressed).run a = .ok (some d) a' →
    ∃ b', (handle .ascii .saveEmotionPressed).run b = .ok (some d) b' := by
  intro h
  obtain ⟨b', hb'⟩ := h ⟨"u1", some "ana@sens"⟩ ⟨"u2", some "rui@sens"⟩
    [.didUpdateLocations [⟨-8, -35⟩], .AddFeelingPressed, .compose (.anonSwitched true)]
    _ _ _ _ rfl rfl ⟨_, rfl, rfl⟩ rfl
  have huser := congrArg (Document.get · "user") (Option.some.inj (EStateM.Result.ok.inj hb').1)
  exact absurd huser (by decide)

/-! ## The location -/

/-- The document is published at the location. -/
def PublishedAt (d : Document) (l : CLLocationCoordinate2D) : Prop :=
  ∃ g : GeoPoint, d.get "location" = some (.single (.geoPoint g)) ∧
    (⟨g.latitude, g.longitude⟩ : CLLocationCoordinate2D) = l

/-- The name that a save of the session publishes under. -/
theorem displayName_isSome {currentUser : Option AuthUser} {es : List AppEvent}
    {ces : List AddFeelingEvent} {user : CLLocationCoordinate2D} {c : AddFeelingViewController}
    (hrun : run F currentUser es = some a)
    (hafter : after (AddFeelingViewController.step F) (AddFeelingViewController.opened touched user) ces =
      some c) :
    (c.displayName a.home.user).isSome = true ↔
      Choice.lastAnon ces = true ∨ (firstName es).isSome = true := by
  rw [AddFeelingViewController.displayName_isSome, AddFeelingViewController.after_anon hafter, run_name hrun]

/-- **A post goes where the last selection says.** Exactly one radio button is on, the choice
of the location unwraps nothing absent, and every document that a save writes has the chosen
location. A save writes one just when the switch is on or the first name is known, and the
chosen location is one that Firestore takes. -/
theorem save_goes_where_selected (ho : Opens opening touched) (hd : ∀ e ∈ during, Closes e = false)
    (hrun : run F (some author) (before ++ opening :: during) = some a) :
    ∃ c user l, a.addFeeling = some c ∧ lastLocation before = some user ∧
      (∃! b, (c.radioButton b).isOn = true) ∧
      Choice.place touched user (Choice.lastButton (composeEvents during) touched) = some l ∧
      AddFeelingViewController.chooseLocation.run c = .ok () { c with pin.location := l } ∧
      (∀ d a', (handle F .saveEmotionPressed).run a = .ok (some d) a' → PublishedAt d l) ∧
      ((∃ d a', (handle F .saveEmotionPressed).run a = .ok (some d) a' ∧ PublishedAt d l) ↔
        (Choice.lastAnon (composeEvents during) = true ∨
          (firstName (before ++ opening :: during)).isSome = true) ∧ l.InRange) := by
  obtain ⟨c, user, hc, hu, hafter, hdraft⟩ := run_draft ho hd hrun
  have hok := AddFeelingViewController.after_ok hafter
  obtain ⟨l, hl⟩ := hok.chosenLocation
  have hat : ∀ d a', (handle F .saveEmotionPressed).run a = .ok (some d) a' → PublishedAt d l := by
    intro d a' hsave
    obtain ⟨userName, l', hl', -, hcl, rfl⟩ := hdraft d a' hsave
    rw [hl] at hcl; cases hcl
    exact ⟨_, (AddFeelingViewController.postDocument_stores _).location, rfl⟩
  refine ⟨c, user, l, hc, hu, ?_, ?_, AddFeelingViewController.chooseLocation_of_some hl, hat, ?_⟩
  · exact ⟨c.selected, (hok.isOn_iff _).2 rfl, fun b hb => (hok.isOn_iff b).1 hb⟩
  · rw [← AddFeelingViewController.after_chosenLocation hafter, hl]
  · rw [← displayName_isSome hrun hafter]
    constructor
    · rintro ⟨d, a', hsave, -⟩
      obtain ⟨userName, l', hl', hn, hcl, -⟩ := hdraft d a' hsave
      rw [hl] at hcl; cases hcl
      exact ⟨by rw [hn]; rfl, hl'⟩
    · rintro ⟨hn, hr⟩
      obtain ⟨userName, hn⟩ := Option.isSome_iff_exists.1 hn
      have hsave := handle_save (F := F) hc (AddFeelingViewController.save_run hr (run_id hrun) hn hl)
      exact ⟨_, _, hsave, hat _ _ hsave⟩

/-- A long press, with both radio buttons tapped since: the document has the place touched. -/
theorem ana_posts_where_touched : ∃ (a a' : App) (d : Document),
    run .ascii (some ⟨"u1", some "ana@sens"⟩) ([.didUpdateLocations [⟨-8, -35⟩]] ++
      .tapGesture .began ⟨-9, -36⟩ :: [.compose (.anonSwitched true), .compose (.locationTapped .user),
        .compose (.locationTapped .tapped)]) = some a ∧
    (handle .ascii .saveEmotionPressed).run a = .ok (some d) a' ∧ PublishedAt d ⟨-9, -36⟩ := by
  have hrun : (run .ascii (some ⟨"u1", some "ana@sens"⟩) ([.didUpdateLocations [⟨-8, -35⟩]] ++
      .tapGesture .began ⟨-9, -36⟩ :: [.compose (.anonSwitched true), .compose (.locationTapped .user),
        .compose (.locationTapped .tapped)])).isSome = true := by
    decide +kernel
  obtain ⟨a, ha⟩ := Option.isSome_iff_exists.1 hrun
  obtain ⟨c, user, l, -, -, -, hl, -, -, hsaves⟩ :=
    save_goes_where_selected (.tapped ⟨-9, -36⟩) (by decide) ha
  cases hl
  obtain ⟨d, a', hs, hplace⟩ := hsaves.2 ⟨.inl (by decide), by decide⟩
  exact ⟨a, a', d, ha, hs, hplace⟩

/-- A save under the author's name, before the profile arrived, goes nowhere. -/
theorem early_save_goes_nowhere : ¬ ∀ (before during : List AppEvent)
    (newCoordinate : CLLocationCoordinate2D) (a : App), (∀ e ∈ during, Closes e = false) →
    run .ascii (some ⟨"u1", some "ana@sens"⟩) (before ++ .tapGesture .began newCoordinate :: during) =
      some a →
    Choice.lastButton (composeEvents during) (some newCoordinate) = .tapped →
    ∃ d a', (handle .ascii .saveEmotionPressed).run a = .ok (some d) a' ∧ PublishedAt d newCoordinate := by
  intro h
  obtain ⟨d, a', hs, -⟩ := h [.didUpdateLocations [⟨-8, -35⟩]] [] ⟨-9, -36⟩ _ (by decide) rfl rfl
  cases hs

end App

end Sens

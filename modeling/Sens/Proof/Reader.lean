import Sens.Purpose.Reader
import Sens.Lib.Decode
import Sens.Proof.App

/-!
# Reading any documents

* `loadDocument_eq_ok`: the load loop adds the pin that a document stands for, and traps
  where there is none.
* `pinsCompletion_eq_ok`: the same for a whole snapshot.
* `run_pins_eq`: the map of a viewer shows the documents that were answered, in order.
-/

namespace Sens

namespace Document

variable {d : Document} {field : String} {e : EmotionPin}

theorem string?_eq_some {s : String} : d.string? field = some s ↔ d.get field = some (.string s) := by
  unfold string?
  split <;> simp_all [FieldValue.string]

theorem tags?_eq_some {l : List String} :
    d.tags? = some l ↔ FieldValue.asStrings? (d.get "tags") = some l ∧ l ≠ [] := by
  simp [tags?, Option.filter_eq_some_iff]

theorem emotionPin?_eq_some : d.emotionPin? = some e ↔
    d.coordinate? = some e.location ∧ d.string? "testimonial" = some e.testimonial ∧
    d.string? "color" = some e.color ∧ d.string? "user" = some e.user ∧
    d.string? "icon" = some e.icon ∧ d.string? "userName" = some e.userName ∧
    d.tags? = some e.tags ∧ e.id = 0 := by
  simp only [emotionPin?, Option.bind_eq_bind, Option.bind_eq_some_iff, Option.pure_def, Option.some.injEq]
  constructor
  · rintro ⟨l, hl, t, ht, c, hc, u, hu, i, hi, n, hn, ts, hts, rfl⟩
    exact ⟨hl, ht, hc, hu, hi, hn, hts, rfl⟩
  · rintro ⟨hl, ht, hc, hu, hi, hn, hts, hid⟩
    exact ⟨_, hl, _, ht, _, hc, _, hu, _, hi, _, hn, _, hts, by rw [← hid]⟩

/-- **Reading undoes writing**: a document that stores a post stands for the pin of the post,
if the post has a tag. -/
theorem emotionPin?_of_stores {p : Post} (hd : Stores d p) :
    d.emotionPin? = if p.tags = [] then none else some p.emotionPin := by
  have hlocation : d.coordinate? = some ⟨p.location.latitude, p.location.longitude⟩ := by
    rw [coordinate?, hd.location]
  have htags : d.tags? = if p.tags = [] then none else some p.tags := by
    rw [tags?, hd.tags, FieldValue.asStrings?_strings, Option.filter_some]
    by_cases ht : p.tags = [] <;> simp [ht]
  simp only [emotionPin?, hlocation, htags, string?_eq_some.2 hd.testimonial, string?_eq_some.2 hd.color,
    string?_eq_some.2 hd.user, string?_eq_some.2 hd.icon, string?_eq_some.2 hd.userName]
  split_ifs <;> rfl

/-- A document stores one post only. -/
theorem stores_unique {p q : Post} (hp : Stores d p) (hq : Stores d q) : p = q := by
  have hstring : ∀ {field s t : String}, d.get field = some (.string s) → d.get field = some (.string t) →
      s = t := fun hs ht => FieldValue.string_inj.1 (Option.some.inj (hs.symm.trans ht))
  have htags : p.tags = q.tags := by
    have hread := FieldValue.asStrings?_strings p.tags
    rw [← hp.tags, hq.tags, FieldValue.asStrings?_strings] at hread
    exact (Option.some.inj hread).symm
  have hlocation : p.location = q.location := by
    simpa using hp.location.symm.trans hq.location
  have huser := hstring hp.user hq.user
  have hicon := hstring hp.icon hq.icon
  have hcolor := hstring hp.color hq.color
  have htestimonial := hstring hp.testimonial hq.testimonial
  have huserName := hstring hp.userName hq.userName
  cases p
  cases q
  simp only [Post.mk.injEq]
  exact ⟨huser, hicon, hcolor, htags, htestimonial, huserName, hlocation⟩

theorem date?_eq_some {t : Date} :
    d.date? field = some t ↔ d.get field = some (.single (.timestamp t)) := by
  unfold date?
  split <;> simp_all

/-- A document stands for the profile that it stores. -/
theorem profile?_eq_some {p : Profile} : d.profile? = some p ↔ StoresProfile d p := by
  simp only [profile?, Option.bind_eq_bind, Option.bind_eq_some_iff, Option.pure_def, Option.some.injEq,
    string?_eq_some, date?_eq_some]
  constructor
  · rintro ⟨n, hn, l, hl, b, hb, rfl⟩; exact ⟨hn, hl, hb⟩
  · intro h; exact ⟨_, h.name, _, h.lastName, _, h.birthDate, rfl⟩

end Document

namespace HomeViewController

variable {F : Foundation} {h h' : HomeViewController} {d : Document} {e : EmotionPin}

/-! ## One document -/

theorem setString_ok {field : String} {set : String → EmotionPin → EmotionPin}
    (hr : (setString h.emotionPins.size d field set).run (h.reading e) = .ok () h') :
    ∃ s, d.string? field = some s ∧ h' = h.reading (set s e) := by
  obtain ⟨s, u, h1, h2⟩ := Swift.bind_eq_ok hr
  obtain ⟨hs, rfl⟩ := asString_ok h1
  rw [modifyEmotionPin_reading] at h2
  cases h2
  exact ⟨s, Document.string?_eq_some.2 hs, rfl⟩

theorem setLocation_ok (hr : (setLocation h.emotionPins.size d).run (h.reading {}) = .ok () h') :
    ∃ l, d.coordinate? = some l ∧ h' = h.reading { location := l } := by
  unfold setLocation at hr
  unfold Document.coordinate?
  cases hl : d.get "location" with
  | none => rw [hl] at hr; cases hr; exact ⟨{}, rfl, rfl⟩
  | some v =>
    rcases v with (s | p | t) | vs
    · rw [hl] at hr; cases hr
    · have hrun := setLocation_run hl h {}
      unfold setLocation at hrun
      rw [hrun] at hr
      cases hr
      exact ⟨_, rfl, rfl⟩
    · rw [hl] at hr; cases hr
    · rw [hl] at hr; cases hr

theorem setLocation_of_coordinate? {l : CLLocationCoordinate2D} (hl : d.coordinate? = some l) :
    (setLocation h.emotionPins.size d).run (h.reading {}) = .ok () (h.reading { location := l }) := by
  unfold Document.coordinate? at hl
  split at hl
  · next hg => cases hl; unfold setLocation; rw [hg]; rfl
  · next hg => cases hl; exact setLocation_run hg h {}
  · cases hl

/-- Tags that are no strings are left out, and so are missing ones. -/
theorem setTags_ok (hr : (setTags h.emotionPins.size d).run (h.reading e) = .ok () h') :
    h' = h.reading { e with tags := (FieldValue.asStrings? (d.get "tags")).getD e.tags } := by
  unfold setTags at hr
  cases ht : FieldValue.asStrings? (d.get "tags") with
  | none => rw [ht] at hr; cases hr; rfl
  | some l => rw [ht] at hr; simp only [modifyEmotionPin_reading] at hr; cases hr; rfl

theorem setTags_of_tags? {l : List String} (hl : d.tags? = some l) :
    (setTags h.emotionPins.size d).run (h.reading e) = .ok () (h.reading { e with tags := l }) := by
  unfold setTags
  rw [(Document.tags?_eq_some.1 hl).1]
  exact modifyEmotionPin_reading h e _

theorem addPin_ok (hr : (addPin F h.emotionPins.size).run (h.reading e) = .ok () h') :
    e.tags ≠ [] ∧ h' = h.push e (e.annotation F) := by
  cases ht : e.tags with
  | nil =>
    obtain ⟨s, hs⟩ := addPin_trap (F := F) ht h
    rw [hs] at hr; cases hr
  | cons t ts =>
    rw [addPin_run ht] at hr
    cases hr
    refine ⟨List.cons_ne_nil t ts, ?_⟩
    rw [EmotionPin.annotation, ht]; rfl

/-- **The load loop reads any document** as the pin it stands for, and traps on a document
that stands for none. -/
theorem loadDocument_eq_ok : (loadDocument F d).run h = .ok () h' ↔
    ∃ e, d.emotionPin? = some e ∧ h' = h.push e (e.annotation F) := by
  rw [loadDocument_split]
  constructor
  · -- every line that returns found what it reads
    intro hr
    obtain ⟨_, u, hread, hadd⟩ := Swift.bind_eq_ok hr
    obtain ⟨_, _, h1, k1⟩ := Swift.bind_eq_ok hread
    obtain ⟨l, hl, rfl⟩ := setLocation_ok h1
    obtain ⟨_, _, h2, k2⟩ := Swift.bind_eq_ok k1
    obtain ⟨testimonial, htest, rfl⟩ := setString_ok h2
    obtain ⟨_, _, h3, k3⟩ := Swift.bind_eq_ok k2
    obtain ⟨color, hcolor, rfl⟩ := setString_ok h3
    obtain ⟨_, _, h4, k4⟩ := Swift.bind_eq_ok k3
    obtain ⟨user, huser, rfl⟩ := setString_ok h4
    obtain ⟨_, _, h5, k5⟩ := Swift.bind_eq_ok k4
    obtain ⟨icon, hicon, rfl⟩ := setString_ok h5
    obtain ⟨_, _, h6, k6⟩ := Swift.bind_eq_ok k5
    obtain ⟨userName, hname, rfl⟩ := setString_ok h6
    obtain rfl := setTags_ok k6
    obtain ⟨ht, rfl⟩ := addPin_ok hadd
    refine ⟨_, Document.emotionPin?_eq_some.2 ⟨hl, htest, hcolor, huser, hicon, hname, ?_, rfl⟩, rfl⟩
    rw [Document.tags?_eq_some]
    refine ⟨?_, ht⟩
    cases hg : FieldValue.asStrings? (d.get "tags") with
    | none => rw [hg] at ht; exact absurd rfl ht
    | some l => rfl
  · rintro ⟨e, he, rfl⟩
    obtain ⟨hl, htest, hcolor, huser, hicon, hname, htags, hid⟩ := Document.emotionPin?_eq_some.1 he
    rw [Document.string?_eq_some] at htest hcolor huser hicon hname
    obtain ⟨t, ts, hts⟩ := List.exists_cons_of_ne_nil (Document.tags?_eq_some.1 htags).2
    have hread : (readFields h.emotionPins.size d).run (h.reading {}) = .ok () (h.reading e) := by
      unfold readFields
      simp only [EStateM.run_bind, setLocation_of_coordinate? hl, setString_run htest,
        setString_run hcolor, setString_run huser, setString_run hicon, setString_run hname,
        setTags_of_tags? htags]
      rw [← hid]
    rw [EStateM.run_bind, hread]
    simp only [addPin_run hts]
    rw [EmotionPin.annotation, hts]; rfl

/-- **The profile completion reads any documents**: the profile that the first one stands
for, and it traps where there is none. -/
theorem profileCompletion_eq_ok {documents : List Document} {u u' : User} :
    (profileCompletion (some documents)).run u = .ok () u' ↔
      ∃ p, documents.head?.bind Document.profile? = some p ∧ u' = u.withProfile p := by
  constructor
  · intro hr
    obtain ⟨d, ds, p, rfl, hp, rfl⟩ := profileCompletion_ok hr
    exact ⟨p, Document.profile?_eq_some.2 hp, rfl⟩
  · rintro ⟨p, hp, rfl⟩
    cases documents with
    | nil => cases hp
    | cons d ds => exact profileCompletion_run (Document.profile?_eq_some.1 hp) ds u

/-! ## Snapshots -/

/-- The pin and the annotation of a document that is read. -/
def entry (F : Foundation) (e : EmotionPin) : EmotionPin × MKPointAnnotation := (e, e.annotation F)

/-- **The load loop over any snapshot** returns exactly when every document stands for a
pin, and has then added these pins and their annotations, in order. -/
theorem pinsCompletion_eq_ok {documents : List DocumentSnapshot} :
    (pinsCompletion F (some documents)).run h = .ok () h' ↔
      ∃ es, documents.mapM (·.data.emotionPin?) = some es ∧ h' = h.pushAll (es.map (entry F)) := by
  induction documents generalizing h with
  | nil =>
    constructor
    · intro hr; cases hr; exact ⟨[], rfl, rfl⟩
    · rintro ⟨es, hes, rfl⟩; cases hes; rfl
  | cons d ds ih =>
    constructor
    · intro hr
      obtain ⟨u, h1, h2⟩ := pinsCompletion_cons_ok hr
      obtain ⟨e, he, rfl⟩ := loadDocument_eq_ok.1 h1
      obtain ⟨es, hes, rfl⟩ := ih.1 h2
      exact ⟨e :: es, Decode.mapM_cons_eq_some.2 ⟨e, es, he, hes, rfl⟩, rfl⟩
    · rintro ⟨_, hes, rfl⟩
      obtain ⟨e, es, he, hmore, rfl⟩ := Decode.mapM_cons_eq_some.1 hes
      have h1 : (loadDocument F d.data).run h = .ok () (h.push e (e.annotation F)) :=
        loadDocument_eq_ok.2 ⟨e, he, rfl⟩
      have h2 := (ih (h := h.push e (e.annotation F))).2 ⟨es, hmore, rfl⟩
      change ((loadDocument F d.data) >>= fun _ => pinsCompletion F (some ds)).run h = _
      rw [EStateM.run_bind, h1]
      exact h2

/-- What the pins are after some are added: the contents of the old ones stay. -/
theorem pushAll_contents (hok : App.HomeOK h) (l : List (EmotionPin × MKPointAnnotation)) :
    (h.pushAll l).pins.map (h.pushAll l).emotionPinAt = h.pins.map h.emotionPinAt ++ l.map (·.1) ∧
      (h.pushAll l).pins.map (h.pushAll l).annotationAt = h.pins.map h.annotationAt ++ l.map (·.2) := by
  have hnew : ∀ k (hk : k < l.length), ∃ i, (h.newPins l.length)[k]? = some i ∧
      (h.pushAll l).emotionPinAt i = l[k].1 ∧ (h.pushAll l).annotationAt i = l[k].2 :=
    fun k hk => pushAll_getElem? (List.getElem?_eq_getElem hk) h
  have hlen : (h.newPins l.length).length = l.length := by simp [newPins]
  rw [pushAll_pins, List.map_append, List.map_append]
  refine ⟨congrArg₂ _ ?_ ?_, congrArg₂ _ ?_ ?_⟩
  · refine List.map_congr_left fun i hi => ?_
    rw [emotionPinAt, pushAll_eq]
    exact Heap.Extends.read (List.prefix_append _ _) (hok.emotionPin i hi)
  · refine List.ext_getElem (by simp [hlen]) fun k hk hk' => ?_
    obtain ⟨i, hi, he, -⟩ := hnew k (by simpa using hk')
    rw [List.getElem_map, List.getElem_map, ← he, (List.getElem?_eq_some_iff.1 hi).2]
  · refine List.map_congr_left fun i hi => ?_
    rw [annotationAt, pushAll_eq]
    exact Heap.Extends.read (List.prefix_append _ _) (hok.infoAnnotation i hi)
  · refine List.ext_getElem (by simp [hlen]) fun k hk hk' => ?_
    obtain ⟨i, hi, -, ha⟩ := hnew k (by simpa using hk')
    rw [List.getElem_map, List.getElem_map, ← ha, (List.getElem?_eq_some_iff.1 hi).2]

end HomeViewController

namespace App

open Session

variable {F : Foundation} {currentUser : Option AuthUser} {es : List AppEvent} {a : App}

/-- The pins of the home screen and their annotations stand for the documents. -/
structure Stands (F : Foundation) (h : HomeViewController) (documents : List DocumentSnapshot) : Prop where
  emotionPins : documents.mapM (·.data.emotionPin?) = some (h.pins.map h.emotionPinAt)
  annotations : h.pins.map h.annotationAt = (h.pins.map h.emotionPinAt).map (EmotionPin.annotation F)
  mapAnnotations : h.mapAnnotations = h.pins.map Pin.infoAnnotation

/-- **The map stands for the documents that were answered**, in every run. -/
theorem run_stands (h : run F currentUser es = some a) : Stands F a.home (answered es) := by
  refine run_invariant (P := fun es a => Stands F a.home (answered es)) ?_ ?_ es a h
  · intro uid email; exact ⟨rfl, rfl, rfl⟩
  · intro es e u t d hrun hP he
    have hok := run_homeOK hrun
    have hans : answered (es ++ [e]) = answered es ++ documents e := by simp [answered]
    rw [hans]
    cases he with
    | pinsLoaded query ds l hl hr =>
      obtain ⟨ps, hps, heq⟩ := HomeViewController.pinsCompletion_eq_ok.1 hr
      obtain ⟨h1, h2⟩ := HomeViewController.pushAll_contents hok (ps.map (HomeViewController.entry F))
      rw [heq]
      refine ⟨?_, ?_, ?_⟩
      · rw [h1]; simp [hP.emotionPins, hps, documents, HomeViewController.entry, Function.comp_def]
      · rw [h2, h1, hP.annotations]
        simp [HomeViewController.entry, Function.comp_def]
      · rw [HomeViewController.pushAll_mapAnnotations, HomeViewController.pushAll_pins, hP.mapAnnotations,
          List.map_append]
    | _ =>
      simp only [documents, List.append_nil]
      exact ⟨hP.emotionPins, hP.annotations, hP.mapAnnotations⟩

theorem step_pinsAnswered {query : ℕ} (hq : query ∈ a.pinsQueries) (documents : List DocumentSnapshot) :
    (∃ a', step F a (.pinsAnswered query (some documents)) = some a') ↔
      ∃ ps, documents.mapM (·.data.emotionPin?) = some ps := by
  have hd : a.Deliverable (.pinsAnswered query (some documents)) = true := decide_eq_true hq
  constructor
  · rintro ⟨a', hs⟩
    obtain ⟨d, he⟩ := step_effect hs
    cases he with
    | pinsLoaded _ _ l hl hr =>
      obtain ⟨ps, hps, -⟩ := HomeViewController.pinsCompletion_eq_ok.1 hr
      exact ⟨ps, hps⟩
  · rintro ⟨ps, hps⟩
    have hr := (HomeViewController.pinsCompletion_eq_ok (F := F) (h := a.home)).2 ⟨ps, hps, rfl⟩
    have hrun : (handle F (.pinsAnswered query (some documents))).run a = .ok none { a with
        pinsQueries := a.pinsQueries.erase query
        home := a.home.pushAll (ps.map (HomeViewController.entry F)) } := by
      simp only [handle, onHome, EStateM.run_bind, EStateM.run_modify, Swift.run_focus]
      rw [hr]; rfl
    exact ⟨_, step_eq_some.2 ⟨hd, none, hrun⟩⟩

/-- **What a viewer sees.** The map shows the documents that were answered, whoever wrote
them, one after the other and as often as they were answered; and the next answer is
taken, whatever came before, exactly when each of its documents can be read. -/
theorem viewer_shows_answers (h : run F currentUser es = some a) : Stands F a.home (answered es) ∧
    ∀ query ∈ a.pinsQueries, ∀ documents : List DocumentSnapshot,
      (∃ a', step F a (.pinsAnswered query (some documents)) = some a') ↔
        ∀ d ∈ documents, d.data.emotionPin?.isSome = true := by
  refine ⟨run_stands h, fun query hq documents => ?_⟩
  rw [step_pinsAnswered hq, Decode.mapM_isSome]
  simp [Option.isSome_iff_ne_none]

/-- A document with its fields in another order, one more field and no location. -/
theorem foreign_document_shown : ∃ a, run .ascii (some ⟨"u1", some "ana@sens"⟩)
      [.viewDidAppear, .pinsAnswered 0 (some [⟨7, [("tags", .strings ["paz"]), ("version", .string "2"),
        ("userName", .string "rui"), ("icon", .string "☀"), ("color", .string ""), ("user", .string "u2"),
        ("testimonial", .string "oi")]⟩])] = some a ∧ a.home.pins.map a.home.emotionPinAt =
      [{ tags := ["paz"], userName := "rui", icon := "☀", user := "u2", testimonial := "oi" }] := by
  have hrun : (run .ascii (some ⟨"u1", some "ana@sens"⟩) [.viewDidAppear, .pinsAnswered 0 (some
      [⟨7, [("tags", .strings ["paz"]), ("version", .string "2"), ("userName", .string "rui"),
        ("icon", .string "☀"), ("color", .string ""), ("user", .string "u2"),
        ("testimonial", .string "oi")]⟩])]).isSome = true := by decide +kernel
  obtain ⟨a, ha⟩ := Option.isSome_iff_exists.1 hrun
  have hpins := (viewer_shows_answers ha).1.emotionPins
  exact ⟨a, ha, (Option.some.inj hpins).symm.trans rfl⟩

end App

end Sens

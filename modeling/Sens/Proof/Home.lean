import Mathlib.Data.List.Forall2
import Sens.Purpose.Post
import Sens.Purpose.Profile
import Sens.Lib.Scan

/-!
# The home screen

* `loadDocument_run`, `loadDocument_trap`: a document that stores a post with a tag
  is loaded into the pin and the annotation of that post; without a tag the load
  loop traps.
* `loadDocument_ok`: whatever a document holds, a load that returns adds one pin and
  one annotation, both of new objects.
* `pinsCompletion_mid`: one stored post among any documents that are loaded.
* `pinsCompletion_iff`, `loadsAll_iff`: the load loop over stored posts returns exactly
  when each has a tag, and has then added the pins of all of them.
* `viewFor_fresh`, `calloutTapped_run`: the two scans of the list of pins.
-/

namespace Sens

namespace HomeViewController

variable {F : Foundation} {h h' : HomeViewController}

/-! ## The profile -/

theorem profileCompletion_run {d : Document} {p : Profile} (hd : StoresProfile d p)
    (ds : List Document) (u : User) :
    (profileCompletion (some (d :: ds))).run u = .ok () (u.withProfile p) := by
  simp [profileCompletion, hd.name, hd.lastName, hd.birthDate, FieldValue.asString, FieldValue.string,
    FieldValue.asTimestamp, User.withProfile]

theorem asString_ok {σ : Type} {v : Option FieldValue} {s s' : σ} {t : String}
    (h : (FieldValue.asString v).run s = .ok t s') : v = some (.string t) ∧ s' = s := by
  unfold FieldValue.asString at h
  split at h <;> cases h
  exact ⟨rfl, rfl⟩

theorem asTimestamp_ok {σ : Type} {v : Option FieldValue} {s s' : σ} {t : Date}
    (h : (FieldValue.asTimestamp v).run s = .ok t s') :
    v = some (.single (.timestamp t)) ∧ s' = s := by
  unfold FieldValue.asTimestamp at h
  split at h <;> cases h
  exact ⟨rfl, rfl⟩

/-- **A profile completion that returns** found a document with a profile. -/
theorem profileCompletion_ok {documents : List Document} {u u' : User}
    (h : (profileCompletion (some documents)).run u = .ok () u') :
    ∃ d ds p, documents = d :: ds ∧ StoresProfile d p ∧ u' = u.withProfile p := by
  obtain ⟨name, u₁, h1, k1⟩ := Swift.bind_eq_ok h
  obtain ⟨hn, rfl⟩ := asString_ok h1
  obtain ⟨_, u₂, h2, k2⟩ := Swift.bind_eq_ok k1
  cases h2
  obtain ⟨lastName, u₃, h3, k3⟩ := Swift.bind_eq_ok k2
  obtain ⟨hl, rfl⟩ := asString_ok h3
  obtain ⟨_, u₄, h4, k4⟩ := Swift.bind_eq_ok k3
  cases h4
  obtain ⟨birthDate, u₅, h5, k5⟩ := Swift.bind_eq_ok k4
  obtain ⟨hb, rfl⟩ := asTimestamp_ok h5
  cases k5
  cases documents with
  | nil => cases hn
  | cons d ds => exact ⟨d, ds, ⟨name, lastName, birthDate⟩, rfl, ⟨hn, hl, hb⟩, rfl⟩

/-! ## Loading one document -/

/-- The home screen while a document is read into the object allocated for it. -/
def reading (h : HomeViewController) (e : EmotionPin) : HomeViewController :=
  { h with emotionPins := h.emotionPins.alloc e }

/-- The home screen with one more pin: two new objects, an entry in the list and an
annotation on the map. -/
def push (h : HomeViewController) (e : EmotionPin) (a : MKPointAnnotation) : HomeViewController :=
  { h with
    emotionPins := h.emotionPins.alloc e
    annotations := h.annotations.alloc a
    pins := h.pins ++ [⟨h.emotionPins.size, h.annotations.size⟩]
    mapAnnotations := h.mapAnnotations ++ [h.annotations.size] }

/-- The annotation that the loop makes for a pin with a first tag. -/
def annotationOf (F : Foundation) (e : EmotionPin) (tag : String) : MKPointAnnotation where
  coordinate := e.location
  title := some (F.capitalized e.userName)
  subtitle := some tag

@[simp] theorem modifyEmotionPin_reading (h : HomeViewController) (e : EmotionPin)
    (f : EmotionPin → EmotionPin) :
    (modifyEmotionPin h.emotionPins.size f).run (h.reading e) = .ok () (h.reading (f e)) := by
  simp [modifyEmotionPin, reading]

@[simp] theorem setString_run {d : Document} {field : String} {s : String}
    (hs : d.get field = some (.string s)) (set : String → EmotionPin → EmotionPin)
    (h : HomeViewController) (e : EmotionPin) :
    (setString h.emotionPins.size d field set).run (h.reading e) = .ok () (h.reading (set s e)) := by
  simp only [setString, hs, EStateM.run_bind]
  exact modifyEmotionPin_reading h e (set s)

theorem setLocation_run {d : Document} {p : GeoPoint}
    (hp : d.get "location" = some (.single (.geoPoint p))) (h : HomeViewController) (e : EmotionPin) :
    (setLocation h.emotionPins.size d).run (h.reading e) =
      .ok () (h.reading { e with location := ⟨p.latitude, p.longitude⟩ }) := by
  simp [setLocation, hp, FieldValue.asGeoPoint]

theorem setTags_run {d : Document} {l : List String} (hl : d.get "tags" = some (.strings l))
    (h : HomeViewController) (e : EmotionPin) :
    (setTags h.emotionPins.size d).run (h.reading e) = .ok () (h.reading { e with tags := l }) := by
  simp [setTags, hl]

theorem addPin_run {e : EmotionPin} {t : String} {ts : List String} (ht : e.tags = t :: ts)
    (h : HomeViewController) :
    (addPin F h.emotionPins.size).run (h.reading e) = .ok () (h.push e (annotationOf F e t)) := by
  have hi : ∀ s : HomeViewController, (Swift.index e.tags 0).run s = .ok t s :=
    fun s => Swift.run_index_of_getElem? (by rw [ht]; rfl) s
  simp [addPin, addAnnotation, modifyAnnotation, reading, push, annotationOf, hi]

theorem addPin_trap {e : EmotionPin} (ht : e.tags = []) (h : HomeViewController) :
    ∃ s, (addPin F h.emotionPins.size).run (h.reading e) = .error .indexOutOfRange s := by
  have hi : ∀ s : HomeViewController, (Swift.index e.tags 0).run s = .error .indexOutOfRange s :=
    fun s => Swift.run_index_of_none (by rw [ht]; rfl) s
  simp [addPin, modifyAnnotation, reading, hi]

/-- The reads of the load loop, into the object `r`. -/
def readFields (r : Ref) (d : Document) : Swift HomeViewController Unit := do
  setLocation r d
  setString r d "testimonial" fun value e => { e with testimonial := value }
  setString r d "color" fun value e => { e with color := value }
  setString r d "user" fun value e => { e with user := value }
  setString r d "icon" fun value e => { e with icon := value }
  setString r d "userName" fun value e => { e with userName := value }
  setTags r d

/-- The load loop reads the fields into a new object, and then adds the pin. -/
theorem loadDocument_split (d : Document) (h : HomeViewController) :
    (loadDocument F d).run h = (readFields h.emotionPins.size d >>= fun _ =>
      addPin F h.emotionPins.size).run (h.reading {}) := by
  unfold readFields
  simp only [bind_assoc]
  rfl

theorem readFields_run {d : Document} {p : Post} (hd : Stores d p) (h : HomeViewController) :
    (readFields h.emotionPins.size d).run (h.reading {}) = .ok () (h.reading p.emotionPin) := by
  unfold readFields
  simp only [EStateM.run_bind, setLocation_run hd.location, setString_run hd.testimonial,
    setString_run hd.color, setString_run hd.user, setString_run hd.icon, setString_run hd.userName,
    setTags_run hd.tags]
  rfl

theorem loadDocument_eq {d : Document} {p : Post} (hd : Stores d p) (h : HomeViewController) :
    (loadDocument F d).run h = (addPin F h.emotionPins.size).run (h.reading p.emotionPin) := by
  rw [loadDocument_split, EStateM.run_bind, readFields_run hd]

/-- **A stored post with a tag is loaded** into the pin and the annotation of the post. -/
theorem loadDocument_run {d : Document} {p : Post} (hd : Stores d p) (ht : p.tags ≠ [])
    (h : HomeViewController) :
    (loadDocument F d).run h = .ok () (h.push p.emotionPin (p.annotation F)) := by
  obtain ⟨t, ts, hts⟩ := List.exists_cons_of_ne_nil ht
  have ha : annotationOf F p.emotionPin t = p.annotation F := by
    simp [annotationOf, Post.annotation, Post.emotionPin, hts]
  rw [loadDocument_eq hd, addPin_run (e := p.emotionPin) hts, ha]

/-- **A stored post without a tag traps the load loop.** -/
theorem loadDocument_trap {d : Document} {p : Post} (hd : Stores d p) (ht : p.tags = [])
    (h : HomeViewController) : ∃ s, (loadDocument F d).run h = .error .indexOutOfRange s := by
  rw [loadDocument_eq hd]
  exact addPin_trap (e := p.emotionPin) ht h

/-- A stored post that is loaded has a tag. -/
theorem loadDocument_tags {d : Document} {p : Post} (hd : Stores d p)
    (hr : (loadDocument F d).run h = .ok () h') : p.tags ≠ [] := by
  intro ht
  obtain ⟨s, hs⟩ := loadDocument_trap (F := F) hd ht h
  rw [hs] at hr
  cases hr

/-! ## Whatever the document holds -/

/-- What `x` does to the home screen stays within the object being read. -/
def FillsNew (h : HomeViewController) (x : Swift HomeViewController Unit) : Prop :=
  ∀ e s, x.run (h.reading e) = .ok () s → ∃ e', s = h.reading e'

theorem FillsNew.seq {x y : Swift HomeViewController Unit} (hx : h.FillsNew x) (hy : h.FillsNew y) :
    h.FillsNew (do x; y) := by
  intro e s hs
  obtain ⟨_, u, h1, h2⟩ := Swift.bind_eq_ok hs
  obtain ⟨e', rfl⟩ := hx e u h1
  exact hy e' s h2

theorem FillsNew.modify (f : EmotionPin → EmotionPin) :
    h.FillsNew (modifyEmotionPin h.emotionPins.size f) := by
  intro e s hs
  rw [modifyEmotionPin_reading] at hs
  cases hs; exact ⟨_, rfl⟩

theorem FillsNew.setString (d : Document) (field : String) (set : String → EmotionPin → EmotionPin) :
    h.FillsNew (setString h.emotionPins.size d field set) := by
  intro e s hs
  obtain ⟨v, u, h1, h2⟩ := Swift.bind_eq_ok hs
  have hu : u = h.reading e := by
    revert h1
    cases d.get field with
    | none => intro h1; cases h1
    | some v =>
      rcases v with (_ | _ | _) | _ <;> intro h1 <;> cases h1
      rfl
  subst hu
  exact FillsNew.modify _ e s h2

theorem FillsNew.setLocation (d : Document) : h.FillsNew (setLocation h.emotionPins.size d) := by
  intro e s hs
  unfold HomeViewController.setLocation at hs
  cases hl : d.get "location" with
  | none => rw [hl] at hs; cases hs; exact ⟨e, rfl⟩
  | some v =>
    rw [hl] at hs
    rcases v with (_ | p | _) | _
    case single.geoPoint => exact (FillsNew.modify _).seq (FillsNew.modify _) e s hs
    all_goals cases hs

theorem FillsNew.setTags (d : Document) : h.FillsNew (setTags h.emotionPins.size d) := by
  intro e s hs
  unfold HomeViewController.setTags at hs
  cases hl : FieldValue.asStrings? (d.get "tags") with
  | none => rw [hl] at hs; cases hs; exact ⟨e, rfl⟩
  | some l => rw [hl] at hs; exact FillsNew.modify _ e s hs

theorem FillsNew.readFields (d : Document) : h.FillsNew (readFields h.emotionPins.size d) :=
  (FillsNew.setLocation d).seq <| (FillsNew.setString d _ _).seq <| (FillsNew.setString d _ _).seq <|
    (FillsNew.setString d _ _).seq <| (FillsNew.setString d _ _).seq <|
    (FillsNew.setString d _ _).seq (FillsNew.setTags d)

/-- **A load that returns adds one pin and one annotation**, both of new objects. -/
theorem loadDocument_ok {d : Document} (hr : (loadDocument F d).run h = .ok () h') :
    ∃ e a, h' = h.push e a := by
  rw [loadDocument_split] at hr
  obtain ⟨_, u, h1, h2⟩ := Swift.bind_eq_ok hr
  obtain ⟨e, rfl⟩ := FillsNew.readFields d _ u h1
  cases ht : e.tags with
  | nil =>
    obtain ⟨s, hs⟩ := addPin_trap (F := F) ht h
    rw [hs] at h2; cases h2
  | cons t ts =>
    rw [addPin_run ht] at h2
    cases h2; exact ⟨e, _, rfl⟩

/-! ## Loading a snapshot -/

/-- The home screen with one more pin and annotation for each entry of `l`. -/
def pushAll (h : HomeViewController) (l : List (EmotionPin × MKPointAnnotation)) : HomeViewController :=
  l.foldl (fun h x => h.push x.1 x.2) h

/-- The next `n` pins, of objects that are not allocated yet. -/
def newPins (h : HomeViewController) (n : ℕ) : List Pin :=
  (List.range n).map fun k => ⟨h.emotionPins.size + k, h.annotations.size + k⟩

theorem newPins_succ (h : HomeViewController) (n : ℕ) :
    h.newPins (n + 1) = h.newPins n ++ [⟨h.emotionPins.size + n, h.annotations.size + n⟩] := by
  simp [newPins, List.range_succ]

theorem pushAll_eq (h : HomeViewController) (l : List (EmotionPin × MKPointAnnotation)) :
    h.pushAll l = { h with
      emotionPins := ⟨h.emotionPins.cells ++ l.map (·.1)⟩
      annotations := ⟨h.annotations.cells ++ l.map (·.2)⟩
      pins := h.pins ++ h.newPins l.length
      mapAnnotations := h.mapAnnotations ++ (h.newPins l.length).map Pin.infoAnnotation } := by
  induction l using List.reverseRecOn with
  | nil => simp [pushAll, newPins]
  | append_singleton l x ih =>
    have hp : h.pushAll (l ++ [x]) = (h.pushAll l).push x.1 x.2 := by simp [pushAll]
    rw [hp, ih, List.length_append, List.length_singleton, newPins_succ]
    simp [push, Heap.alloc, Heap.size]

@[simp] theorem pushAll_pins (h : HomeViewController) (l : List (EmotionPin × MKPointAnnotation)) :
    (h.pushAll l).pins = h.pins ++ h.newPins l.length := by rw [pushAll_eq]

@[simp] theorem pushAll_mapAnnotations (h : HomeViewController)
    (l : List (EmotionPin × MKPointAnnotation)) : (h.pushAll l).mapAnnotations =
      h.mapAnnotations ++ (h.newPins l.length).map Pin.infoAnnotation := by rw [pushAll_eq]

@[simp] theorem pushAll_emotionPins_size (h : HomeViewController)
    (l : List (EmotionPin × MKPointAnnotation)) :
    (h.pushAll l).emotionPins.size = h.emotionPins.size + l.length := by
  rw [pushAll_eq]; simp [Heap.size]

@[simp] theorem pushAll_annotations_size (h : HomeViewController)
    (l : List (EmotionPin × MKPointAnnotation)) :
    (h.pushAll l).annotations.size = h.annotations.size + l.length := by
  rw [pushAll_eq]; simp [Heap.size]

theorem newPins_emotionPin (h : HomeViewController) (n : ℕ) :
    (h.newPins n).map (·.emotionPin) = (List.range n).map fun k => h.emotionPins.size + k := by
  simp [newPins]

theorem newPins_infoAnnotation (h : HomeViewController) (n : ℕ) :
    (h.newPins n).map Pin.infoAnnotation = (List.range n).map fun k => h.annotations.size + k := by
  simp [newPins]

theorem mem_newPins {i : Pin} {n : ℕ} : i ∈ h.newPins n ↔
    ∃ k < n, ⟨h.emotionPins.size + k, h.annotations.size + k⟩ = i := by
  simp only [newPins, List.mem_map, List.mem_range]

/-- A load loop that returns has loaded its first document. -/
theorem pinsCompletion_cons_ok {d : DocumentSnapshot} {ds : List DocumentSnapshot}
    (hr : (pinsCompletion F (some (d :: ds))).run h = .ok () h') :
    ∃ u, (loadDocument F d.data).run h = .ok () u ∧
      (pinsCompletion F (some ds)).run u = .ok () h' := by
  obtain ⟨_, u, h1, h2⟩ := Swift.bind_eq_ok (x := loadDocument F d.data)
    (f := fun _ => pinsCompletion F (some ds)) hr
  exact ⟨u, h1, h2⟩

/-- **A load of any documents that returns** adds as many pins, of new objects. -/
theorem pinsCompletion_ok {documents : List DocumentSnapshot}
    (hr : (pinsCompletion F (some documents)).run h = .ok () h') :
    ∃ l, l.length = documents.length ∧ h' = h.pushAll l := by
  induction documents generalizing h with
  | nil => cases hr; exact ⟨[], rfl, rfl⟩
  | cons d ds ih =>
    obtain ⟨u, h1, h2⟩ := pinsCompletion_cons_ok hr
    obtain ⟨e, a, rfl⟩ := loadDocument_ok h1
    obtain ⟨l, hl, rfl⟩ := ih h2
    exact ⟨(e, a) :: l, by simp [hl], rfl⟩

/-- The pin and the annotation of a post. -/
def shown (F : Foundation) (p : Post) : EmotionPin × MKPointAnnotation := (p.emotionPin, p.annotation F)

/-- **A snapshot of posts with tags is loaded** into their pins and annotations. -/
theorem pinsCompletion_run {documents : List DocumentSnapshot} {posts : List Post}
    (hd : List.Forall₂ (fun d p => Stores d.data p) documents posts) (ht : ∀ p ∈ posts, p.tags ≠ []) :
    (pinsCompletion F (some documents)).run h = .ok () (h.pushAll (posts.map (shown F))) := by
  induction hd generalizing h with
  | nil => rfl
  | @cons d p ds ps hdp _ ih =>
    have h1 := loadDocument_run (F := F) hdp (ht p (by simp)) h
    have h2 := ih (h := h.push p.emotionPin (p.annotation F)) fun q hq => ht q (by simp [hq])
    change ((loadDocument F d.data) >>= fun _ => pinsCompletion F (some ds)).run h = _
    rw [EStateM.run_bind, h1]
    exact h2

/-- **The load loop over stored posts** returns exactly when every post has a tag. -/
theorem pinsCompletion_iff {documents : List DocumentSnapshot} {posts : List Post}
    (hd : List.Forall₂ (fun d p => Stores d.data p) documents posts) :
    (pinsCompletion F (some documents)).Completes h ↔ ∀ p ∈ posts, p.tags ≠ [] := by
  refine ⟨?_, fun ht => ⟨(), _, pinsCompletion_run hd ht⟩⟩
  induction hd generalizing h with
  | nil => intro _ p hp; cases hp
  | @cons d p ds ps hdp _ ih =>
    rintro ⟨_, h', hr⟩ q hq
    obtain ⟨u, h1, h2⟩ := pinsCompletion_cons_ok hr
    rcases List.mem_cons.1 hq with rfl | hq
    · exact loadDocument_tags hdp h1
    · exact ih ⟨_, h', h2⟩ q hq

/-- The pin shows the post, on the map and when it is opened. -/
structure Shows (F : Foundation) (h : HomeViewController) (pin : Pin) (p : Post) : Prop where
  emotionPin : h.emotionPins.read pin.emotionPin = p.emotionPin
  annotation : h.annotations.read pin.infoAnnotation = p.annotation F

/-- The pin of the `k`-th entry, and what it reads. -/
theorem pushAll_getElem? {l : List (EmotionPin × MKPointAnnotation)} {k : ℕ}
    {x : EmotionPin × MKPointAnnotation} (hx : l[k]? = some x) (h : HomeViewController) :
    ∃ i, (h.newPins l.length)[k]? = some i ∧ (h.pushAll l).emotionPins.read i.emotionPin = x.1 ∧
      (h.pushAll l).annotations.read i.infoAnnotation = x.2 := by
  obtain ⟨hk, -⟩ := List.getElem?_eq_some_iff.1 hx
  refine ⟨⟨h.emotionPins.size + k, h.annotations.size + k⟩, ?_, ?_, ?_⟩
  · simp [newPins, hk]
  · simp [pushAll_eq, Heap.read, Heap.size, List.getElem?_append_right, hx]
  · simp [pushAll_eq, Heap.read, Heap.size, List.getElem?_append_right, hx]

/-- The new pins show the posts, in their order. -/
theorem shows_newPins (posts : List Post) (h : HomeViewController) :
    List.Forall₂ (Shows F (h.pushAll (posts.map (shown F)))) (h.newPins posts.length) posts := by
  rw [List.forall₂_iff_get]
  refine ⟨by simp [newPins], fun k hk hp => ?_⟩
  have hx : (posts.map (shown F))[k]? = some (shown F (posts.get ⟨k, hp⟩)) := by simp [hp]
  obtain ⟨i, hi, he, ha⟩ := pushAll_getElem? hx h
  rw [List.length_map, List.getElem?_eq_getElem hk, Option.some.injEq] at hi
  rw [List.get_eq_getElem, hi]
  exact ⟨he, ha⟩

/-- **One document among others**: where a load of any documents returns, the pin of a
stored post shows that post. -/
theorem pinsCompletion_mid {ds₁ ds₂ : List DocumentSnapshot} {d : DocumentSnapshot} {p : Post}
    (hd : Stores d.data p) (hr : (pinsCompletion F (some (ds₁ ++ d :: ds₂))).run h = .ok () h') :
    ∃ l, h' = h.pushAll l ∧ l[ds₁.length]? = some (shown F p) ∧ p.tags ≠ [] := by
  induction ds₁ generalizing h with
  | nil =>
    obtain ⟨u, h1, h2⟩ := pinsCompletion_cons_ok hr
    obtain ⟨l, -, rfl⟩ := pinsCompletion_ok h2
    have ht : p.tags ≠ [] := loadDocument_tags hd h1
    rw [loadDocument_run hd ht] at h1
    cases h1
    exact ⟨shown F p :: l, rfl, rfl, ht⟩
  | cons x ds₁ ih =>
    obtain ⟨u, h1, h2⟩ := pinsCompletion_cons_ok hr
    obtain ⟨e, a, rfl⟩ := loadDocument_ok h1
    obtain ⟨l, rfl, hl, ht⟩ := ih h2
    exact ⟨(e, a) :: l, rfl, by simpa using hl, ht⟩

theorem exists_posts {documents : List DocumentSnapshot}
    (hd : ∀ d ∈ documents, ∃ p, Stores d.data p ∧ p.tags ≠ []) :
    ∃ posts, List.Forall₂ (fun (d : DocumentSnapshot) p => Stores d.data p) documents posts ∧
      ∀ p ∈ posts, p.tags ≠ [] := by
  induction documents with
  | nil => exact ⟨[], .nil, fun p hp => nomatch hp⟩
  | cons d ds ih =>
    obtain ⟨p, hp, ht⟩ := hd d (by simp)
    obtain ⟨ps, hps, hts⟩ := ih fun x hx => hd x (List.mem_cons_of_mem _ hx)
    refine ⟨p :: ps, .cons hp hps, fun q hq => ?_⟩
    rcases List.mem_cons.1 hq with rfl | hq
    · exact ht
    · exact hts q hq

/-- **Every document is loaded**: the load loop returns, and has added a pin and an
annotation for each document, in their order. -/
def LoadsAll (F : Foundation) (h : HomeViewController) (documents : List DocumentSnapshot) : Prop :=
  ∃ h' new posts, (pinsCompletion F (some documents)).run h = .ok () h' ∧
    List.Forall₂ (fun d p => Stores d.data p) documents posts ∧
    List.Forall₂ (Shows F h') new posts ∧ h'.pins = h.pins ++ new ∧
    h'.mapAnnotations = h.mapAnnotations ++ new.map Pin.infoAnnotation

/-- **Stored posts are all loaded** exactly when every post has a tag. -/
theorem loadsAll_iff {documents : List DocumentSnapshot} {posts : List Post}
    (hd : List.Forall₂ (fun d p => Stores d.data p) documents posts) :
    LoadsAll F h documents ↔ ∀ p ∈ posts, p.tags ≠ [] := by
  constructor
  · rintro ⟨h', -, -, hr, -⟩
    exact (pinsCompletion_iff hd).1 ⟨(), h', hr⟩
  · intro ht
    refine ⟨h.pushAll (posts.map (shown F)), h.newPins posts.length, posts, pinsCompletion_run hd ht,
      hd, shows_newPins posts h, ?_, ?_⟩
    · rw [pushAll_pins, List.length_map]
    · rw [pushAll_mapAnnotations, List.length_map]

/-! ## The two scans of the pins -/

theorem same_iff {i a : MKPointAnnotation} : i.same a = true ↔ i = a := by
  obtain ⟨⟨la, lo⟩, t, s⟩ := i
  obtain ⟨⟨la', lo'⟩, t', s'⟩ := a
  simp only [Bool.and_eq_true, MKPointAnnotation.same, beq_iff_eq, MKPointAnnotation.mk.injEq,
    CLLocationCoordinate2D.mk.injEq]
  tauto

/-- The contents of a pin's annotation. -/
def annotationAt (h : HomeViewController) (i : Pin) : MKPointAnnotation := h.annotations.read i.infoAnnotation

/-- The contents of a pin. -/
def emotionPinAt (h : HomeViewController) (i : Pin) : EmotionPin := h.emotionPins.read i.emotionPin

/-- The pin that both scans find for an annotation: the last one with equal contents. -/
def pinLike? (h : HomeViewController) (r : Ref) : Option Pin :=
  Scan.last? (fun i => (h.annotationAt i).same (h.annotations.read r)) h.pins

/-- `i` is the last pin whose annotation looks like `r`. -/
def LastLike (h : HomeViewController) (r : Ref) (i : Pin) : Prop :=
  h.annotationAt i = h.annotations.read r ∧ ∃ before after, h.pins = before ++ i :: after ∧
    ∀ j ∈ after, h.annotationAt j ≠ h.annotations.read r

theorem pinLike?_eq_some {r : Ref} {i : Pin} : h.pinLike? r = some i ↔ h.LastLike r i := by
  simp only [pinLike?, LastLike, Scan.last?_eq_some_iff, same_iff, ← Bool.not_eq_true, ne_eq]

theorem pinLike?_isSome {i : Pin} (hi : i ∈ h.pins) : ∃ j, h.pinLike? i.infoAnnotation = some j :=
  Scan.last?_isSome hi (same_iff.2 rfl)

/-- **The scan finds every pin's contents** exactly when no two pins that look alike on
the map differ. -/
theorem pinLike?_faithful {β : Type} (f : EmotionPin → β) :
    (∀ i ∈ h.pins, (h.pinLike? i.infoAnnotation).map (fun j => f (h.emotionPinAt j)) =
        some (f (h.emotionPinAt i))) ↔
      ∀ i ∈ h.pins, ∀ j ∈ h.pins, h.annotationAt i = h.annotationAt j →
        f (h.emotionPinAt i) = f (h.emotionPinAt j) := by
  have hp : ∀ i : Pin, (fun j => (h.annotationAt j).same (h.annotations.read i.infoAnnotation)) =
      fun j => decide (h.annotationAt j = h.annotationAt i) := by
    intro i; funext j
    rw [Bool.eq_iff_iff, same_iff, decide_eq_true_eq, annotationAt, annotationAt]
  simp only [pinLike?, hp]
  exact Scan.lookup_faithful h.annotationAt (fun j => f (h.emotionPinAt j)) h.pins

/-- The view made for an annotation. -/
def freshView (h : HomeViewController) (r : Ref) : MKAnnotationView where
  annotation := some r
  image := (h.pinLike? r).map fun i => image (h.emotionPinAt i).icon 30
  canShowCallout := true
  rightCalloutAccessoryView := some h.views.size

theorem viewFor_fresh (h : HomeViewController) (r : Ref) :
    (mapViewViewFor (.point r) none).run h = .ok (some h.views.size)
      { h with views := h.views.alloc (h.freshView r), count := h.count + 1 } := by
  have hscan := fun s : HomeViewController => Scan.forM_overwrite (ε := Trap)
    (fun i => (h.annotationAt i).same (h.annotations.read r))
    (fun (i : Pin) (s : HomeViewController) => { s with
      views := s.views.modify h.views.size fun v => { v with
        image := some (image (h.emotionPinAt i).icon 30) } })
    (fun i j s => by simp only [Heap.modify_modify]; rfl) h.pins s
  simp only [mapViewViewFor, modifyView, EStateM.run_bind, EStateM.run_get, EStateM.run_modify,
    EStateM.run_pure]
  unfold annotationAt emotionPinAt at hscan
  rw [hscan]
  cases hl : h.pinLike? r with
  | none =>
    have hl' : Scan.last? (fun i : Pin => (h.annotations.read i.infoAnnotation).same
        (h.annotations.read r)) h.pins = none := hl
    simp [hl', freshView, hl]
  | some i =>
    have hl' : Scan.last? (fun i : Pin => (h.annotations.read i.infoAnnotation).same
        (h.annotations.read r)) h.pins = some i := hl
    simp [hl', freshView, hl, emotionPinAt]

theorem viewFor_recycled (h : HomeViewController) (r w : Ref) :
    (mapViewViewFor (.point r) (some w)).run h = .ok (some w)
      { h with
        views := h.views.modify w fun v => { v with annotation := some r }
        reuseQueue := h.reuseQueue.erase w
        count := h.count + 1 } := rfl

/-- What `DetailPin` shows of a pin. -/
def detail (F : Foundation) (e : EmotionPin) : DetailPin where
  titlePin := F.capitalized e.userName
  emojiPin := some (image e.icon 50)
  colorPin := hexStringToUIColor F e.color
  colorHexPin := "HEX: " ++ e.color
  observacoesPin := some e.testimonial

/-- The home screen after a tap on the callout of a view of `r`. -/
def tapped (h : HomeViewController) (r : Option Ref) : HomeViewController :=
  { h with infoPin := (r.bind h.pinLike?).getD h.infoPin }

theorem calloutTapped_run (h : HomeViewController) (view : MKAnnotationView) (control : Ref) :
    (calloutAccessoryControlTapped F view control).run h = .ok
      (if some control = view.rightCalloutAccessoryView then
        some (detail F (h.emotionPinAt (h.tapped view.annotation).infoPin)) else none)
      (h.tapped view.annotation) := by
  have hscan : (h.pins.forM fun i => if (view.annotation.map h.annotations.read).any
      (h.annotations.read i.infoAnnotation).same then
        modify (fun h : HomeViewController => { h with infoPin := i }) else pure () :
      Swift HomeViewController Unit).run h = .ok () (h.tapped view.annotation) := by
    rw [Scan.forM_overwrite _ (fun (i : Pin) (h : HomeViewController) => { h with infoPin := i })
      (fun i j s => rfl)]
    cases view.annotation with
    | none =>
      have hl : Scan.last? (fun _ : Pin => false) h.pins = none := by simp [Scan.last?]
      simp [tapped, hl]
    | some r =>
      simp only [tapped, Option.map_some, Option.any_some, Option.bind_some]
      change EStateM.Result.ok () (((h.pinLike? r).map fun i =>
        ({ h with infoPin := i } : HomeViewController)).getD h) = _
      cases h.pinLike? r <;> rfl
  simp only [calloutAccessoryControlTapped, EStateM.run_bind, EStateM.run_get, hscan]
  split_ifs <;> rfl

end HomeViewController

end Sens

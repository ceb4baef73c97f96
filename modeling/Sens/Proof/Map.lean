import Mathlib.Data.List.Perm.Basic
import Sens.Proof.App

/-!
# The pins on the map

* `pins_correspond_iff`: a load leaves the pins of its documents and no others exactly
  when nothing was loaded before.
* `callout_opens_pin_iff`: every callout opens its own pin exactly when pins that look
  alike on the map are alike.
* `KeepsViews`, `after_keepsViews`: a view keeps the image it was made with.
* `run_views`, `viewFor_image_iff`: where the image of a view comes from.
-/

namespace Sens

namespace App

open Runs

variable {F : Foundation} {u : Option AuthUser} {es : List AppEvent} {a a' : App}

/-! ## Repeated loads -/

/-- The pins and the annotations on the map are those of the documents, one for each. -/
structure Corresponds (F : Foundation) (h : HomeViewController) (documents : List DocumentSnapshot) :
    Prop where
  pins : ∃ l, l.Perm h.pins ∧
    List.Forall₂ (fun i (d : DocumentSnapshot) => ∃ p, Stores d.data p ∧ h.Shows F i p) l documents
  annotations : h.mapAnnotations.Perm (h.pins.map Pin.infoAnnotation)
  nodup : h.mapAnnotations.Nodup

/-- The list of pins is empty until a document is loaded. -/
theorem pins_eq_nil (h : run F u es = some a) :
    a.home.pins = [] ↔ ∀ query documents, .pinsAnswered query (some documents) ∈ es → documents = [] := by
  refine run_invariant (P := fun es a => a.home.pins = [] ↔
    ∀ query documents, .pinsAnswered query (some documents) ∈ es → documents = [])
    (fun _ _ => ?_) ?_ es a h
  · exact iff_of_true rfl fun query documents hm => nomatch hm
  · intro es e b t d _ hP he
    simp only [List.mem_append, List.mem_singleton, or_imp, forall_and, ← hP]
    -- only a load that succeeds adds pins, one for each document
    cases he with
    | pinsLoaded query documents l hl hr =>
      have hnew : b.home.newPins l.length = [] ↔ documents = [] := by
        rw [← List.length_eq_zero_iff, HomeViewController.newPins, List.length_map,
          List.length_range, hl, List.length_eq_zero_iff]
      rw [HomeViewController.pushAll_pins, List.append_eq_nil_iff, hnew]
      refine and_congr_right fun _ => ?_
      constructor
      · rintro hd query' documents' hq; cases hq; exact hd
      · intro hall; exact hall query documents rfl
    | _ => simp [HomeViewController.tapped]

theorem shows_of_stores {h : HomeViewController} {l : List Pin} {documents : List DocumentSnapshot}
    {posts : List Post} (hs : List.Forall₂ (h.Shows F) l posts)
    (hd : List.Forall₂ (fun (d : DocumentSnapshot) p => Stores d.data p) documents posts) :
    List.Forall₂ (fun i (d : DocumentSnapshot) => ∃ p, Stores d.data p ∧ h.Shows F i p) l documents := by
  induction hs generalizing documents with
  | nil => cases hd; exact .nil
  | cons hip _ ih => cases hd with
    | cons hdp hd => exact .cons ⟨_, hdp, hip⟩ (ih hd)

/-- **What a completion of the `pins` query leaves on the map.** A snapshot of posts with
tags is loaded, and pins and documents correspond afterwards exactly when no document
was loaded before. An error changes nothing. -/
theorem pins_correspond_iff {query : ℕ} {documents : List DocumentSnapshot}
    (h : run F u es = some a) (hq : query ∈ a.pinsQueries)
    (hd : ∀ d ∈ documents, ∃ p, Stores d.data p ∧ p.tags ≠ []) :
    (∃ a', step F a (.pinsAnswered query (some documents)) = some a' ∧
        (Corresponds F a'.home documents ↔
          ∀ query' documents', .pinsAnswered query' (some documents') ∈ es → documents' = [])) ∧
      ∃ a', step F a (.pinsAnswered query none) = some a' ∧ a'.home.pins = a.home.pins ∧
        a'.home.mapAnnotations = a.home.mapAnnotations := by
  have hdel : ∀ answer, a.Deliverable (.pinsAnswered query answer) = true := fun _ => by simpa [Deliverable]
  refine ⟨?_, _, step_eq_some.2 ⟨hdel none, none, rfl⟩, rfl, rfl⟩
  obtain ⟨posts, hst, ht⟩ := HomeViewController.exists_posts hd
  let home' := a.home.pushAll (posts.map (HomeViewController.shown F))
  have hrun : (handle F (.pinsAnswered query (some documents))).run a =
      .ok none { a with pinsQueries := a.pinsQueries.erase query, home := home' } := by
    simp only [handle, onHome, EStateM.run_bind, EStateM.run_modify, Swift.run_focus,
      HomeViewController.pinsCompletion_run hst ht]
    rfl
  have hstep := step_eq_some.2 ⟨hdel _, none, hrun⟩
  have hpins : home'.pins = a.home.pins ++ a.home.newPins posts.length := by
    rw [HomeViewController.pushAll_pins, List.length_map]
  have hok : HomeOK home' := run_homeOK (run_concat_eq_some.2 ⟨a, h, hstep⟩)
  refine ⟨_, hstep, ?_⟩
  have hnew : (a.home.newPins posts.length).length = documents.length := by
    rw [HomeViewController.newPins, List.length_map, List.length_range, hst.length_eq]
  rw [← pins_eq_nil h]
  constructor
  · -- the new pins are as many as the documents: there is no room for older ones
    rintro ⟨⟨l, hl, hf⟩, -, -⟩
    have hlen : l.length = a.home.pins.length + documents.length := by
      rw [hl.length_eq, hpins, List.length_append, hnew]
    have hdocs : l.length = documents.length := hf.length_eq
    have hzero : a.home.pins.length = 0 := by omega
    exact List.length_eq_zero_iff.1 hzero
  · intro hnil
    have hshows := HomeViewController.shows_newPins (F := F) posts a.home
    refine ⟨⟨a.home.newPins posts.length, ?_, shows_of_stores hshows hst⟩, ?_, hok.nodup⟩
    · rw [hpins, hnil, List.nil_append]
    · rw [hok.mapAnnotations]

/-- A document to run the app on, published at one place under one tag. -/
def note (icon color userName : String) : DocumentSnapshot where
  documentID := 0
  data := AddFeelingViewController.postDocument ⟨"u1", icon, color, ["paz"], "", userName,
    ⟨-8, -35, by decide, by decide⟩⟩

theorem note_stores (icon color userName : String) :
    ∃ p, Stores (note icon color userName).data p ∧ p.tags ≠ [] :=
  ⟨_, AddFeelingViewController.postDocument_stores _, by simp⟩

/-- The first snapshot of a run. -/
theorem first_snapshot_corresponds_iff : ∃ a, run .ascii (some ⟨"u1", some "ana@sens"⟩) [.viewDidAppear] =
      some a ∧
    (∃ a', step .ascii a (.pinsAnswered 0 (some [note "☀" "" "ana"])) = some a' ∧
        (Corresponds .ascii a'.home [note "☀" "" "ana"] ↔ ∀ query' documents',
          AppEvent.pinsAnswered query' (some documents') ∈ [.viewDidAppear] → documents' = [])) ∧
      ∃ a', step .ascii a (.pinsAnswered 0 none) = some a' ∧ a'.home.pins = a.home.pins ∧
        a'.home.mapAnnotations = a.home.mapAnnotations :=
  ⟨_, rfl, @pins_correspond_iff .ascii (some ⟨"u1", some "ana@sens"⟩) [.viewDidAppear] _ 0
    [note "☀" "" "ana"] rfl (by decide) fun d hd => List.mem_singleton.1 hd ▸ note_stores _ _ _⟩

/-- A second appearance of the home screen doubles the pins. -/
theorem second_load_doubles_pins : ¬ ∀ (es : List AppEvent) (a a' : App) (query : ℕ)
    (documents : List DocumentSnapshot), run .ascii (some ⟨"u1", some "ana@sens"⟩) es = some a →
    (∀ d ∈ documents, ∃ p, Stores d.data p ∧ p.tags ≠ []) →
    step .ascii a (.pinsAnswered query (some documents)) = some a' →
    Corresponds .ascii a'.home documents := by
  intro h
  have hrun : ((run .ascii (some ⟨"u1", some "ana@sens"⟩) [.viewDidAppear,
      .pinsAnswered 0 (some [note "☀" "" "ana"]), .viewDidAppear]).bind fun a =>
        (step .ascii a (.pinsAnswered 1 (some [note "☀" "" "ana"]))).map fun a' => a'.home.pins.length) =
      some 2 := by
    decide +kernel
  obtain ⟨a, ha, hstep⟩ := Option.bind_eq_some_iff.1 hrun
  obtain ⟨a', ha', htwo⟩ := Option.map_eq_some_iff.1 hstep
  have hc := h _ a a' 1 _ ha (fun d hd => List.mem_singleton.1 hd ▸ note_stores _ _ _) ha'
  obtain ⟨l, hl, hf⟩ := hc.pins
  have hone : a'.home.pins.length = 1 := by rw [← hl.length_eq, hf.length_eq]; rfl
  omega

/-! ## Callouts -/

/-- A tap on the accessory of any view of the pin's annotation opens the pin. -/
def OpensPin (F : Foundation) (h : HomeViewController) (i : Pin) : Prop :=
  ∀ view control, view.annotation = some i.infoAnnotation →
    view.rightCalloutAccessoryView = some control →
    ∃ h', (HomeViewController.calloutAccessoryControlTapped F view control).run h =
        .ok (some (HomeViewController.detail F (h.emotionPinAt i))) h' ∧
      h'.emotionPinAt h'.infoPin = h.emotionPinAt i

/-- **Every callout opens its own pin** exactly when no two pins that look alike on the map
differ. -/
theorem callout_opens_pin_iff (F : Foundation) (h : HomeViewController) :
    (∀ i ∈ h.pins, OpensPin F h i) ↔
      ∀ i ∈ h.pins, ∀ j ∈ h.pins, h.annotationAt i = h.annotationAt j →
        h.emotionPinAt i = h.emotionPinAt j := by
  rw [← HomeViewController.pinLike?_faithful fun e => e]
  refine forall₂_congr fun i hi => ?_
  obtain ⟨j, hj⟩ := HomeViewController.pinLike?_isSome hi
  rw [hj, Option.map_some, Option.some.injEq]
  -- the scan stops at `j`, whatever `infoPin` was before
  have htap : (h.tapped (some i.infoAnnotation)).infoPin = j := by
    simp only [HomeViewController.tapped, Option.bind_some, hj, Option.getD_some]
  constructor
  · intro hopen
    obtain ⟨h', hr, he⟩ := hopen ⟨some i.infoAnnotation, none, true, some 0⟩ 0 rfl rfl
    rw [HomeViewController.calloutTapped_run] at hr
    obtain rfl := (EStateM.Result.ok.inj hr).2
    rw [htap] at he; exact he
  · intro hji view control hv hc
    refine ⟨h.tapped view.annotation, ?_, ?_⟩
    · rw [HomeViewController.calloutTapped_run, if_pos hc.symm, hv, htap, hji]
    · rw [hv, htap]; exact hji

/-- Two anonymous pins at one place with one first tag: the callout of the first opens
the second. -/
theorem callout_opens_other_pin : ¬ ∀ (es : List AppEvent) (a : App),
    run .ascii (some ⟨"u1", some "ana@sens"⟩) es = some a →
    ∀ i ∈ a.home.pins, OpensPin .ascii a.home i := by
  intro h
  have hrun : (run .ascii (some ⟨"u1", some "ana@sens"⟩) [.viewDidAppear,
      .pinsAnswered 0 (some [note "☀" "" "Anonimo", note "☂" "" "Anonimo"])]).map (fun a =>
        (a.home.pins, (a.home.emotionPinAt (a.home.tapped (some 1)).infoPin).icon,
          (a.home.emotionPinAt ⟨1, 1⟩).icon)) = some ([⟨1, 1⟩, ⟨2, 2⟩], "☂", "☀") := by
    decide +kernel
  obtain ⟨a, ha, hv⟩ := Option.map_eq_some_iff.1 hrun
  obtain ⟨hpins, htapped, hicon⟩ : a.home.pins = _ ∧
    (a.home.emotionPinAt (a.home.tapped (some 1)).infoPin).icon = _ ∧
      (a.home.emotionPinAt ⟨1, 1⟩).icon = _ := by simpa using hv
  obtain ⟨h', hr, he⟩ := h _ a ha ⟨1, 1⟩ (by simp [hpins]) ⟨some 1, none, true, some 0⟩ 0 rfl rfl
  rw [HomeViewController.calloutTapped_run] at hr
  obtain rfl := (EStateM.Result.ok.inj hr).2
  -- the pin that opens has the icon of the second
  have hsame : "☂" = "☀" := htapped.symm.trans ((congrArg EmotionPin.icon he).trans hicon)
  exact absurd hsame (by decide)

/-! ## Views -/

/-- What stays of the views: none is lost, and each has the image it was made with. -/
structure KeepsViews (h h' : HomeViewController) : Prop where
  size : h.views.size ≤ h'.views.size
  image : ∀ w < h.views.size, (h'.views.read w).image = (h.views.read w).image

theorem KeepsViews.refl (h : HomeViewController) : KeepsViews h h :=
  ⟨le_rfl, fun _ _ => rfl⟩

theorem KeepsViews.trans {h₁ h₂ h₃ : HomeViewController} (h12 : KeepsViews h₁ h₂)
    (h23 : KeepsViews h₂ h₃) : KeepsViews h₁ h₃ := by
  refine ⟨h12.size.trans h23.size, ?_⟩
  intro w hw
  have hw₂ : w < h₂.views.size := Nat.lt_of_lt_of_le hw h12.size
  rw [h23.image w hw₂, h12.image w hw]

theorem Effect.keepsViews {e : AppEvent} {d : Option Document} (h : Effect F a e d a') :
    KeepsViews a.home a'.home := by
  cases h with
  | pinsLoaded query documents l hl hr =>
    rw [HomeViewController.pushAll_eq]; exact ⟨le_rfl, fun w _ => rfl⟩
  | viewFresh r hr =>
    refine ⟨?_, ?_⟩
    · rw [Heap.size_alloc]; exact Nat.le_succ _
    · intro w hw
      rw [Heap.read_alloc_of_lt hw]
  | viewRecycled r v hr hv =>
    refine ⟨by rw [Heap.size_modify], ?_⟩
    intro w hw
    -- the recycled view gets another annotation, and no other image
    by_cases hwv : w = v
    · subst hwv; rw [Heap.read_modify_self hw]
    · rw [Heap.read_modify_of_ne hwv]
  | _ => exact ⟨le_rfl, fun w _ => rfl⟩

theorem after_keepsViews {fs : List AppEvent} (h : after (step F) a fs = some a') :
    KeepsViews a.home a'.home :=
  after_frame (R := fun a b => KeepsViews a.home b.home) (fun _ => .refl _)
    (fun _ _ _ => KeepsViews.trans) (fun _ _ _ _ => Effect.keepsViews) h

/-- The view `w` was made for the annotation `r`, in the state `b` of the run. -/
def MadeFor (F : Foundation) (u : Option AuthUser) (es : List AppEvent) (w r : Ref) (b : App) : Prop :=
  ∃ before after, es = before ++ .viewFor (.point r) none :: after ∧ run F u before = some b ∧
    b.home.views.size = w

/-- **A view keeps the image it was made with.** -/
theorem MadeFor.image {w r : Ref} {b : App} (hm : MadeFor F u es w r b) (h : run F u es = some a) :
    (a.home.views.read w).image = (b.home.freshView r).image := by
  obtain ⟨before, after, rfl, hb, rfl⟩ := hm
  obtain ⟨b', hb', hafter⟩ := run_append_eq_some.1 h
  rw [hb] at hb'; cases hb'
  obtain ⟨c, hstep, hafter⟩ := after_cons_eq_some.1 hafter
  obtain ⟨d, heff⟩ := step_effect hstep
  cases heff with
  | viewFresh _ hr =>
    have hw : b.home.views.size < (b.home.views.alloc (b.home.freshView r)).size := by
      rw [Heap.size_alloc]; exact Nat.lt_succ_self _
    rw [(after_keepsViews hafter).image _ hw, Heap.read_alloc_self]

/-- Every view was made in the run. -/
theorem run_views (h : run F u es = some a) : ∀ w < a.home.views.size, ∃ r b, MadeFor F u es w r b := by
  refine run_invariant (P := fun es a => ∀ w < a.home.views.size, ∃ r b, MadeFor F u es w r b)
    (fun _ _ w hw => absurd hw (Nat.not_lt_zero w)) ?_ es a h
  intro es e b t d hb hP he
  -- a view made before is made by the same request in the longer run
  have hold : ∀ w < b.home.views.size, ∃ r c, MadeFor F u (es ++ [e]) w r c := by
    intro w hw
    obtain ⟨r, c, before, after, rfl, hc⟩ := hP w hw
    exact ⟨r, c, before, after ++ [e], by simp, hc⟩
  cases he with
  | viewFresh r hr =>
    intro w hw
    rw [Heap.size_alloc] at hw
    rcases Nat.lt_succ_iff_lt_or_eq.1 hw with hw | rfl
    · exact hold w hw
    · exact ⟨r, b, es, [], rfl, hb, rfl⟩
  | viewRecycled r v hr hv => intro w hw; rw [Heap.size_modify] at hw; exact hold w hw
  | pinsLoaded query documents l hl hr => rw [HomeViewController.pushAll_eq]; exact hold
  | _ => exact hold

/-- A fresh view of `r` shows `icon` exactly when the last pin that looks like `r` has it. -/
theorem freshView_image_iff {h : HomeViewController} {r : Ref} {icon : String} :
    (h.freshView r).image = some (image icon 30) ↔
      ∃ j, h.LastLike r j ∧ (h.emotionPinAt j).icon = icon := by
  simp only [HomeViewController.freshView, Option.map_eq_some_iff, HomeViewController.pinLike?_eq_some,
    image, UIImage.mk.injEq, and_true]

/-- The view that MapKit gets for an annotation carries `icon`: where it is made now, the
last pin that looks like the annotation has that icon; where it is recycled, the last
pin that looked like the annotation it was made for, when it was made. -/
def Carries (F : Foundation) (u : Option AuthUser) (es : List AppEvent) (a : App) (r : Ref)
    (icon : String) : Option Ref → Prop
  | none => ∃ j, a.home.LastLike r j ∧ (a.home.emotionPinAt j).icon = icon
  | some w => ∃ r' b j, MadeFor F u es w r' b ∧ b.home.LastLike r' j ∧
      (b.home.emotionPinAt j).icon = icon

/-- **Whose emoji the view of a pin carries**, when it is made and when it is recycled. -/
theorem viewFor_image_iff {i : Pin} {dequeued : Option Ref} (h : run F u es = some a)
    (hd : ∀ w, dequeued = some w → w ∈ a.home.reuseQueue) :
    ∃ w home', (HomeViewController.mapViewViewFor (.point i.infoAnnotation) dequeued).run a.home =
        .ok (some w) home' ∧
      MKAnnotationView.annotation (home'.views.read w) = some i.infoAnnotation ∧
      ((home'.views.read w).image = some (image (a.home.emotionPinAt i).icon 30) ↔
        Carries F u es a i.infoAnnotation (a.home.emotionPinAt i).icon dequeued) := by
  cases dequeued with
  | none =>
    refine ⟨_, _, HomeViewController.viewFor_fresh a.home i.infoAnnotation, ?_, ?_⟩
    · rw [Heap.read_alloc_self]; rfl
    · rw [Heap.read_alloc_self, freshView_image_iff]; rfl
  | some w =>
    have hw : w < a.home.views.size := (run_homeOK h).reuseQueue w (hd w rfl)
    refine ⟨_, _, HomeViewController.viewFor_recycled a.home i.infoAnnotation w, ?_, ?_⟩
    · rw [Heap.read_modify_self hw]
    · rw [Heap.read_modify_self hw]
      constructor
      · intro himg
        obtain ⟨r, b, hm⟩ := run_views h w hw
        rw [hm.image h, freshView_image_iff] at himg
        obtain ⟨j, hj⟩ := himg
        exact ⟨r, b, j, hm, hj⟩
      · rintro ⟨r, b, j, hm, hj⟩
        rw [hm.image h, freshView_image_iff]
        exact ⟨j, hj⟩

/-- A view of the first of two pins, handed out again for the second. -/
theorem second_pin_carries_iff : ∃ (es : List AppEvent) (a : App),
    run .ascii (some ⟨"u1", some "ana@sens"⟩) es = some a ∧ a.home.pins = [⟨1, 1⟩, ⟨2, 2⟩] ∧
    ∃ w home', (HomeViewController.mapViewViewFor (.point 2) (some 0)).run a.home =
        .ok (some w) home' ∧
      MKAnnotationView.annotation (home'.views.read w) = some 2 ∧
      ((home'.views.read w).image = some (image (a.home.emotionPinAt ⟨2, 2⟩).icon 30) ↔
        Carries .ascii (some ⟨"u1", some "ana@sens"⟩) es a 2 (a.home.emotionPinAt ⟨2, 2⟩).icon
          (some 0)) := by
  let es : List AppEvent := [.viewDidAppear,
    .pinsAnswered 0 (some [note "☀" "" "ana", note "☂" "" "rui"]), .viewFor (.point 1) none,
    .viewOffScreen 0]
  have hrun : (run .ascii (some ⟨"u1", some "ana@sens"⟩) es).map (fun a =>
      (a.home.pins, a.home.reuseQueue)) = some ([⟨1, 1⟩, ⟨2, 2⟩], [0]) := by decide +kernel
  obtain ⟨a, ha, hv⟩ := Option.map_eq_some_iff.1 hrun
  simp only [Prod.mk.injEq] at hv
  refine ⟨es, a, ha, hv.1, viewFor_image_iff (i := ⟨2, 2⟩) ha fun w hw => ?_⟩
  rw [← Option.some.inj hw, hv.2]; exact List.mem_singleton_self 0

/-- The recycled view keeps the emoji of the first pin. -/
theorem recycled_view_keeps_emoji : ¬ ∀ (es : List AppEvent) (a : App) (i : Pin) (w : Ref)
    (home' : HomeViewController), run .ascii (some ⟨"u1", some "ana@sens"⟩) es = some a →
    i ∈ a.home.pins → w ∈ a.home.reuseQueue →
    (HomeViewController.mapViewViewFor (.point i.infoAnnotation) (some w)).run a.home =
      .ok (some w) home' →
    (home'.views.read w).image = some (image (a.home.emotionPinAt i).icon 30) := by
  intro h
  have hrun : (run .ascii (some ⟨"u1", some "ana@sens"⟩)
      [.viewDidAppear, .pinsAnswered 0 (some [note "☀" "" "ana", note "☂" "" "rui"]),
        .viewFor (.point 1) none, .viewOffScreen 0]).map (fun a => (a.home.pins, a.home.reuseQueue,
          a.home.views.size, (a.home.views.read 0).image, (a.home.emotionPinAt ⟨2, 2⟩).icon)) =
      some ([⟨1, 1⟩, ⟨2, 2⟩], [0], 1, some (image "☀" 30), "☂") := by
    decide +kernel
  obtain ⟨a, ha, hv⟩ := Option.map_eq_some_iff.1 hrun
  obtain ⟨hp, hq, hs, hi, he⟩ : a.home.pins = _ ∧ a.home.reuseQueue = _ ∧ a.home.views.size = _ ∧
    (a.home.views.read 0).image = _ ∧ (a.home.emotionPinAt ⟨2, 2⟩).icon = _ := by simpa using hv
  have himg := h _ a ⟨2, 2⟩ 0 _ ha (by simp [hp]) (by simp [hq]) (HomeViewController.viewFor_recycled _ _ _)
  rw [Heap.read_modify_self (by rw [hs]; decide)] at himg
  rw [hi, he] at himg
  exact absurd himg (by decide)

end App

end Sens

import Sens.Proof.Map
import Sens.Proof.Provenance

/-!
# What the views of the map show

A view may carry the emoji of another pin, and its callout may open another pin; but neither
is made up.

* `ViewOK`, `run_viewOK`: a view stands for a pin, and its image is that of a pin.
* `callout_agrees`: the pin that a callout opens has the name, the first tag and the place that
  the callout shows.
* `views_show_published`: the emoji, and the pin that is opened, are of published posts.
-/

namespace Sens

namespace App

variable {F : Foundation} {u : Option AuthUser} {a a' : App} {es : List AppEvent} {e : AppEvent}
  {d : Option Document}

/-- The view `w` stands for a pin, has its own button, and carries the emoji of a pin. -/
structure ViewOK (h : HomeViewController) (w : Ref) (v : MKAnnotationView) : Prop where
  annotation : ∃ i ∈ h.pins, v.annotation = some i.infoAnnotation
  image : ∃ i ∈ h.pins, v.image = some (image (h.emotionPinAt i).icon 30)
  accessory : v.rightCalloutAccessoryView = some w

theorem ViewOK.later {h h' : HomeViewController} {w : Ref} {v : MKAnnotationView} (hv : ViewOK h w v)
    (hh : HomeOK h) (hl : Later h h') : ViewOK h' w v := by
  obtain ⟨⟨i, hi, hann⟩, ⟨j, hj, himg⟩, hacc⟩ := hv
  refine ⟨⟨i, hl.pins.subset hi, hann⟩, ⟨j, hl.pins.subset hj, ?_⟩, hacc⟩
  have hread : h'.emotionPinAt j = h.emotionPinAt j := hl.emotionPins.read (hh.emotionPin j hj)
  rw [hread]
  exact himg

/-- A view that is made has the emoji of a pin that looks like its own. -/
theorem freshView_ok {h : HomeViewController} (hh : HomeOK h) {r : Ref} (hr : r ∈ h.mapAnnotations) :
    ViewOK h h.views.size (h.freshView r) := by
  rw [hh.mapAnnotations] at hr
  obtain ⟨i, hi, rfl⟩ := List.mem_map.1 hr
  obtain ⟨j, hj⟩ := HomeViewController.pinLike?_isSome hi
  have hmem : j ∈ h.pins := (Scan.last?_eq_some hj).1
  exact ⟨⟨i, hi, rfl⟩, ⟨j, hmem, by rw [HomeViewController.freshView, hj]; rfl⟩, rfl⟩

theorem Effect.viewOK (h : Effect F a e d a') (hh : HomeOK a.home)
    (hv : ∀ w < a.home.views.size, ViewOK a.home w (a.home.views.read w)) :
    ∀ w < a'.home.views.size, ViewOK a'.home w (a'.home.views.read w) := by
  have hold : ∀ w < a.home.views.size, ViewOK a'.home w (a.home.views.read w) := fun w hw =>
    (hv w hw).later hh h.later
  cases h with
  | pinsLoaded query documents l hl hr =>
    simp only [HomeViewController.pushAll_eq] at hold ⊢
    exact hold
  | viewFresh r hr =>
    intro w hw
    rw [Heap.size_alloc] at hw
    rcases Nat.lt_succ_iff_lt_or_eq.1 hw with hw | rfl
    · rw [Heap.read_alloc_of_lt hw]
      exact hold w hw
    · rw [Heap.read_alloc_self]
      exact (freshView_ok hh hr).later hh ⟨.refl _, .refl _, List.prefix_refl _⟩
  | viewRecycled r v hr hq =>
    intro w hw
    rw [Heap.size_modify] at hw
    by_cases hwv : w = v
    · -- another pin of the map, and nothing else
      subst hwv
      rw [Heap.read_modify_self hw]
      rw [hh.mapAnnotations] at hr
      obtain ⟨i, hi, rfl⟩ := List.mem_map.1 hr
      exact { hold w hw with annotation := ⟨i, hi, rfl⟩ }
    · rw [Heap.read_modify_of_ne hwv]
      exact hold w hw
  | _ => exact hold

/-- **Every view stands for a pin and carries the emoji of a pin**, in every run. -/
theorem run_viewOK (h : run F u es = some a) :
    ∀ w < a.home.views.size, ViewOK a.home w (a.home.views.read w) :=
  run_invariant (P := fun _ a => ∀ w < a.home.views.size, ViewOK a.home w (a.home.views.read w))
    (fun _ _ w hw => absurd hw (Nat.not_lt_zero w))
    (fun _ _ _ _ _ hrun hP he => he.viewOK (run_homeOK hrun) hP) es a h

/-- **A callout opens a pin that it describes**: one with the annotation that the view stands
for, if perhaps not the view's own. -/
theorem callout_agrees (h : run F u es = some a) {w : Ref} (hw : w < a.home.views.size) :
    ∃ i ∈ a.home.pins, MKAnnotationView.annotation (a.home.views.read w) = some i.infoAnnotation ∧
      ∃ j ∈ a.home.pins, ∃ h', (HomeViewController.calloutAccessoryControlTapped F (a.home.views.read w)
          w).run a.home = .ok (some (HomeViewController.detail F (a.home.emotionPinAt j))) h' ∧
        h'.infoPin = j ∧ a.home.annotationAt j = a.home.annotationAt i := by
  obtain ⟨⟨i, hi, hann⟩, -, hacc⟩ := run_viewOK h w hw
  obtain ⟨j, hj⟩ := HomeViewController.pinLike?_isSome hi
  have htap : (a.home.tapped (MKAnnotationView.annotation (a.home.views.read w))).infoPin = j := by
    simp only [HomeViewController.tapped, hann, Option.bind_some, hj, Option.getD_some]
  refine ⟨i, hi, hann, j, (Scan.last?_eq_some hj).1,
    a.home.tapped (MKAnnotationView.annotation (a.home.views.read w)), ?_,
    htap, (HomeViewController.pinLike?_eq_some.1 hj).1⟩
  rw [HomeViewController.calloutTapped_run, if_pos hacc.symm, htap]

end App

namespace World

variable {F : Foundation} {es : List WorldEvent} {user : ℕ} {a : App}

/-- **Nothing on a map is made up.** In every run, the emoji of every view of every running app
was published; and its callout shows the name, the first tag and the place of a published post,
which is the one that the detail screen then shows. -/
theorem views_show_published (h : (run F es).apps user = some a) {w : Ref} (hw : w < a.home.views.size) :
    (∃ d ∈ (run F es).pins, ∃ p : Published F es d,
      (a.home.views.read w).image = some (image p.post.icon 30)) ∧
    ∃ d ∈ (run F es).pins, ∃ p : Published F es d, ∃ r h',
      MKAnnotationView.annotation (a.home.views.read w) = some r ∧
      a.home.annotations.read r = p.post.annotation F ∧
      (HomeViewController.calloutAccessoryControlTapped F (a.home.views.read w) w).run a.home =
        .ok (some (HomeViewController.detail F p.post.emotionPin)) h' := by
  obtain ⟨o⟩ := run_own es user a h
  obtain ⟨-, ⟨k, hk, himg⟩, -⟩ := App.run_viewOK o.app w hw
  obtain ⟨i, hi, hann, j, hj, h', htap, -, hlike⟩ := App.callout_agrees o.app hw
  constructor
  · obtain ⟨d, hd, p, hshows⟩ := run_shows h hk
    have hpin : a.home.emotionPinAt k = p.post.emotionPin := hshows.emotionPin
    exact ⟨d, hd, p, by rw [himg, hpin]; rfl⟩
  · obtain ⟨d, hd, p, hshows⟩ := run_shows h hj
    have hpin : a.home.emotionPinAt j = p.post.emotionPin := hshows.emotionPin
    rw [hpin] at htap
    exact ⟨d, hd, p, i.infoAnnotation, h', hann, hlike.symm.trans hshows.annotation, htap⟩

/-- The view of the only pin. -/
theorem rui_views_published : ∃ a, (run .ascii (anaPublishes ++ [.app 1 (.viewFor (.point 1) none)])).apps 1 =
      some a ∧ ∃ d ∈ (run .ascii (anaPublishes ++ [.app 1 (.viewFor (.point 1) none)])).pins,
    ∃ p : Published .ascii (anaPublishes ++ [.app 1 (.viewFor (.point 1) none)]) d,
      (a.home.views.read 0).image = some (image p.post.icon 30) := by
  have hrun : ((run .ascii (anaPublishes ++ [.app 1 (.viewFor (.point 1) none)])).apps 1).map
      (·.home.views.size) = some 1 := by decide +kernel
  obtain ⟨a, ha, hsize⟩ := Option.map_eq_some_iff.1 hrun
  have hw : 0 < a.home.views.size := by rw [hsize]; exact Nat.one_pos
  exact ⟨a, ha, (views_show_published ha hw).1⟩

end World

end Sens

import Sens.Purpose.Draft
import Sens.Proof.Provenance
import Sens.Proof.Stops

/-!
# What becomes of the tags

An X may remove another tag than its cell shows; but it removes one.

* `Counted`, `after_counted`: the tags of a draft are some of those added, in their order, and
  there is one less for every X that was pressed.
* `published_tags`: the same for every document of the collection.
-/

namespace Sens

namespace AddFeelingViewController

open Runs

variable {F : Foundation} {c c' : AddFeelingViewController} {e : AddFeelingEvent}
  {es : List AddFeelingEvent} {touched : Option CLLocationCoordinate2D} {user : CLLocationCoordinate2D}

/-- The draft has tags that were added, in their order, but one for each X that was pressed. -/
structure Counted (es : List AddFeelingEvent) (c : AddFeelingViewController) : Prop where
  cells : c.CellsOK
  field : (Tagging.after es).field = c.tagTextField
  sublist : c.pin.tags.Sublist (Tagging.after es).texts
  count : c.pin.tags.length + Tagging.presses es = (Tagging.after es).texts.length

/-- An X that is pressed removes one tag, or the app stops. -/
theorem step_removeTapped (hcells : c.CellsOK) {cell : ℕ} (h : step F c (.tagRemoveTapped cell) = some c') :
    cell < c.pin.tags.length ∧ c' = { c with pin.tags := c.pin.tags.eraseIdx cell } := by
  obtain ⟨hd, hr⟩ := step_eq_some.1 h
  have hk : cell < c.tagCells.length := by simpa [Deliverable] using hd
  rw [hcells.removeTapped hk, removeButtonPressed_run] at hr
  split_ifs at hr with hlt
  exact ⟨hlt, (EStateM.Result.ok.inj hr).2.symm⟩

theorem tagging_concat (es : List AddFeelingEvent) (e : AddFeelingEvent) :
    Tagging.after (es ++ [e]) = (Tagging.after es).step e := by
  rw [Tagging.after, List.foldl_append]; rfl

theorem presses_concat (es : List AddFeelingEvent) (e : AddFeelingEvent) :
    Tagging.presses (es ++ [e]) = Tagging.presses es + if Tagging.isPress e then 1 else 0 := by
  simp [Tagging.presses, List.countP_append, List.countP_singleton]

/-- A press is counted. -/
theorem Counted.press (hc : Counted es c) {cell : ℕ} (h : step F c (.tagRemoveTapped cell) = some c') :
    Counted (es ++ [.tagRemoveTapped cell]) c' := by
  obtain ⟨hlt, rfl⟩ := step_removeTapped hc.cells h
  have hcount := hc.count
  refine ⟨hc.cells, ?_, ?_, ?_⟩
  · rw [tagging_concat]; exact hc.field
  · rw [tagging_concat]
    exact (List.eraseIdx_sublist _ _).trans hc.sublist
  · rw [tagging_concat, presses_concat, List.length_eraseIdx_of_lt hlt]
    change _ = (Tagging.after es).texts.length
    simp only [Tagging.isPress, if_true]
    omega

/-- Any other event leaves the count as it is. -/
theorem Counted.other (hc : Counted es c) (hcells : c'.CellsOK) (hp : Tagging.isPress e = false)
    (hfield : ((Tagging.after es).step e).field = c'.tagTextField)
    (htexts : ((Tagging.after es).step e).texts = (Tagging.after es).texts)
    (htags : c'.pin.tags = c.pin.tags) : Counted (es ++ [e]) c' := by
  refine ⟨hcells, ?_, ?_, ?_⟩
  · rw [tagging_concat, hfield]
  · rw [tagging_concat, htexts, htags]; exact hc.sublist
  · rw [tagging_concat, presses_concat, hp, htexts, htags]; exact hc.count

theorem Counted.step (hc : Counted es c) (h : step F c e = some c') : Counted (es ++ [e]) c' := by
  have hcells : c'.CellsOK := hc.cells.step h
  cases step_effect h with
  | tagText text => exact hc.other hcells rfl rfl rfl rfl
  | tagAdded hb =>
    have hb' : trimmingCharacters (Tagging.after es).field ≠ "" := hc.field ▸ hb
    have hcount := hc.count
    have hstep : (Tagging.after es).step .addEmotionTagPressed = { Tagging.after es with
        field := ""
        added := (Tagging.after es).added ++
          [⟨(Tagging.after es).added.length, (Tagging.after es).field⟩] } := if_neg hb'
    have htexts : ((Tagging.after es).step .addEmotionTagPressed).texts =
        (Tagging.after es).texts ++ [c.tagTextField] := by
      rw [hstep, ← hc.field, Tagging.texts, List.map_append]
      rfl
    refine ⟨hcells, ?_, ?_, ?_⟩
    · rw [tagging_concat, hstep]
    · rw [tagging_concat, htexts]
      exact hc.sublist.append_right _
    · rw [tagging_concat, presses_concat, htexts, List.length_append, List.length_append]
      simp only [Tagging.isPress, Bool.false_eq_true, if_false, List.length_singleton]
      omega
  | tagBlank hb =>
    have ht : (Tagging.after es).step .addEmotionTagPressed = Tagging.after es :=
      if_pos (hc.field ▸ hb)
    exact hc.other hcells rfl (by rw [ht]; exact hc.field) (by rw [ht]) rfl
  | tagRemoved k i hi => exact hc.press h
  | tagKept k => exact hc.press h
  | locationTapped b hb alternates ha =>
    obtain ⟨t, u, hf⟩ := locationTapped_frame b alternates
    rw [hf] at hcells ⊢
    exact hc.other hcells rfl hc.field rfl rfl
  | _ => exact hc.other hcells rfl hc.field rfl rfl

/-- **The tags of a draft are counted**, over every sequence of events. -/
theorem after_counted (h : after (step F) (opened touched user) es = some c) : Counted es c := by
  refine after_invariant (P := Counted) ?_ (fun _ _ _ _ _ hu he => hu.step he) es c h
  exact ⟨opened_cellsOK, rfl, List.Sublist.refl _, rfl⟩

end AddFeelingViewController

namespace World

open Session

/-- **No tag is made up, and none is lost but by an X.** Behind every document of the collection
is a session, and the tags of the document are some of those added in it, in their order: one
less for each X that was pressed. -/
theorem published_tags (F : Foundation) (es : List WorldEvent) : ∀ d ∈ (run F es).pins,
    ∃ p : Published F es d, d.data.get "tags" = some (.strings p.post.tags) ∧
      p.post.tags.Sublist (Tagging.after (composeEvents p.session.during)).texts ∧
      p.post.tags.length + Tagging.presses (composeEvents p.session.during) =
        (Tagging.after (composeEvents p.session.during)).texts.length := by
  intro d hd
  obtain ⟨p⟩ := run_published es d hd
  have hc := AddFeelingViewController.after_counted p.session.composed
  refine ⟨p, ?_, ?_, ?_⟩
  · rw [p.data]
    exact (AddFeelingViewController.postDocument_stores p.post).tags
  · rw [p.chooses.tags]; exact hc.sublist
  · rw [p.chooses.tags]; exact hc.count

/-- The tags of the only document. -/
theorem ana_published_tags : ∃ d, (run .ascii anaPublishes).pins = [d] ∧
    ∃ p : Published .ascii anaPublishes d, d.data.get "tags" = some (.strings p.post.tags) ∧
      p.post.tags.Sublist (Tagging.after (composeEvents p.session.during)).texts ∧
      p.post.tags.length + Tagging.presses (composeEvents p.session.during) =
        (Tagging.after (composeEvents p.session.during)).texts.length := by
  have hrun : (run .ascii anaPublishes).pins.length = 1 := by decide +kernel
  obtain ⟨d, hd⟩ := List.length_eq_one_iff.1 hrun
  exact ⟨d, hd, published_tags .ascii anaPublishes d (hd ▸ List.mem_singleton_self _)⟩

end World

end Sens

import Sens.Purpose.Draft
import Sens.Proof.Session

/-!
# The testimonial

* `step_view`: what an event does to the text view.
* `step_view_iff`: an event keeps the view showing the author's text just when it
  `Keeps` it.
* `after_shows`, `after_shows_iff`: the same over every sequence of events.
* `testimonial_typed_iff`: when a save publishes the author's text.
-/

namespace Sens

namespace AddFeelingViewController

open Runs

variable {F : Foundation} {c c' : AddFeelingViewController} {e : AddFeelingEvent} {w : Writing}

/-- The text view after an event. -/
def viewAfter (v : UITextView) : AddFeelingEvent → UITextView
  | .testimonialTapped => focused v
  | .testimonialEdited location length text => edited location length text v
  | .keyboardDismissed => blurred v
  | _ => v

theorem step_view (h : step F c e = some c') :
    c'.testimonialTextView = viewAfter c.testimonialTextView e := by
  obtain ⟨-, hr⟩ := step_eq_some.1 h
  cases step_effect h with
  | testimonialTapped v => rw [handle, becomeFirstResponder_run] at hr; cases hr; rfl
  | testimonialEdited location length text v => rw [handle, changeText_run] at hr; cases hr; rfl
  | keyboardDismissed v => rw [handle, resignFirstResponder_run] at hr; cases hr; rfl
  | locationTapped b hb alternates ha =>
    obtain ⟨t, u, hf⟩ := locationTapped_frame b alternates
    rw [hf]; rfl
  | _ => rfl

/-- The text view shows the author's text. -/
def Shows (w : Writing) (c : AddFeelingViewController) : Prop :=
  c.testimonialTextView = { text := w.display, isFirstResponder := w.editing }

theorem display_of_editing (hw : w.editing = true) : w.display = w.text := by
  simp [Writing.display, hw]

/-- Entering the text view clears the placeholder, also where the author typed it. -/
theorem focused_display (hw : w.editing = false) :
    focused ⟨w.display, w.editing⟩ = ⟨if w.text = placeholder then "" else w.text, true⟩ := by
  by_cases ht : w.text = ""
  · simp [focused, Writing.display, hw, ht]
  · simp [focused, Writing.display, hw, ht]

/-- Leaving the text view puts the placeholder in place of no text. -/
theorem blurred_display :
    blurred ⟨w.display, w.editing⟩ = ⟨Writing.display { w with editing := false }, false⟩ := by
  cases hw : w.editing <;> simp [blurred, Writing.display, hw]

/-- A line break that is put into a text without one changes it. -/
theorem replaceCharacters_newline_ne {s t : String} (ht : '\n' ∉ t.toList) (location length : ℕ) :
    replaceCharacters s location length "\n" ≠ t := by
  intro h
  rw [← h] at ht
  simp [replaceCharacters] at ht

/-- The return key leaves the view as it shows the text just where it leaves the text. -/
theorem replaceCharacters_display_iff (hw : w.editing = false) (location length : ℕ) :
    replaceCharacters w.display location length "\n" = w.display ↔
      replaceCharacters w.text location length "\n" = w.text := by
  by_cases ht : w.text = ""
  · have hd : w.display = placeholder := by simp [Writing.display, hw, ht]
    rw [hd, ht]
    have h1 := replaceCharacters_newline_ne (s := placeholder) (t := placeholder) (by decide) location length
    have h2 := replaceCharacters_newline_ne (s := "") (t := "") (by decide) location length
    exact iff_of_false h1 h2
  · have hd : w.display = w.text := by simp [Writing.display, ht]
    rw [hd]

/-- **An event keeps the author's text** just when it `Keeps` it. -/
theorem step_view_iff (hs : Shows w c) (h : step F c e = some c') :
    Shows (w.step e) c' ↔ w.Keeps e = true := by
  obtain ⟨hd, -⟩ := step_eq_some.1 h
  unfold Shows at hs ⊢
  rw [step_view h, hs]
  cases e with
  | testimonialTapped =>
    -- a tap finds the text view outside of editing
    have hw : w.editing = false := by simpa [Deliverable, hs] using hd
    rw [viewAfter, focused_display hw, display_of_editing rfl]
    by_cases hp : w.text = placeholder
    · simp [Writing.step, Writing.Keeps, hp, placeholder]
    · simp [Writing.step, Writing.Keeps, hp]
  | testimonialEdited location length text =>
    -- an edit finds it in editing
    have hw : w.editing = true := by
      simp only [Deliverable, hs, Bool.and_eq_true] at hd
      exact hd.1
    by_cases hn : text = "\n"
    · subst hn
      have hk := replaceCharacters_display_iff (w := { w with editing := false }) rfl location length
      simp only [viewAfter, edited, if_true, blurred_display, Writing.step, Writing.Keeps]
      simpa using hk
    · have hw' : (w.step (.testimonialEdited location length text)).editing = true := by
        simp [Writing.step, hn, hw]
      rw [viewAfter, display_of_editing hw, display_of_editing hw']
      simp [edited, Writing.step, Writing.Keeps, hn, hw]
  | keyboardDismissed =>
    rw [viewAfter, blurred_display]
    simp [Writing.step, Writing.Keeps]
  | _ => simp [viewAfter, Writing.step, Writing.Keeps]

section Runs

variable {touched : Option CLLocationCoordinate2D} {user : CLLocationCoordinate2D}
  {es : List AddFeelingEvent}

theorem opened_shows : Shows {} (opened touched user) := rfl

/-- **The text view shows the author's text**, as long as every event keeps it. -/
theorem after_shows (hk : Writing.Kept es) (h : after (step F) (opened touched user) es = some c) :
    Shows (Writing.after es) c := by
  refine after_follows (g := Writing.step) (R := Shows) ?_ opened_shows hk h
  intro w c e c' hs hg he
  exact (step_view_iff hs he).2 hg

/-- The condition is exact: where an event does not keep the text, the view is wrong. -/
theorem after_shows_iff (h : after (step F) (opened touched user) es = some c) :
    (∀ p u, p <+: es → after (step F) (opened touched user) p = some u → Shows (Writing.after p) u) ↔
      Writing.Kept es := by
  refine after_follows_iff (g := Writing.step) (R := Shows) ?_ opened_shows h
  intro w c e c' hs he
  exact step_view_iff hs he

end Runs

end AddFeelingViewController

theorem Writing.display_eq_text_iff {w : Writing} :
    w.display = w.text ↔ w.editing = true ∨ w.text ≠ "" := by
  unfold Writing.display
  split_ifs with h
  · rw [h.2, h.1]
    simp [AddFeelingViewController.placeholder]
  · rw [not_and_or, Bool.not_eq_false] at h
    simp [h]

namespace App

open Runs Session

variable {F : Foundation} {author : AuthUser} {before during : List AppEvent} {opening : AppEvent}
  {touched : Option CLLocationCoordinate2D} {a : App}

/-- **When a save publishes the author's text.** All through a session the view shows the
author's text just when every event keeps it. After such a session a save publishes the text
just when the author is still in the text view or has typed something, and the next event
leaves the view at the author's text just when it keeps it too. -/
theorem testimonial_typed_iff (ho : Opens opening touched) (hd : ∀ e ∈ during, Closes e = false)
    (hrun : run F (some author) (before ++ opening :: during) = some a) :
    ∃ c w user, a.addFeeling = some c ∧ w = Writing.after (composeEvents during) ∧
      lastLocation before = some user ∧
      ((∀ p u, p <+: composeEvents during →
        after (AddFeelingViewController.step F) (AddFeelingViewController.opened touched user) p = some u →
        AddFeelingViewController.Shows (Writing.after p) u) ↔ Writing.Kept (composeEvents during)) ∧
      (Writing.Kept (composeEvents during) →
        (∀ d a', (handle F .saveEmotionPressed).run a = .ok (some d) a' →
          (d.get "testimonial" = some (.string w.text) ↔ w.editing = true ∨ w.text ≠ "")) ∧
        ∀ e c', AddFeelingViewController.step F c e = some c' →
          (AddFeelingViewController.Shows (w.step e) c' ↔ w.Keeps e = true)) := by
  obtain ⟨c, user, hc, hu, hafter, hdraft⟩ := run_draft ho hd hrun
  refine ⟨c, _, user, hc, rfl, hu, AddFeelingViewController.after_shows_iff hafter, fun hkept => ?_⟩
  have hshows := AddFeelingViewController.after_shows hkept hafter
  have hview : c.testimonialTextView.text = (Writing.after (composeEvents during)).display := by
    rw [hshows]
  refine ⟨?_, fun e c' he => AddFeelingViewController.step_view_iff hshows he⟩
  intro d a' hsave
  obtain ⟨userName, l, hl, -, -, rfl⟩ := hdraft d a' hsave
  rw [(AddFeelingViewController.postDocument_stores _).testimonial, ← Writing.display_eq_text_iff,
    ← hview, Option.some_inj]
  exact FieldValue.string_inj

/-- A text that is typed, left and typed on. -/
theorem ana_publishes_her_text : ∃ (a a' : App) (d : Document),
    run .ascii (some ⟨"u1", some "ana@sens"⟩) ([.didUpdateLocations [⟨-8, -35⟩]] ++
      .AddFeelingPressed :: [.compose (.anonSwitched true), .compose .testimonialTapped,
        .compose (.testimonialEdited 0 0 "o"), .compose .keyboardDismissed, .compose .testimonialTapped,
        .compose (.testimonialEdited 1 0 "i")]) = some a ∧
    (handle .ascii .saveEmotionPressed).run a = .ok (some d) a' ∧
    d.get "testimonial" = some (.string "oi") := by
  have hsaved : ((run .ascii (some ⟨"u1", some "ana@sens"⟩) ([.didUpdateLocations [⟨-8, -35⟩]] ++
      .AddFeelingPressed :: [.compose (.anonSwitched true), .compose .testimonialTapped,
        .compose (.testimonialEdited 0 0 "o"), .compose .keyboardDismissed, .compose .testimonialTapped,
        .compose (.testimonialEdited 1 0 "i")])).bind (saved .ascii)).isSome = true := by
    decide +kernel
  obtain ⟨a, d, a', ha, hs⟩ := exists_save hsaved
  obtain ⟨c, w, -, -, rfl, -, -, htyped⟩ := testimonial_typed_iff .added (by decide) ha
  obtain ⟨hsave, -⟩ := htyped (by decide +kernel)
  have hediting := (hsave d a' hs).2 (.inl (by decide +kernel))
  exact ⟨a, a', d, ha, hs, hediting.trans (by decide +kernel)⟩

/-- A draft that nobody wrote in publishes the placeholder. -/
theorem untouched_draft_publishes_placeholder : ¬ ∀ (during : List AppEvent) (a a' : App) (d : Document),
    (∀ e ∈ during, Closes e = false) →
    run .ascii (some ⟨"u1", some "ana@sens"⟩)
      ([.didUpdateLocations [⟨-8, -35⟩]] ++ .AddFeelingPressed :: during) = some a →
    (handle .ascii .saveEmotionPressed).run a = .ok (some d) a' →
    d.get "testimonial" = some (.string (Writing.after (composeEvents during)).text) := by
  intro h
  have := h [.compose (.anonSwitched true)] _ _ _ (by decide) rfl rfl
  exact absurd this (by decide)

end App

end Sens

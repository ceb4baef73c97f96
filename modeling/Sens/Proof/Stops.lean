import Sens.Proof.Reader

/-!
# Where the app stops

`Stops` lists the events on which an app traps: what it can unwrap, cast or index in
vain. `step_eq_none_iff`: in every state that a run reaches, it is these and no others.
-/

namespace Sens

namespace AddFeelingViewController

open Runs

variable {F : Foundation} {c c' : AddFeelingViewController} {e : AddFeelingEvent}
  {touched : Option CLLocationCoordinate2D} {user : CLLocationCoordinate2D}

/-- A displayed cell has the index of its place. -/
def CellsOK (c : AddFeelingViewController) : Prop :=
  ∀ (k : ℕ) (cell : EmotionTagCollectionViewCell), c.tagCells[k]? = some cell → cell.index = k

theorem opened_cellsOK : CellsOK (opened touched user) := by
  intro k cell hk
  cases hk

/-- Only a layout changes the cells. -/
theorem CellsOK.step (hc : c.CellsOK) (h : step F c e = some c') : c'.CellsOK := by
  obtain ⟨-, hr⟩ := step_eq_some.1 h
  cases step_effect h with
  | tagsLaidOut cells =>
    cases hr
    intro k cell hk
    simp only [List.getElem?_mapIdx, Option.map_eq_some_iff] at hk
    obtain ⟨tag, -, rfl⟩ := hk
    rfl
  | locationTapped b hb alternates ha =>
    obtain ⟨t, u, hf⟩ := locationTapped_frame b alternates
    rw [hf]; exact hc
  | _ => exact hc

/-- A displayed cell removes at its place. -/
theorem CellsOK.removeTapped (hcells : c.CellsOK) {cell : ℕ} (hk : cell < c.tagCells.length) :
    (handle F (.tagRemoveTapped cell)).run c = (removeButtonPressed cell).run c := by
  have hget : c.tagCells[cell]? = some c.tagCells[cell] := List.getElem?_eq_getElem hk
  have hidx : c.tagCells[cell].index = cell := hcells cell _ hget
  simp only [handle, EStateM.run_bind, EStateM.run_get, hget, cellRemoveButtonPressed, hidx]
  rw [if_pos (by omega)]
  rfl

/-- The cell whose X is tapped stands past the last tag. -/
def Stops (c : AddFeelingViewController) : AddFeelingEvent → Bool
  | .tagRemoveTapped cell => c.pin.tags.length ≤ cell
  | _ => false

/-- **The compose screen stops** on an X past the last tag, and on nothing else. -/
theorem completes_iff (hcells : c.CellsOK) (hd : c.Deliverable e = true) :
    (handle F e).Completes c ↔ c.Stops e = false := by
  cases e with
  | tagRemoveTapped k =>
    have hk : k < c.tagCells.length := by simpa [Deliverable] using hd
    simp only [Swift.Completes, hcells.removeTapped hk, removeButtonPressed_run, Stops,
      decide_eq_false_iff_not, not_le]
    split_ifs with hlt <;> simp [hlt]
  | emojiTapped sec item =>
    obtain ⟨card, hcard⟩ := Option.isSome_iff_exists.1 hd
    have hrun : (handle F (.emojiTapped sec item)).run c =
        (backButton (card.didSelectItemAt sec item)).run c := by
      simp only [handle, EStateM.run_bind, EStateM.run_get, hcard, Swift.run_unwrap_some]
    exact iff_of_true ⟨(), _, hrun.trans (backButton_run hcard _)⟩ rfl
  | emojiBackPressed =>
    obtain ⟨card, hcard⟩ := Option.isSome_iff_exists.1 hd
    exact iff_of_true ⟨(), _, backButton_run hcard none⟩ rfl
  | colorTapped item =>
    have hi : item < colors.length := by simpa [Deliverable] using hd
    have hrun : (handle F (.colorTapped item)).run c =
        .ok () { c with selectedColors := [item], pin.color := colors[item] } := by
      simp only [handle, colorSelected, EStateM.run_bind, EStateM.run_modify,
        Swift.run_index_of_getElem? (List.getElem?_eq_getElem hi)]
    exact iff_of_true ⟨(), _, hrun⟩ rfl
  | testimonialTapped => exact iff_of_true ⟨(), _, becomeFirstResponder_run c⟩ rfl
  | testimonialEdited location length text =>
    exact iff_of_true ⟨(), _, changeText_run c location length text⟩ rfl
  | keyboardDismissed => exact iff_of_true ⟨(), _, resignFirstResponder_run c⟩ rfl
  | _ => exact iff_of_true ⟨(), _, rfl⟩ rfl

/-- A save that finds a name and a location in range, and no other, returns. -/
theorem save_completes_iff {author : User} {id : String} (hid : author._id = some id) :
    (saveEmotionPressed author).Completes c ↔ (c.displayName author).isSome = true ∧
      c.chosenLocation.any (fun l => decide l.InRange) = true := by
  simp only [Swift.Completes, save_iff, hid, Option.isSome_iff_exists, Option.any_eq_true, decide_eq_true_eq]
  constructor
  · rintro ⟨d, -, userName, l, hl, -, hn, hcl, -⟩
    exact ⟨⟨userName, hn⟩, l, hcl, hl⟩
  · rintro ⟨⟨userName, hn⟩, l, hcl, hl⟩
    exact ⟨_, id, userName, l, hl, rfl, hn, hcl, rfl⟩

end AddFeelingViewController

namespace App

open Runs

variable {F : Foundation} {currentUser : Option AuthUser} {es : List AppEvent} {a a' : App} {e : AppEvent}

/-- The events on which the app stops: a document or a profile that cannot be read, a
compose screen that is opened without a location, an X past the last tag, and a save
without a name or with a location out of range. -/
def Stops (a : App) : AppEvent → Bool
  | .pinsAnswered _ (some documents) => documents.any (·.data.emotionPin?.isNone)
  | .profileAnswered (some documents) => (documents.head?.bind Document.profile?).isNone
  | .tapGesture .began _ | .AddFeelingPressed => a.home.userLocation.isNone
  | .compose e => a.addFeeling.any (·.Stops e)
  | .saveEmotionPressed => a.addFeeling.any fun c =>
      !((c.displayName a.home.user).isSome && c.chosenLocation.any fun l => decide l.InRange)
  | _ => false

theorem step_eq_none (hd : a.Deliverable e = true) : step F a e = none ↔ ¬ (handle F e).Completes a := by
  unfold step Swift.Completes
  rw [if_pos hd]
  cases hr : (handle F e).run a with
  | ok d s => simp
  | error t s => simp

theorem Effect.cellsOK {d : Option Document} (h : Effect F a e d a')
    (hcells : ∀ c, a.addFeeling = some c → c.CellsOK) : ∀ c, a'.addFeeling = some c → c.CellsOK := by
  intro c hc
  cases h with
  | tapped newCoordinate user ha hu => cases hc; exact AddFeelingViewController.opened_cellsOK
  | added user ha hu => cases hc; exact AddFeelingViewController.opened_cellsOK
  | composed e c₀ c' hc₀ hs => cases hc; exact (hcells c₀ hc₀).step hs
  | saved c₀ c' d hc₀ hs => cases hc
  | cancelled => cases hc
  | _ => exact hcells c hc

/-- **The cells of an open compose screen** have the indices of their places, in every run. -/
theorem run_cellsOK (h : run F currentUser es = some a) :
    ∀ c, a.addFeeling = some c → c.CellsOK :=
  run_invariant (P := fun _ a => ∀ c, a.addFeeling = some c → c.CellsOK)
    (fun _ _ c hc => by cases hc) (fun _ _ _ _ _ _ hP he => he.cellsOK hP) es a h

theorem run_hasId (h : run F currentUser es = some a) : ∃ id, a.home.user._id = some id := by
  obtain ⟨uid, email, rfl, -⟩ := run_eq_some.1 h
  exact ⟨uid, run_id h⟩

/-- **The app completes an event** exactly when it does not stop on it. -/
theorem completes_iff (hcells : ∀ c, a.addFeeling = some c → c.CellsOK)
    (hid : ∃ id, a.home.user._id = some id)
    (hd : a.Deliverable e = true) : (handle F e).Completes a ↔ a.Stops e = false := by
  have hret : ∀ (d : Option Document) (u : App), (pure d : Swift App (Option Document)).Completes u :=
    fun d u => ⟨d, u, rfl⟩
  cases e with
  | pinsAnswered query answer =>
    cases answer with
    | none => exact iff_of_true ⟨_, _, rfl⟩ rfl
    | some documents =>
      rw [handle, Swift.completes_modify_bind, Swift.completes_bind fun _ u => hret none u, onHome,
        Swift.completes_focus]
      simp only [Stops, ← Decode.mapM_isSome]
      constructor
      · rintro ⟨⟨⟩, h', hr⟩
        obtain ⟨ps, hps, -⟩ := HomeViewController.pinsCompletion_eq_ok.1 hr
        exact ⟨ps, hps⟩
      · rintro ⟨ps, hps⟩
        exact ⟨(), _, HomeViewController.pinsCompletion_eq_ok.2 ⟨ps, hps, rfl⟩⟩
  | profileAnswered answer =>
    cases answer with
    | none => exact iff_of_true ⟨_, _, rfl⟩ rfl
    | some documents =>
      rw [handle, Swift.completes_modify_bind, Swift.completes_bind fun _ u => hret none u, onUser,
        Swift.completes_focus]
      simp only [Stops, Option.isNone_eq_false_iff, Option.isSome_iff_exists]
      constructor
      · rintro ⟨⟨⟩, u', hr⟩
        obtain ⟨p, hp, -⟩ := HomeViewController.profileCompletion_eq_ok.1 hr
        exact ⟨p, hp⟩
      · rintro ⟨p, hp⟩
        exact ⟨(), _, HomeViewController.profileCompletion_eq_ok.2 ⟨p, hp, rfl⟩⟩
  | tapGesture state newCoordinate =>
    rw [handle, Swift.completes_bind fun c u => ?_, onHome, Swift.completes_focus]
    · by_cases hs : state = .began
      · subst hs
        cases hu : a.home.userLocation with
        | none => simp [Swift.Completes, tapGesture_error hu, Stops, hu]
        | some user => simp [Swift.Completes, tapGesture_run hu, Stops, hu]
      · cases state with
        | began => exact absurd rfl hs
        | _ => exact iff_of_true ⟨none, _, rfl⟩ rfl
    · cases c <;> exact ⟨none, _, rfl⟩
  | AddFeelingPressed =>
    rw [handle, Swift.completes_bind fun c u => ?_, onHome, Swift.completes_focus]
    · cases hu : a.home.userLocation with
      | none => simp [Swift.Completes, AddFeelingPressed_error hu, Stops, hu]
      | some user => simp [Swift.Completes, AddFeelingPressed_run hu, Stops, hu]
    · exact ⟨none, _, rfl⟩
  | viewFor annotation dequeued =>
    rw [handle, Swift.completes_bind fun _ u => hret none u, onHome, Swift.completes_focus]
    refine iff_of_true ?_ rfl
    cases annotation with
    | userLocation => exact ⟨_, _, rfl⟩
    | point r =>
      cases dequeued with
      | none => exact ⟨_, _, HomeViewController.viewFor_fresh a.home r⟩
      | some w => exact ⟨_, _, HomeViewController.viewFor_recycled a.home r w⟩
  | calloutTapped view control =>
    have hrun : (onHome (HomeViewController.calloutAccessoryControlTapped F (a.home.views.read view)
        control)).Completes a :=
      Swift.completes_focus.2 ⟨_, _, HomeViewController.calloutTapped_run a.home _ control⟩
    exact iff_of_true ((Swift.completes_bind fun _ u => hret none u).2 hrun) rfl
  | compose e =>
    obtain ⟨c, hc, hde⟩ : ∃ c, a.addFeeling = some c ∧ c.Deliverable e = true := by
      simpa [Deliverable, Option.any_eq_true] using hd
    rw [handle, Swift.completes_bind fun _ u => hret none u, Stops, hc, Option.any_some,
      ← AddFeelingViewController.completes_iff (F := F) (hcells c hc) hde]
    simp only [Swift.Completes, onAddFeeling_run hc]
    cases (AddFeelingViewController.handle F e).run c <;> simp
  | saveEmotionPressed =>
    obtain ⟨c, hc⟩ := Option.isSome_iff_exists.1 hd
    obtain ⟨id, hid⟩ := hid
    have hsave := AddFeelingViewController.save_completes_iff (c := c) hid
    simp only [Stops, hc, Option.any_some, Bool.not_eq_false', Bool.and_eq_true]
    rw [← hsave]
    simp only [Swift.Completes, handle, EStateM.run_bind, EStateM.run_get, onAddFeeling_run hc]
    cases (AddFeelingViewController.saveEmotionPressed a.home.user).run c <;> simp
  | didUpdateLocations locations =>
    rw [handle, Swift.completes_bind fun _ u => hret none u, onHome, Swift.completes_focus,
      HomeViewController.didUpdateLocations]
    refine iff_of_true ?_ rfl
    cases locations.getLast? <;> exact ⟨(), _, rfl⟩
  | _ => exact iff_of_true ⟨_, _, rfl⟩ rfl

/-- **Where the app stops**: in every state that a run reaches, an event that is delivered
stops the app exactly when it is one of those. -/
theorem run_stops_iff (h : run F currentUser es = some a) (hd : a.Deliverable e = true) :
    step F a e = none ↔ a.Stops e = true := by
  rw [step_eq_none hd, completes_iff (run_cellsOK h) (run_hasId h) hd, Bool.not_eq_false]

/-- The second X of one touch, when one tag is left. -/
theorem second_press_stops_iff : ∃ a, run .ascii (some ⟨"u1", some "ana@sens"⟩)
      [.didUpdateLocations [⟨-8, -35⟩], .AddFeelingPressed, .compose (.tagTextEdited "paz"),
        .compose .addEmotionTagPressed, .compose (.tagTextEdited "sol"), .compose .addEmotionTagPressed,
        .compose .tagsLaidOut, .compose (.tagRemoveTapped 0)] = some a ∧
    (step .ascii a (.compose (.tagRemoveTapped 1)) = none ↔
      a.Stops (.compose (.tagRemoveTapped 1)) = true) := by
  have hrun : ((run .ascii (some ⟨"u1", some "ana@sens"⟩)
      [.didUpdateLocations [⟨-8, -35⟩], .AddFeelingPressed, .compose (.tagTextEdited "paz"),
        .compose .addEmotionTagPressed, .compose (.tagTextEdited "sol"), .compose .addEmotionTagPressed,
        .compose .tagsLaidOut, .compose (.tagRemoveTapped 0)]).map fun a =>
      a.Deliverable (.compose (.tagRemoveTapped 1))) = some true := by decide +kernel
  obtain ⟨a, ha, hd⟩ := Option.map_eq_some_iff.1 hrun
  exact ⟨a, ha, run_stops_iff ha hd⟩

end App

end Sens

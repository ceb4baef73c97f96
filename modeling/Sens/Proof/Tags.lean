import Mathlib.Data.List.InsertIdx
import Sens.Purpose.Draft
import Sens.Lib.Removal
import Sens.Proof.Session

/-!
# The tags of a draft

* `Tagging.OK`, `Tagging.OK.step`: the tags that an author means are all different
  occurrences.
* `Tagging.fits_iff`: a press fits just when the index of its cell removes what the
  cell shows.
* `Follows`, `step_follows_iff`: an event keeps the draft at the author's tags just
  when it `Keeps` them.
* `after_follows_tagging`, `after_follows_tagging_iff`: the same over every sequence of
  events.
* `removes_shown_iff`: when an X removes the tag that its cell shows.
-/

namespace Sens

namespace Tagging

variable {t : Tagging} {o : Occurrence} {cell : ℕ}

/-! ## Occurrences -/

/-- The added tags are numbered in order; only tags that were added are shown, and only
tags that were shown are pressed. -/
structure OK (t : Tagging) : Prop where
  numbers : t.added.map (·.number) = List.range t.added.length
  pressed : t.pressed ⊆ t.added
  shown : t.shown ⊆ t.added

theorem ok_empty : OK {} := ⟨rfl, List.nil_subset _, List.nil_subset _⟩

theorem OK.step (ht : t.OK) (e : AddFeelingEvent) : (t.step e).OK := by
  cases e with
  | addEmotionTagPressed =>
    unfold Tagging.step
    split_ifs with hb
    · exact ht
    · refine ⟨?_, ?_, ?_⟩
      · simp [ht.numbers, List.range_succ]
      · exact fun o ho => List.mem_append_left _ (ht.pressed ho)
      · exact fun o ho => List.mem_append_left _ (ht.shown ho)
  | tagsLaidOut => exact { ht with shown := fun o ho => List.mem_of_mem_filter ho }
  | tagRemoveTapped cell =>
    refine { ht with pressed := fun o ho => ?_ }
    rcases List.mem_append.1 ho with ho | ho
    · exact ht.pressed ho
    · exact ht.shown (List.mem_of_getElem? (Option.mem_toList.1 ho))
  | _ => exact { ht with }

theorem OK.nodup (ht : t.OK) : t.added.Nodup :=
  List.Nodup.of_map (·.number) (ht.numbers ▸ List.nodup_range)

theorem OK.number_lt (ht : t.OK) (ho : o ∈ t.added) : o.number < t.added.length := by
  rw [← List.mem_range, ← ht.numbers]
  exact List.mem_map_of_mem ho

theorem OK.tags_added (ht : t.OK) (hb : trimmingCharacters t.field ≠ "") :
    (t.step .addEmotionTagPressed).tags = t.tags ++ [⟨t.added.length, t.field⟩] := by
  have hnew : (⟨t.added.length, t.field⟩ : Occurrence) ∉ t.pressed := fun h =>
    lt_irrefl _ (ht.number_lt (ht.pressed h))
  simp [Tagging.step, tags, hb, hnew]

theorem OK.tags_pressed (ht : t.OK) (ho : t.shown[cell]? = some o) :
    (t.step (.tagRemoveTapped cell)).tags = t.tags.eraseIdx (t.tags.idxOf o) := by
  simp only [Tagging.step, ho, Option.toList_some]
  exact Removal.filter_not_mem_concat ht.nodup

/-! ## Presses -/

/-- **A press fits** just when the index of its cell removes the tag that it shows. -/
theorem fits_iff (ho : t.shown[cell]? = some o) :
    t.Fits cell ↔ cell < t.tags.length ∧
      (t.tags.eraseIdx cell).map (·.text) = (t.tags.eraseIdx (t.tags.idxOf o)).map (·.text) := by
  have hfits : t.Fits cell ↔ o ∈ t.tags ∧ ∀ i ≤ max (t.tags.idxOf o) cell,
      min (t.tags.idxOf o) cell ≤ i → t.tags[i]?.map (·.text) = some o.text := by
    simp [Fits, ho]
  rw [hfits]
  by_cases hmem : o ∈ t.tags
  · have hget : (t.tags.map (·.text))[t.tags.idxOf o]? = some o.text := by
      rw [List.getElem?_map, List.getElem?_idxOf hmem]; rfl
    rw [← List.eraseIdx_map, ← List.eraseIdx_map, eq_comm (a := List.eraseIdx _ cell),
      Removal.eraseIdx_eq_eraseIdx_iff, hget]
    simp only [List.getElem?_map]
    constructor
    · rintro ⟨-, h⟩
      have hcell := h cell (le_max_right _ _) (min_le_right _ _)
      obtain ⟨o', ho', -⟩ := Option.map_eq_some_iff.1 hcell
      exact ⟨(List.getElem?_eq_some_iff.1 ho').1, h⟩
    · rintro ⟨-, h⟩
      exact ⟨hmem, h⟩
  · -- the tag is gone, and nothing is to be removed
    rw [List.idxOf_eq_length hmem, List.eraseIdx_of_length_le le_rfl]
    constructor
    · rintro ⟨h, -⟩
      exact absurd h hmem
    · rintro ⟨hlt, h⟩
      have := congrArg List.length h
      rw [List.length_map, List.length_map, List.length_eraseIdx_of_lt hlt] at this
      omega

end Tagging

namespace AddFeelingViewController

open Runs

variable {F : Foundation} {c c' : AddFeelingViewController} {e : AddFeelingEvent} {t : Tagging}
  {cell : ℕ}

/-- The draft is at the author's tags. -/
structure Follows (F : Foundation) (t : Tagging) (c : AddFeelingViewController) : Prop where
  ok : t.OK
  field : c.tagTextField = t.field
  tags : c.pin.tags = t.tags.map (·.text)
  cells : c.tagCells = t.shown.mapIdx fun i o => { index := i, labelEmotionCell := F.capitalized o.text }

theorem opened_follows {touched : Option CLLocationCoordinate2D} {user : CLLocationCoordinate2D} :
    Follows F {} (opened touched user) := ⟨Tagging.ok_empty, rfl, rfl, rfl⟩

/-- A cell removes at the index that it was configured with. -/
theorem Follows.step_remove (hs : Follows F t c) (hcell : cell < c.tagCells.length) :
    step F c (.tagRemoveTapped cell) = if cell < t.tags.length then
      some { c with pin.tags := (t.tags.map (·.text)).eraseIdx cell } else none := by
  have hlt : cell < t.shown.length := by rw [hs.cells] at hcell; simpa using hcell
  have hget : c.tagCells[cell]? =
      some ⟨cell, F.capitalized t.shown[cell].text⟩ := by
    rw [hs.cells]; simp [hlt]
  have hrun : (handle F (.tagRemoveTapped cell)).run c = (removeButtonPressed cell).run c := by
    simp only [handle, EStateM.run_bind, EStateM.run_get, hget, cellRemoveButtonPressed]
    rw [if_pos (by omega)]; rfl
  have hdel : c.Deliverable (.tagRemoveTapped cell) = true := by simpa [Deliverable] using hcell
  unfold step
  rw [if_pos hdel, hrun, removeButtonPressed_run, hs.tags, List.length_map]
  split_ifs <;> rfl

/-- **An X removes the tag that its cell shows**, and nothing else, just when it fits. -/
theorem Follows.removes_iff (hs : Follows F t c) (hcell : cell < c.tagCells.length) :
    (∃ c', step F c (.tagRemoveTapped cell) = some c' ∧
      c'.pin.tags = (t.step (.tagRemoveTapped cell)).tags.map (·.text)) ↔ t.Fits cell := by
  obtain ⟨o, ho⟩ : ∃ o, t.shown[cell]? = some o := by
    rw [hs.cells, List.length_mapIdx] at hcell
    exact ⟨_, List.getElem?_eq_getElem hcell⟩
  rw [hs.step_remove hcell, Tagging.fits_iff ho, hs.ok.tags_pressed ho, List.eraseIdx_map]
  split_ifs with hlt <;> simp [hlt]

theorem Follows.press_iff (hs : Follows F t c) (h : step F c (.tagRemoveTapped cell) = some c') :
    Follows F (t.step (.tagRemoveTapped cell)) c' ↔ t.Fits cell := by
  have hcell : cell < c.tagCells.length := by simpa [Deliverable] using (step_eq_some.1 h).1
  rw [← hs.removes_iff hcell]
  constructor
  · intro hf
    exact ⟨c', h, hf.tags⟩
  · rintro ⟨c'', h', ht⟩
    rw [h] at h'; cases h'
    rw [hs.step_remove hcell] at h
    split_ifs at h
    cases h
    exact ⟨hs.ok.step _, hs.field, ht, hs.cells⟩

/-- **An event keeps the author's tags** just when it `Keeps` them. -/
theorem step_follows_iff (hs : Follows F t c) (h : step F c e = some c') :
    Follows F (t.step e) c' ↔ t.Keeps e = true := by
  have hok := hs.ok.step e
  obtain ⟨-, hr⟩ := step_eq_some.1 h
  cases step_effect h with
  | tagText text => exact iff_of_true ⟨hok, rfl, hs.tags, hs.cells⟩ rfl
  | tagAdded hb =>
    have hb' : trimmingCharacters t.field ≠ "" := hs.field ▸ hb
    refine iff_of_true ⟨hok, ?_, ?_, ?_⟩ rfl
    · simp [Tagging.step, hb']
    · rw [hs.ok.tags_added hb', hs.tags, hs.field, List.map_append]; rfl
    · simp [Tagging.step, hb', hs.cells]
  | tagBlank hb =>
    have hb' : trimmingCharacters t.field = "" := hs.field ▸ hb
    have ht : t.step .addEmotionTagPressed = t := if_pos hb'
    rw [ht]
    exact iff_of_true hs rfl
  | tagsLaidOut cells =>
    cases hr
    refine iff_of_true ⟨hok, hs.field, hs.tags, ?_⟩ rfl
    rw [hs.tags]
    exact List.ext_getElem? fun i => by simp [Tagging.step, Function.comp_def]
  | tagRemoved k i hi => exact (hs.press_iff h).trans decide_eq_true_iff.symm
  | tagKept k => exact (hs.press_iff h).trans decide_eq_true_iff.symm
  | locationTapped b hb alternates ha =>
    obtain ⟨_, _, hf⟩ := locationTapped_frame b alternates
    rw [hf]
    exact iff_of_true ⟨hok, hs.field, hs.tags, hs.cells⟩ rfl
  | _ => exact iff_of_true ⟨hok, hs.field, hs.tags, hs.cells⟩ rfl

section Runs

variable {touched : Option CLLocationCoordinate2D} {user : CLLocationCoordinate2D}
  {es : List AddFeelingEvent}

/-- **The draft is at the author's tags**, as long as every press fits. -/
theorem after_follows_tagging (hk : Tagging.Kept es)
    (h : after (step F) (opened touched user) es = some c) : Follows F (Tagging.after es) c := by
  refine after_follows (g := Tagging.step) (R := Follows F) ?_ opened_follows hk h
  intro t c e c' hs hg he
  exact (step_follows_iff hs he).2 hg

/-- The condition is exact: after a press that does not fit, the tags are wrong. -/
theorem after_follows_tagging_iff (h : after (step F) (opened touched user) es = some c) :
    (∀ p u, p <+: es → after (step F) (opened touched user) p = some u →
      Follows F (Tagging.after p) u) ↔ Tagging.Kept es := by
  refine after_follows_iff (g := Tagging.step) (R := Follows F) ?_ opened_follows h
  intro t c e c' hs he
  exact step_follows_iff hs he

end Runs

end AddFeelingViewController

namespace App

open Runs Session

variable {F : Foundation} {author : AuthUser} {before during : List AppEvent} {opening : AppEvent}
  {touched : Option CLLocationCoordinate2D} {a : App}

/-- **The tags of a session.** All through it the draft is at the author's tags just when every
press fits. After such a session the tags are those added, in order, but those whose X was
pressed, in the draft and in every document of it. The next press removes what its cell shows
just when it fits too; otherwise it removes another tag or traps. -/
theorem removes_shown_iff (ho : Opens opening touched) (hd : ∀ e ∈ during, Closes e = false)
    (hrun : run F (some author) (before ++ opening :: during) = some a) :
    ∃ c t user, a.addFeeling = some c ∧ t = Tagging.after (composeEvents during) ∧
      lastLocation before = some user ∧
      ((∀ p u, p <+: composeEvents during →
        after (AddFeelingViewController.step F) (AddFeelingViewController.opened touched user) p = some u →
        AddFeelingViewController.Follows F (Tagging.after p) u) ↔ Tagging.Kept (composeEvents during)) ∧
      (Tagging.Kept (composeEvents during) →
        c.pin.tags = t.tags.map (·.text) ∧
        c.tagCells.map (·.labelEmotionCell) = t.shown.map (fun o => F.capitalized o.text) ∧
        (∀ d a', (handle F .saveEmotionPressed).run a = .ok (some d) a' →
          d.get "tags" = some (.strings (t.tags.map (·.text)))) ∧
        ∀ cell < c.tagCells.length,
          (∃ c', AddFeelingViewController.step F c (.tagRemoveTapped cell) = some c' ∧
            c'.pin.tags = (t.step (.tagRemoveTapped cell)).tags.map (·.text)) ↔ t.Fits cell) := by
  obtain ⟨c, user, hc, hu, hafter, hdraft⟩ := run_draft ho hd hrun
  refine ⟨c, _, user, hc, rfl, hu, AddFeelingViewController.after_follows_tagging_iff hafter, fun hkept => ?_⟩
  have hs := AddFeelingViewController.after_follows_tagging hkept hafter
  refine ⟨hs.tags, ?_, ?_, fun cell hcell => hs.removes_iff hcell⟩
  · rw [hs.cells]
    exact List.ext_getElem? fun i => by simp [Function.comp_def]
  · intro d a' hsave
    obtain ⟨userName, l, hl, -, -, rfl⟩ := hdraft d a' hsave
    rw [(AddFeelingViewController.postDocument_stores _).tags, AddFeelingViewController.post, hs.tags]

/-- Two tags are added and laid out. -/
def twoTags : List AppEvent :=
  [.compose (.tagTextEdited "paz"), .compose .addEmotionTagPressed, .compose (.tagTextEdited "sol"),
    .compose .addEmotionTagPressed, .compose .tagsLaidOut]

/-- The second of two tags is removed. -/
theorem ana_keeps_first_tag : ∃ (a : App) (c : AddFeelingViewController),
    run .ascii (some ⟨"u1", some "ana@sens"⟩) ([.didUpdateLocations [⟨-8, -35⟩]] ++
      .AddFeelingPressed :: (twoTags ++ [.compose (.tagRemoveTapped 1)])) = some a ∧
    a.addFeeling = some c ∧ c.pin.tags = ["paz"] := by
  have hrun : (run .ascii (some ⟨"u1", some "ana@sens"⟩) ([.didUpdateLocations [⟨-8, -35⟩]] ++
      .AddFeelingPressed :: (twoTags ++ [.compose (.tagRemoveTapped 1)]))).isSome = true := by
    decide +kernel
  obtain ⟨a, ha⟩ := Option.isSome_iff_exists.1 hrun
  obtain ⟨c, t, -, hc, rfl, -, -, hkept⟩ := removes_shown_iff .added (by decide) ha
  obtain ⟨htags, -⟩ := hkept (by decide +kernel)
  exact ⟨a, c, ha, hc, htags.trans (by decide +kernel)⟩

/-- Two tags, and the two X in one touch: the second press is out of range. -/
theorem second_press_traps : ¬ ∀ (during : List AppEvent) (a : App) (c : AddFeelingViewController)
    (cell : ℕ), (∀ e ∈ during, Closes e = false) →
    run .ascii (some ⟨"u1", some "ana@sens"⟩)
      ([.didUpdateLocations [⟨-8, -35⟩]] ++ .AddFeelingPressed :: during) = some a →
    a.addFeeling = some c → cell < c.tagCells.length →
    ∃ c', AddFeelingViewController.step .ascii c (.tagRemoveTapped cell) = some c' ∧ c'.pin.tags =
      ((Tagging.after (composeEvents during)).step (.tagRemoveTapped cell)).tags.map (·.text) := by
  intro h
  have hrun : ((run .ascii (some ⟨"u1", some "ana@sens"⟩) ([.didUpdateLocations [⟨-8, -35⟩]] ++
      .AddFeelingPressed :: (twoTags ++ [.compose (.tagRemoveTapped 0)]))).bind fun a =>
      a.addFeeling.map fun c => (c.tagCells.length,
        (AddFeelingViewController.step .ascii c (.tagRemoveTapped 1)).isSome)) = some (2, false) := by
    decide +kernel
  obtain ⟨a, ha, hc⟩ := Option.bind_eq_some_iff.1 hrun
  obtain ⟨c, hc, hv⟩ := Option.map_eq_some_iff.1 hc
  obtain ⟨hlen, htrap⟩ := Prod.mk.inj hv
  obtain ⟨c', hc', -⟩ := h _ a c 1 (by decide) ha hc (by rw [hlen]; decide)
  rw [hc'] at htrap
  cases htrap

end App

end Sens

import Mathlib.Data.List.Nodup
import Sens.Purpose.Search

/-!
# Overlapping searches

* `Effect`, `step_effect`: what each event can do.
* `SearchOK`, `run_ok`: a search is answered once at most, and none before it is
  started.
* `run_matchingItems`: the table shows the last answer to arrive.
* `newest_shown_iff`: when that is the answer to the newest query.
* `rows_answer_one_query`: the rows answer one query that was typed, newest or not.
-/

namespace Sens

namespace LocationSearchTableViewController

open Runs Search

variable {s s' : LocationSearchTableViewController} {e : SearchEvent} {es : List SearchEvent}

/-! ## One event -/

/-- **What an event can do.** -/
inductive Effect (s : LocationSearchTableViewController) :
    SearchEvent → LocationSearchTableViewController → Prop
  | regionChanged (region : MKCoordinateRegion) :
      Effect s (.regionChanged region) { s with mapView := some region }
  | started (region : MKCoordinateRegion) (text : String) (hm : s.mapView = some region) :
      Effect s (.updateSearchResults (some text)) { s with
        searches := s.searches ++ [⟨text, region⟩]
        outstanding := s.outstanding ++ [s.searches.length] }
  | notStarted (text : Option String) : Effect s (.updateSearchResults text) s
  | failed (search : ℕ) (hs : search ∈ s.outstanding) : Effect s (.completed search none)
      { s with outstanding := s.outstanding.erase search }
  | loaded (search : ℕ) (mapItems : List MKMapItem) (hs : search ∈ s.outstanding) :
      Effect s (.completed search (some mapItems))
        { s with outstanding := s.outstanding.erase search, matchingItems := mapItems }
  | selected (row : ℕ) : Effect s (.didSelectRowAt row) s

theorem updateSearchResults_run {region : MKCoordinateRegion} (hm : s.mapView = some region) (text : String) :
    (updateSearchResults (some text)).run s = .ok () { s with
      searches := s.searches ++ [⟨text, region⟩]
      outstanding := s.outstanding ++ [s.searches.length] } := by
  simp [updateSearchResults, hm]

theorem updateSearchResults_none {text : Option String} (h : s.mapView = none ∨ text = none) :
    (updateSearchResults text).run s = .ok () s := by
  rcases h with hm | rfl
  · simp [updateSearchResults, hm]
  · simp [updateSearchResults]

theorem step_effect (h : step s e = some s') : Effect s e s' := by
  unfold step at h
  split_ifs at h with hd
  cases e with
  | regionChanged region => cases h; exact .regionChanged region
  | updateSearchResults text =>
    cases hm : s.mapView with
    | none =>
      rw [handle, updateSearchResults_none (Or.inl hm)] at h
      cases h; exact .notStarted text
    | some region => cases text with
      | none =>
        rw [handle, updateSearchResults_none (Or.inr rfl)] at h
        cases h; exact .notStarted none
      | some text =>
        rw [handle, updateSearchResults_run hm] at h
        cases h; exact .started region text hm
  | completed search response =>
    have hs : search ∈ s.outstanding := by simpa [Deliverable] using hd
    cases response with
    | none => cases h; exact .failed search hs
    | some mapItems => cases h; exact .loaded search mapItems hs
  | didSelectRowAt row =>
    have hr : row < s.matchingItems.length := of_decide_eq_true hd
    have hi := fun t : LocationSearchTableViewController =>
      Swift.run_index_of_getElem? (List.getElem?_eq_getElem hr) t
    simp only [handle, didSelectRowAt, EStateM.run_bind, EStateM.run_get, hi] at h
    cases h; exact .selected row

/-! ## Every search is answered once -/

/-- The invariant of the searches, after the events `es`. -/
structure SearchOK (es : List SearchEvent) (s : LocationSearchTableViewController) : Prop where
  lt : ∀ q ∈ s.outstanding, q < s.searches.length
  nodup : s.outstanding.Nodup
  unanswered : ∀ q, q ∈ s.outstanding ∨ s.searches.length ≤ q → es.filterMap (answerTo q) = []
  once : ∀ q, (es.filterMap (answerTo q)).length ≤ 1

/-- An event that answers no search keeps what was answered. -/
theorem answers_concat (he : ∀ q, answerTo q e = none) (q : ℕ) :
    (es ++ [e]).filterMap (answerTo q) = es.filterMap (answerTo q) := by
  simp [he q]

/-- An event that neither starts nor answers a search. -/
theorem SearchOK.other (h : SearchOK es s) (he : ∀ q, answerTo q e = none)
    (hs : s'.searches = s.searches) (ho : s'.outstanding = s.outstanding) :
    SearchOK (es ++ [e]) s' := by
  have hans : ∀ q, (es ++ [e]).filterMap (answerTo q) = es.filterMap (answerTo q) := answers_concat he
  constructor
  · rw [hs, ho]; exact h.lt
  · rw [ho]; exact h.nodup
  · intro q hq
    rw [hs, ho] at hq
    rw [hans]; exact h.unanswered q hq
  · intro q
    rw [hans]; exact h.once q

/-- A search that is started gets a number of its own. -/
theorem SearchOK.started (h : SearchOK es s) (text : String) (region : MKCoordinateRegion) :
    SearchOK (es ++ [.updateSearchResults (some text)]) { s with
      searches := s.searches ++ [⟨text, region⟩]
      outstanding := s.outstanding ++ [s.searches.length] } := by
  have hans : ∀ q, (es ++ [SearchEvent.updateSearchResults (some text)]).filterMap (answerTo q) =
      es.filterMap (answerTo q) := answers_concat fun _ => rfl
  have hlen : (s.searches ++ [SearchRequest.mk text region]).length = s.searches.length + 1 := by simp
  constructor
  · intro q hq
    rw [hlen]
    rcases List.mem_append.1 hq with hq | hq
    · have := h.lt q hq
      omega
    · rw [List.mem_singleton.1 hq]; omega
  · refine List.nodup_append.2 ⟨h.nodup, List.nodup_singleton _, ?_⟩
    rintro q hq r hr rfl
    -- the new number is not below the number of searches
    have := h.lt q hq
    have := List.mem_singleton.1 hr
    omega
  · intro q hq
    rw [hans]
    refine h.unanswered q ?_
    rcases hq with hq | hq
    · rcases List.mem_append.1 hq with hq | hq
      · exact Or.inl hq
      · exact Or.inr (List.mem_singleton.1 hq).ge
    · rw [hlen] at hq
      right; omega
  · intro q
    rw [hans]; exact h.once q

/-- An answer to `search` is the first one, and closes it. -/
theorem SearchOK.completed {search : ℕ} {response : Option (List MKMapItem)} {l : List MKMapItem}
    (h : SearchOK es s) (hs : search ∈ s.outstanding) :
    SearchOK (es ++ [.completed search response])
      { s with outstanding := s.outstanding.erase search, matchingItems := l } := by
  have hself : (es ++ [SearchEvent.completed search response]).filterMap (answerTo search) = [response] := by
    simp [h.unanswered search (Or.inl hs), answerTo]
  have hother : ∀ q, q ≠ search → (es ++ [SearchEvent.completed search response]).filterMap (answerTo q) =
      es.filterMap (answerTo q) := by
    intro q hq
    simp [answerTo, Ne.symm hq]
  constructor
  · intro q hq
    exact h.lt q (List.mem_of_mem_erase hq)
  · exact h.nodup.erase search
  · intro q hq
    -- `search` itself is started and no longer outstanding
    have hne : q ≠ search := by
      rintro rfl
      have hlt := h.lt q hs
      rcases hq with hq | hq
      · exact h.nodup.not_mem_erase hq
      · have : s.searches.length ≤ q := hq
        omega
    rw [hother q hne]
    exact h.unanswered q (hq.imp_left List.mem_of_mem_erase)
  · intro q
    by_cases hq : q = search
    · subst hq; rw [hself]; exact le_rfl
    · rw [hother q hq]; exact h.once q

theorem SearchOK.step (h : SearchOK es s) (he : Effect s e s') : SearchOK (es ++ [e]) s' := by
  cases he with
  | regionChanged region => exact h.other (fun _ => rfl) rfl rfl
  | started region text hm => exact h.started text region
  | notStarted text => exact h.other (fun _ => rfl) rfl rfl
  | failed search hs => exact h.completed hs
  | loaded search mapItems hs => exact h.completed hs
  | selected row => exact h.other (fun _ => rfl) rfl rfl

theorem searchOK_nil : SearchOK [] {} where
  lt _ hq := absurd hq List.not_mem_nil
  nodup := List.nodup_nil
  unanswered _ _ := rfl
  once _ := Nat.zero_le 1

/-- **A search is answered once at most**, in every run. -/
theorem run_ok (h : run es = some s) : SearchOK es s :=
  after_invariant searchOK_nil (fun _ _ _ _ _ hu he => hu.step (step_effect he)) es s h

/-! ## What the table shows -/

/-- **The table shows the last answer to arrive.** -/
theorem run_matchingItems (h : run es = some s) :
    s.matchingItems = ((lastLoaded es).map (·.2)).getD [] := by
  refine after_invariant (P := fun es s => s.matchingItems = ((lastLoaded es).map (·.2)).getD [])
    rfl ?_ es s h
  intro es e u t _ hu he
  unfold lastLoaded at hu ⊢
  -- only a successful completion changes the table
  cases step_effect he with
  | loaded search mapItems hs => simp [Search.loaded]
  | _ => simpa [Search.loaded] using hu

theorem mem_of_lastLoaded {q : ℕ} {items : List MKMapItem} (h : lastLoaded es = some (q, items)) :
    SearchEvent.completed q (some items) ∈ es := by
  obtain ⟨e, he, hl⟩ := List.mem_filterMap.1 (List.mem_of_getLast? h)
  cases e with
  | completed search response =>
    cases response with
    | none => cases hl
    | some mapItems => cases hl; exact he
  | _ => cases hl

/-- A search finds what its completion brought. -/
theorem SearchOK.itemsOf {q : ℕ} {items : List MKMapItem} (h : SearchOK es s)
    (hm : SearchEvent.completed q (some items) ∈ es) : itemsOf es q = items := by
  have hmem : some items ∈ es.filterMap (answerTo q) :=
    List.mem_filterMap.2 ⟨_, hm, by simp [answerTo]⟩
  have hone : (es.filterMap (answerTo q)).length = 1 :=
    le_antisymm (h.once q) (List.length_pos_of_mem hmem)
  obtain ⟨r, hr⟩ := List.length_eq_one_iff.1 hone
  rw [hr, List.mem_singleton] at hmem
  unfold Search.itemsOf
  rw [hr, ← hmem]; rfl

/-- Without a successful completion no search finds anything. -/
theorem itemsOf_of_lastLoaded_none (h : lastLoaded es = none) (q : ℕ) : Search.itemsOf es q = [] := by
  rw [lastLoaded, List.getLast?_eq_none_iff, List.filterMap_eq_nil_iff] at h
  unfold Search.itemsOf
  cases hl : (es.filterMap (answerTo q)).getLast? with
  | none => rfl
  | some response => cases response with
    | none => rfl
    | some items =>
      obtain ⟨e, he, ha⟩ := List.mem_filterMap.1 (List.mem_of_getLast? hl)
      cases e with
      | completed search response' =>
        simp only [answerTo] at ha
        split_ifs at ha
        cases ha
        exact absurd (h _ he) (by simp [Search.loaded])
      | _ => cases ha

/-- **The table shows the answer to the newest query**, in particular when no search is
outstanding, exactly when the last successful completion to arrive was that of the
newest query, or brought the same items. -/
theorem newest_shown_iff (h : run es = some s) : s.matchingItems = newestItems es s ↔
    ∀ q items, lastLoaded es = some (q, items) →
      s.searches.length = q + 1 ∨ items = newestItems es s := by
  rw [run_matchingItems h]
  cases hl : lastLoaded es with
  | none =>
    have hnone : newestItems es s = [] := by
      unfold newestItems
      split
      · rfl
      · exact itemsOf_of_lastLoaded_none hl _
    refine iff_of_true hnone.symm ?_
    intro q items hq; cases hq
  | some last =>
    obtain ⟨q, items⟩ := last
    -- the search that loaded last was answered with these items, and only once
    have hitems : Search.itemsOf es q = items := (run_ok h).itemsOf (mem_of_lastLoaded hl)
    constructor
    · rintro hi q' items' hq
      cases hq; exact Or.inr hi
    · intro hi
      rcases hi q items rfl with hq | hq
      · unfold newestItems
        rw [hq]; exact hitems.symm
      · exact hq

/-- A query and a longer one, answered in order. -/
theorem in_order_shown_iff : ∃ (es : List SearchEvent) (s : LocationSearchTableViewController),
    run es = some s ∧ s.outstanding = [] ∧ s.searches.length = 2 ∧
    (s.matchingItems = newestItems es s ↔ ∀ q items, lastLoaded es = some (q, items) →
      s.searches.length = q + 1 ∨ items = newestItems es s) := by
  let es : List SearchEvent := [.regionChanged ⟨⟨-8, -35⟩, 1, 1⟩, .updateSearchResults (some "re"),
    .updateSearchResults (some "recife"), .completed 0 (some []),
    .completed 1 (some [⟨{ name := some "Recife" }⟩])]
  have hrun : (run es).map (fun s => (s.outstanding, s.searches.length)) = some ([], 2) := by
    decide +kernel
  obtain ⟨s, hs, hv⟩ := Option.map_eq_some_iff.1 hrun
  simp only [Prod.mk.injEq] at hv
  exact ⟨es, s, hs, hv.1, hv.2, newest_shown_iff hs⟩

/-- The first answer comes last, and stays. -/
theorem stale_answer_shown : ¬ ∀ (es : List SearchEvent) (s : LocationSearchTableViewController),
    run es = some s → s.outstanding = [] → s.matchingItems = newestItems es s := by
  intro h
  have hrun : (run [.regionChanged ⟨⟨-8, -35⟩, 1, 1⟩, .updateSearchResults (some "re"),
      .updateSearchResults (some "recife"), .completed 1 (some [⟨{ name := some "Recife" }⟩]),
      .completed 0 (some [])]).map (fun s => (s.outstanding, s.matchingItems, s.searches.length)) =
      some ([], [], 2) := by decide +kernel
  obtain ⟨s, hs, hv⟩ := Option.map_eq_some_iff.1 hrun
  simp only [Prod.mk.injEq] at hv
  obtain ⟨ho, hm, hn⟩ := hv
  have hnew := h _ s hs ho
  rw [hm, newestItems, hn] at hnew
  exact absurd hnew (by decide)

/-! ## Where the rows come from -/

/-- The map of the table shows the last region set. -/
theorem run_mapView (h : run es = some s) : s.mapView = lastRegion es := by
  refine after_last (·.mapView) Search.region (fun u e t he => ?_) rfl h
  cases step_effect he <;> rfl

theorem asked_append {r : SearchRequest} (h : Asked es r) (fs : List SearchEvent) : Asked (es ++ fs) r := by
  obtain ⟨before, after, rfl, hr⟩ := h
  exact ⟨before, after ++ fs, by simp, hr⟩

/-- Every search was asked for. -/
theorem run_asked (h : run es = some s) : ∀ r ∈ s.searches, Asked es r := by
  refine after_invariant (P := fun es s => ∀ r ∈ s.searches, Asked es r)
    (fun r hr => absurd hr List.not_mem_nil) ?_ es s h
  intro es e u t hrun hu he r hr
  cases step_effect he with
  | started region text hm =>
    rcases List.mem_append.1 hr with hr | hr
    · exact asked_append (hu r hr) _
    · rw [List.mem_singleton.1 hr]
      exact ⟨es, [], rfl, (run_mapView hrun).symm.trans hm⟩
  | _ => exact asked_append (hu r hr) _

/-- What the table shows after the events: the items of a completion that no other has followed,
and the request of its search. -/
structure Answered (es : List SearchEvent) (s : LocationSearchTableViewController) where
  before : List SearchEvent
  after : List SearchEvent
  search : ℕ
  request : SearchRequest
  split : es = before ++ .completed search (some s.matchingItems) :: after
  asked : Asked before request
  request_eq : s.searches[search]? = some request
  last : ∀ e ∈ after, Search.loaded e = none

/-- An event that leaves the table. -/
def Answered.extend (a : Answered es s) (he : Search.loaded e = none)
    (hitems : s'.matchingItems = s.matchingItems) (hsearches : s.searches <+: s'.searches) :
    Answered (es ++ [e]) s' where
  before := a.before
  after := a.after ++ [e]
  search := a.search
  request := a.request
  split := by rw [hitems]; exact (congrArg (· ++ [e]) a.split).trans (by simp)
  asked := a.asked
  request_eq := by
    obtain ⟨l, hl⟩ := hsearches
    rw [← hl, List.getElem?_append_left (List.getElem?_eq_some_iff.1 a.request_eq).1]
    exact a.request_eq
  last x hx := by
    rcases List.mem_append.1 hx with hx | hx
    · exact a.last x hx
    · rw [List.mem_singleton.1 hx]; exact he

/-- **The table is empty, or explained by a completion.** -/
theorem run_answered (h : run es = some s) : s.matchingItems = [] ∨ Nonempty (Answered es s) := by
  refine after_invariant (P := fun es s => s.matchingItems = [] ∨ Nonempty (Answered es s))
    (.inl rfl) ?_ es s h
  intro es e u t hrun hu he
  cases step_effect he with
  | loaded search mapItems hs =>
    have hlt := (run_ok hrun).lt search hs
    exact .inr ⟨⟨es, [], search, u.searches[search], rfl, run_asked hrun _ (List.getElem_mem hlt),
      List.getElem?_eq_getElem hlt, fun _ hx => absurd hx List.not_mem_nil⟩⟩
  | started region text hm =>
    exact hu.imp id fun ⟨a⟩ => ⟨a.extend rfl rfl (List.prefix_append _ _)⟩
  | _ => exact hu.imp id fun ⟨a⟩ => ⟨a.extend rfl rfl (List.prefix_refl _)⟩

/-- **A row comes from one search.** Whatever the table shows are all the items of the last
successful completion, and they answer one query: one that was typed before, for the region that
the map showed then. A selected row hands out the placemark at its place among them. -/
theorem rows_answer_one_query {row : ℕ} (h : run es = some s) (hrow : row < s.numberOfRowsInSection) :
    ∃ before after search request item,
      es = before ++ .completed search (some s.matchingItems) :: after ∧ Asked before request ∧
      s.searches[search]? = some request ∧ (∀ e ∈ after, Search.loaded e = none) ∧
      s.matchingItems[row]? = some item ∧ (didSelectRowAt row).run s = .ok item.placemark s := by
  have hlt : row < s.matchingItems.length := hrow
  have hget := List.getElem?_eq_getElem hlt
  rcases run_answered h with hnil | ⟨⟨a⟩⟩
  · rw [hnil] at hlt
    exact absurd hlt (Nat.not_lt_zero _)
  · refine ⟨a.before, a.after, a.search, a.request, _, a.split, a.asked, a.request_eq, a.last, hget, ?_⟩
    simp only [didSelectRowAt, EStateM.run_bind, EStateM.run_get, Swift.run_index_of_getElem? hget,
      EStateM.run_pure]

/-- A row of an answer that came late. -/
theorem late_row_answers : ∃ (es : List SearchEvent) (s : LocationSearchTableViewController),
    run es = some s ∧ ∃ before after search request item,
      es = before ++ .completed search (some s.matchingItems) :: after ∧ Asked before request ∧
      s.searches[search]? = some request ∧ (∀ e ∈ after, Search.loaded e = none) ∧
      s.matchingItems[0]? = some item ∧ (didSelectRowAt 0).run s = .ok item.placemark s := by
  let es : List SearchEvent := [.regionChanged ⟨⟨-8, -35⟩, 1, 1⟩, .updateSearchResults (some "caf"),
    .updateSearchResults (some "café"), .completed 1 none, .completed 0 (some [⟨{ name := "Café" }⟩])]
  have hrun : (run es).map numberOfRowsInSection = some 1 := by decide +kernel
  obtain ⟨s, hs, hrows⟩ := Option.map_eq_some_iff.1 hrun
  exact ⟨es, s, hs, rows_answer_one_query hs (by rw [hrows]; decide)⟩

end LocationSearchTableViewController

end Sens

import Mathlib.Data.List.Nodup

/-!
# Choices from a menu

A menu has an entry for some of the indices `ι`. Events pick from it, or pick nothing; the last
of them decides (`chosen_last`, `last_isSome`). Where the entries are displayed differently, what
is displayed tells what was picked: `display_chosen_inj`.
-/

namespace Menu

variable {ι ε α β : Type*} {menu : ι → Option α} {blank : α} {display : α → β}

/-- The entry that was picked, and `blank` for none. -/
def chosen (menu : ι → Option α) (blank : α) (o : Option ι) : α := (o.bind menu).getD blank

/-- The last pick. -/
def last (pick : ε → Option (Option ι)) (es : List ε) : Option ι := (es.filterMap pick).getLastD none

theorem chosen_last (menu : ι → Option α) (blank : α) (pick : ε → Option (Option ι)) (es : List ε) :
    (es.filterMap fun e => (pick e).map (chosen menu blank)).getLastD blank =
      chosen menu blank (last pick es) := by
  have hmap : (es.filterMap fun e => (pick e).map (chosen menu blank)) =
      (es.filterMap pick).map (chosen menu blank) := List.map_filterMap.symm
  rw [hmap, last]
  exact List.getLastD_map (f := chosen menu blank) (a := none)

/-- Picks that are on the menu have the last one there. -/
theorem last_isSome (menu : ι → Option α) {pick : ε → Option (Option ι)}
    (hpick : ∀ e i, pick e = some (some i) → (menu i).isSome = true) {es : List ε} {i : ι}
    (h : last pick es = some i) : (menu i).isSome = true := by
  have hmem : last pick es ∈ none :: es.filterMap pick := List.getLastD_mem_cons
  rw [h] at hmem
  obtain ⟨e, -, he⟩ := List.mem_filterMap.1 ((List.mem_cons.1 hmem).resolve_left (by simp))
  exact hpick e i he

/-- The entries are displayed differently, and none as `blank`. -/
structure Distinct (menu : ι → Option α) (blank : α) (display : α → β) : Prop where
  entries : ∀ i j x y, menu i = some x → menu j = some y → display x = display y → i = j
  blank : ∀ i x, menu i = some x → display x ≠ display blank

/-- A list is a menu of its places. -/
theorem distinct_of_nodup {l : List α} (h : (display blank :: l.map display).Nodup) :
    Distinct (fun i : ℕ => l[i]?) blank display := by
  obtain ⟨hblank, hnodup⟩ := List.nodup_cons.1 h
  constructor
  · intro i j x y hi hj hxy
    have hlt : i < (l.map display).length := by
      rw [List.length_map]
      exact (List.getElem?_eq_some_iff.1 hi).1
    refine (List.getElem?_inj hlt hnodup).1 ?_
    rw [List.getElem?_map, List.getElem?_map, hi, hj, Option.map_some, Option.map_some, hxy]
  · intro i x hi hx
    exact hblank (hx ▸ List.mem_map_of_mem (List.mem_of_getElem? hi))

/-- **What is displayed tells what was picked.** -/
theorem display_chosen_inj (h : Distinct menu blank display) {o o' : Option ι}
    (ho : ∀ i, o = some i → (menu i).isSome = true) (ho' : ∀ i, o' = some i → (menu i).isSome = true) :
    display (chosen menu blank o) = display (chosen menu blank o') ↔ o = o' := by
  refine ⟨fun heq => ?_, fun heq => by rw [heq]⟩
  -- what an index displays
  have hentry : ∀ i, (menu i).isSome = true → ∃ x, menu i = some x ∧ chosen menu blank (some i) = x := by
    intro i hi
    obtain ⟨x, hx⟩ := Option.isSome_iff_exists.1 hi
    exact ⟨x, hx, by simp [chosen, hx]⟩
  cases o with
  | none => cases o' with
    | none => rfl
    | some j =>
      obtain ⟨y, hy, hcy⟩ := hentry j (ho' j rfl)
      rw [hcy] at heq
      exact absurd heq.symm (h.blank j y hy)
  | some i =>
    obtain ⟨x, hx, hcx⟩ := hentry i (ho i rfl)
    rw [hcx] at heq
    cases o' with
    | none => exact absurd heq (h.blank i x hx)
    | some j =>
      obtain ⟨y, hy, hcy⟩ := hentry j (ho' j rfl)
      rw [hcy] at heq
      rw [h.entries i j x y hx hy heq]

end Menu

import Mathlib.Data.List.Nodup
import Mathlib.Order.MinMax

/-!
# Removal by index

* `eraseIdx_eq_eraseIdx_iff`: two indices remove the same from a list just when the
  list is constant between them.
* `filter_not_mem_concat`: one more value to drop is one removal by index, in a list
  without duplicates.
-/

namespace Removal

variable {α : Type*}

theorem eraseIdx_eq_eraseIdx_of_le {l : List α} {i j : ℕ} (hij : i ≤ j) :
    l.eraseIdx i = l.eraseIdx j ↔ ∀ m ≤ j, i ≤ m → l[m]? = l[i]? := by
  constructor
  · intro h m hmj him
    induction m, him using Nat.le_induction with
    | base => rfl
    | succ m him ih =>
      -- at `m`, the one list has moved up and the other has not
      have hm := congrArg (fun l : List α => l[m]?) h
      simp only [List.getElem?_eraseIdx] at hm
      rw [if_neg (by omega), if_pos (by omega)] at hm
      rw [hm, ih (by omega)]
  · intro h
    refine List.ext_getElem? fun m => ?_
    simp only [List.getElem?_eraseIdx]
    split_ifs with h1 h2 h2
    · rfl
    · omega
    · rw [h m (by omega) (by omega), h (m + 1) (by omega) (by omega)]
    · rfl

/-- **Two indices remove the same** just when the list is constant between them. -/
theorem eraseIdx_eq_eraseIdx_iff {l : List α} {i j : ℕ} :
    l.eraseIdx i = l.eraseIdx j ↔ ∀ m ≤ max i j, min i j ≤ m → l[m]? = l[i]? := by
  rcases Nat.le_total i j with hij | hij
  · rw [max_eq_right hij, min_eq_left hij]
    exact eraseIdx_eq_eraseIdx_of_le hij
  · rw [max_eq_left hij, min_eq_right hij, eq_comm, eraseIdx_eq_eraseIdx_of_le hij]
    constructor
    · intro h m hmi hjm
      rw [h m hmi hjm, h i le_rfl hij]
    · intro h m hmi hjm
      rw [h m hmi hjm, h j hij le_rfl]

variable [DecidableEq α]

/-- One more value to drop. -/
theorem filter_not_mem_concat {l drop : List α} {a : α} (hl : l.Nodup) :
    l.filter (· ∉ drop ++ [a]) = (l.filter (· ∉ drop)).eraseIdx ((l.filter (· ∉ drop)).idxOf a) := by
  rw [← List.erase_eq_eraseIdx_of_idxOf rfl, (hl.filter _).erase_eq_filter, List.filter_filter]
  refine List.filter_congr fun x _ => ?_
  by_cases hx : x = a <;> simp [hx]

end Removal

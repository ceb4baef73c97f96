import Mathlib.Data.List.DropRight
import Mathlib.Data.List.TakeWhile

/-!
# Trimming

`trim p l` is the list `l` without the elements at its two ends that satisfy `p`.

* `trim_bare`: what is left has no such element at its ends.
* `trim_of_bare`: it is what stands between two runs of such elements.
-/

namespace Trim

variable {α : Type*} {p : α → Bool} {l : List α}

def trim (p : α → Bool) (l : List α) : List α := (l.dropWhile p).rdropWhile p

/-- Neither end of the list satisfies `p`. -/
structure Bare (p : α → Bool) (l : List α) : Prop where
  head : ∀ a ∈ l.head?, p a = false
  last : ∀ a ∈ l.getLast?, p a = false

theorem trim_bare : Bare p (trim p l) := by
  constructor
  · -- trimming at the right leaves a prefix, and so the head
    intro a ha
    have hpre : trim p l <+: l.dropWhile p := List.rdropWhile_prefix p _
    have hne : trim p l ≠ [] := by rintro h; rw [h] at ha; cases ha
    have hhead : (l.dropWhile p).head? = some a := by
      obtain ⟨t, ht⟩ := hpre
      rw [← ht, List.head?_append_of_ne_nil _ hne]
      exact ha
    have := List.head?_dropWhile_not p l
    rw [hhead] at this
    simpa using this
  · intro a ha
    have hne : trim p l ≠ [] := by rintro h; rw [h] at ha; cases ha
    have hlast := List.rdropWhile_last_not p (l.dropWhile p) hne
    rw [Option.mem_def, List.getLast?_eq_getLast_of_ne_nil hne, Option.some_inj] at ha
    exact (Bool.not_eq_true _).mp (ha ▸ hlast)

theorem rdropWhile_append_of_all {l post : List α} (hpost : ∀ a ∈ post, p a = true) :
    (l ++ post).rdropWhile p = l.rdropWhile p := by
  induction post using List.reverseRecOn with
  | nil => rw [List.append_nil]
  | append_singleton post a ih =>
    have ha : p a = true := hpost a (by simp)
    rw [← List.append_assoc, List.rdropWhile_concat_pos _ _ _ ha]
    exact ih fun b hb => hpost b (by simp [hb])

/-- **Trimming leaves what stands between**: a list with bare ends. -/
theorem trim_of_bare {pre mid post : List α} (hpre : ∀ a ∈ pre, p a = true) (hmid : mid ≠ [])
    (hbare : Bare p mid) (hpost : ∀ a ∈ post, p a = true) : trim p (pre ++ mid ++ post) = mid := by
  have hdrop : (pre ++ mid ++ post).dropWhile p = mid ++ post := by
    rw [List.append_assoc, List.dropWhile_append_of_pos hpre, List.dropWhile_eq_self_iff]
    intro hl
    have h0 : (mid ++ post)[0] = mid.head hmid := by
      rw [List.getElem_append_left (List.length_pos_iff.2 hmid), List.head_eq_getElem]
    rw [h0, hbare.head _ (List.head?_eq_some_head hmid)]
    decide
  rw [trim, hdrop, rdropWhile_append_of_all hpost, List.rdropWhile_eq_self_iff]
  intro hl
  rw [hbare.last _ (List.getLast?_eq_some_getLast hl)]
  decide

end Trim

import Mathlib.Data.List.Nodup
import Mathlib.Data.List.Perm.Subperm
import Mathlib.Logic.Relation

/-!
# Tokens that are in one place

Each place of `ι` keeps a list of tokens. `Change` is what a step may do to them: lose
tokens of the places that are `lossy`, issue one that was not `used` before, or move one
along `moves`.

* `Separate`, `Change.separate`: no token is kept twice, in one place or in two.
* `At`, `Next`, `Change.next`: where a token is, `none` for nowhere, and that a step
  leaves it or takes it to a next place.
-/

namespace Custody

variable {ι α : Type*} {kept kept' : ι → List α} {a : α} {p q : Option ι}

/-- No token is kept twice. -/
structure Separate (kept : ι → List α) : Prop where
  nodup : ∀ i, (kept i).Nodup
  unique : ∀ i j a, a ∈ kept i → a ∈ kept j → i = j

/-- Where the token is, if it is anywhere. -/
def At (kept : ι → List α) (a : α) : Option ι → Prop
  | some i => a ∈ kept i
  | none => ∀ i, a ∉ kept i

theorem exists_at (kept : ι → List α) (a : α) : ∃ p, At kept a p := by
  by_cases h : ∃ i, a ∈ kept i
  · obtain ⟨i, hi⟩ := h
    exact ⟨some i, hi⟩
  · exact ⟨none, fun i hi => h ⟨i, hi⟩⟩

theorem Separate.at_unique (h : Separate kept) (hp : At kept a p) (hq : At kept a q) : p = q := by
  cases p with
  | none => cases q with
    | none => rfl
    | some j => exact absurd hq (hp j)
  | some i => cases q with
    | none => exact absurd hp (hq i)
    | some j => exact congrArg some (h.unique i j a hp hq)

theorem at_congr (h : ∀ i, a ∈ kept' i ↔ a ∈ kept i) : At kept' a p ↔ At kept a p := by
  cases p with
  | none => simp only [At, h]
  | some i => exact h i

/-- Where a token can go from where it is. -/
inductive Next (moves : ι → ι → Prop) (lossy : ι → Prop) : Option ι → Option ι → Prop
  | move {i j : ι} (h : moves i j) : Next moves lossy (some i) (some j)
  | lose {i : ι} (h : lossy i) : Next moves lossy (some i) none

/-- From nowhere a token goes nowhere. -/
theorem nowhere_of_reflTransGen {moves : ι → ι → Prop} {lossy : ι → Prop} {q : Option ι}
    (h : Relation.ReflTransGen (Next moves lossy) none q) : q = none := by
  induction h with
  | refl => rfl
  | tail _ hn ih => subst ih; cases hn

/-- What a step may do to the tokens. -/
inductive Change (moves : ι → ι → Prop) (lossy : ι → Prop) (used : α → Prop)
    (kept kept' : ι → List α) : Prop
  | lose (hsub : ∀ i, (kept' i).Subperm (kept i)) (hkeep : ∀ i, ¬ lossy i → (kept' i).Perm (kept i))
  | add (i : ι) (b : α) (hb : ¬ used b) (hi : (kept' i).Perm (b :: kept i))
      (hkeep : ∀ k, k ≠ i → kept' k = kept k)
  | move (i j : ι) (b : α) (h : moves i j) (hij : i ≠ j) (hi : (kept i).Perm (b :: kept' i))
      (hj : (kept' j).Perm (b :: kept j)) (hkeep : ∀ k, k ≠ i → k ≠ j → kept' k = kept k)

variable {moves : ι → ι → Prop} {lossy : ι → Prop} {used : α → Prop}

/-- A step that changes nothing. -/
theorem Change.same (h : kept' = kept) : Change moves lossy used kept kept' :=
  .lose (fun _ => h ▸ .refl _) fun _ _ => h ▸ .refl _

/-- Issued at one place, a token that is nowhere leaves the others apart. -/
theorem Separate.add {i : ι} {b : α} (h : Separate kept) (hb : ∀ k, b ∉ kept k)
    (hi : (kept' i).Perm (b :: kept i)) (hkeep : ∀ k, k ≠ i → kept' k = kept k) : Separate kept' := by
  have hmem : ∀ k c, c ∈ kept' k → (c = b ∧ k = i) ∨ c ∈ kept k := by
    intro k c hc
    by_cases hk : k = i
    · subst hk
      exact (List.mem_cons.1 (hi.mem_iff.1 hc)).imp_left fun hc => ⟨hc, rfl⟩
    · rw [hkeep k hk] at hc
      exact .inr hc
  constructor
  · intro k
    by_cases hk : k = i
    · subst hk
      exact hi.nodup_iff.2 (List.nodup_cons.2 ⟨hb k, h.nodup k⟩)
    · rw [hkeep k hk]; exact h.nodup k
  · intro k l c hk hl
    rcases hmem k c hk with ⟨rfl, rfl⟩ | hk
    · rcases hmem l c hl with ⟨-, rfl⟩ | hl
      · rfl
      · exact absurd hl (hb l)
    · rcases hmem l c hl with ⟨rfl, rfl⟩ | hl
      · exact absurd hk (hb k)
      · exact h.unique k l c hk hl

/-- Places may lose tokens. -/
theorem Separate.sub (h : Separate kept) (hsub : ∀ i, (kept' i).Subperm (kept i)) : Separate kept' where
  nodup i := by
    obtain ⟨l, hl, hs⟩ := hsub i
    exact hl.nodup_iff.1 (hs.nodup (h.nodup i))
  unique i j a hi hj := h.unique i j a ((hsub i).subset hi) ((hsub j).subset hj)

/-- **No token is kept twice** after a step, if none was before. -/
theorem Change.separate (hc : Change moves lossy used kept kept') (h : Separate kept)
    (hused : ∀ i, ∀ b ∈ kept i, used b) : Separate kept' := by
  classical
  cases hc with
  | lose hsub hkeep => exact h.sub hsub
  | add i b hb hi hkeep => exact h.add (fun k hk => hb (hused k b hk)) hi hkeep
  | move i j b hn hij hi hj hkeep =>
    -- the token is taken away before it is put down
    have hbi : b ∈ kept i := hi.mem_iff.2 List.mem_cons_self
    have hbetween : Separate (Function.update kept i (kept' i)) := by
      refine h.sub fun k => ?_
      by_cases hk : k = i
      · subst hk
        rw [Function.update_self]
        exact (List.Subperm.cons_self).trans hi.symm.subperm
      · rw [Function.update_of_ne hk]
    refine hbetween.add (i := j) (b := b) (fun k hk => ?_) ?_ fun k hk => ?_
    · by_cases hki : k = i
      · subst hki
        rw [Function.update_self] at hk
        exact (List.nodup_cons.1 (hi.nodup_iff.1 (h.nodup k))).1 hk
      · rw [Function.update_of_ne hki] at hk
        exact hki (h.unique k i b hk hbi)
    · rw [Function.update_of_ne hij.symm]; exact hj
    · by_cases hki : k = i
      · subst hki; rw [Function.update_self]
      · rw [Function.update_of_ne hki]; exact hkeep k hki hk

/-- **Where a token goes**: a step leaves one that was issued, or takes it to a next place. -/
theorem Change.next (hc : Change moves lossy used kept kept') (h : Separate kept)
    (hused : ∀ i, ∀ b ∈ kept i, used b) (ha : used a) (hp : At kept a p) (hq : At kept' a q) :
    p = q ∨ Next moves lossy p q := by
  have h' := hc.separate h hused
  cases hc with
  | lose hsub hkeep =>
    cases q with
    | some j => exact .inl (h.at_unique hp ((hsub j).subset hq))
    | none => cases p with
      | none => exact .inl rfl
      | some i =>
        refine .inr (.lose ?_)
        by_contra hl
        exact hq i ((hkeep i hl).mem_iff.2 hp)
  | add i b hb hi hkeep =>
    have hne : a ≠ b := by
      rintro rfl
      exact hb ha
    refine .inl (h.at_unique hp ((at_congr fun k => ?_).1 hq))
    by_cases hk : k = i
    · subst hk
      rw [hi.mem_iff, List.mem_cons, or_iff_right hne]
    · rw [hkeep k hk]
  | move i j b hn hij hi hj hkeep =>
    by_cases hab : a = b
    · subst hab
      obtain rfl := h.at_unique hp (q := some i) (hi.mem_iff.2 List.mem_cons_self)
      obtain rfl := h'.at_unique hq (q := some j) (hj.mem_iff.2 List.mem_cons_self)
      exact .inr (.move hn)
    · refine .inl (h.at_unique hp ((at_congr fun k => ?_).1 hq))
      by_cases hki : k = i
      · subst hki
        rw [hi.mem_iff, List.mem_cons, or_iff_right hab]
      · by_cases hkj : k = j
        · subst hkj
          rw [hj.mem_iff, List.mem_cons, or_iff_right hab]
        · rw [hkeep k hki hkj]

end Custody

import Mathlib.Data.List.Basic

/-!
# Regular expressions with lookahead

A backtracking matcher: `rests r cs` lists what can be left of `cs` after a match
of `r` at its start, longest match first. Repetition is of one character class,
so the matcher recurses on the text.

* `Matches`: what a pattern means, without a strategy.
* `mem_rests`, `matchesAll_iff`: the matcher finds just the matches.
* `matches_atLeast`, `matches_ahead_contains`: the meaning of `[p]{n,}` and of a
  lookahead `(?=.*[p])`.
-/

inductive Regex
  | cls (p : Char → Bool)
  | star (p : Char → Bool)
  | seq (r s : Regex)
  | ahead (r : Regex)

namespace Regex

/-- What can be left after any number of characters of the class. -/
def starRests (p : Char → Bool) : List Char → List (List Char)
  | [] => [[]]
  | c :: cs => if p c then starRests p cs ++ [c :: cs] else [c :: cs]

def rests : Regex → List Char → List (List Char)
  | cls _, [] => []
  | cls p, c :: cs => if p c then [cs] else []
  | star p, cs => starRests p cs
  | seq r s, cs => (rests r cs).flatMap (rests s)
  | ahead r, cs => if (rests r cs).isEmpty then [] else [cs]

/-- `[p]{n,}`. -/
def atLeast (p : Char → Bool) : ℕ → Regex
  | 0 => star p
  | n + 1 => seq (cls p) (atLeast p n)

/-- The whole text is a match. -/
def matchesAll (r : Regex) (s : String) : Bool := (rests r s.toList).any List.isEmpty

/-! ## Meaning -/

variable {p : Char → Bool} {r : Regex} {n : ℕ} {pre cs rest : List Char}

/-- The pattern matches `pre`, with `rest` after it. -/
def Matches : Regex → List Char → List Char → Prop
  | cls p, pre, _ => ∃ c, p c = true ∧ pre = [c]
  | star p, pre, _ => ∀ c ∈ pre, p c = true
  | seq r s, pre, rest => ∃ u v, pre = u ++ v ∧ Matches r u (v ++ rest) ∧ Matches s v rest
  | ahead r, pre, rest => pre = [] ∧ ∃ u v, rest = u ++ v ∧ Matches r u v

theorem mem_starRests : rest ∈ starRests p cs ↔ ∃ pre, cs = pre ++ rest ∧ ∀ c ∈ pre, p c = true := by
  induction cs with
  | nil => simp [starRests]
  | cons c cs ih =>
    unfold starRests
    split_ifs with hc
    · rw [List.mem_append, List.mem_singleton, ih]
      constructor
      · rintro (⟨pre, rfl, hpre⟩ | rfl)
        · exact ⟨c :: pre, rfl, List.forall_mem_cons.2 ⟨hc, hpre⟩⟩
        · exact ⟨[], rfl, by simp⟩
      · rintro ⟨_ | ⟨b, pre⟩, h, hpre⟩
        · exact .inr h.symm
        · obtain ⟨rfl, rfl⟩ := List.cons.inj h
          exact .inl ⟨pre, rfl, (List.forall_mem_cons.1 hpre).2⟩
    · rw [List.mem_singleton]
      constructor
      · rintro rfl
        exact ⟨[], rfl, by simp⟩
      · rintro ⟨_ | ⟨b, pre⟩, h, hpre⟩
        · exact h.symm
        · obtain ⟨rfl, rfl⟩ := List.cons.inj h
          exact absurd (hpre c List.mem_cons_self) hc

/-- **The matcher finds just the matches.** -/
theorem mem_rests : rest ∈ rests r cs ↔ ∃ pre, cs = pre ++ rest ∧ Matches r pre rest := by
  induction r generalizing cs rest with
  | cls p =>
    cases cs with
    | nil => simp [rests, Matches]
    | cons c cs =>
      unfold rests
      split_ifs with hc
      · rw [List.mem_singleton]
        constructor
        · rintro rfl
          exact ⟨[c], rfl, c, hc, rfl⟩
        · rintro ⟨pre, h, b, -, rfl⟩
          exact (List.cons.inj h).2.symm
      · constructor
        · intro h
          cases h
        · rintro ⟨pre, h, b, hb, rfl⟩
          exact absurd ((List.cons.inj h).1 ▸ hb) hc
  | star p => exact mem_starRests
  | seq r s ihr ihs =>
    rw [rests, List.mem_flatMap]
    constructor
    · rintro ⟨mid, hmid, hrest⟩
      obtain ⟨u, rfl, hu⟩ := ihr.1 hmid
      obtain ⟨v, rfl, hv⟩ := ihs.1 hrest
      exact ⟨u ++ v, (List.append_assoc u v rest).symm, u, v, rfl, hu, hv⟩
    · rintro ⟨_, rfl, u, v, rfl, hu, hv⟩
      exact ⟨v ++ rest, ihr.2 ⟨u, List.append_assoc u v rest, hu⟩, ihs.2 ⟨v, rfl, hv⟩⟩
  | ahead r ih =>
    unfold rests
    split_ifs with h
    · rw [List.isEmpty_iff] at h
      constructor
      · intro h
        cases h
      · rintro ⟨_, rfl, rfl, u, v, rfl, hu⟩
        have hv : v ∈ rests r (u ++ v) := ih.2 ⟨u, rfl, hu⟩
        rw [List.nil_append] at h
        rw [h] at hv
        cases hv
    · rw [List.mem_singleton]
      constructor
      · rintro rfl
        obtain ⟨v, hv⟩ := List.exists_mem_of_ne_nil _ fun he => h (List.isEmpty_iff.2 he)
        obtain ⟨u, hu, hm⟩ := ih.1 hv
        exact ⟨[], rfl, rfl, u, v, hu, hm⟩
      · rintro ⟨_, rfl, rfl, -⟩
        rfl

theorem matchesAll_iff {s : String} : r.matchesAll s = true ↔ Matches r s.toList [] := by
  unfold matchesAll
  rw [List.any_eq_true]
  constructor
  · rintro ⟨rest, hrest, h⟩
    obtain rfl := List.isEmpty_iff.1 h
    obtain ⟨pre, hpre, hm⟩ := mem_rests.1 hrest
    rw [hpre, List.append_nil]
    exact hm
  · intro h
    exact ⟨[], mem_rests.2 ⟨s.toList, (List.append_nil _).symm, h⟩, rfl⟩

theorem matches_atLeast :
    Matches (atLeast p n) pre rest ↔ n ≤ pre.length ∧ ∀ c ∈ pre, p c = true := by
  induction n generalizing pre with
  | zero => simp [atLeast, Matches]
  | succ n ih =>
    constructor
    · rintro ⟨_, v, rfl, ⟨c, hc, rfl⟩, hv⟩
      obtain ⟨hn, hall⟩ := ih.1 hv
      exact ⟨Nat.succ_le_succ hn, List.forall_mem_cons.2 ⟨hc, hall⟩⟩
    · rintro ⟨hn, hall⟩
      cases pre with
      | nil => cases hn
      | cons c v =>
        obtain ⟨hc, hv⟩ := List.forall_mem_cons.1 hall
        exact ⟨[c], v, rfl, ⟨c, hc, rfl⟩, ih.2 ⟨Nat.le_of_succ_le_succ hn, hv⟩⟩

theorem matches_seq_ahead {s : Regex} :
    Matches (seq (ahead r) s) pre rest ↔ Matches (ahead r) [] (pre ++ rest) ∧ Matches s pre rest := by
  constructor
  · rintro ⟨_, v, rfl, ⟨rfl, hr⟩, hs⟩
    exact ⟨⟨rfl, hr⟩, hs⟩
  · rintro ⟨hr, hs⟩
    exact ⟨[], pre, rfl, hr, hs⟩

/-- A lookahead `(?=.*[p])` in front of a text without line breaks asks for a character of
the class. -/
theorem matches_ahead_contains {any : Char → Bool} (hcs : ∀ c ∈ cs, any c = true) :
    Matches (ahead (seq (star any) (cls p))) [] cs ↔ ∃ c ∈ cs, p c = true := by
  constructor
  · rintro ⟨-, _, v, rfl, u, _, rfl, -, c, hc, rfl⟩
    exact ⟨c, by simp, hc⟩
  · rintro ⟨c, hmem, hc⟩
    obtain ⟨u, v, rfl⟩ := List.append_of_mem hmem
    refine ⟨rfl, u ++ [c], v, by simp, u, [c], rfl, ?_, c, hc, rfl⟩
    exact fun b hb => hcs b (List.mem_append_left _ hb)

end Regex

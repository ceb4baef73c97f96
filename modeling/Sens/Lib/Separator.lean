import Mathlib.Data.List.Basic

/-!
# Fields and separators

`line` puts a separator after each field but the last. A separator is told by its mark, which
is not in what stands before it; `line_inj` reads the fields back where no field has the mark of
the separator that follows it.
-/

/-- A separator, around its mark. -/
structure Separator (α : Type*) where
  before : List α
  mark : α
  after : List α
  notMem : mark ∉ before

namespace Separator

variable {α : Type*}

def text (s : Separator α) : List α := s.before ++ s.mark :: s.after

/-- The fields with their separators, and the last field. -/
def line : List (Separator α) → List (List α) → List α → List α
  | s :: seps, f :: fields, last => f ++ (s.text ++ line seps fields last)
  | _, _, last => last

/-- Every field is without the mark of the separator after it. -/
def Clear : List (Separator α) → List (List α) → Prop := List.Forall₂ fun s f => s.mark ∉ f

/-- The first mark of a list is where it was put. -/
theorem append_cons_inj {a b x y : List α} {m : α} (ha : m ∉ a) (hb : m ∉ b) :
    a ++ m :: x = b ++ m :: y ↔ a = b ∧ x = y := by
  refine ⟨fun h => ?_, fun h => by rw [h.1, h.2]⟩
  induction a generalizing b with
  | nil =>
    cases b with
    | nil => exact ⟨rfl, (List.cons.inj h).2⟩
    | cons c b =>
      have hc : m = c := (List.cons.inj h).1
      exact absurd (hc ▸ List.mem_cons_self) hb
  | cons c a ih =>
    cases b with
    | nil =>
      have hc : c = m := (List.cons.inj h).1
      exact absurd (hc ▸ List.mem_cons_self) ha
    | cons d b =>
      obtain ⟨hc, ht⟩ := List.cons.inj h
      obtain ⟨hab, hxy⟩ := ih (List.not_mem_of_not_mem_cons ha) (List.not_mem_of_not_mem_cons hb) ht
      exact ⟨by rw [hc, hab], hxy⟩

/-- A field is read back up to its separator. -/
theorem append_text_inj (s : Separator α) {a b x y : List α} (ha : s.mark ∉ a) (hb : s.mark ∉ b) :
    a ++ (s.text ++ x) = b ++ (s.text ++ y) ↔ a = b ∧ x = y := by
  have hsplit : ∀ c z : List α, c ++ (s.text ++ z) = (c ++ s.before) ++ s.mark :: (s.after ++ z) := by
    intro c z
    simp [text]
  have hnot : ∀ c : List α, s.mark ∉ c → s.mark ∉ c ++ s.before := fun c hc h =>
    (List.mem_append.1 h).elim hc s.notMem
  rw [hsplit, hsplit, append_cons_inj (hnot a ha) (hnot b hb), List.append_cancel_right_eq,
    List.append_cancel_left_eq]

/-- **A line is read back**: it has its fields only. -/
theorem line_inj {seps : List (Separator α)} {fs gs : List (List α)} {last last' : List α}
    (hf : Clear seps fs) (hg : Clear seps gs) :
    line seps fs last = line seps gs last' ↔ fs = gs ∧ last = last' := by
  induction hf generalizing gs with
  | nil =>
    cases hg
    simp [line]
  | cons hs _ ih =>
    cases hg with
    | cons hs' hg =>
      rw [line, line, append_text_inj _ hs hs', ih hg, List.cons.injEq, and_assoc]

end Separator

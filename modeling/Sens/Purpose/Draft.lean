import Sens.Lib.Runs
import Sens.Spec.AddFeeling

/-!
# What the author means

The text that an author types and the tags that an author keeps, read off the events
of the compose screen without running it. The author's text is not the text of the
view, which may be the placeholder; and a tag is an occurrence, not a place in a
list, so that an X removes the tag that its cell shows.

`Writing.Keeps` and `Tagging.Keeps` say of one event that the screen does with it
what the author means.
-/

namespace Sens

open AddFeelingViewController (replaceCharacters placeholder)

/-! ## The testimonial -/

/-- The author's text, and whether the author is in the text view. -/
structure Writing where
  text : String := ""
  editing : Bool := false
deriving DecidableEq

namespace Writing

/-- The return key only ends editing. -/
def step (w : Writing) : AddFeelingEvent → Writing
  | .testimonialTapped => { w with editing := true }
  | .testimonialEdited location length text =>
    if text = "\n" then { w with editing := false }
    else { w with text := replaceCharacters w.text location length text }
  | .keyboardDismissed => { w with editing := false }
  | _ => w

def after (es : List AddFeelingEvent) : Writing := es.foldl step {}

/-- What the text view is to show: the placeholder stands for no text, outside of editing. -/
def display (w : Writing) : String :=
  if w.editing = false ∧ w.text = "" then placeholder else w.text

/-- Nobody returns to a text that is the placeholder, and the return key, if it is
used, happens to replace a line break by itself. -/
def Keeps (w : Writing) : AddFeelingEvent → Bool
  | .testimonialTapped => w.text ≠ placeholder
  | .testimonialEdited location length text =>
    text ≠ "\n" || replaceCharacters w.text location length text = w.text
  | _ => true

/-- Every event does what the author means. -/
def Kept (es : List AddFeelingEvent) : Prop := Runs.Along step (fun w e => w.Keeps e) {} es

instance (es : List AddFeelingEvent) : Decidable (Kept es) :=
  inferInstanceAs (Decidable (Runs.Along step (fun w e => w.Keeps e) {} es))

end Writing

/-! ## The tags -/

/-- One tag that was added: its text, and how many were added before it. -/
structure Occurrence where
  number : ℕ
  text : String
deriving DecidableEq

/-- The tags added and those whose X was pressed, the text in the tag field, and what
the displayed cells show. -/
structure Tagging where
  field : String := ""
  added : List Occurrence := []
  pressed : List Occurrence := []
  shown : List Occurrence := []
deriving DecidableEq

namespace Tagging

/-- The added tags, in order, but those whose X was pressed. -/
def tags (t : Tagging) : List Occurrence := t.added.filter (· ∉ t.pressed)

def step (t : Tagging) : AddFeelingEvent → Tagging
  | .tagTextEdited text => { t with field := text }
  | .addEmotionTagPressed =>
    if trimmingCharacters t.field = "" then t
    else { t with field := "", added := t.added ++ [⟨t.added.length, t.field⟩] }
  | .tagsLaidOut => { t with shown := t.tags }
  | .tagRemoveTapped cell => { t with pressed := t.pressed ++ t.shown[cell]?.toList }
  | _ => t

def after (es : List AddFeelingEvent) : Tagging := es.foldl step {}

/-- The tag that the cell shows is still there, and between its place and the cell's
all tags have its text. -/
def Fits (t : Tagging) (cell : ℕ) : Prop :=
  ∃ o ∈ t.shown[cell]?, o ∈ t.tags ∧ ∀ i ≤ max (t.tags.idxOf o) cell,
    min (t.tags.idxOf o) cell ≤ i → t.tags[i]?.map (·.text) = some o.text

instance (t : Tagging) (cell : ℕ) : Decidable (t.Fits cell) :=
  inferInstanceAs (Decidable (∃ o ∈ t.shown[cell]?, o ∈ t.tags ∧
    ∀ i ≤ max (t.tags.idxOf o) cell, min (t.tags.idxOf o) cell ≤ i →
      t.tags[i]?.map (·.text) = some o.text))

def Keeps (t : Tagging) : AddFeelingEvent → Bool
  | .tagRemoveTapped cell => t.Fits cell
  | _ => true

/-- The texts that were added, in order. -/
def texts (t : Tagging) : List String := t.added.map (·.text)

def isPress : AddFeelingEvent → Bool
  | .tagRemoveTapped _ => true
  | _ => false

/-- How often an X was pressed. -/
def presses (es : List AddFeelingEvent) : ℕ := es.countP isPress

/-- Every X that is pressed fits. -/
def Kept (es : List AddFeelingEvent) : Prop := Runs.Along step (fun t e => t.Keeps e) {} es

instance (es : List AddFeelingEvent) : Decidable (Kept es) :=
  inferInstanceAs (Decidable (Runs.Along step (fun t e => t.Keeps e) {} es))

end Tagging

end Sens

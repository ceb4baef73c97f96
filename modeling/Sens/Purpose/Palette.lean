import Sens.Purpose.Colour
import Sens.Purpose.Post
import Sens.Lib.Menu

/-!
# What the palette and the picker are for

The cell that an author taps is the one a viewer should tell from what is displayed:
`Choice.lastItem` is the choice of a colour and `Choice.lastEmojiItem` that of an emoji, and a
`Swatch` is an entry of the palette with its bytes.
-/

namespace Sens

/-- An entry of the palette: the text that names it, and the bytes of its colour. -/
structure Swatch where
  mark : String
  digits : String
  red : UInt8
  green : UInt8
  blue : UInt8

namespace Swatch

def text (s : Swatch) : String := String.ofList (s.mark.toList ++ s.digits.toList)

/-- The colour of the bytes. -/
def colour (s : Swatch) : UIColor := .rgba (s.red.toNat / 255) (s.green.toNat / 255) (s.blue.toNat / 255) 1

/-- The digits are those of the bytes, after one `#` or none. -/
def wellFormed (s : Swatch) : Bool :=
  (s.mark.toList = [] ∨ s.mark.toList = ['#']) ∧
    s.digits.toList.map hexDigit = (digitValues s.red s.green s.blue).map some

end Swatch

/-- The palette of the compose screen. -/
def swatches : List Swatch := [⟨"#", "000000", 0, 0, 0⟩, ⟨"#", "FFFFFF", 255, 255, 255⟩,
  ⟨"#", "FF0000", 255, 0, 0⟩, ⟨"", "0085FF", 0, 133, 255⟩, ⟨"", "FFE600", 255, 230, 0⟩,
  ⟨"", "21E510", 33, 229, 16⟩, ⟨"", "FF8A00", 255, 138, 0⟩, ⟨"", "DB00FF", 219, 0, 255⟩,
  ⟨"", "AE6027", 174, 96, 39⟩]

namespace Choice

/-- The item of the palette after the event, if the event is about colours. -/
def item : AddFeelingEvent → Option (Option ℕ)
  | .colorTapped item => if item < AddFeelingViewController.colors.length then some (some item) else none
  | .clearSelectedColor => some none
  | _ => none

/-- The colour of an item, and the empty text for none. -/
def colorOf (item : Option ℕ) : String := (item.bind (AddFeelingViewController.colors[·]?)).getD ""

/-- The last item tapped after the last clear. -/
def lastItem (es : List AddFeelingEvent) : Option ℕ := (es.filterMap item).getLastD none

/-- The emoji of the picker, by section and item. -/
def emojiMenu (x : ℕ × ℕ) : Option String := emojiAt x.1 x.2

/-- The place in the picker of the emoji that the event picks, if it picks one. -/
def emojiItem : AddFeelingEvent → Option (Option (ℕ × ℕ))
  | .emojiTapped sec item => if sec = 0 ∧ item < 79 then some (some (sec, item)) else none
  | _ => none

/-- The place in the picker of the last emoji picked. -/
def lastEmojiItem (es : List AddFeelingEvent) : Option (ℕ × ℕ) := Menu.last emojiItem es

end Choice

end Sens

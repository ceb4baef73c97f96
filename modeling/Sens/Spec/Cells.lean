import Sens.Spec.AddFeeling
import Sens.Spec.Utilities

/-!
# The cells of colours and emoji

`ColorCollectionViewCell.swift` and `EmojiCollectionViewCell.swift`, and what makes them:
`cellForItemAt` of the compose screen, as far as it is about colours, and of the emoji picker.
A collection may hand out a cell that stood for another item before.
-/

namespace Sens

structure ColorCollectionViewCell where
  color : String := ""
  backgroundColor : Option UIColor := none
  cornerRadius : ℕ := 0
  borderWidth : ℕ := 0
  borderColor : Option UIColor := none
deriving DecidableEq

namespace ColorCollectionViewCell

variable (F : Foundation)

def configCell (cell : ColorCollectionViewCell) (color : String) : ColorCollectionViewCell :=
  { cell with
    color := color
    backgroundColor := some (hexStringToUIColor F color)
    cornerRadius := 13
    borderWidth := 1
    borderColor := some (hexStringToUIColor F "EDEDED") }

end ColorCollectionViewCell

/-- `cellForItemAt` of `colorCollectionView`, with the cell that is dequeued. -/
def AddFeelingViewController.cellForItemAt {σ : Type} (F : Foundation) (dequeued : ColorCollectionViewCell)
    (item : ℕ) : Swift σ ColorCollectionViewCell := do
  let color ← Swift.index AddFeelingViewController.colors item
  return dequeued.configCell F color

structure EmojiCollectionViewCell where
  imageView : Option UIImage := none
  emojiCode : String := ""
deriving DecidableEq

namespace EmojiPickerViewController

def numberOfSections (p : EmojiPickerViewController) : ℕ := p.emojiList.length

def numberOfItemsInSection {σ : Type} (p : EmojiPickerViewController) (sec : ℕ) : Swift σ ℕ := do
  return (← Swift.index p.emojiList sec).length

/-- `cellForItemAt` of the picker, with the cell that is dequeued. -/
def cellForItemAt {σ : Type} (p : EmojiPickerViewController) (dequeued : EmojiCollectionViewCell)
    (sec item : ℕ) : Swift σ EmojiCollectionViewCell := do
  let emoji ← Swift.index (← Swift.index p.emojiList sec) item
  return { dequeued with imageView := some (image emoji 100), emojiCode := emoji }

end EmojiPickerViewController

end Sens

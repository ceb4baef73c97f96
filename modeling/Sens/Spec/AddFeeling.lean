import Sens.Spec.Objects

/-!
# The compose screen

`AddFeelingViewController.swift`, with the emoji picker, the tag cells and the
radio buttons it owns. The state is the controller's fields and the contents of
its views; each handler is a function on it that may trap. `handle` dispatches the
events that UIKit can deliver, and `Deliverable` says which ones the screen can
deliver in a state.
-/

namespace Sens

/-! ## Components -/

/-- The two radio buttons for the location. -/
inductive LocationButton
  | tapped
  | user
deriving DecidableEq

structure RadioButton where
  isOn : Bool := true
  alternateButton : Option (List LocationButton) := none
deriving DecidableEq

def RadioButton.awakeFromNib (b : RadioButton) : RadioButton := { b with isOn := false }

structure EmotionTagCollectionViewCell where
  index : ℤ := -1
  labelEmotionCell : String := ""
deriving DecidableEq

structure UITextView where
  text : String
  isFirstResponder : Bool := false
deriving DecidableEq

structure EmojiPickerViewController where
  emojiList : List (List String) := []
deriving DecidableEq

namespace EmojiPickerViewController

def fetchEmojis (p : EmojiPickerViewController) : EmojiPickerViewController :=
  { p with emojiList := p.emojiList ++ [(List.range' 0x1F601 (0x1F64F - 0x1F601 + 1)).filterMap
      fun i => if i.isValidChar then some (String.singleton (Char.ofNat i)) else none] }

/-- The emoji of the selected cell, `nil` where there is no cell. -/
def didSelectItemAt (p : EmojiPickerViewController) (sec item : ℕ) : Option String :=
  p.emojiList[sec]?.bind (·[item]?)

end EmojiPickerViewController

/-! ## The controller -/

structure AddFeelingViewController where
  pin : EmotionPin := {}
  touchedLocation : Option CLLocationCoordinate2D := none
  userLocation : Option CLLocationCoordinate2D := none
  anonSwitch : Bool := false
  tappedLocationRadioButton : RadioButton := {}
  userLocationRadioButton : RadioButton := {}
  /-- `tappedLocationlabel.superview?.isHidden`; the `tapped` button is in that view. -/
  tappedLocationHidden : Bool := false
  tagTextField : String := ""
  /-- The displayed tag cells, as `cellForItemAt` last configured them. -/
  tagCells : List EmotionTagCollectionViewCell := []
  /-- The selection of `colorCollectionView`. -/
  selectedColors : List ℕ := []
  testimonialTextView : UITextView := { text := "Relate sua experiência" }
  cardViewController : Option EmojiPickerViewController := none
deriving DecidableEq

namespace AddFeelingViewController

variable (F : Foundation)

/-- The controller as the storyboard makes it: the runtime attributes of the radio
buttons are set before `awakeFromNib`. -/
def instantiate : AddFeelingViewController where
  -- `awakeFromNib` turns both off, whatever the attribute says
  tappedLocationRadioButton := RadioButton.awakeFromNib { isOn := false }
  userLocationRadioButton := RadioButton.awakeFromNib { isOn := true }

def colors : List String :=
  ["#000000", "#FFFFFF", "#FF0000", "0085FF", "FFE600", "21E510", "FF8A00", "DB00FF", "AE6027"]

def placeholder : String := "Conte seus pensamentos"

/-! ### Loading -/

def setTextView : Swift AddFeelingViewController Unit :=
  modify fun c => { c with testimonialTextView.text := placeholder }

/-- The call unwraps its argument; the address only ends in a label. -/
def recoveryAddress (locationCoordinate : Option CLLocationCoordinate2D) :
    Swift AddFeelingViewController Unit := do
  let _ ← Swift.unwrap locationCoordinate

def viewDidLoad : Swift AddFeelingViewController Unit := do
  setTextView
  modify fun c => { c with
    tappedLocationRadioButton.alternateButton := some [.user]
    userLocationRadioButton.alternateButton := some [.tapped] }
  let c ← get
  if c.touchedLocation = none then
    modify fun c => { c with
      userLocationRadioButton.isOn := true
      tappedLocationRadioButton.isOn := false
      tappedLocationHidden := true }
  else
    modify fun c => { c with
      tappedLocationRadioButton.isOn := true
      tappedLocationHidden := false }
    recoveryAddress c.touchedLocation
  recoveryAddress c.userLocation

/-! ### Tags -/

def addEmotionTagPressed : Swift AddFeelingViewController Unit :=
  modify fun c =>
    if trimmingCharacters c.tagTextField ≠ "" then
      { c with pin.tags := c.pin.tags ++ [c.tagTextField], tagTextField := "" }
    else c

/-- The tag collection's next layout: `cellForItemAt` configures a cell for each tag. -/
def layoutTags : Swift AddFeelingViewController Unit :=
  modify fun c => { c with
    tagCells := c.pin.tags.mapIdx fun i tag => { index := i, labelEmotionCell := F.capitalized tag } }

def removeButtonPressed (index : ℕ) : Swift AddFeelingViewController Unit := do
  let tags ← Swift.removeAt (← get).pin.tags index
  modify fun c => { c with pin.tags := tags }

/-- `EmotionTagCollectionViewCell.removeButtonPressed`. -/
def cellRemoveButtonPressed (cell : EmotionTagCollectionViewCell) : Swift AddFeelingViewController Unit :=
  if cell.index > -1 then removeButtonPressed cell.index.toNat else pure ()

/-! ### Emoji -/

def openCard : Swift AddFeelingViewController Unit :=
  modify fun c => { c with
    cardViewController := some (EmojiPickerViewController.fetchEmojis {}) }

def backButton (emojiCode : Option String) : Swift AddFeelingViewController Unit := do
  -- the animation uses the card without a check
  let _ ← Swift.unwrap (← get).cardViewController
  match emojiCode with
  | some emojiCode => modify fun c => { c with pin.icon := emojiCode }
  | none => pure ()

/-! ### Colour -/

/-- A tap on a colour cell: the collection selects that item alone and reports it. -/
def colorSelected (item : ℕ) : Swift AddFeelingViewController Unit := do
  modify fun c => { c with selectedColors := [item] }
  -- the cell was configured with the colour at its item
  let color ← Swift.index colors item
  modify fun c => { c with pin.color := color }

/-- `colorCollectionView.indexPathsForSelectedItems`, `nil` without a selection. -/
def indexPathsForSelectedItems (c : AddFeelingViewController) : Option (List ℕ) :=
  if c.selectedColors = [] then none else some c.selectedColors

def clearSelectedColor : Swift AddFeelingViewController Unit :=
  modify fun c =>
    match c.indexPathsForSelectedItems with
    -- the guard returns before the colour is cleared
    | none => c
    | some selectedItems => { c with
        selectedColors := c.selectedColors.filter (· ∉ selectedItems)
        pin.color := "" }

/-! ### Location -/

def setOn (isOn : Bool) (c : AddFeelingViewController) : LocationButton → AddFeelingViewController
  | .tapped => { c with tappedLocationRadioButton.isOn := isOn }
  | .user => { c with userLocationRadioButton.isOn := isOn }

def radioButton (c : AddFeelingViewController) : LocationButton → RadioButton
  | .tapped => c.tappedLocationRadioButton
  | .user => c.userLocationRadioButton

def unselectAlternateButtons (b : LocationButton) : Swift AddFeelingViewController Unit :=
  modify fun c =>
    match (c.radioButton b).alternateButton with
    | none => c
    | some alternates => alternates.foldl (setOn false) (c.setOn true b)

def buttonClicked (b : LocationButton) : Swift AddFeelingViewController Unit :=
  unselectAlternateButtons b

/-! ### Testimonial -/

/-- Replaces `length` characters from `location` on. -/
def replaceCharacters (s : String) (location length : ℕ) (text : String) : String :=
  String.ofList (s.toList.take location ++ text.toList ++ s.toList.drop (location + length))

def textViewDidBeginEditing : Swift AddFeelingViewController Unit :=
  modify fun c =>
    if c.testimonialTextView.text = placeholder then { c with testimonialTextView.text := "" } else c

def textViewDidEndEditing : Swift AddFeelingViewController Unit :=
  modify fun c =>
    if c.testimonialTextView.text = "" then { c with testimonialTextView.text := placeholder } else c

def becomeFirstResponder : Swift AddFeelingViewController Unit := do
  modify fun c => { c with testimonialTextView.isFirstResponder := true }
  textViewDidBeginEditing

def resignFirstResponder : Swift AddFeelingViewController Unit := do
  if (← get).testimonialTextView.isFirstResponder then
    modify fun c => { c with testimonialTextView.isFirstResponder := false }
    textViewDidEndEditing

def shouldChangeTextIn (text : String) : Swift AddFeelingViewController Bool := do
  -- the return key ends editing, and is then inserted like any other text
  if text = "\n" then resignFirstResponder
  return true

/-- An edit by the user, which UIKit applies when `shouldChangeTextIn` allows it. -/
def changeText (location length : ℕ) (text : String) : Swift AddFeelingViewController Unit := do
  if ← shouldChangeTextIn text then
    modify fun c => { c with
      testimonialTextView.text := replaceCharacters c.testimonialTextView.text location length text }

/-! ### Saving -/

/-- The dictionary that is written to the collection `pins`. -/
def document (pin : EmotionPin) (userName : String) (location : GeoPoint) : Document :=
  [("user", .string pin.user), ("icon", .string pin.icon), ("color", .string pin.color),
    ("tags", .strings pin.tags), ("testimonial", .string pin.testimonial),
    ("userName", .string userName), ("location", .single (.geoPoint location))]

/-- `anonSwitch.isOn ? "Anonimo" : user.name`. -/
def authorName (user : User) : Swift AddFeelingViewController String := do
  if (← get).anonSwitch then return "Anonimo" else user.name

/-- The `if` over the radio buttons; with none on, the location stays as it was. -/
def chooseLocation : Swift AddFeelingViewController Unit := do
  let c ← get
  if c.tappedLocationRadioButton.isOn then
    let location ← Swift.unwrap c.touchedLocation
    modify fun c => { c with pin.location := location }
  else if c.userLocationRadioButton.isOn then
    let location ← Swift.unwrap c.userLocation
    modify fun c => { c with pin.location := location }

def saveEmotionPressed (user : User) : Swift AddFeelingViewController Document := do
  modify fun c => { c with pin.testimonial := c.testimonialTextView.text }
  let id ← user.id
  modify fun c => { c with pin.user := id }
  -- the draft is changed by now, and the name may still be missing
  let userName ← authorName user
  chooseLocation
  let pin := (← get).pin
  let location ← GeoPoint.make pin.location
  return document pin userName location

end AddFeelingViewController

/-! ## Events -/

/-- What the author can do on the compose screen, and the layout of the tags. A gesture
outside the text view (a tap on a cell, editing the tag field) ends its editing first: that
is an event of its own, `keyboardDismissed`, before the gesture's. -/
inductive AddFeelingEvent
  | tagTextEdited (text : String)
  | addEmotionTagPressed
  | tagsLaidOut
  | tagRemoveTapped (cell : ℕ)
  | selectEmojiPressed
  | emojiTapped (sec item : ℕ)
  | emojiBackPressed
  | colorTapped (item : ℕ)
  | clearSelectedColor
  | testimonialTapped
  | testimonialEdited (location length : ℕ) (text : String)
  | keyboardDismissed
  | anonSwitched (isOn : Bool)
  | locationTapped (button : LocationButton)
deriving DecidableEq

namespace AddFeelingViewController

variable (F : Foundation)

def handle : AddFeelingEvent → Swift AddFeelingViewController Unit
  | .tagTextEdited text => modify fun c => { c with tagTextField := text }
  | .addEmotionTagPressed => addEmotionTagPressed
  | .tagsLaidOut => layoutTags F
  | .tagRemoveTapped cell => do
    match (← get).tagCells[cell]? with
    | some cell => cellRemoveButtonPressed cell
    | none => pure ()
  | .selectEmojiPressed => openCard
  | .emojiTapped sec item => do
    let card ← Swift.unwrap (← get).cardViewController
    backButton (card.didSelectItemAt sec item)
  | .emojiBackPressed => backButton none
  | .colorTapped item => colorSelected item
  | .clearSelectedColor => clearSelectedColor
  | .testimonialTapped => becomeFirstResponder
  | .testimonialEdited location length text => changeText location length text
  | .keyboardDismissed => resignFirstResponder
  | .anonSwitched isOn => modify fun c => { c with anonSwitch := isOn }
  | .locationTapped button => buttonClicked button

/-- The events that the screen can deliver: to cells, buttons and a picker that are
displayed, and to a text view in the right mode. Nothing forces a `keyboardDismissed`
before a tap elsewhere, so some runs allowed here are none of UIKit's. -/
def Deliverable (c : AddFeelingViewController) : AddFeelingEvent → Bool
  | .tagRemoveTapped cell => cell < c.tagCells.length
  | .emojiTapped _ _ | .emojiBackPressed => c.cardViewController.isSome
  | .colorTapped item => item < colors.length
  | .testimonialTapped => !c.testimonialTextView.isFirstResponder
  | .testimonialEdited location length _ => c.testimonialTextView.isFirstResponder &&
      location + length ≤ c.testimonialTextView.text.toList.length
  | .locationTapped .tapped => !c.tappedLocationHidden
  | _ => true

/-- One event: `none` where it cannot be delivered, and where the app traps. -/
def step (c : AddFeelingViewController) (e : AddFeelingEvent) : Option AddFeelingViewController :=
  if c.Deliverable e then
    match (handle F e).run c with
    | .ok _ c' => some c'
    | .error _ _ => none
  else none

end AddFeelingViewController

end Sens

import Sens.Purpose.Post
import Sens.Lib.Runs

/-!
# The compose screen

* `viewDidLoad_run`, `viewDidLoad_error`: opening needs the user's location.
* `Effect`, `step_effect`: what each event of the screen can do.
* `OK`, `after_ok`: the invariant of the screen, over every sequence of events.
* `after_emoji`, `after_color`, `after_anon`, `after_button`: the author's choices,
  over every sequence of events.
* `save_iff`: when a save writes a document, and which one.
-/

namespace Sens

namespace AddFeelingViewController

open Runs

variable {F : Foundation} {c c' : AddFeelingViewController} {e : AddFeelingEvent}

/-! ## Opening -/

/-- The compose screen just after it is opened. -/
def opened (touched : Option CLLocationCoordinate2D) (user : CLLocationCoordinate2D) :
    AddFeelingViewController where
  touchedLocation := touched
  userLocation := some user
  tappedLocationRadioButton := ⟨touched.isSome, some [.user]⟩
  userLocationRadioButton := ⟨touched.isNone, some [.tapped]⟩
  tappedLocationHidden := touched.isNone
  testimonialTextView := { text := placeholder }

theorem viewDidLoad_run (touched : Option CLLocationCoordinate2D) (user : CLLocationCoordinate2D) :
    viewDidLoad.run { instantiate with userLocation := some user, touchedLocation := touched } =
      .ok () (opened touched user) := by
  cases touched <;>
    simp [viewDidLoad, setTextView, instantiate, recoveryAddress, opened, RadioButton.awakeFromNib]

theorem viewDidLoad_error (touched : Option CLLocationCoordinate2D) :
    ∃ c, viewDidLoad.run { instantiate with userLocation := none, touchedLocation := touched } =
      .error .unexpectedNil c := by
  cases touched <;> simp [viewDidLoad, setTextView, instantiate, recoveryAddress]

/-! ## One event -/

/-- **What an event can do.** The events of the text view change that view only. -/
inductive Effect (c : AddFeelingViewController) : AddFeelingEvent → AddFeelingViewController → Prop
  | tagText (text : String) : Effect c (.tagTextEdited text) { c with tagTextField := text }
  | tagAdded (h : trimmingCharacters c.tagTextField ≠ "") : Effect c .addEmotionTagPressed
      { c with pin.tags := c.pin.tags ++ [c.tagTextField], tagTextField := "" }
  | tagBlank (h : trimmingCharacters c.tagTextField = "") : Effect c .addEmotionTagPressed c
  | tagsLaidOut (cells : List EmotionTagCollectionViewCell) :
      Effect c .tagsLaidOut { c with tagCells := cells }
  | tagRemoved (k i : ℕ) (hi : i < c.pin.tags.length) :
      Effect c (.tagRemoveTapped k) { c with pin.tags := c.pin.tags.eraseIdx i }
  | tagKept (k : ℕ) : Effect c (.tagRemoveTapped k) c
  | card : Effect c .selectEmojiPressed
      { c with cardViewController := some (EmojiPickerViewController.fetchEmojis {}) }
  | emoji (sec item : ℕ) (card : EmojiPickerViewController) (h : c.cardViewController = some card) :
      Effect c (.emojiTapped sec item)
        { c with pin.icon := (card.didSelectItemAt sec item).getD c.pin.icon }
  | emojiBack : Effect c .emojiBackPressed c
  | color (item : ℕ) (color : String) (h : colors[item]? = some color) :
      Effect c (.colorTapped item) { c with selectedColors := [item], pin.color := color }
  | cleared (h : c.selectedColors ≠ []) :
      Effect c .clearSelectedColor { c with selectedColors := [], pin.color := "" }
  | clearedNone (h : c.selectedColors = []) : Effect c .clearSelectedColor c
  | testimonialTapped (v : UITextView) :
      Effect c .testimonialTapped { c with testimonialTextView := v }
  | testimonialEdited (location length : ℕ) (text : String) (v : UITextView) :
      Effect c (.testimonialEdited location length text) { c with testimonialTextView := v }
  | keyboardDismissed (v : UITextView) :
      Effect c .keyboardDismissed { c with testimonialTextView := v }
  | anonSwitched (isOn : Bool) : Effect c (.anonSwitched isOn) { c with anonSwitch := isOn }
  | locationTapped (b : LocationButton) (hb : b = .tapped → c.tappedLocationHidden = false)
      (alternates : List LocationButton) (h : (c.radioButton b).alternateButton = some alternates) :
      Effect c (.locationTapped b) (alternates.foldl (setOn false) (c.setOn true b))
  | locationAlone (b : LocationButton) (h : (c.radioButton b).alternateButton = none) :
      Effect c (.locationTapped b) c

/-- The text view once it has the focus. -/
def focused (v : UITextView) : UITextView :=
  { text := if v.text = placeholder then "" else v.text, isFirstResponder := true }

/-- The text view once it has given up the focus. -/
def blurred (v : UITextView) : UITextView :=
  if v.isFirstResponder then { text := if v.text = "" then placeholder else v.text } else v

/-- The text view after an edit: the return key takes the focus away first. -/
def edited (location length : ℕ) (text : String) (v : UITextView) : UITextView :=
  let v := if text = "\n" then blurred v else v
  { v with text := replaceCharacters v.text location length text }

theorem becomeFirstResponder_run (c : AddFeelingViewController) :
    becomeFirstResponder.run c =
      .ok () { c with testimonialTextView := focused c.testimonialTextView } := by
  simp only [becomeFirstResponder, textViewDidBeginEditing, focused, EStateM.run_bind, EStateM.run_modify]
  split_ifs <;> rfl

theorem resignFirstResponder_run (c : AddFeelingViewController) :
    resignFirstResponder.run c =
      .ok () { c with testimonialTextView := blurred c.testimonialTextView } := by
  simp only [resignFirstResponder, textViewDidEndEditing, blurred, EStateM.run_bind, EStateM.run_get]
  split_ifs with h ht
  · simp only [EStateM.run_bind, EStateM.run_modify]
    rw [if_pos ht]
  · simp only [EStateM.run_bind, EStateM.run_modify]
    rw [if_neg ht]
  · rfl

theorem shouldChangeTextIn_run (c : AddFeelingViewController) (text : String) :
    (shouldChangeTextIn text).run c = .ok true { c with
      testimonialTextView :=
        if text = "\n" then blurred c.testimonialTextView else c.testimonialTextView } := by
  unfold shouldChangeTextIn
  split_ifs with h
  · rw [EStateM.run_bind, resignFirstResponder_run]; rfl
  · rfl

theorem changeText_run (c : AddFeelingViewController) (location length : ℕ) (text : String) :
    (changeText location length text).run c =
      .ok () { c with testimonialTextView := edited location length text c.testimonialTextView } := by
  simp only [changeText, EStateM.run_bind, shouldChangeTextIn_run, if_true, EStateM.run_modify, edited]

/-- Removal of the tag at `index`: in range, or a trap. -/
theorem removeButtonPressed_run (c : AddFeelingViewController) (index : ℕ) :
    (removeButtonPressed index).run c =
      if index < c.pin.tags.length then .ok () { c with pin.tags := c.pin.tags.eraseIdx index }
      else .error .indexOutOfRange c := by
  unfold removeButtonPressed Swift.removeAt
  simp only [EStateM.run_bind, EStateM.run_get]
  split_ifs <;> simp

theorem backButton_run {card : EmojiPickerViewController} (h : c.cardViewController = some card)
    (emojiCode : Option String) :
    (backButton emojiCode).run c = .ok () { c with pin.icon := emojiCode.getD c.pin.icon } := by
  have hu : (Swift.unwrap c.cardViewController).run c = .ok card c := by rw [h]; rfl
  simp only [backButton, EStateM.run_bind, EStateM.run_get, hu]
  cases emojiCode <;> rfl

theorem step_eq_some : step F c e = some c' ↔ c.Deliverable e = true ∧ (handle F e).run c = .ok () c' := by
  unfold step
  by_cases hd : c.Deliverable e = true
  · rw [if_pos hd]
    cases hr : (handle F e).run c with
    | ok a s => simp [hd]
    | error t s => simp
  · rw [if_neg hd]; simp [hd]

theorem step_effect (h : step F c e = some c') : Effect c e c' := by
  obtain ⟨hd, h⟩ := step_eq_some.1 h
  cases e with
  | tagTextEdited text => cases h; exact .tagText text
  | addEmotionTagPressed =>
    simp only [handle, addEmotionTagPressed, EStateM.run_modify] at h
    split_ifs at h with hb
    · cases h; exact .tagAdded hb
    · cases h; exact .tagBlank (not_not.1 hb)
  | tagsLaidOut => cases h; exact .tagsLaidOut _
  | tagRemoveTapped k =>
    -- the cell keeps the index it was last configured with
    simp only [handle, EStateM.run_bind, EStateM.run_get] at h
    cases hk : c.tagCells[k]? with
    | none => rw [hk] at h; cases h; exact .tagKept k
    | some cell =>
      rw [hk] at h
      simp only [cellRemoveButtonPressed] at h
      split_ifs at h with hi
      · rw [removeButtonPressed_run] at h
        split_ifs at h with hl
        cases h; exact .tagRemoved k _ hl
      · cases h; exact .tagKept k
  | selectEmojiPressed => cases h; exact .card
  | emojiTapped sec item =>
    simp only [handle, EStateM.run_bind, EStateM.run_get] at h
    cases hc : c.cardViewController with
    | none => rw [hc] at h; cases h
    | some card =>
      rw [hc] at h
      simp only [Swift.run_unwrap_some, backButton_run hc] at h
      cases h; exact .emoji sec item card hc
  | emojiBackPressed =>
    obtain ⟨card, hc⟩ := Option.isSome_iff_exists.1 hd
    simp only [handle, backButton_run hc] at h
    cases h; exact .emojiBack
  | colorTapped item =>
    simp only [handle, colorSelected, EStateM.run_bind, EStateM.run_modify] at h
    cases hi : colors[item]? with
    | none => rw [Swift.run_index_of_none hi] at h; cases h
    | some color => rw [Swift.run_index_of_getElem? hi] at h; cases h; exact .color item color hi
  | clearSelectedColor =>
    simp only [handle, clearSelectedColor, indexPathsForSelectedItems, EStateM.run_modify] at h
    by_cases hs : c.selectedColors = []
    · rw [if_pos hs] at h; cases h; exact .clearedNone hs
    · -- every selected item is deselected
      have hf : c.selectedColors.filter (· ∉ c.selectedColors) = [] :=
        List.filter_eq_nil_iff.2 fun a ha => by simpa using ha
      rw [if_neg hs] at h
      simp only [hf] at h
      cases h; exact .cleared hs
  | testimonialTapped =>
    rw [handle, becomeFirstResponder_run] at h; cases h; exact .testimonialTapped _
  | testimonialEdited location length text =>
    rw [handle, changeText_run] at h; cases h; exact .testimonialEdited location length text _
  | keyboardDismissed =>
    rw [handle, resignFirstResponder_run] at h; cases h; exact .keyboardDismissed _
  | anonSwitched isOn => cases h; exact .anonSwitched isOn
  | locationTapped b =>
    simp only [handle, buttonClicked, unselectAlternateButtons, EStateM.run_modify] at h
    have hb : b = .tapped → c.tappedLocationHidden = false := by
      rintro rfl; simpa [Deliverable] using hd
    cases ha : (c.radioButton b).alternateButton with
    | none => rw [ha] at h; cases h; exact .locationAlone b ha
    | some alternates => rw [ha] at h; cases h; exact .locationTapped b hb alternates ha

/-! ## The invariant -/

/-- The invariant of the compose screen, opened with the two locations. The colour is
empty when no colour is selected: this is what makes clearing exact, since without a
selection `clearSelectedColor` returns early. -/
structure OK (touched : Option CLLocationCoordinate2D) (user : CLLocationCoordinate2D)
    (c : AddFeelingViewController) : Prop where
  touched_eq : c.touchedLocation = touched
  user_eq : c.userLocation = some user
  hidden : c.tappedLocationHidden = touched.isNone
  tapped_alt : c.tappedLocationRadioButton.alternateButton = some [.user]
  user_alt : c.userLocationRadioButton.alternateButton = some [.tapped]
  one_on : c.userLocationRadioButton.isOn = !c.tappedLocationRadioButton.isOn
  tapped_on : c.tappedLocationRadioButton.isOn = true → touched.isSome = true
  color : c.selectedColors = [] → c.pin.color = ""
  tags : ∀ t ∈ c.pin.tags, trimmingCharacters t ≠ ""
  card : ∀ p, c.cardViewController = some p → p = EmojiPickerViewController.fetchEmojis {}

variable {touched : Option CLLocationCoordinate2D} {user : CLLocationCoordinate2D}

theorem opened_ok : OK touched user (opened touched user) := by
  refine ⟨rfl, rfl, rfl, rfl, rfl, ?_, fun h => h, fun _ => rfl, ?_, ?_⟩
  · cases touched <;> rfl
  · intro t ht; cases ht
  · intro p hp; cases hp

/-- Each radio button has the other one as its alternate. -/
theorem OK.alternateButton (hc : OK touched user c) (b : LocationButton) :
    (c.radioButton b).alternateButton =
      some [if b = .tapped then LocationButton.user else .tapped] := by
  cases b with
  | tapped => exact hc.tapped_alt
  | user => exact hc.user_alt

theorem step_ok (hc : OK touched user c) (h : step F c e = some c') : OK touched user c' := by
  cases step_effect h with
  | tagText text => exact { hc with }
  | tagAdded hb =>
    refine { hc with tags := ?_ }
    intro t ht
    rcases List.mem_append.1 ht with ht | ht
    · exact hc.tags t ht
    · rw [List.mem_singleton] at ht; subst ht; exact hb
  | tagBlank hb => exact hc
  | tagsLaidOut cells => exact { hc with }
  | tagRemoved k i hi => exact { hc with tags := fun t ht => hc.tags t (List.mem_of_mem_eraseIdx ht) }
  | tagKept k => exact hc
  | card => exact { hc with card := fun p hp => by cases hp; rfl }
  | emoji sec item card hcard => exact { hc with }
  | emojiBack => exact hc
  | color item color hi => exact { hc with color := fun hs => by cases hs }
  | cleared hs => exact { hc with color := fun _ => rfl }
  | clearedNone hs => exact hc
  | testimonialTapped v => exact { hc with }
  | testimonialEdited location length text v => exact { hc with }
  | keyboardDismissed v => exact { hc with }
  | anonSwitched isOn => exact { hc with }
  | locationTapped b hb alternates ha =>
    obtain rfl := Option.some.inj ((hc.alternateButton b).symm.trans ha)
    cases b with
    | tapped =>
      have hv : touched.isSome = true := by
        have := hb rfl
        rw [hc.hidden] at this
        simpa using this
      exact { hc with one_on := rfl, tapped_on := fun _ => hv }
    | user => exact { hc with one_on := rfl, tapped_on := fun h => by cases h }
  | locationAlone b ha => cases (hc.alternateButton b).symm.trans ha

/-- **The invariant holds after every sequence of events.** -/
theorem after_ok {es : List AddFeelingEvent} (h : after (step F) (opened touched user) es = some c) :
    OK touched user c :=
  after_invariant (P := fun _ c => OK touched user c) opened_ok
    (fun _ _ _ _ _ hu he => step_ok hu he) es c h

/-! ## The author's choices -/

theorem foldl_setOn (bs : List LocationButton) (c : AddFeelingViewController) :
    ∃ t u, bs.foldl (setOn false) c =
      { c with tappedLocationRadioButton := t, userLocationRadioButton := u } := by
  induction bs generalizing c with
  | nil => exact ⟨_, _, rfl⟩
  | cons b bs ih =>
    obtain ⟨t, u, h⟩ := ih (c.setOn false b)
    rw [List.foldl_cons, h]
    cases b <;> exact ⟨_, _, rfl⟩

/-- A tap on a radio button changes the radio buttons and nothing else. -/
theorem locationTapped_frame (b : LocationButton) (bs : List LocationButton) :
    ∃ t u, bs.foldl (setOn false) (c.setOn true b) =
      { c with tappedLocationRadioButton := t, userLocationRadioButton := u } := by
  obtain ⟨t, u, h⟩ := foldl_setOn bs (c.setOn true b)
  rw [h]
  cases b <;> exact ⟨_, _, rfl⟩

/-- The emoji of the picker are those of the characters from U+1F601 on. -/
theorem emojiList_eq : (EmojiPickerViewController.fetchEmojis {}).emojiList =
    [(List.range' 0x1F601 79).map fun i => String.singleton (Char.ofNat i)] := by
  have hvalid : ∀ i ∈ List.range' 0x1F601 79, i.isValidChar := by
    intro i hi
    rw [List.mem_range'_1] at hi
    exact .inr (by omega)
  rw [← List.filterMap_eq_map, EmojiPickerViewController.fetchEmojis]
  refine congrArg (fun l => [l]) (List.filterMap_congr fun i hi => ?_)
  rw [if_pos (hvalid i hi), Function.comp_apply]

/-- **The picker hands over the emoji of the cell** that was tapped. -/
theorem didSelectItemAt_eq (sec item : ℕ) :
    (EmojiPickerViewController.fetchEmojis {}).didSelectItemAt sec item = Choice.emojiAt sec item := by
  rw [EmojiPickerViewController.didSelectItemAt, emojiList_eq, Choice.emojiAt]
  cases sec with
  | succ n => simp
  | zero =>
    simp only [List.getElem?_cons_zero, Option.bind_some, List.getElem?_map, true_and]
    split_ifs with hi
    · rw [List.getElem?_range' hi, Option.map_some, Nat.one_mul]
    · rw [List.getElem?_eq_none (by simpa using hi), Option.map_none]

theorem step_emoji (hc : OK touched user c) (h : step F c e = some c') :
    c'.pin.icon = (Choice.emoji e).getD c.pin.icon := by
  cases step_effect h with
  | emoji sec item card hcard => rw [hc.card card hcard, didSelectItemAt_eq]; rfl
  | locationTapped b hb alternates ha =>
    obtain ⟨t, u, hf⟩ := locationTapped_frame b alternates
    rw [hf]; rfl
  | _ => rfl

theorem step_color (hc : OK touched user c) (h : step F c e = some c') :
    c'.pin.color = (Choice.color e).getD c.pin.color := by
  cases step_effect h with
  | color item color hi => simp [Choice.color, hi]
  | clearedNone hs => simp [Choice.color, hc.color hs]
  | locationTapped b hb alternates ha =>
    obtain ⟨t, u, hf⟩ := locationTapped_frame b alternates
    rw [hf]; rfl
  | _ => rfl

theorem step_anon (h : step F c e = some c') : c'.anonSwitch = (Choice.anon e).getD c.anonSwitch := by
  cases step_effect h with
  | locationTapped b hb alternates ha =>
    obtain ⟨t, u, hf⟩ := locationTapped_frame b alternates
    rw [hf]; rfl
  | _ => rfl

/-- The radio button that is on. -/
def selected (c : AddFeelingViewController) : LocationButton :=
  if c.tappedLocationRadioButton.isOn then .tapped else .user

theorem OK.isOn_iff (hc : OK touched user c) (b : LocationButton) :
    (c.radioButton b).isOn = true ↔ b = c.selected := by
  have hone := hc.one_on
  cases b <;> cases ht : c.tappedLocationRadioButton.isOn <;> simp_all [radioButton, selected]

theorem step_button (hc : OK touched user c) (h : step F c e = some c') :
    c'.selected = (Choice.button e).getD c.selected := by
  cases step_effect h with
  | locationTapped b hb alternates ha =>
    obtain rfl := Option.some.inj ((hc.alternateButton b).symm.trans ha)
    cases b with
    | tapped => rfl
    | user => rfl
  | locationAlone b ha => cases (hc.alternateButton b).symm.trans ha
  | _ => rfl

section Choices

variable {es : List AddFeelingEvent} (h : after (step F) (opened touched user) es = some c)
include h

/-- **The emoji of the draft is the last one picked.** -/
theorem after_emoji : c.pin.icon = Choice.lastEmoji es :=
  after_register (fun _ _ _ => step_ok) (·.pin.icon) Choice.emoji (fun _ _ _ => step_emoji) opened_ok h

/-- **The colour of the draft is the last one picked after the last clear.** -/
theorem after_color : c.pin.color = Choice.lastColor es :=
  after_register (fun _ _ _ => step_ok) (·.pin.color) Choice.color (fun _ _ _ => step_color) opened_ok h

/-- **The anonymity switch is where it was last put.** -/
theorem after_anon : c.anonSwitch = Choice.lastAnon es :=
  after_register (fun _ _ _ => step_ok) (·.anonSwitch) Choice.anon
    (fun _ _ _ _ => step_anon) opened_ok h

/-- **The radio button that is on is the last one tapped.** -/
theorem after_button : c.selected = Choice.lastButton es touched :=
  after_register (fun _ _ _ => step_ok) selected Choice.button (fun _ _ _ => step_button) opened_ok h

end Choices

/-! ## Saving -/

/-- The location that a save takes, `none` for an absent one. -/
def chosenLocation (c : AddFeelingViewController) : Option CLLocationCoordinate2D :=
  if c.tappedLocationRadioButton.isOn then c.touchedLocation
  else if c.userLocationRadioButton.isOn then c.userLocation
  else some c.pin.location

/-- The name that a save publishes under, `none` for an absent one. -/
def displayName (c : AddFeelingViewController) (user : User) : Option String :=
  if c.anonSwitch then some "Anonimo" else user._name

/-- What a save publishes, given the author's id and name and the location. -/
def post (c : AddFeelingViewController) (id userName : String) (location : GeoPoint) : Post where
  user := id
  icon := c.pin.icon
  color := c.pin.color
  tags := c.pin.tags
  testimonial := c.testimonialTextView.text
  userName := userName
  location := location

/-- The document of a post. -/
def postDocument (p : Post) : Document := document p.emotionPin p.userName p.location

theorem postDocument_stores (p : Post) : Stores (postDocument p) p :=
  ⟨rfl, rfl, rfl, rfl, rfl, rfl, rfl⟩

theorem authorName_of_some {user : User} {userName : String} (h : c.displayName user = some userName) :
    (authorName user).run c = .ok userName c := by
  simp only [authorName, User.name, EStateM.run_bind, EStateM.run_get]
  unfold displayName at h
  split_ifs at h ⊢ with ha
  · cases h; rfl
  · rw [h]; rfl

theorem authorName_of_none {user : User} (h : c.displayName user = none) :
    (authorName user).run c = .error .unexpectedNil c := by
  simp only [authorName, User.name, EStateM.run_bind, EStateM.run_get]
  unfold displayName at h
  split_ifs at h ⊢ with ha
  rw [h]; rfl

theorem chooseLocation_of_some {l : CLLocationCoordinate2D} (h : c.chosenLocation = some l) :
    chooseLocation.run c = .ok () { c with pin.location := l } := by
  simp only [chooseLocation, EStateM.run_bind, EStateM.run_get]
  unfold chosenLocation at h
  split_ifs at h ⊢ with ht hu
  · simp only [EStateM.run_bind, h, Swift.run_unwrap_some, EStateM.run_modify]
  · simp only [EStateM.run_bind, h, Swift.run_unwrap_some, EStateM.run_modify]
  · cases h; rfl

theorem chooseLocation_of_none (h : c.chosenLocation = none) :
    chooseLocation.run c = .error .unexpectedNil c := by
  simp only [chooseLocation, EStateM.run_bind, EStateM.run_get]
  unfold chosenLocation at h
  split_ifs at h ⊢ with ht hu
  · simp only [EStateM.run_bind, h, Swift.run_unwrap_none]
  · simp only [EStateM.run_bind, h, Swift.run_unwrap_none]

/-- The draft once a save has written the testimonial and the author's id into it. -/
def signed (c : AddFeelingViewController) (id : String) : AddFeelingViewController :=
  { c with pin.testimonial := c.testimonialTextView.text, pin.user := id }

theorem save_of_id {user : User} {id : String} (h : user._id = some id) :
    (saveEmotionPressed user).run c = (do
      let userName ← authorName user
      chooseLocation
      let pin := (← get).pin
      let location ← GeoPoint.make pin.location
      return document pin userName location : Swift AddFeelingViewController Document).run (c.signed id) := by
  unfold saveEmotionPressed User.id
  rw [h]; rfl

/-- A save of which every part succeeds. -/
theorem save_run {user : User} {id userName : String} {l : CLLocationCoordinate2D} (hl : l.InRange)
    (hid : user._id = some id) (hn : c.displayName user = some userName)
    (hc : c.chosenLocation = some l) :
    (saveEmotionPressed user).run c =
      .ok (postDocument (c.post id userName ⟨l.latitude, l.longitude, hl.1, hl.2⟩))
        { c.signed id with pin.location := l } := by
  rw [save_of_id hid]
  simp only [EStateM.run_bind, EStateM.run_get, authorName_of_some (c := c.signed id) hn,
    chooseLocation_of_some (c := c.signed id) hc, GeoPoint.make_of_inRange hl]
  rfl

/-- **When a save writes a document, and which one.** -/
theorem save_iff {user : User} {d : Document} :
    (∃ c', (saveEmotionPressed user).run c = .ok d c') ↔
      ∃ id userName l, ∃ hl : l.InRange, user._id = some id ∧ c.displayName user = some userName ∧
        c.chosenLocation = some l ∧
        d = postDocument (c.post id userName ⟨l.latitude, l.longitude, hl.1, hl.2⟩) := by
  constructor
  · -- each part that fails stops the save: what it needs is there
    rintro ⟨c', h⟩
    obtain ⟨id, hid⟩ : ∃ id, user._id = some id := by
      cases hid : user._id with
      | some id => exact ⟨id, rfl⟩
      | none => simp [saveEmotionPressed, User.id, hid] at h
    obtain ⟨userName, hn⟩ : ∃ userName, c.displayName user = some userName := by
      cases hn : c.displayName user with
      | some userName => exact ⟨userName, rfl⟩
      | none =>
        rw [save_of_id hid] at h
        simp only [EStateM.run_bind, authorName_of_none (c := c.signed id) hn] at h
        cases h
    obtain ⟨l, hl⟩ : ∃ l, c.chosenLocation = some l := by
      cases hl : c.chosenLocation with
      | some l => exact ⟨l, rfl⟩
      | none =>
        rw [save_of_id hid] at h
        simp only [EStateM.run_bind, authorName_of_some (c := c.signed id) hn,
          chooseLocation_of_none (c := c.signed id) hl] at h
        cases h
    have hr : l.InRange := by
      by_contra hr
      rw [save_of_id hid] at h
      simp only [EStateM.run_bind, EStateM.run_get, authorName_of_some (c := c.signed id) hn,
        chooseLocation_of_some (c := c.signed id) hl, GeoPoint.make_of_not_inRange hr] at h
      cases h
    rw [save_run hr hid hn hl] at h
    cases h
    exact ⟨id, userName, l, hr, hid, hn, hl, rfl⟩
  · rintro ⟨id, userName, l, hr, hid, hn, hl, rfl⟩
    exact ⟨_, save_run hr hid hn hl⟩

/-- A save of a screen with the invariant takes the location of the button that is on. -/
theorem OK.chosenLocation_eq (hc : OK touched user c) :
    c.chosenLocation = Choice.place touched user c.selected := by
  have hone := hc.one_on
  unfold AddFeelingViewController.chosenLocation selected
  split_ifs with ht hu
  · exact hc.touched_eq
  · exact hc.user_eq
  · rw [Bool.eq_false_of_not_eq_true ht] at hone
    exact absurd hone hu

/-- A save of a screen with the invariant finds a location. -/
theorem OK.chosenLocation (hc : OK touched user c) : ∃ l, c.chosenLocation = some l := by
  rw [hc.chosenLocation_eq]
  unfold selected
  split_ifs with ht
  · exact Option.isSome_iff_exists.1 (hc.tapped_on ht)
  · exact ⟨user, rfl⟩

/-- **A save takes the place that was selected last.** -/
theorem after_chosenLocation {es : List AddFeelingEvent}
    (h : after (step F) (opened touched user) es = some c) :
    c.chosenLocation = Choice.place touched user (Choice.lastButton es touched) := by
  rw [(after_ok h).chosenLocation_eq, after_button h]

/-- There is a name to publish under with the switch on, or once the first name is known. -/
theorem displayName_isSome {user : User} : (c.displayName user).isSome = true ↔
    c.anonSwitch = true ∨ user._name.isSome = true := by
  rw [displayName]
  cases c.anonSwitch <;> simp

end AddFeelingViewController

end Sens

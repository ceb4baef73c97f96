import Sens.Spec.Home

/-!
# What the map is for

A `Post` is what an author publishes, and what every viewer of the map should see
of it: `Post.emotionPin` in the list of pins, `Post.annotation` on the map. A
stored document `Stores` a post when its fields hold it.

The choices of an author are read off the events of the compose screen without
running it: for each of them the last event that decides it counts.
-/

namespace Sens

structure Post where
  user : String
  icon : String
  color : String
  tags : List String
  testimonial : String
  userName : String
  location : GeoPoint
deriving DecidableEq

namespace Post

/-- The pin that shows the post. -/
def emotionPin (p : Post) : EmotionPin where
  location := ⟨p.location.latitude, p.location.longitude⟩
  tags := p.tags
  icon := p.icon
  color := p.color
  testimonial := p.testimonial
  user := p.user
  userName := p.userName

/-- The annotation that shows the post: the capitalised name over the first tag. -/
def annotation (F : Foundation) (p : Post) : MKPointAnnotation where
  coordinate := ⟨p.location.latitude, p.location.longitude⟩
  title := some (F.capitalized p.userName)
  subtitle := p.tags.head?

end Post

/-- The document has the fields that a save writes, with the contents of the post. -/
structure Stores (d : Document) (p : Post) : Prop where
  user : d.get "user" = some (.string p.user)
  icon : d.get "icon" = some (.string p.icon)
  color : d.get "color" = some (.string p.color)
  tags : d.get "tags" = some (.strings p.tags)
  testimonial : d.get "testimonial" = some (.string p.testimonial)
  userName : d.get "userName" = some (.string p.userName)
  location : d.get "location" = some (.single (.geoPoint p.location))

theorem FieldValue.string_inj {s t : String} : FieldValue.string s = .string t ↔ s = t := by
  simp [FieldValue.string]

/-! ## The author's choices -/

namespace Choice

/-- The emoji of a cell of the picker: those from U+1F601 to U+1F64F, in one section. -/
def emojiAt (sec item : ℕ) : Option String :=
  if sec = 0 ∧ item < 79 then some (String.singleton (Char.ofNat (0x1F601 + item))) else none

/-- The emoji that the event picks. Leaving the picker picks none. -/
def emoji : AddFeelingEvent → Option String
  | .emojiTapped sec item => emojiAt sec item
  | _ => none

/-- The colour after the event, if the event is about colours. -/
def color : AddFeelingEvent → Option String
  | .colorTapped item => AddFeelingViewController.colors[item]?
  | .clearSelectedColor => some ""
  | _ => none

/-- The position of the anonymity switch, if the event moves it. -/
def anon : AddFeelingEvent → Option Bool
  | .anonSwitched isOn => some isOn
  | _ => none

/-- The radio button that the event taps. -/
def button : AddFeelingEvent → Option LocationButton
  | .locationTapped b => some b
  | _ => none

/-- The location that a radio button stands for. -/
def place (touched : Option CLLocationCoordinate2D) (user : CLLocationCoordinate2D) :
    LocationButton → Option CLLocationCoordinate2D
  | .tapped => touched
  | .user => some user

variable (es : List AddFeelingEvent)

/-- The last emoji picked, and the empty text if none was. -/
def lastEmoji : String := (es.filterMap emoji).getLastD ""

/-- The last colour picked after the last clear, and the empty text if none was. -/
def lastColor : String := (es.filterMap color).getLastD ""

/-- The switch is off at first. -/
def lastAnon : Bool := (es.filterMap anon).getLastD false

/-- The last radio button tapped; at first it is the one of the touched location, if
there is one. -/
def lastButton (touched : Option CLLocationCoordinate2D) : LocationButton :=
  (es.filterMap button).getLastD (if touched.isSome then .tapped else .user)

end Choice

end Sens

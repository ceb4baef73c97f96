import Sens.Spec.Geocoder

/-!
# What the address labels are for

The text beside a radio button is to be the address of the place that a save takes when the
button is on: `ShowsPlace`. What the geocoder has said is read off the events.
-/

namespace Sens

namespace AddressScreen

/-- The text that the labels have in the storyboard. -/
def addressHere : String := "Endereço aqui Endereço aqui Endereço aqui Endereço aqui"

/-- The label beside a button. -/
def label (s : AddressScreen) : LocationButton → String
  | .tapped => s.tappedLocationlabel
  | .user => s.userLocationLabel

/-- The `type` of the requests for the label beside a button. -/
def typeOf : LocationButton → ℕ
  | .tapped => 1
  | .user => 0

/-- The event of the rest of the screen. -/
def screenEvent : AddressEvent → Option AddFeelingEvent
  | .screen e => some e
  | .geocoded _ _ _ => none

def screenEvents (es : List AddressEvent) : List AddFeelingEvent := es.filterMap screenEvent

/-- The request that an event completes. -/
def completed : AddressEvent → Option ℕ
  | .screen _ => none
  | .geocoded request _ _ => some request

/-- The requests that the events complete, in order. -/
def completions (es : List AddressEvent) : List ℕ := es.filterMap completed

/-- The text that a completion brings. -/
def textOf (error : Bool) (locationDetais : Option (List CLPlacemark)) : Option String :=
  if error then none else (locationDetais.bind List.head?).map addressText

/-- The text that an event brings for a request. -/
def answer (request : ℕ) : AddressEvent → Option String
  | .geocoded request' error locationDetais =>
    if request' = request then textOf error locationDetais else none
  | .screen _ => none

/-- **The label beside the button is in sight and shows the place**: what the geocoder answered
to a request for it, or the text of the storyboard as long as it has not answered. -/
structure ShowsPlace (s : AddressScreen) (es : List AddressEvent) (b : LocationButton)
    (l : CLLocationCoordinate2D) : Prop where
  inSight : b = .tapped → s.screen.tappedLocationHidden = false
  request : ∃ n : ℕ, s.requests[n]? = some ⟨l, typeOf b⟩ ∧
    s.label b = (es.filterMap (answer n)).getLastD addressHere

end AddressScreen

/-! ## The parts of an address -/

namespace CLPlacemark

variable (p : CLPlacemark)

/-- The parts of the address text, in order, an absent one as the empty text. -/
def parts : List String := [p.thoroughfare.getD "", p.subThoroughfare.getD "", p.subLocality.getD "",
  p.locality.getD "", p.administrativeArea.getD "", p.country.getD ""]

/-- No part has the mark of the separator that follows it. -/
structure Plain : Prop where
  thoroughfare : ',' ∉ (p.thoroughfare.getD "").toList
  subThoroughfare : '-' ∉ (p.subThoroughfare.getD "").toList
  subLocality : '-' ∉ (p.subLocality.getD "").toList
  locality : '-' ∉ (p.locality.getD "").toList
  administrativeArea : '-' ∉ (p.administrativeArea.getD "").toList

end CLPlacemark

end Sens

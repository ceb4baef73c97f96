import Sens.Spec.AddFeeling

/-!
# The addresses of the compose screen

`recoveryAddress` of `AddFeelingViewController.swift` in full: the geocoder that it asks, and
the two labels that the completion handlers write, around the rest of the screen. A completion
arrives on the main thread, in any order, and at any time after its request.
-/

namespace Sens

/-- What the geocoder knows of a place. -/
structure CLPlacemark where
  thoroughfare : Option String := none
  subThoroughfare : Option String := none
  subLocality : Option String := none
  locality : Option String := none
  administrativeArea : Option String := none
  country : Option String := none
deriving DecidableEq

/-- A call of `reverseGeocodeLocation`, with the `type` that its handler captures. -/
structure GeocodeRequest where
  location : CLLocationCoordinate2D
  type : ℕ
deriving DecidableEq

/-- The compose screen with its labels. -/
structure AddressScreen where
  screen : AddFeelingViewController
  userLocationLabel : String := "Endereço aqui Endereço aqui Endereço aqui Endereço aqui"
  tappedLocationlabel : String := "Endereço aqui Endereço aqui Endereço aqui Endereço aqui"
  /-- The requests made, in order. -/
  requests : List GeocodeRequest := []
  /-- The numbers of the requests that are not completed. -/
  pending : List ℕ := []
deriving DecidableEq

inductive AddressEvent
  | screen (e : AddFeelingEvent)
  | geocoded (request : ℕ) (error : Bool) (locationDetais : Option (List CLPlacemark))
deriving DecidableEq

namespace AddressScreen

variable (F : Foundation)

def onScreen (x : Swift AddFeelingViewController Unit) : Swift AddressScreen Unit :=
  Swift.focus (·.screen) (fun c s => { s with screen := c }) x

def recoveryAddress (locationCoordinate : Option CLLocationCoordinate2D) (type : ℕ) :
    Swift AddressScreen Unit := do
  let location ← Swift.unwrap locationCoordinate
  modify fun s => { s with
    requests := s.requests ++ [⟨location, type⟩]
    pending := s.pending ++ [s.requests.length] }

/-- The text that is made of a placemark; an absent part leaves its separators. -/
def addressText (locationData : CLPlacemark) : String :=
  locationData.thoroughfare.getD "" ++ ", " ++ locationData.subThoroughfare.getD "" ++ " - " ++
    locationData.subLocality.getD "" ++ " - " ++ locationData.locality.getD "" ++ " - " ++
    locationData.administrativeArea.getD "" ++ " - " ++ locationData.country.getD ""

/-- The completion handler of a request. -/
def addressCompletion (type : ℕ) (error : Bool) (locationDetais : Option (List CLPlacemark)) :
    Swift AddressScreen Unit :=
  if error then pure ()
  else match locationDetais.bind List.head? with
    | some locationData =>
      if type = 0 then modify fun s => { s with userLocationLabel := addressText locationData }
      else if type = 1 then modify fun s => { s with tappedLocationlabel := addressText locationData }
      else pure ()
    | none => pure ()

def viewDidLoad : Swift AddressScreen Unit := do
  -- the rest of the screen first: nothing there looks at the requests
  onScreen AddFeelingViewController.viewDidLoad
  let c := (← get).screen
  if c.touchedLocation ≠ none then recoveryAddress c.touchedLocation 1
  recoveryAddress c.userLocation 0

def handle : AddressEvent → Swift AddressScreen Unit
  | .screen e => onScreen (AddFeelingViewController.handle F e)
  | .geocoded request error locationDetais => do
    modify fun s => { s with pending := s.pending.erase request }
    match (← get).requests[request]? with
    | some { type, .. } => addressCompletion type error locationDetais
    | none => pure ()

/-- A request completes once. -/
def Deliverable (s : AddressScreen) : AddressEvent → Bool
  | .screen e => s.screen.Deliverable e
  | .geocoded request _ _ => request ∈ s.pending

def step (s : AddressScreen) (e : AddressEvent) : Option AddressScreen :=
  if s.Deliverable e then
    match (handle F e).run s with
    | .ok _ s' => some s'
    | .error _ _ => none
  else none

end AddressScreen

end Sens

import Sens.Lib.Runs
import Sens.Lib.Trap
import Sens.Spec.Foundation

/-!
# The search table

`LocationSearchTableViewController.swift`. Every edit of the search text starts a
search of its own; the state records the searches by number, and which of them are
not completed yet. A completion arrives on the main thread, in any order.
-/

namespace Sens

structure MKPlacemark where
  name : Option String := none
  subThoroughfare : Option String := none
  thoroughfare : Option String := none
  locality : Option String := none
  subAdministrativeArea : Option String := none
  administrativeArea : Option String := none
deriving DecidableEq

structure MKMapItem where
  placemark : MKPlacemark
deriving DecidableEq

structure MKCoordinateRegion where
  center : CLLocationCoordinate2D
  latitudeDelta : ℚ
  longitudeDelta : ℚ
deriving DecidableEq

/-- `MKLocalSearch.Request`. -/
structure SearchRequest where
  naturalLanguageQuery : String
  region : MKCoordinateRegion
deriving DecidableEq

structure LocationSearchTableViewController where
  matchingItems : List MKMapItem := []
  /-- The region of `mapView`, once the home screen has set it. -/
  mapView : Option MKCoordinateRegion := none
  /-- The searches started, in order. -/
  searches : List SearchRequest := []
  /-- The numbers of the searches that are not completed. -/
  outstanding : List ℕ := []
deriving DecidableEq

inductive SearchEvent
  | regionChanged (region : MKCoordinateRegion)
  | updateSearchResults (searchBarText : Option String)
  | completed (search : ℕ) (response : Option (List MKMapItem))
  | didSelectRowAt (row : ℕ)
deriving DecidableEq

namespace LocationSearchTableViewController

def parseAddress (selectedItem : MKPlacemark) : String :=
  -- put a space between "4" and "Melrose Place"
  let firstSpace := if selectedItem.subThoroughfare.isSome ∧ selectedItem.thoroughfare.isSome then " " else ""
  -- put a comma between street and city/state
  let comma := if (selectedItem.subThoroughfare.isSome ∨ selectedItem.thoroughfare.isSome) ∧
    (selectedItem.subAdministrativeArea.isSome ∨ selectedItem.administrativeArea.isSome) then ", " else ""
  -- put a space between "Washington" and "DC"
  let secondSpace := if selectedItem.subAdministrativeArea.isSome ∧
    selectedItem.administrativeArea.isSome then " " else ""
  selectedItem.subThoroughfare.getD "" ++ firstSpace ++ selectedItem.thoroughfare.getD "" ++ comma ++
    selectedItem.locality.getD "" ++ secondSpace ++ selectedItem.administrativeArea.getD ""

/-- Starts a search, unless there is no map or no text. -/
def updateSearchResults (searchBarText : Option String) : Swift LocationSearchTableViewController Unit :=
  modify fun s =>
    match s.mapView, searchBarText with
    | some region, some searchBarText => { s with
        searches := s.searches ++ [⟨searchBarText, region⟩]
        outstanding := s.outstanding ++ [s.searches.length] }
    | _, _ => s

/-- The completion handler of a search. -/
def searchCompleted (search : ℕ) (response : Option (List MKMapItem)) :
    Swift LocationSearchTableViewController Unit := do
  modify fun s => { s with outstanding := s.outstanding.erase search }
  match response with
  -- the items of an earlier search stay
  | none => pure ()
  | some mapItems => modify fun s => { s with matchingItems := mapItems }

def numberOfRowsInSection (s : LocationSearchTableViewController) : ℕ := s.matchingItems.length

/-- The two texts of a cell. -/
def cellForRowAt (row : ℕ) : Swift LocationSearchTableViewController (Option String × String) := do
  let selectedItem := (← Swift.index (← get).matchingItems row).placemark
  return (selectedItem.name, parseAddress selectedItem)

/-- The placemark that the delegate gets. -/
def didSelectRowAt (row : ℕ) : Swift LocationSearchTableViewController MKPlacemark := do
  let selectedItem := (← Swift.index (← get).matchingItems row).placemark
  return selectedItem

/-- One event. A selected row goes to the delegate, which does nothing with it. -/
def handle : SearchEvent → Swift LocationSearchTableViewController Unit
  | .regionChanged region => modify fun s => { s with mapView := some region }
  | .updateSearchResults searchBarText => updateSearchResults searchBarText
  | .completed search response => searchCompleted search response
  | .didSelectRowAt row => do
    let _ ← didSelectRowAt row

/-- A search completes once, and only a displayed row can be selected. -/
def Deliverable (s : LocationSearchTableViewController) : SearchEvent → Bool
  | .completed search _ => search ∈ s.outstanding
  | .didSelectRowAt row => row < s.numberOfRowsInSection
  | _ => true

def step (s : LocationSearchTableViewController) (e : SearchEvent) :
    Option LocationSearchTableViewController :=
  if s.Deliverable e then
    match (handle e).run s with
    | .ok _ s' => some s'
    | .error _ _ => none
  else none

/-- The table after the events, from an empty one. -/
def run (es : List SearchEvent) : Option LocationSearchTableViewController := Runs.after step {} es

end LocationSearchTableViewController

end Sens

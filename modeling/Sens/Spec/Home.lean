import Sens.Spec.AddFeeling
import Sens.Spec.Utilities

/-!
# The home screen

`HomeViewController.swift` and `DetailPin.swift`. The controller's objects are in
heaps, one for each class. What MapKit keeps is part of the state: the annotations
on the map and the queue of reusable views, from which `dequeued` is its choice.
-/

namespace Sens

/-- `Auth.auth().currentUser`. -/
structure AuthUser where
  uid : String
  email : Option String
deriving DecidableEq

structure HomeViewController where
  emotionPins : Heap EmotionPin := ⟨[{}]⟩
  annotations : Heap MKPointAnnotation := ⟨[{}]⟩
  views : Heap MKAnnotationView := ⟨[]⟩
  pins : List Pin := []
  user : User := {}
  count : ℕ := 0
  /-- `Pin()`: the first object of each heap. -/
  infoPin : Pin := ⟨0, 0⟩
  userLocation : Option CLLocationCoordinate2D := none
  /-- `mapView.annotations`. -/
  mapAnnotations : List Ref := []
  /-- The views that MapKit may hand out again under the identifier `image`. -/
  reuseQueue : List Ref := []
deriving DecidableEq

inductive GestureState
  | began
  | changed
  | ended
  | cancelled
deriving DecidableEq

/-- What MapKit asks a view for. -/
inductive MKAnnotation
  | userLocation
  | point : Ref → MKAnnotation
deriving DecidableEq

/-- The comparison of the two scans of `pins`: title, subtitle and coordinate. -/
def MKPointAnnotation.same (i a : MKPointAnnotation) : Bool :=
  i.title == a.title && i.subtitle == a.subtitle &&
    i.coordinate.latitude == a.coordinate.latitude && i.coordinate.longitude == a.coordinate.longitude

/-! ## `DetailPin` -/

/-- What `DetailPin` shows. -/
structure DetailPin where
  titlePin : String
  emojiPin : Option UIImage
  colorPin : UIColor
  colorHexPin : String
  observacoesPin : Option String
deriving DecidableEq

/-- `viewWillAppear`, with `emotionPin` for `detailPin?.emotionPin`. -/
def DetailPin.viewWillAppear {σ : Type} (F : Foundation) (emotionPin : Option EmotionPin) :
    Swift σ DetailPin := do
  let titlePin ← Swift.unwrap (emotionPin.map fun e => F.capitalized e.userName)
  let color ← Swift.unwrap (emotionPin.map (·.color))
  return {
    titlePin := titlePin
    emojiPin := emotionPin.map fun e => image e.icon 50
    colorPin := hexStringToUIColor F ((emotionPin.map (·.color)).getD "ffffff")
    colorHexPin := "HEX: " ++ color
    observacoesPin := emotionPin.map (·.testimonial) }

namespace HomeViewController

variable (F : Foundation)

/-! ## Loading -/

/-- `viewDidLoad` up to the profile query. -/
def viewDidLoad (currentUser : Option AuthUser) : Swift HomeViewController Unit := do
  let currentUser ← Swift.unwrap currentUser
  modify fun h => { h with user._id := some currentUser.uid }
  let email ← Swift.unwrap currentUser.email
  modify fun h => { h with user._email := some email }

/-- The completion of the profile query: `none` for an error. -/
def profileCompletion : Option (List Document) → Swift User Unit
  | none => pure ()
  | some documents => do
    let dic := documents.head?
    let name ← FieldValue.asString (dic.bind (·.get "firstname"))
    modify fun u => { u with _name := some name }
    let lastName ← FieldValue.asString (dic.bind (·.get "lastname"))
    modify fun u => { u with _lastName := some lastName }
    let timestamp ← FieldValue.asTimestamp (dic.bind (·.get "birthDate"))
    modify fun u => { u with _birthDate := some timestamp }

/-! ## Location -/

def didUpdateLocations (locations : List CLLocationCoordinate2D) : Swift HomeViewController Unit :=
  match locations.getLast? with
  | none => pure ()
  | some location => modify fun h => { h with userLocation := some location }

/-- Only prints the error. -/
def didFailWithError : Swift HomeViewController Unit := pure ()

/-! ## Opening the compose screen -/

def tapGesture (state : GestureState) (newCoordinate : CLLocationCoordinate2D) :
    Swift HomeViewController (Option AddFeelingViewController) := do
  if state = .began then
    let addFeelingView := { AddFeelingViewController.instantiate with
      userLocation := (← get).userLocation
      touchedLocation := some newCoordinate }
    return some (← Swift.runOn AddFeelingViewController.viewDidLoad addFeelingView)
  else return none

def AddFeelingPressed : Swift HomeViewController AddFeelingViewController := do
  let addFeelingView := { AddFeelingViewController.instantiate with
    touchedLocation := none
    userLocation := (← get).userLocation }
  Swift.runOn AddFeelingViewController.viewDidLoad addFeelingView

/-! ## The pins -/

def modifyEmotionPin (r : Ref) (f : EmotionPin → EmotionPin) : Swift HomeViewController Unit :=
  modify fun h => { h with emotionPins := h.emotionPins.modify r f }

def modifyAnnotation (r : Ref) (f : MKPointAnnotation → MKPointAnnotation) : Swift HomeViewController Unit :=
  modify fun h => { h with annotations := h.annotations.modify r f }

def modifyView (r : Ref) (f : MKAnnotationView → MKAnnotationView) : Swift HomeViewController Unit :=
  modify fun h => { h with views := h.views.modify r f }

/-- `if let coords = document.get("location") { … }`. -/
def setLocation (emotionPin : Ref) (document : Document) : Swift HomeViewController Unit :=
  match document.get "location" with
  | some coords => do
    let point ← FieldValue.asGeoPoint coords
    modifyEmotionPin emotionPin fun e => { e with location.latitude := point.latitude }
    modifyEmotionPin emotionPin fun e => { e with location.longitude := point.longitude }
  | none => pure ()

/-- A line `emotionPin.field = document.get(field) as! String`. -/
def setString (emotionPin : Ref) (document : Document) (field : String)
    (set : String → EmotionPin → EmotionPin) : Swift HomeViewController Unit := do
  let value ← FieldValue.asString (document.get field)
  modifyEmotionPin emotionPin (set value)

/-- `if let stringEmotionTag = document.get("tags") as? [String] { … }`. -/
def setTags (emotionPin : Ref) (document : Document) : Swift HomeViewController Unit :=
  match FieldValue.asStrings? (document.get "tags") with
  | some stringEmotionTag =>
    modifyEmotionPin emotionPin fun e => { e with tags := stringEmotionTag }
  | none => pure ()

/-- `mapView.addAnnotation`. -/
def addAnnotation (r : Ref) : Swift HomeViewController Unit :=
  modify fun h => { h with mapAnnotations := h.mapAnnotations ++ [r] }

/-- The annotation of a pin, and both into the list and onto the map. -/
def addPin (emotionPin : Ref) : Swift HomeViewController Unit := do
  let annotation := (← get).annotations.size
  modify fun h => { h with annotations := h.annotations.alloc {} }
  let e := (← get).emotionPins.read emotionPin
  modifyAnnotation annotation fun a => { a with coordinate := e.location }
  modifyAnnotation annotation fun a => { a with title := some (F.capitalized e.userName) }
  -- the loop has only checked that the tags are strings, not that there is one
  let tag ← Swift.index e.tags 0
  modifyAnnotation annotation fun a => { a with subtitle := some tag }
  modify fun h => { h with pins := h.pins ++ [⟨emotionPin, annotation⟩] }
  addAnnotation annotation

/-- The body of the load loop in `viewDidAppear`. -/
def loadDocument (document : Document) : Swift HomeViewController Unit := do
  let emotionPin := (← get).emotionPins.size
  modify fun h => { h with emotionPins := h.emotionPins.alloc {} }
  setLocation emotionPin document
  setString emotionPin document "testimonial" fun value e => { e with testimonial := value }
  setString emotionPin document "color" fun value e => { e with color := value }
  setString emotionPin document "user" fun value e => { e with user := value }
  setString emotionPin document "icon" fun value e => { e with icon := value }
  setString emotionPin document "userName" fun value e => { e with userName := value }
  setTags emotionPin document
  addPin F emotionPin

/-- The completion of the `pins` query of `viewDidAppear`: `none` for an error. -/
def pinsCompletion : Option (List DocumentSnapshot) → Swift HomeViewController Unit
  | none => pure ()
  -- what an earlier completion added stays
  | some documents => documents.forM fun document => loadDocument F document.data

/-! ## Views and callouts -/

/-- `mapView(_:viewFor:)`, with the view that MapKit hands out again, if it does. -/
def mapViewViewFor : MKAnnotation → Option Ref → Swift HomeViewController (Option Ref)
  | .userLocation, _ => return none
  | .point annotation, dequeued => do
    let pinView ← match dequeued with
      | none => do
        let h ← get
        let pinView := h.views.size
        modify fun h => { h with views := h.views.alloc { annotation := some annotation } }
        modifyView pinView fun v => { v with canShowCallout := true }
        h.pins.forM fun i => do
          if (h.annotations.read i.infoAnnotation).same (h.annotations.read annotation) then
            modifyView pinView fun v => { v with
              image := some (image (h.emotionPins.read i.emotionPin).icon 30) }
        modifyView pinView fun v => { v with rightCalloutAccessoryView := some pinView }
        pure pinView
      | some pinView => do
        modify fun h => { h with reuseQueue := h.reuseQueue.erase pinView }
        -- the image of the earlier annotation stays
        modifyView pinView fun v => { v with annotation := some annotation }
        pure pinView
    modify fun h => { h with count := h.count + 1 }
    return some pinView

/-- `mapView(_:annotationView:calloutAccessoryControlTapped:)`, with the segue it
performs: the screen it opens, if it opens one. -/
def calloutAccessoryControlTapped (view : MKAnnotationView) (control : Ref) :
    Swift HomeViewController (Option DetailPin) := do
  let h ← get
  let capital := view.annotation.map h.annotations.read
  h.pins.forM fun i => do
    if capital.any (h.annotations.read i.infoAnnotation).same then
      -- no `break`: a later match overwrites this one
      modify fun h => { h with infoPin := i }
  if some control = view.rightCalloutAccessoryView then
    let h ← get
    return some (← DetailPin.viewWillAppear F (some (h.emotionPins.read h.infoPin.emotionPin)))
  else return none

end HomeViewController

end Sens

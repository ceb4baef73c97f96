import Sens.Lib.Heap
import Sens.Spec.Firestore

/-!
# The app's objects

`EmotionPin.swift`, `Pin.swift` and `User.swift`, with the MapKit objects that the
home screen creates. `EmotionPin`, `MKPointAnnotation` and `MKAnnotationView` are
classes: a variable of one holds a reference into a heap, and a `Pin` holds two.
-/

namespace Sens

structure EmotionPin where
  location : CLLocationCoordinate2D := {}
  id : ℤ := 0
  tags : List String := []
  icon : String := ""
  color : String := ""
  testimonial : String := ""
  user : String := ""
  userName : String := ""
deriving DecidableEq

instance : Inhabited EmotionPin := ⟨{}⟩

structure MKPointAnnotation where
  coordinate : CLLocationCoordinate2D := {}
  title : Option String := none
  subtitle : Option String := none
deriving DecidableEq

instance : Inhabited MKPointAnnotation := ⟨{}⟩

structure Pin where
  emotionPin : Ref
  infoAnnotation : Ref
deriving DecidableEq

/-- A view for an annotation. The button on the right of its callout is made with
the view, and named by it. -/
structure MKAnnotationView where
  annotation : Option Ref := none
  image : Option UIImage := none
  canShowCallout : Bool := false
  rightCalloutAccessoryView : Option Ref := none
deriving DecidableEq

instance : Inhabited MKAnnotationView := ⟨{}⟩

/-- The stored fields of `User`. -/
structure User where
  _id : Option String := none
  _name : Option String := none
  _lastName : Option String := none
  _email : Option String := none
  _birthDate : Option Date := none
  _password : Option String := none
deriving DecidableEq

/-! The getters of `User` unwrap by force. -/

namespace User

variable {σ : Type}

def id (u : User) : Swift σ String := Swift.unwrap u._id

def name (u : User) : Swift σ String := Swift.unwrap u._name

def lastName (u : User) : Swift σ String := Swift.unwrap u._lastName

def email (u : User) : Swift σ String := Swift.unwrap u._email

def birthDate (u : User) : Swift σ Date := Swift.unwrap u._birthDate

def password (u : User) : Swift σ String := Swift.unwrap u._password

end User

end Sens

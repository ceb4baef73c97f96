import Sens.Purpose.Profile
import Sens.Purpose.Session

/-!
# What a viewer reads in a document

Anybody can write to the collection, and a document is an untyped dictionary. The pin
that a viewer makes of a document is `emotionPin?`, and there is none where the viewer
cannot read it; `profile?` is the same for a document of `users`. `answered` lists the
documents that the events of an app bring.

`withoutUser` takes the author's id out of a document, a pin, an event or an app.
-/

namespace Sens

namespace Document

/-- The string under the field. -/
def string? (d : Document) (field : String) : Option String :=
  match d.get field with
  | some (.single (.string s)) => some s
  | _ => none

/-- The place of the document. Without a location it is the default coordinate. -/
def coordinate? (d : Document) : Option CLLocationCoordinate2D :=
  match d.get "location" with
  | none => some {}
  | some (.single (.geoPoint p)) => some ⟨p.latitude, p.longitude⟩
  | some _ => none

/-- The tags of the document: at least one, and all of them strings. -/
def tags? (d : Document) : Option (List String) :=
  (FieldValue.asStrings? (d.get "tags")).filter (· ≠ [])

/-- The pin that the document stands for. -/
def emotionPin? (d : Document) : Option EmotionPin := do
  return {
    location := ← d.coordinate?
    testimonial := ← d.string? "testimonial"
    color := ← d.string? "color"
    user := ← d.string? "user"
    icon := ← d.string? "icon"
    userName := ← d.string? "userName"
    tags := ← d.tags? }

/-- The date under the field. -/
def date? (d : Document) (field : String) : Option Date :=
  match d.get field with
  | some (.single (.timestamp t)) => some t
  | _ => none

/-- The profile that the document stands for. -/
def profile? (d : Document) : Option Profile := do
  return {
    name := ← d.string? "firstname"
    lastName := ← d.string? "lastname"
    birthDate := ← d.date? "birthDate" }

end Document

/-- The annotation of a pin: the capitalised name over the first tag. -/
def EmotionPin.annotation (F : Foundation) (e : EmotionPin) : MKPointAnnotation where
  coordinate := e.location
  title := some (F.capitalized e.userName)
  subtitle := e.tags.head?

namespace Session

/-- The documents that an event brings. -/
def documents : AppEvent → List DocumentSnapshot
  | .pinsAnswered _ (some documents) => documents
  | _ => []

/-- All documents that the events bring, in order. -/
def answered (es : List AppEvent) : List DocumentSnapshot := es.flatMap documents

end Session

/-! ## Without the author -/

/-- A string in the field of the author's id says nothing any more. -/
def FieldValue.withoutText : FieldValue → FieldValue
  | .single (.string _) => .string ""
  | v => v

def Document.withoutUser (d : Document) : Document :=
  d.map fun x => if x.1 = "user" then (x.1, x.2.withoutText) else x

def EmotionPin.withoutUser (e : EmotionPin) : EmotionPin := { e with user := "" }

def HomeViewController.withoutUser (h : HomeViewController) : HomeViewController :=
  { h with emotionPins := ⟨h.emotionPins.cells.map EmotionPin.withoutUser⟩ }

def App.withoutUser (a : App) : App := { a with home := a.home.withoutUser }

/-- The event, with no author in the documents that it brings. -/
def AppEvent.withoutUser : AppEvent → AppEvent
  | .pinsAnswered query (some documents) =>
    .pinsAnswered query (some (documents.map fun d => { d with data := d.data.withoutUser }))
  | e => e

end Sens

import Sens.Lib.Trap
import Sens.Spec.Foundation

/-!
# Firestore documents

A document is an untyped dictionary. The readers of the app get a field and cast
it, by force (`as!`) or conditionally (`as?`). A `GeoPoint` is within its ranges
by construction, since `FIRGeoPoint` raises an exception otherwise.
-/

namespace Sens

structure GeoPoint where
  latitude : ℚ
  longitude : ℚ
  latitude_range : -90 ≤ latitude ∧ latitude ≤ 90
  longitude_range : -180 ≤ longitude ∧ longitude ≤ 180
deriving DecidableEq

/-- The coordinates that `GeoPoint` accepts. -/
def CLLocationCoordinate2D.InRange (c : CLLocationCoordinate2D) : Prop :=
  (-90 ≤ c.latitude ∧ c.latitude ≤ 90) ∧ (-180 ≤ c.longitude ∧ c.longitude ≤ 180)

instance (c : CLLocationCoordinate2D) : Decidable c.InRange := inferInstanceAs (Decidable (_ ∧ _))

/-- `GeoPoint(latitude:longitude:)`. -/
def GeoPoint.make {σ : Type} (c : CLLocationCoordinate2D) : Swift σ GeoPoint :=
  if h : c.InRange then pure ⟨c.latitude, c.longitude, h.1, h.2⟩ else throw .invalidArgument

theorem GeoPoint.make_of_inRange {σ : Type} {c : CLLocationCoordinate2D} (h : c.InRange) (s : σ) :
    (GeoPoint.make c).run s = .ok ⟨c.latitude, c.longitude, h.1, h.2⟩ s := by
  unfold GeoPoint.make; rw [dif_pos h]; rfl

theorem GeoPoint.make_of_not_inRange {σ : Type} {c : CLLocationCoordinate2D} (h : ¬ c.InRange) (s : σ) :
    (GeoPoint.make c).run s = .error .invalidArgument s := by
  unfold GeoPoint.make; rw [dif_neg h]; rfl

/-- A stored value that is not an array. -/
inductive Value
  | string (s : String)
  | geoPoint (p : GeoPoint)
  | timestamp (date : Date)
deriving DecidableEq

/-- The string in a value. -/
def Value.string? : Value → Option String
  | .string s => some s
  | _ => none

/-- A stored value. Firestore keeps no array inside an array. -/
inductive FieldValue
  | single (v : Value)
  | array (vs : List Value)
deriving DecidableEq

abbrev Document := List (String × FieldValue)

/-- `document.get(field)`, and `data[field]`. -/
def Document.get (d : Document) (field : String) : Option FieldValue := d.lookup field

structure DocumentSnapshot where
  documentID : ℕ
  data : Document
deriving DecidableEq

namespace FieldValue

def string (s : String) : FieldValue := .single (.string s)

def strings (l : List String) : FieldValue := .array (l.map .string)

variable {σ : Type}

/-- `value as! String`. -/
def asString : Option FieldValue → Swift σ String
  | some (.single (.string s)) => pure s
  | some _ => throw .failedCast
  | none => throw .unexpectedNil

/-- `value as! GeoPoint`, of a value that is there. -/
def asGeoPoint : FieldValue → Swift σ GeoPoint
  | .single (.geoPoint p) => pure p
  | _ => throw .failedCast

/-- `value as! Timestamp`. -/
def asTimestamp : Option FieldValue → Swift σ Date
  | some (.single (.timestamp t)) => pure t
  | some _ => throw .failedCast
  | none => throw .unexpectedNil

/-- `value as? [String]`: every element must be a string. -/
def asStrings? : Option FieldValue → Option (List String)
  | some (.array vs) => vs.mapM Value.string?
  | _ => none

@[simp] theorem asStrings?_strings (l : List String) : asStrings? (some (strings l)) = some l := by
  simp only [asStrings?, strings]
  induction l with
  | nil => rfl
  | cons s l ih => simp [Value.string?, ih]

end FieldValue

end Sens

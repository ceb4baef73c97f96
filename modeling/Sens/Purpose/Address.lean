import Sens.Spec.LocationSearch

/-!
# What an address line says

The street and the city, each made of the components that are present, with a
separator between two of them and nowhere else.
-/

namespace Sens

/-- The texts that are present, with the separator between them. -/
def joined (separator : String) (texts : List (Option String)) : String :=
  separator.intercalate texts.reduceOption

namespace MKPlacemark

variable (p : MKPlacemark)

/-- No component is an empty text. -/
structure Filled : Prop where
  subThoroughfare : p.subThoroughfare ≠ some ""
  thoroughfare : p.thoroughfare ≠ some ""
  locality : p.locality ≠ some ""
  subAdministrativeArea : p.subAdministrativeArea ≠ some ""
  administrativeArea : p.administrativeArea ≠ some ""

/-- Number and name of the street. -/
def street : String := joined " " [p.subThoroughfare, p.thoroughfare]

/-- City and state. -/
def city : String := joined " " [p.locality, p.administrativeArea]

/-- The two parts that are not empty. -/
def addressLine : String := ", ".intercalate ([p.street, p.city].filter (· ≠ ""))

/-- The placemark has a street. -/
def hasStreet : Bool := p.subThoroughfare.isSome || p.thoroughfare.isSome

/-- The placemark has a city or a state. -/
def hasCity : Bool := p.locality.isSome || p.administrativeArea.isSome

end MKPlacemark

end Sens

import Mathlib.Data.List.ReduceOption
import Sens.Purpose.Address

/-!
# Address lines

* `joined_pair`, `addressLine_eq`: a joined line, with its separators made explicit.
* `separator_inj`: two lines that differ in one separator are different.
* `parseAddress_eq_iff`: when the separators of `parseAddress` stand between the parts
  that are present.
-/

namespace Sens

variable {p : MKPlacemark}

theorem joined_pair (separator : String) (s t : Option String) : joined separator [s, t] =
    s.getD "" ++ (if s.isSome = true ∧ t.isSome = true then separator else "") ++ t.getD "" := by
  cases s <;> cases t <;> simp [joined]

theorem joined_pair_eq_empty {separator : String} {s t : Option String} (hs : s ≠ some "")
    (ht : t ≠ some "") : joined separator [s, t] = "" ↔ s.isSome = false ∧ t.isSome = false := by
  rw [joined_pair]
  cases s <;> cases t <;> simp_all

/-- A separator is seen: with it and without it, the lines are different. -/
theorem separator_inj {a b separator : String} (hne : separator ≠ "") {P Q : Prop} [Decidable P]
    [Decidable Q] : a ++ (if P then separator else "") ++ b = a ++ (if Q then separator else "") ++ b ↔
      (P ↔ Q) := by
  have hlong : a ≠ a ++ separator := fun h => hne (by simpa using h.symm)
  by_cases hP : P <;> by_cases hQ : Q <;> simp [hP, hQ, hne, hlong]

theorem street_eq_empty_iff (hp : p.Filled) : p.street = "" ↔ p.hasStreet = false := by
  rw [MKPlacemark.street, joined_pair_eq_empty hp.subThoroughfare hp.thoroughfare,
    MKPlacemark.hasStreet, Bool.or_eq_false_iff]

theorem city_eq_empty_iff (hp : p.Filled) : p.city = "" ↔ p.hasCity = false := by
  rw [MKPlacemark.city, joined_pair_eq_empty hp.locality hp.administrativeArea,
    MKPlacemark.hasCity, Bool.or_eq_false_iff]

/-- **The line**, with its separators made explicit. -/
theorem addressLine_eq (hp : p.Filled) : p.addressLine =
    p.street ++ (if p.hasStreet = true ∧ p.hasCity = true then ", " else "") ++
      (p.locality.getD "" ++
        (if p.locality.isSome = true ∧ p.administrativeArea.isSome = true then " " else "") ++
          p.administrativeArea.getD "") := by
  have hs := street_eq_empty_iff hp
  have hc := city_eq_empty_iff hp
  rw [← joined_pair " " p.locality p.administrativeArea, ← MKPlacemark.city]
  unfold MKPlacemark.addressLine
  cases h1 : p.hasStreet <;> cases h2 : p.hasCity <;> simp [h1, h2, hs, hc, hs.2, hc.2]

/-- The line that the code builds tests `subAdministrativeArea` where it prints `locality`. -/
theorem parseAddress_eq (p : MKPlacemark) : LocationSearchTableViewController.parseAddress p =
    p.street ++ (if p.hasStreet = true ∧
        (p.subAdministrativeArea.isSome = true ∨ p.administrativeArea.isSome = true) then ", " else "") ++
      (p.locality.getD "" ++
        (if p.subAdministrativeArea.isSome = true ∧ p.administrativeArea.isSome = true then " " else "") ++
          p.administrativeArea.getD "") := by
  rw [MKPlacemark.street, joined_pair]
  simp only [LocationSearchTableViewController.parseAddress, MKPlacemark.hasStreet, Bool.or_eq_true,
    String.append_assoc]

/-- **When the separators are right**: where there is a state or a street, the city that is
printed must be there just when the district is that is tested. -/
theorem parseAddress_eq_iff (hp : p.Filled) :
    LocationSearchTableViewController.parseAddress p = p.addressLine ↔
      (p.administrativeArea.isSome = true ∨ p.hasStreet = true →
        (p.locality.isSome = true ↔ p.subAdministrativeArea.isSome = true)) := by
  rw [parseAddress_eq, addressLine_eq hp]
  cases ha : p.administrativeArea.isSome with
  | true =>
    -- with a state the comma is right, and the space is in question
    simp only [MKPlacemark.hasCity, ha, Bool.or_true, or_true, and_true, true_or, forall_const]
    rw [← String.append_assoc, ← String.append_assoc, ← String.append_assoc, ← String.append_assoc,
      separator_inj (by decide)]
    exact Iff.comm
  | false =>
    -- without one there is no space, and the comma is in question
    simp only [MKPlacemark.hasCity, ha, Bool.or_false, Bool.false_eq_true, or_false, and_false, false_or,
      if_false]
    rw [separator_inj (by decide)]
    constructor
    · intro h hstreet
      simpa [hstreet] using h.symm
    · intro h
      exact and_congr_right fun hstreet => (h hstreet).symm

/-- A complete address. -/
theorem complete_address_is_joined : LocationSearchTableViewController.parseAddress
    { subThoroughfare := some "10", thoroughfare := some "Rua Nova", locality := some "Recife",
      subAdministrativeArea := some "Recife", administrativeArea := some "PE" } =
    "10 Rua Nova, Recife PE" := by
  refine ((parseAddress_eq_iff ?_).2 ?_).trans (by decide +kernel)
  · constructor <;> decide
  · decide

/-- A street and a city without a district run together. -/
theorem street_runs_into_city : ¬ ∀ p : MKPlacemark, p.Filled →
    LocationSearchTableViewController.parseAddress p = p.addressLine := by
  intro h
  have := h { thoroughfare := some "Rua Nova", locality := some "Recife" } (by constructor <;> decide)
  exact absurd this (by decide +kernel)

end Sens

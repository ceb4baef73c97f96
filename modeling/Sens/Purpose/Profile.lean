import Sens.Spec.Home
import Sens.Spec.SignUp

/-!
# What an account is about

The `Profile` is what the sign-up form of an account supplied, and what the home
screen should know of its user. A document of `users` stores it field by field.
-/

namespace Sens

structure Profile where
  name : String
  lastName : String
  birthDate : Date
deriving DecidableEq

/-- The document has the fields of the profile. -/
structure StoresProfile (d : Document) (p : Profile) : Prop where
  name : d.get "firstname" = some (.string p.name)
  lastName : d.get "lastname" = some (.string p.lastName)
  birthDate : d.get "birthDate" = some (.single (.timestamp p.birthDate))

/-- The profile that a sign-up form supplies, if its date is one. -/
def SingUpViewController.profile (F : Foundation) (form : SingUpViewController) : Option Profile :=
  (F.date form.dateTextField).map fun birthDate =>
    ⟨trimmingCharacters form.firstName, trimmingCharacters form.lastName, birthDate⟩

/-- The user once the profile is known. -/
def User.withProfile (u : User) (p : Profile) : User :=
  { u with _name := some p.name, _lastName := some p.lastName, _birthDate := some p.birthDate }

end Sens

import Sens.Lib.Trim
import Sens.Spec.SignUp

/-!
# What the sign-up form is for

What a submitted form must say, and the policy for passwords that the message of the
form states.
-/

namespace Sens

/-- A text that is not empty and has no whitespace around it. -/
structure Neat (t : String) : Prop where
  ne_empty : t ≠ ""
  bare : Trim.Bare whitespacesAndNewlines t.toList

namespace SingUpViewController

variable (F : Foundation) (form : SingUpViewController)

/-- The fields that must be filled in. -/
def required : List String :=
  [form.firstName, form.lastName, form.emailTextField, form.passwordTextField]

/-- The call says what the form says: the trimmed texts, which are neat, and the date. -/
structure Submits (call : CreateUser) : Prop where
  neat : ∀ t ∈ form.required, Neat (trimmingCharacters t)
  firstName : call.user._name = some (trimmingCharacters form.firstName)
  lastName : call.user._lastName = some (trimmingCharacters form.lastName)
  email : call.email = trimmingCharacters form.emailTextField
  password : call.password = trimmingCharacters form.passwordTextField
  birthDate : ∃ date, F.date form.dateTextField = some date ∧ call.user._birthDate = some date

end SingUpViewController

/-! ## Passwords -/

def lowercaseLetter (c : Char) : Bool := 'a' ≤ c && c ≤ 'z'

/-- Some character of the text is of the class. -/
def Contains (p : Char → Bool) (t : String) : Prop := ∃ c ∈ t.toList, p c = true

/-- The special characters of the policy. -/
def special (c : Char) : Bool := c ∈ ['@', '$', '#', '!', '%', '*', '?', '&']

/-- At least 8 characters, a special character and a number. -/
structure PasswordPolicy (F : Foundation) (t : String) : Prop where
  length : 8 ≤ t.toList.length
  special : Contains special t
  number : Contains F.decimalDigit t

/-- A text of letters, digits and special characters. Letters are A to Z and a to z. -/
def PasswordText (F : Foundation) (t : String) : Prop :=
  ∀ c ∈ t.toList, c.isAlpha = true ∨ F.decimalDigit c = true ∨ special c = true

end Sens

import Sens.Spec.Objects
import Sens.Spec.Utilities

/-!
# Signing up and signing in

`SignUpViewController.swift` and `LoginViewController.swift`: the two forms, and what
they ask of the account service.
-/

namespace Sens

/-- The sign-up form: the texts of its fields. -/
structure SingUpViewController where
  firstName : String := ""
  lastName : String := ""
  emailTextField : String := ""
  passwordTextField : String := ""
  dateTextField : String := ""
deriving DecidableEq

/-- A call of `createUser(withEmail:password:)`, with the object that its completion
handler captures. -/
structure CreateUser where
  email : String
  password : String
  user : User
deriving DecidableEq

namespace SingUpViewController

variable (F : Foundation) {σ : Type}

def validateFields (form : SingUpViewController) : Option String :=
  -- check that all fields are filled in
  if trimmingCharacters form.firstName = "" ∨ trimmingCharacters form.lastName = "" ∨
      trimmingCharacters form.emailTextField = "" ∨ trimmingCharacters form.passwordTextField = "" then
    some "Please fill in all fields."
  -- check if the password is secure
  else if isPasswordValid F (trimmingCharacters form.passwordTextField) = false then
    some "Please make sure your password is at least 8 characters, contains a special character and a number."
  else none

/-- The call that the button makes, if the fields are valid. -/
def signInButton (form : SingUpViewController) : Swift σ (Option CreateUser) :=
  match form.validateFields F with
  | some _ => return none
  | none => do
    let user : User := {
      _name := some (trimmingCharacters form.firstName)
      _lastName := some (trimmingCharacters form.lastName)
      _email := some (trimmingCharacters form.emailTextField) }
    -- `validateFields` has not looked at the date
    let parsedDateString ← Swift.unwrap (F.date form.dateTextField)
    let user := { user with _birthDate := some parsedDateString }
    let user := { user with _password := some (trimmingCharacters form.passwordTextField) }
    return some { email := ← user.email, password := ← user.password, user := user }

/-- The completion of `createUser` without an error: the document that it writes to
`users`, under its id. -/
def createUserCompletion (user : User) (uid : String) : Swift σ (String × Document) := do
  let user := { user with _id := some uid }
  let id ← user.id
  return (id, [("firstname", .string (← user.name)), ("lastname", .string (← user.lastName)),
    ("uid", .string (← user.id)), ("birthDate", .single (.timestamp (← user.birthDate)))])

end SingUpViewController

structure LoginViewController where
  emailTextField : String := "b@gmail.com"
  senhaTextField : String := "Asdaa1390@"
deriving DecidableEq

/-- The e-mail and the password that `login` signs in with. -/
def LoginViewController.login (form : LoginViewController) : String × String :=
  (trimmingCharacters form.emailTextField, trimmingCharacters form.senhaTextField)

end Sens

import Mathlib.Data.List.DropRight
import Sens.Purpose.Profile
import Sens.Spec.Accounts

/-!
# What the accounts are for

An account is what a form asked for, and who reaches its home screen has typed its
credentials. Its profile is in one `Place` at every moment, or lost: `Place.Moves` and
`Place.Lossy` are all that can happen to it.
-/

namespace Sens

namespace Account

/-- The account is the one that its form asked for. -/
structure Registered (F : Foundation) (account : Account) : Prop where
  valid : account.form.validateFields F = none
  date : (account.form.profile F).isSome = true
  email : account.email = trimmingCharacters account.form.emailTextField
  password : account.password = trimmingCharacters account.form.passwordTextField

/-- The user that a home screen of the account starts out with. -/
def user (account : Account) : User := { _id := some account.uid, _email := some account.email }

/-- What a home screen may know of its user: nothing more yet, or the profile of the form. -/
def Knows (F : Foundation) (account : Account) (u : User) : Prop :=
  u = account.user ∨ ∃ p, account.form.profile F = some p ∧ u = account.user.withProfile p

end Account

namespace AccountsEvent

/-- The device of the event. -/
def device : AccountsEvent → ℕ
  | .signInButton device _ => device
  | .createUserAnswered device _ _ => device
  | .createUserCompleted device _ => device
  | .login device _ => device
  | .signInCompleted device _ _ => device
  | .writeSettled device _ _ => device
  | .app device _ => device
  | .restarted device => device

end AccountsEvent

/-- The events since the device was restarted. -/
def sinceRestart (device : ℕ) (es : List AccountsEvent) : List AccountsEvent :=
  es.rtakeWhile fun e => e ≠ .restarted device

/-- The credentials of the account were typed on the device: in the form that asked for
it, or to sign in. -/
def Entered (account : Account) (device : ℕ) (es : List AccountsEvent) : Prop :=
  .signInButton device account.form ∈ es ∨
    ∃ form, .login device form ∈ es ∧ form.login = (account.email, account.password)

/-! ## Where a profile is -/

/-- Where the profile of an account can be: with the answer of its sign-up, on its way to
`users`, or stored there. -/
inductive Place
  | answered (device : ℕ)
  | writing (device : ℕ)
  | stored
deriving DecidableEq

namespace Place

/-- How a profile moves on. -/
inductive Moves : Place → Place → Prop
  | completed (device : ℕ) : Moves (.answered device) (.writing device)
  | stored (device : ℕ) : Moves (.writing device) .stored

/-- The places where a profile can get lost. -/
inductive Lossy : Place → Prop
  | answered (device : ℕ) : Lossy (.answered device)
  | writing (device : ℕ) : Lossy (.writing device)

end Place

/-- The id that a sign-up was answered. -/
def SignUp.uid (s : SignUp) : Option String := s.answer.join

/-- The ids whose profile is in the place. -/
def Accounts.kept (w : Accounts) : Place → List String
  | .answered device => (w.devices device).signUps.filterMap SignUp.uid
  | .writing device => (w.devices device).writes.map (·.1)
  | .stored => w.users.map (·.1)

end Sens

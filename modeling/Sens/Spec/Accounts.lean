import Sens.Spec.App
import Sens.Spec.SignUp

/-!
# Accounts

The account service, the collection `users`, and the devices that talk to them. A
remote call is answered in two steps, at the service and at the device: a restart
in between loses the answer, but not what the service did. A write to `users` waits
on its device until it is stored or dropped, and nobody looks at its result.
-/

namespace Sens

/-- An account of the service. The form that asked for it is recorded to speak about
it; the service does not keep it. -/
structure Account where
  uid : String
  email : String
  password : String
  form : SingUpViewController
deriving DecidableEq

/-- A `createUser` call on a device, and the service's answer once there is one: an id,
or an error. -/
structure SignUp where
  form : SingUpViewController
  call : CreateUser
  answer : Option (Option String) := none
deriving DecidableEq

structure Device where
  /-- The `createUser` calls that are not completed, and the `signIn` calls. -/
  signUps : List SignUp := []
  signIns : List (String × String) := []
  /-- The documents on their way to `users`, under their ids. -/
  writes : List (String × Document) := []
  /-- The home screen, once it is reached. -/
  app : Option App := none
deriving DecidableEq

namespace Device

/-- The process of the app ends. The writes of the device are kept on its disk. -/
def restart (d : Device) : Device := { writes := d.writes }

/-- `transitionToHome`, for the user who has just signed in. The form has no window any more
where the home screen of another call has replaced it: `view.window?` is `nil`. -/
def transitionToHome (d : Device) (uid email : String) : Device :=
  match d.app with
  | some _ => d
  | none => { d with app := App.launch (some ⟨uid, some email⟩) }

end Device

structure Accounts where
  accounts : List Account := []
  /-- The collection `users`: documents under their ids. -/
  users : List (String × Document) := []
  devices : ℕ → Device := fun _ => {}

inductive AccountsEvent
  | signInButton (device : ℕ) (form : SingUpViewController)
  | createUserAnswered (device call : ℕ) (uid : Option String)
  | createUserCompleted (device call : ℕ)
  | login (device : ℕ) (form : LoginViewController)
  | signInCompleted (device call : ℕ) (uid : Option String)
  | writeSettled (device write : ℕ) (stored : Bool)
  | app (device : ℕ) (e : AppEvent)
  | restarted (device : ℕ)
deriving DecidableEq

namespace Accounts

variable (F : Foundation)

def setDevice (w : Accounts) (device : ℕ) (d : Device) : Accounts :=
  { w with devices := Function.update w.devices device d }

/-- `collection.document(id).setData(data)`. -/
def setData (users : List (String × Document)) (write : String × Document) : List (String × Document) :=
  users.filter (fun x => x.1 ≠ write.1) ++ [write]

/-- The documents of `users` that a query on the device sees for the id, its own writes
included: `whereField("uid", isEqualTo: id)`. -/
def profileDocuments (w : Accounts) (device : ℕ) (id : String) : List Document :=
  (((w.devices device).writes.foldl setData w.users).filter
    fun x => x.2.get "uid" = some (.string id)).map (·.2)

/-- The answers that the profile query of a home screen can get: an error, or documents
that the query sees. Without a connection some of them may be missing. -/
def Answers (w : Accounts) (device : ℕ) (a : App) : AppEvent → Bool
  | .profileAnswered (some documents) =>
    a.home.user._id.any fun id => documents.isSublist (w.profileDocuments device id)
  | _ => true

/-- The service creates the account, unless the e-mail is in use or the id is. -/
def createAccount (w : Accounts) (s : SignUp) (uid : String) : Option Accounts :=
  if w.accounts.all (fun account => account.email ≠ s.call.email ∧ account.uid ≠ uid) then
    some { w with accounts := w.accounts ++ [⟨uid, s.call.email, s.call.password, s.form⟩] }
  else none

/-- The completion handler of `createUser` on the device. -/
def completeSignUp (d : Device) (s : SignUp) : Device :=
  match s.answer with
  | some (some uid) =>
    match (SingUpViewController.createUserCompletion s.call.user uid).run () with
    | .ok write _ =>
      -- the home screen does not wait for the write
      let d := { d with writes := d.writes ++ [write] }
      d.transitionToHome uid s.call.email
    | .error _ _ => d.restart
  | _ => d

/-- One event on a device; an event that cannot be delivered changes nothing. The forms are
there until a home screen is. -/
def step (w : Accounts) : AccountsEvent → Accounts
  | .signInButton device form =>
    let d := w.devices device
    if d.app.isSome then w
    else match (form.signInButton F).run () with
      | .ok none _ => w
      | .ok (some call) _ => w.setDevice device { d with signUps := d.signUps ++ [⟨form, call, none⟩] }
      | .error _ _ => w.setDevice device d.restart
  | .createUserAnswered device call uid =>
    let d := w.devices device
    match d.signUps[call]? with
    | some s =>
      let answered (w : Accounts) := w.setDevice device { d with
        signUps := d.signUps.set call { s with answer := some uid } }
      if s.answer.isSome then w
      else match uid with
        | none => answered w
        | some uid => match w.createAccount s uid with
          | some w => answered w
          | none => w
    | none => w
  | .createUserCompleted device call =>
    let d := w.devices device
    match d.signUps[call]? with
    | some s =>
      if s.answer.isSome then
        w.setDevice device (completeSignUp { d with signUps := d.signUps.eraseIdx call } s)
      else w
    | none => w
  | .login device form =>
    let d := w.devices device
    if d.app.isSome then w
    else w.setDevice device { d with signIns := d.signIns ++ [form.login] }
  | .signInCompleted device call uid =>
    let d := w.devices device
    match d.signIns[call]? with
    | some (email, password) =>
      let d := { d with signIns := d.signIns.eraseIdx call }
      match uid with
      | none => w.setDevice device d
      | some uid =>
        -- an account needs no document in `users` to sign in
        if w.accounts.any fun account =>
            account.uid = uid ∧ account.email = email ∧ account.password = password then
          w.setDevice device (d.transitionToHome uid email)
        else w
    | none => w
  | .writeSettled device write stored =>
    let d := w.devices device
    match d.writes[write]? with
    | some x =>
      let w := w.setDevice device { d with writes := d.writes.eraseIdx write }
      if stored then { w with users := setData w.users x } else w
    | none => w
  | .app device e =>
    let d := w.devices device
    match d.app with
    | some a =>
      if a.Deliverable e && w.Answers device a e then
        match (App.handle F e).run a with
        | .ok _ a' => w.setDevice device { d with app := some a' }
        | .error _ _ => w.setDevice device d.restart
      else w
    | none => w
  | .restarted device => w.setDevice device (w.devices device).restart

/-- The accounts after the events, from none. -/
def run (es : List AccountsEvent) : Accounts := es.foldl (step F) {}

end Accounts

end Sens

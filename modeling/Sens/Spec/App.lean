import Sens.Lib.Runs
import Sens.Spec.Home

/-!
# The running app, and many of them on one collection

`App` is the app of one signed-in user, from the moment its home screen is loaded:
the home screen, the compose screen while it is presented, and the queries that
are not answered yet. `App.step` takes one event, and is `none` for an event that
the system cannot deliver there and for one on which the app traps.

`World` is the shared collection `pins` with the apps of any number of users.
A save adds a document; an app that traps is gone until it is opened again.
-/

namespace Sens

structure App where
  home : HomeViewController
  addFeeling : Option AddFeelingViewController := none
  /-- The profile query is not answered yet. -/
  profileQuery : Bool := true
  /-- The `pins` queries that are not answered yet, and the number of the next one. -/
  pinsQueries : List ℕ := []
  nextQuery : ℕ := 0
deriving DecidableEq

inductive AppEvent
  | viewDidAppear
  | pinsAnswered (query : ℕ) (answer : Option (List DocumentSnapshot))
  | profileAnswered (answer : Option (List Document))
  | didUpdateLocations (locations : List CLLocationCoordinate2D)
  | didFailWithError
  | tapGesture (state : GestureState) (newCoordinate : CLLocationCoordinate2D)
  | AddFeelingPressed
  | viewFor : MKAnnotation → Option Ref → AppEvent
  | viewOffScreen (view : Ref)
  | calloutTapped (view : Ref) (control : Ref)
  | compose (e : AddFeelingEvent)
  | saveEmotionPressed
  | cancelPressed
deriving DecidableEq

namespace App

variable (F : Foundation)

/-- The app after `HomeViewController.viewDidLoad` for `currentUser`. -/
def launch (currentUser : Option AuthUser) : Option App :=
  match (HomeViewController.viewDidLoad currentUser).run {} with
  | .ok _ home => some { home := home }
  | .error _ _ => none

def onHome {α : Type} (x : Swift HomeViewController α) : Swift App α :=
  Swift.focus (·.home) (fun home a => { a with home := home }) x

def onUser (x : Swift User Unit) : Swift App Unit :=
  Swift.focus (·.home.user) (fun user a => { a with home.user := user }) x

/-- `present(addFeelingViewController!, animated: true)`, where there is one. -/
def present : Option AddFeelingViewController → Swift App Unit
  | none => pure ()
  | some c => modify fun a => { a with addFeeling := some c }

/-- Runs `x` on the presented compose screen. -/
def onAddFeeling {α : Type} (x : Swift AddFeelingViewController α) : Swift App (Option α) := fun a =>
  match a.addFeeling with
  | none => .ok none a
  | some c => match x.run c with
    | .ok v c' => .ok (some v) { a with addFeeling := some c' }
    | .error t c' => .error t { a with addFeeling := some c' }

/-- One event. The document is the one that a save writes. -/
def handle : AppEvent → Swift App (Option Document)
  | .viewDidAppear => do
    modify fun a => { a with pinsQueries := a.pinsQueries ++ [a.nextQuery], nextQuery := a.nextQuery + 1 }
    return none
  | .pinsAnswered query answer => do
    modify fun a => { a with pinsQueries := a.pinsQueries.erase query }
    onHome (HomeViewController.pinsCompletion F answer)
    return none
  | .profileAnswered answer => do
    modify fun a => { a with profileQuery := false }
    onUser (HomeViewController.profileCompletion answer)
    return none
  | .didUpdateLocations locations => do
    onHome (HomeViewController.didUpdateLocations locations)
    return none
  | .didFailWithError => do
    onHome HomeViewController.didFailWithError
    return none
  | .tapGesture state newCoordinate => do
    present (← onHome (HomeViewController.tapGesture state newCoordinate))
    return none
  | .AddFeelingPressed => do
    present (some (← onHome HomeViewController.AddFeelingPressed))
    return none
  | .viewFor annotation dequeued => do
    let _ ← onHome (HomeViewController.mapViewViewFor annotation dequeued)
    return none
  | .viewOffScreen view => do
    modify fun a => { a with home.reuseQueue := a.home.reuseQueue ++ [view] }
    return none
  | .calloutTapped view control => do
    let _ ← onHome (HomeViewController.calloutAccessoryControlTapped F ((← get).home.views.read view) control)
    return none
  | .compose e => do
    let _ ← onAddFeeling (AddFeelingViewController.handle F e)
    return none
  | .saveEmotionPressed => do
    let document ← onAddFeeling (AddFeelingViewController.saveEmotionPressed (← get).home.user)
    modify fun a => { a with addFeeling := none }
    return document
  | .cancelPressed => do
    modify fun a => { a with addFeeling := none }
    return none

/-- The events that the system can deliver: answers to open queries, gestures on the
screen in front, requests for annotations that are on the map, views that exist. -/
def Deliverable (a : App) : AppEvent → Bool
  | .pinsAnswered query _ => query ∈ a.pinsQueries
  | .profileAnswered _ => a.profileQuery
  | .tapGesture state _ => state ≠ .began || a.addFeeling.isNone
  | .AddFeelingPressed => a.addFeeling.isNone
  | .viewFor (.point annotation) dequeued =>
    annotation ∈ a.home.mapAnnotations && dequeued.all (· ∈ a.home.reuseQueue)
  | .viewOffScreen view => view < a.home.views.size && view ∉ a.home.reuseQueue
  | .calloutTapped view _ => view < a.home.views.size
  | .compose e => a.addFeeling.any (·.Deliverable e)
  | .saveEmotionPressed | .cancelPressed => a.addFeeling.isSome
  | _ => true

def step (a : App) (e : AppEvent) : Option App :=
  if a.Deliverable e then
    match (handle F e).run a with
    | .ok _ a' => some a'
    | .error _ _ => none
  else none

/-- The app of `currentUser` after the events, if it is still running. -/
def run (currentUser : Option AuthUser) (es : List AppEvent) : Option App :=
  (launch currentUser).bind fun a => Runs.after (step F) a es

end App

/-! ## Many users -/

structure World where
  /-- The collection `pins`. -/
  pins : List DocumentSnapshot := []
  /-- The running app of each user. -/
  apps : ℕ → Option App := fun _ => none

inductive WorldEvent
  | opened (user : ℕ) (currentUser : AuthUser)
  | app (user : ℕ) (e : AppEvent)
deriving DecidableEq

namespace World

variable (F : Foundation)

def setApp (w : World) (user : ℕ) (a : Option App) : World :=
  { w with apps := Function.update w.apps user a }

/-- `db.collection("pins").document().setData(data)`: a document under a new id. -/
def setData (w : World) (data : Document) : World :=
  { w with pins := w.pins ++ [⟨w.pins.length, data⟩] }

/-- The answers that Firestore can give: an error, or documents of the collection. -/
def Answers (w : World) : AppEvent → Bool
  | .pinsAnswered _ (some documents) => documents.all (· ∈ w.pins)
  | _ => true

/-- One event; an event that cannot be delivered changes nothing. -/
def step (w : World) : WorldEvent → World
  | .opened user currentUser => w.setApp user (App.launch currentUser)
  | .app user e => match w.apps user with
    | none => w
    | some a =>
      if a.Deliverable e && w.Answers e then
        match (App.handle F e).run a with
        | .ok none a' => w.setApp user a'
        | .ok (some data) a' => (w.setApp user a').setData data
        | .error _ _ => w.setApp user none
      else w

/-- The world after the events, from the empty collection and no running app. -/
def run (es : List WorldEvent) : World := es.foldl (step F) {}

end World

end Sens

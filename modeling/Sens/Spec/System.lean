import Sens.Spec.Accounts

/-!
# The whole system

`Accounts`, with the home screens of its devices on one collection `pins`: a save on any
of them adds a document, and the `pins` queries of all of them are answered from it.
-/

namespace Sens

structure System where
  accounts : Accounts := {}
  /-- The collection `pins`. -/
  pins : List DocumentSnapshot := []

namespace System

variable (F : Foundation)

/-- The answers that Firestore can give to a `pins` query: an error, or documents of the
collection. -/
def Answers (s : System) : AccountsEvent → Bool
  | .app _ (.pinsAnswered _ (some documents)) => documents.all (· ∈ s.pins)
  | _ => true

/-- The document that the event writes to `pins`. -/
def saved (s : System) : AccountsEvent → Option Document
  | .app device e => match (s.accounts.devices device).app with
    | none => none
    | some a =>
      if a.Deliverable e && s.accounts.Answers device a e then
        match (App.handle F e).run a with
        | .ok data _ => data
        | .error _ _ => none
      else none
  | _ => none

/-- One event; an event that cannot be delivered changes nothing. -/
def step (s : System) (e : AccountsEvent) : System :=
  if s.Answers e then
    { accounts := s.accounts.step F e
      pins := s.pins ++ ((s.saved F e).map fun data => ⟨s.pins.length, data⟩).toList }
  else s

/-- The system after the events, from nothing. -/
def run (es : List AccountsEvent) : System := es.foldl (step F) {}

end System

end Sens

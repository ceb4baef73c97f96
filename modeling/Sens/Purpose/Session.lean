import Sens.Spec.App

/-!
# An author's session

What the events of the app say about the author, without running the app: where the
device was last located, which first name the profile gave, and the events of the
compose screen among those of the app.
-/

namespace Sens

namespace Session

/-- The location that an event reports. -/
def located : AppEvent → Option CLLocationCoordinate2D
  | .didUpdateLocations locations => locations.getLast?
  | _ => none

/-- The first name in an answer to the profile query. -/
def named : AppEvent → Option String
  | .profileAnswered (some (d :: _)) =>
    match d.get "firstname" with
    | some (.single (.string name)) => some name
    | _ => none
  | _ => none

def composed : AppEvent → Option AddFeelingEvent
  | .compose e => some e
  | _ => none

/-- The event closes the compose screen. -/
def Closes : AppEvent → Bool
  | .saveEmotionPressed | .cancelPressed => true
  | _ => false

/-- The event opens the compose screen, for the location touched. -/
inductive Opens : AppEvent → Option CLLocationCoordinate2D → Prop
  | tapped (newCoordinate : CLLocationCoordinate2D) :
      Opens (.tapGesture .began newCoordinate) (some newCoordinate)
  | added : Opens .AddFeelingPressed none

variable (es : List AppEvent)

def lastLocation : Option CLLocationCoordinate2D := (es.filterMap located).getLast?

def firstName : Option String := (es.filterMap named).getLast?

def composeEvents : List AddFeelingEvent := es.filterMap composed

end Session

end Sens

import Sens.Spec.LocationSearch

/-!
# What the search table is for

The table should show the answer to the newest query: what the text in the search
bar asks for. Which answer each search got is read off the completions.
-/

namespace Sens

namespace Search

/-- The answer that the event brings to the search. -/
def answerTo (search : ℕ) : SearchEvent → Option (Option (List MKMapItem))
  | .completed search' response => if search' = search then some response else none
  | _ => none

/-- The items that an event brings, and the search it completes. -/
def loaded : SearchEvent → Option (ℕ × List MKMapItem)
  | .completed search (some mapItems) => some (search, mapItems)
  | _ => none

variable (es : List SearchEvent)

/-- The items that the search found: none if it failed or is not answered. -/
def itemsOf (search : ℕ) : List MKMapItem := ((es.filterMap (answerTo search)).getLast?.join).getD []

/-- The items of the newest query, in the state `s` after `es`. -/
def newestItems (s : LocationSearchTableViewController) : List MKMapItem :=
  match s.searches.length with
  | 0 => []
  | n + 1 => itemsOf es n

/-- The last successful completion to arrive. -/
def lastLoaded : Option (ℕ × List MKMapItem) := (es.filterMap loaded).getLast?

/-- The region that the map shows from the event on. -/
def region : SearchEvent → Option MKCoordinateRegion
  | .regionChanged region => some region
  | _ => none

/-- The region that the map shows. -/
def lastRegion : Option MKCoordinateRegion := (es.filterMap region).getLast?

/-- An edit asked for the text of the request, while the map showed its region. -/
def Asked (r : SearchRequest) : Prop :=
  ∃ before after, es = before ++ .updateSearchResults (some r.naturalLanguageQuery) :: after ∧
    lastRegion before = some r.region

end Search

end Sens

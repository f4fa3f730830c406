/-!
# Routes

The service answers two routes. A route key is a route with a method; keys are ordered by the route
first, and then `GET` comes before `POST`.
-/

namespace LtiLaunch

inductive HttpMethod
  | get
  | post
  deriving DecidableEq, Repr

namespace HttpMethod

def name : HttpMethod → String
  | get => "GET"
  | post => "POST"

def rank : HttpMethod → Nat
  | get => 0
  | post => 1

end HttpMethod

inductive Route
  | ltiLaunches
  | contentItemSelection
  deriving DecidableEq, Repr

namespace Route

def all : List Route := [ltiLaunches, contentItemSelection]

def name : Route → String
  | ltiLaunches => "lti_launches"
  | contentItemSelection => "content_item_selection"

def path (r : Route) : String := "/" ++ r.name

def rank : Route → Nat
  | ltiLaunches => 0
  | contentItemSelection => 1

/-- The route's address under `base`, whose trailing slashes do not count. -/
def url (r : Route) (base : String) : String :=
  String.ofList (base.toList.reverse.dropWhile (· == '/')).reverse ++ r.path

end Route

structure RouteKey where
  route : Route
  method : HttpMethod
  deriving DecidableEq, Repr

namespace RouteKey

def post (route : Route) : RouteKey := ⟨route, .post⟩

def text (k : RouteKey) : String := k.method.name ++ " " ++ k.route.name

def rank (k : RouteKey) : Nat := 2 * k.route.rank + k.method.rank

instance : Ord RouteKey := ⟨compareOn rank⟩

instance : Std.TransOrd RouteKey := inferInstanceAs (Std.TransCmp (compareOn rank))

theorem rank_inj {a b : RouteKey} (h : a.rank = b.rank) : a = b := by
  obtain ⟨r, m⟩ := a
  obtain ⟨r', m'⟩ := b
  cases r <;> cases r' <;> cases m <;> cases m' <;> first | rfl | exact absurd h (by decide)

instance : Std.LawfulEqOrd RouteKey where
  eq_of_compare {a b} h := by
    have h : compare a.rank b.rank = .eq := h
    exact rank_inj (Std.LawfulEqCmp.eq_of_compare h)

end RouteKey

end LtiLaunch

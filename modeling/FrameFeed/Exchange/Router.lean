import FrameFeed.Exchange.Reply
import FrameFeed.Exchange.Request
import FrameFeed.Feed.Source
/-!
# Routers

A router answers a request by the handler of its tag (`Router.handler?_route`). All sessions of a
server share what the handlers work on, a state `τ`.
-/
namespace FrameFeed

/-- What answering a request comes to: an answer, or a crash of the session. -/
inductive Answer where
  | returned (r : Except ServiceError Reply)
  | crashed

namespace Answer

def reply (r : Reply) : Answer := .returned (.ok r)
def failed (e : ServiceError) : Answer := .returned (.error e)

end Answer

/-- The answer that the outcome of a call to a source makes. -/
def Call.answer {α : Type} (reply : α → Reply) : Call α → Answer
  | .returned (.ok a) => .reply (reply a)
  | .returned (.error e) => .failed (.source e)
  | .crashed => .crashed

/-- Answers one kind of request, given its body. -/
abbrev Handler (τ : Type) := Option Json.Members → τ → Answer × τ

structure Router (τ : Type) where
  routes : List (String × Handler τ) := []

namespace Router

variable {τ : Type}

/-- The router with this handler for a tag, instead of any other. -/
def route (tag : String) (h : Handler τ) (r : Router τ) : Router τ :=
  ⟨(tag, h) :: r.routes.filter (·.1 ≠ tag)⟩

def handler? (tag : String) (r : Router τ) : Option (Handler τ) :=
  (r.routes.find? (·.1 = tag)).map (·.2)

theorem handler?_route (tag : String) (h : Handler τ) (r : Router τ) :
    (r.route tag h).handler? tag = some h := by
  simp [handler?, route]

theorem handler?_route_ne {tag other : String} (h : Handler τ) (r : Router τ) (hne : other ≠ tag) :
    (r.route tag h).handler? other = r.handler? other := by
  simp only [handler?, route, List.find?_cons, Ne.symm hne, decide_false, List.find?_filter]
  congr 2
  funext p
  by_cases hp : p.1 = other <;> simp [hp, hne]

def dispatch (q : Request) (r : Router τ) (s : τ) : Answer × τ :=
  match r.handler? q.tag with
  | some h => h q.body s
  | none => (.failed (.unknownRequest q.tag), s)

/-- The tags that have a handler, in ascending order. -/
def tags (r : Router τ) : List String :=
  (r.routes.map (·.1)).mergeSort fun a b => decide (a ≤ b)

/-- The router shown by its tags. -/
def outline (r : Router τ) : String :=
  "Router \x7b tags: [" ++ ", ".intercalate (r.tags.map Text.quote) ++ "] \x7d"

end Router

end FrameFeed

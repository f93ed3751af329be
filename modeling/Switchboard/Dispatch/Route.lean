import Switchboard.Dispatch.Sealed

/-!
Routing: handing a value to whatever dispatches values of its type.

Handler tables and sealed tables are dispatchers; `AnyDispatcher` is one of which
no more is known than that. `route` opens a span around the dispatch, which
`dispatch` itself does not. `Channel` lists the ways from a table of either kind to
its handlers.
-/

namespace Switchboard

/-- A type whose members send values of type `V` to handlers with results in `R`. -/
class Dispatcher (D : Type) (V R : outParam Type) where
  dispatch : D → V → Run (Except DispatchFault R)

/-- A dispatcher of which only the dispatching is known. -/
structure AnyDispatcher (V R : Type) where
  dispatch : V → Run (Except DispatchFault R)

section Instances

variable {V R : Type}

instance [Tagged V] : Dispatcher (Handlers V R) V R := ⟨Handlers.dispatch⟩

instance [Tagged V] : Dispatcher (SealedHandlers V R) V R := ⟨SealedHandlers.dispatch⟩

instance : Dispatcher (AnyDispatcher V R) V R := ⟨AnyDispatcher.dispatch⟩

end Instances

variable {D V R : Type}

/-- Forget all of a dispatcher but the dispatching. -/
def AnyDispatcher.of [Dispatcher D V R] (dispatcher : D) : AnyDispatcher V R :=
  ⟨Dispatcher.dispatch dispatcher⟩

/-- The span around a routed value. -/
def routeSpan : Span :=
  ⟨"match_tagged", .trace, Handlers.target⟩

/-- Dispatch a value inside a span. -/
def route [Dispatcher D V R] (dispatcher : D) (value : V) : Run (Except DispatchFault R) :=
  Run.within routeSpan (Dispatcher.dispatch dispatcher value)

/-- Nothing is lost by forgetting all but the dispatching. -/
theorem route_any [Dispatcher D V R] (dispatcher : D) (value : V) :
    route (AnyDispatcher.of dispatcher) value = route dispatcher value := rfl

/-! ### Channels -/

/-- How a value gets to its handler. -/
inductive Channel where
  /-- By the table itself. -/
  | direct
  /-- By routing. -/
  | routed
  /-- By routing to a dispatcher of unknown kind. -/
  | anonymous
  /-- By the table as a function. -/
  | function
deriving DecidableEq, Repr

/-- Send a value to its handler in an open table. -/
def Handlers.through [Tagged V] (h : Handlers V R) :
    Channel → V → Run (Except DispatchFault R)
  | .direct => h.dispatch
  | .routed => route h
  | .anonymous => route (AnyDispatcher.of h)
  | .function => h.toFunction

/-- Send a value to its handler in a sealed table. -/
def SealedHandlers.through [Tagged V] (s : SealedHandlers V R) :
    Channel → V → Run (Except DispatchFault R)
  | .direct => s.dispatch
  | .routed => route s
  | .anonymous => route (AnyDispatcher.of s)
  | .function => s.toFunction

end Switchboard

import Switchboard.Dispatch.Handlers

/-!
Sealed tables: handler tables that were found to cover a list of tags.

`Handlers.sealFor` seals a table against any list of tags and
`Handlers.sealDeclared` against the tags that the type of values declares. A table
that lacks handlers is given up with the list of tags that have none. A sealed
table dispatches as the table did before.
-/

namespace Switchboard

/-- A handler table that takes no more handlers. -/
structure SealedHandlers (V R : Type) where
  handlers : Handlers V R

namespace Handlers

variable {V R : Type}

/-- The listed tags without a handler, in the list's order and as often as it has them. -/
def uncovered (h : Handlers V R) (tags : List String) : List String :=
  tags.filter fun tag => !h.contains tag

/-- The event that a table was sealed against a list with the given length. -/
def sealedEvent (count : Nat) : Event :=
  ⟨.debug, target, "sealed handler table", [("tags", .count count)]⟩

/-- Seal the table if every listed tag has a handler. -/
def sealFor (h : Handlers V R) (tags : List String) :
    Run (Except DispatchFault (SealedHandlers V R)) :=
  match h.uncovered tags with
  | [] => do
    Run.emit (sealedEvent tags.length)
    return .ok ⟨h⟩
  | missing => return .error (.uncovered missing)

/-- Seal the table against all tags that its values may have. -/
def sealDeclared [Declaring V] (h : Handlers V R) :
    Run (Except DispatchFault (SealedHandlers V R)) :=
  h.sealFor (Declaring.declared V)

theorem uncovered_append (h : Handlers V R) (tags more : List String) :
    h.uncovered (tags ++ more) = h.uncovered tags ++ h.uncovered more := by
  simp [uncovered]

theorem uncovered_eq_nil_iff {h : Handlers V R} {tags : List String} :
    h.uncovered tags = [] ↔ ∀ tag ∈ tags, h.contains tag := by
  simp [uncovered, List.filter_eq_nil_iff]

end Handlers

namespace SealedHandlers

variable {V R : Type}

/-- The registered tags, in the order of first registration. -/
def tags (s : SealedHandlers V R) : List String :=
  s.handlers.tags

/-- Call the handler registered under the value's tag. -/
def dispatch [Tagged V] (s : SealedHandlers V R) (value : V) : Run (Except DispatchFault R) :=
  s.handlers.dispatch value

/-- The table as a function. -/
def toFunction [Tagged V] (s : SealedHandlers V R) : V → Run (Except DispatchFault R) :=
  fun value => s.dispatch value

def outline (s : SealedHandlers V R) : Outline :=
  .partialStruct "SealedTable" [("tags", .names s.tags)]

end SealedHandlers

end Switchboard

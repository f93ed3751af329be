import Std.Data.HashMap
import Switchboard.Dispatch.Fault
import Switchboard.Dispatch.Tagged
import Switchboard.Run

/-!
Handler tables: for each tag one function from the values with that tag.

A table finds handlers by hash and lists its tags in the order in which they were
first registered. The two parts agree on what is registered in every table that
grew from the empty one (`Handlers.Coherent`, kept by `insert`); registering a
tag again replaces its handler and nothing else. `Handlers.dispatch` reports the
tag before the handler runs.
-/

namespace Switchboard

/-- A function from tagged values whose run may leave a journal or panic. -/
abbrev Handler (V R : Type) := V → Run R

/-- Handlers by tag, and the tags in order. -/
structure Handlers (V R : Type) where
  byTag : Std.HashMap String (Handler V R)
  order : List String

namespace Handlers

variable {V R : Type}

/-! ### Registration -/

def empty : Handlers V R := ⟨∅, []⟩

instance : EmptyCollection (Handlers V R) := ⟨empty⟩

instance : Inhabited (Handlers V R) := ⟨empty⟩

/-- Register a handler for a tag, in place of an earlier one. -/
def insert (h : Handlers V R) (tag : String) (handler : Handler V R) : Handlers V R where
  byTag := h.byTag.insert tag handler
  order := if h.byTag.contains tag then h.order else h.order ++ [tag]

/-- Register each handler of a history in turn. -/
def insertAll (h : Handlers V R) (history : History (Handler V R)) : Handlers V R :=
  history.foldl (fun acc entry => acc.insert entry.1 entry.2) h

/-- The table that a history of registrations leads to. -/
def ofHistory (history : History (Handler V R)) : Handlers V R :=
  empty.insertAll history

/-- The registered tags, in the order of first registration. -/
def tags (h : Handlers V R) : List String :=
  h.order

def contains (h : Handlers V R) (tag : String) : Bool :=
  h.byTag.contains tag

def get? (h : Handlers V R) (tag : String) : Option (Handler V R) :=
  h.byTag[tag]?

def size (h : Handlers V R) : Nat :=
  h.order.length

def isEmpty (h : Handlers V R) : Bool :=
  h.order.isEmpty

def outline (h : Handlers V R) : Outline :=
  .partialStruct "HandlerTable" [("tags", .names h.tags)]

/-! ### The two parts agree -/

/-- Each registered tag is listed, and listed once. -/
structure Coherent (h : Handlers V R) : Prop where
  nodup : h.tags.Nodup
  mem_tags_iff : ∀ tag, tag ∈ h.tags ↔ h.contains tag

theorem coherent_empty : (empty : Handlers V R).Coherent where
  nodup := List.nodup_nil
  mem_tags_iff tag := by simp [empty, tags, contains]

theorem get?_insert (h : Handlers V R) (tag other : String) (handler : Handler V R) :
    (h.insert tag handler).get? other = if other = tag then some handler else h.get? other := by
  simp only [get?, insert, Std.HashMap.getElem?_insert, beq_iff_eq]
  exact ite_congr (propext eq_comm) (fun _ => rfl) (fun _ => rfl)

theorem contains_insert (h : Handlers V R) (tag other : String) (handler : Handler V R) :
    (h.insert tag handler).contains other ↔ other = tag ∨ h.contains other := by
  simp only [contains, insert, Std.HashMap.contains_insert, Bool.or_eq_true, beq_iff_eq]
  exact or_congr_left eq_comm

theorem contains_iff_get? (h : Handlers V R) (tag : String) :
    h.contains tag ↔ (h.get? tag).isSome := by
  simp [contains, get?]

theorem Coherent.insert {h : Handlers V R} (coherent : h.Coherent) (tag : String)
    (handler : Handler V R) : (h.insert tag handler).Coherent where
  nodup := by
    have fresh := coherent.mem_tags_iff tag
    simp only [tags, Handlers.insert, contains] at *
    split
    · exact coherent.nodup
    · rename_i absent
      rw [List.nodup_append]
      refine ⟨coherent.nodup, by simp, ?_⟩
      intro a mem b single same
      rw [List.mem_singleton] at single
      exact absent (fresh.mp (single ▸ same ▸ mem))
  mem_tags_iff other := by
    rw [contains_insert, ← coherent.mem_tags_iff other]
    have present := coherent.mem_tags_iff tag
    simp only [tags, Handlers.insert, contains] at *
    split
    · rename_i found
      exact ⟨.inr, fun h => h.elim (fun e => e ▸ present.mpr found) id⟩
    · simp [or_comm]

theorem Coherent.insertAll {h : Handlers V R} (coherent : h.Coherent)
    (history : History (Handler V R)) : (h.insertAll history).Coherent := by
  induction history generalizing h with
  | nil => exact coherent
  | cons entry rest ih => exact ih (coherent.insert entry.1 entry.2)

theorem coherent_ofHistory (history : History (Handler V R)) : (ofHistory history).Coherent :=
  coherent_empty.insertAll history

/-! ### Histories -/

theorem get?_insertAll (h : Handlers V R) (history : History (Handler V R)) (tag : String) :
    (h.insertAll history).get? tag = (history.latest tag).or (h.get? tag) := by
  induction history generalizing h with
  | nil => rfl
  | cons entry rest ih =>
    obtain ⟨t, handler⟩ := entry
    change ((h.insert t handler).insertAll rest).get? tag = _
    rw [ih, get?_insert, History.latest, Option.or_assoc]
    split <;> rfl

theorem Coherent.tags_insert {h : Handlers V R} (coherent : h.Coherent) (tag : String)
    (handler : Handler V R) :
    (h.insert tag handler).tags = if tag ∈ h.tags then h.tags else h.tags ++ [tag] := by
  have present := coherent.mem_tags_iff tag
  simp only [tags, Handlers.insert, contains] at *
  simp only [present]

theorem Coherent.tags_insertAll {h : Handlers V R} (coherent : h.Coherent)
    (history : History (Handler V R)) :
    (h.insertAll history).tags = h.tags ++ History.fresh h.tags (history.map Prod.fst) := by
  induction history generalizing h with
  | nil => simp [Handlers.insertAll, History.fresh]
  | cons entry rest ih =>
    obtain ⟨t, handler⟩ := entry
    change ((h.insert t handler).insertAll rest).tags = _
    rw [ih (coherent.insert t handler), coherent.tags_insert, List.map_cons, History.fresh]
    by_cases mem : t ∈ h.tags
    · rw [if_pos mem, if_pos mem]
    · rw [if_neg mem, if_neg mem, List.append_assoc, List.singleton_append]

theorem get?_ofHistory (history : History (Handler V R)) (tag : String) :
    (ofHistory history).get? tag = history.latest tag := by
  rw [ofHistory, get?_insertAll]
  simp [empty, get?]

theorem tags_ofHistory (history : History (Handler V R)) :
    (ofHistory history).tags = history.names := by
  rw [ofHistory, coherent_empty.tags_insertAll]
  rfl

/-! ### Dispatch -/

/-- Where dispatch and sealing report. -/
def target : String := "tagmatch_union::table"

/-- The event that a value with the tag goes to its handler. -/
def foundEvent (tag : String) : Event :=
  ⟨.trace, target, "dispatching tagged value", [("tag", .quotable tag)]⟩

/-- The event that a value's tag has no handler. -/
def missedEvent (tag : String) : Event :=
  ⟨.trace, target, "no handler for tag", [("tag", .quotable tag)]⟩

/-- Call the handler registered under the value's tag. -/
def dispatch [Tagged V] (h : Handlers V R) (value : V) : Run (Except DispatchFault R) :=
  let tag := Tagged.tag value
  match h.get? tag with
  | some handler => do
    Run.emit (foundEvent tag)
    return .ok (← handler value)
  | none => do
    Run.emit (missedEvent tag)
    return .error (.unhandled tag)

section Dispatch

variable [Tagged V] {h : Handlers V R} {value : V}

theorem dispatch_of_some {handler : Handler V R}
    (found : h.get? (Tagged.tag value) = some handler) :
    h.dispatch value =
      ⟨.event (foundEvent (Tagged.tag value)) :: (handler value).journal,
        (handler value).outcome.map .ok⟩ := by
  simp only [dispatch, found, bind_pure_comp, Run.emit_bind, Run.journal_map, Run.outcome_map]

theorem dispatch_of_none (missed : h.get? (Tagged.tag value) = none) :
    h.dispatch value =
      ⟨[.event (missedEvent (Tagged.tag value))],
        .returned (.error (.unhandled (Tagged.tag value)))⟩ := by
  simp only [dispatch, missed, Run.emit_bind]
  rfl

end Dispatch

/-- The table as a function. -/
def toFunction [Tagged V] (h : Handlers V R) : V → Run (Except DispatchFault R) :=
  fun value => h.dispatch value

end Handlers

end Switchboard

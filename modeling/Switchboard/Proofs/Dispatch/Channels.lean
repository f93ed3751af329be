import Switchboard.Dispatch.Route

/-!
All channels lead to the same handler.

A channel adds to a dispatch at most the bounds of a span (`Channel.enclose`), and a
sealed table sends a value as the open table did. So a value fares alike through
every channel of the table and of each sealed table made of it (`Handlers.Sends`):
`every_channel_calls_last_handler` says how, in terms of the registrations alone.
-/

namespace Switchboard

variable {V R : Type}

/-! ### What a channel adds -/

/-- The run with what the channel leaves around it. -/
def Channel.enclose {A : Type} (channel : Channel) (run : Run A) : Run A :=
  match channel with
  | .direct | .function => run
  | .routed | .anonymous =>
    ⟨.entered routeSpan :: run.journal ++ [.left routeSpan], run.outcome⟩

@[simp] theorem Channel.outcome_enclose {A : Type} (channel : Channel) (run : Run A) :
    (channel.enclose run).outcome = run.outcome := by
  cases channel <;> rfl

theorem Handlers.through_eq [Tagged V] (h : Handlers V R) (channel : Channel) (value : V) :
    h.through channel value = channel.enclose (h.dispatch value) := by
  cases channel <;> rfl

theorem SealedHandlers.through_eq [Tagged V] (s : SealedHandlers V R) (channel : Channel)
    (value : V) : s.through channel value = s.handlers.through channel value := by
  cases channel <;> rfl

/-! ### Sealing keeps the table -/

theorem Handlers.sealFor_eq (h : Handlers V R) (tags : List String) :
    h.sealFor tags =
      if h.uncovered tags = [] then ⟨[.event (sealedEvent tags.length)], .returned (.ok ⟨h⟩)⟩
      else ⟨[], .returned (.error (.uncovered (h.uncovered tags)))⟩ := by
  unfold sealFor
  cases h.uncovered tags with
  | nil => rfl
  | cons tag rest => rfl

/-- Sealing asks for a handler for each tag, and changes nothing. -/
theorem Handlers.sealFor_eq_ok_iff {h : Handlers V R} {tags : List String}
    {s : SealedHandlers V R} :
    (h.sealFor tags).outcome = .returned (.ok s) ↔
      (∀ tag ∈ tags, h.contains tag) ∧ s.handlers = h := by
  obtain ⟨handlers⟩ := s
  rw [← uncovered_eq_nil_iff, sealFor_eq]
  by_cases covered : h.uncovered tags = []
  · simp [covered, eq_comm]
  · simp [covered]

/-! ### All channels -/

/-- Through every channel of the table, and of each sealed table made of it, the value meets the
same run. -/
def Handlers.Sends [Tagged V] (h : Handlers V R) (value : V)
    (run : Run (Except DispatchFault R)) : Prop :=
  ∀ channel : Channel, h.through channel value = channel.enclose run ∧
    ∀ tags s, (h.sealFor tags).outcome = .returned (.ok s) →
      s.through channel value = channel.enclose run

theorem Handlers.sends_dispatch [Tagged V] (h : Handlers V R) (value : V) :
    h.Sends value (h.dispatch value) := by
  intro channel
  have opened := h.through_eq channel value
  refine ⟨opened, fun tags s closed => ?_⟩
  rw [s.through_eq, (sealFor_eq_ok_iff.mp closed).2, opened]

/-- Whatever was registered, a value whose tag was registered meets the handler that was registered
last under the tag, through every channel alike: the handler is called once, on the value itself,
and what it returns or panics with is the outcome. A value whose tag was never registered meets no
handler, and the fault carries its tag. -/
theorem every_channel_calls_last_handler [Tagged V] (history : History (Handler V R)) (value : V) :
    (Tagged.tag value ∈ history.map Prod.fst →
      ∃ before handler after,
        history = before ++ (Tagged.tag value, handler) :: after ∧
        Tagged.tag value ∉ after.map Prod.fst ∧
        (Handlers.ofHistory history).Sends value
          ⟨.event (Handlers.foundEvent (Tagged.tag value)) :: (handler value).journal,
            (handler value).outcome.map .ok⟩) ∧
    (Tagged.tag value ∉ history.map Prod.fst →
      (Handlers.ofHistory history).Sends value
        ⟨[.event (Handlers.missedEvent (Tagged.tag value))],
          .returned (.error (.unhandled (Tagged.tag value)))⟩) := by
  have sends := (Handlers.ofHistory history).sends_dispatch value
  have looked_up := Handlers.get?_ofHistory history (Tagged.tag value)
  constructor
  · intro registered
    obtain ⟨handler, latest⟩ :=
      Option.isSome_iff_exists.mp (History.latest_isSome_iff.mpr registered)
    obtain ⟨before, after, split, last⟩ := History.latest_eq_some_iff.mp latest
    rw [Handlers.dispatch_of_some (looked_up.trans latest)] at sends
    exact ⟨before, handler, after, split, last, sends⟩
  · intro absent
    have latest := History.latest_eq_none_iff.mpr absent
    rw [Handlers.dispatch_of_none (looked_up.trans latest)] at sends
    exact sends

/-- Handlers for two tags; the first handler of one of them was replaced. -/
def replacedHandlers : History (Handler Record String) :=
  [("a", fun _ => Run.panic "replaced"), ("b", fun _ => return "b"), ("a", fun r => return r.tag)]

theorem every_channel_calls_last_handler_replaced :
    (Handlers.ofHistory replacedHandlers).Sends (Record.ofTag "a")
        ⟨[.event (Handlers.foundEvent "a")], .returned (.ok "a")⟩ ∧
      (Handlers.ofHistory replacedHandlers).Sends (Record.ofTag "c")
        ⟨[.event (Handlers.missedEvent "c")], .returned (.error (.unhandled "c"))⟩ := by
  constructor
  · obtain ⟨before, handler, after, split, last, sends⟩ :=
      (every_channel_calls_last_handler replacedHandlers (Record.ofTag "a")).1
        (List.mem_map_of_mem (List.mem_cons_self ..))
    have latest := History.latest_eq_some_iff.mpr ⟨before, after, split, last⟩
    cases latest
    exact sends
  · have absent : "c" ∉ replacedHandlers.map Prod.fst := by simp [replacedHandlers]
    exact (every_channel_calls_last_handler replacedHandlers (Record.ofTag "c")).2 absent

end Switchboard

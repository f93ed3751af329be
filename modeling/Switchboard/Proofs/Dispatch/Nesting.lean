import Switchboard.Proofs.Dispatch.Channels
import Switchboard.Script.Handling

/-!
Dispatches inside dispatches.

A handler may dispatch values of its own, through tables that it builds or was given,
open or sealed, and so may their handlers. `Run.Performs` says of a run which
dispatches it executes: the deeds of a run form a forest, a dispatch stands above what
its handler does. From the forest alone follow the journal of the run
(`Run.Performs.journal_eq`), its events in preorder and the spans around each of them
(`located_journalAll`), and that it leaves every span that it enters, whether it
returns or panics (`balanced_journalAll`): all of this is `Run.Shows`.
`nested_dispatch_reports` says it of a dispatch through any channel of any table.
-/

namespace Switchboard

/-! ### Tables of either kind -/

/-- A handler table, open or sealed. -/
inductive AnyTable (V R : Type) where
  | opened (handlers : Handlers V R)
  | closed (handlers : SealedHandlers V R)

namespace AnyTable

variable {V R : Type}

/-- The handlers of the table. -/
def handlers : AnyTable V R → Handlers V R
  | opened h => h
  | closed s => s.handlers

/-- Send a value to its handler. -/
def through [Tagged V] : AnyTable V R → Channel → V → Run (Except DispatchFault R)
  | opened h => h.through
  | closed s => s.through

/-- A sealed table sends a value as the open one does. -/
theorem through_eq [Tagged V] (table : AnyTable V R) (channel : Channel) (value : V) :
    table.through channel value = channel.enclose (table.handlers.dispatch value) := by
  cases table with
  | opened h => exact h.through_eq channel value
  | closed s => exact (s.through_eq channel value).trans (s.handlers.through_eq channel value)

end AnyTable

/-! ### Spans of channels -/

namespace Channel

/-- The span that the channel opens, if it does. -/
def span? : Channel → Option Span
  | routed | anonymous => some routeSpan
  | direct | function => none

/-- The journal with what the channel leaves around it. -/
def bounded (channel : Channel) (journal : Journal) : Journal :=
  match channel.span? with
  | some span => .entered span :: journal ++ [.left span]
  | none => journal

theorem journal_enclose {A : Type} (channel : Channel) (run : Run A) :
    (channel.enclose run).journal = channel.bounded run.journal := by
  cases channel <;> rfl

theorem balanced_bounded (channel : Channel) {journal : Journal} (balanced : journal.Balanced) :
    (channel.bounded journal).Balanced := by
  rw [bounded]
  cases channel.span? with
  | none => exact balanced
  | some span => exact balanced.wrap span

/-- The spans that are open where these channels are, the innermost first. -/
def spans (channels : List Channel) : List Span :=
  channels.filterMap span?

theorem located_bounded (channel : Channel) (journal : Journal) (channels : List Channel)
    (around : List Span) :
    Journal.located (spans channels ++ around) (channel.bounded journal) =
      Journal.located (spans (channel :: channels) ++ around) journal := by
  have closing : ∀ opened span, Journal.located opened [Entry.left span] = [] := fun _ _ => rfl
  rw [bounded, spans, spans, List.filterMap_cons]
  cases channel.span? with
  | none => rfl
  | some span =>
    change Journal.located (span :: (spans channels ++ around)) (journal ++ [.left span]) = _
    rw [Journal.located_append, closing, List.append_nil]
    rfl

/-- The innermost span is that of routing wherever some channel routes, else the one from before. -/
theorem head?_spans (channels : List Channel) (around : List Span) :
    (spans channels ++ around).head? =
      if .routed ∈ channels ∨ .anonymous ∈ channels then some routeSpan else around.head? := by
  induction channels with
  | nil => rfl
  | cons channel rest ih =>
    cases channel with
    | routed => simp [spans, span?]
    | anonymous => simp [spans, span?]
    | direct =>
      have unopened : spans (.direct :: rest) = spans rest := rfl
      simp [unopened, ih]
    | function =>
      have unopened : spans (.function :: rest) = spans rest := rfl
      simp [unopened, ih]

end Channel

/-! ### Deeds -/

/-- A dispatch that was executed. -/
structure Dispatched where
  channel : Channel
  /-- The tag of the value. -/
  tag : String
  /-- The table had a handler for the tag. -/
  handled : Bool
  /-- How the dispatch ended, whatever a handler returned. -/
  ending : Outcome (Except DispatchFault Unit)

/-- What is reported of the dispatch. -/
def Dispatched.event (made : Dispatched) : Event :=
  if made.handled then Handlers.foundEvent made.tag else Handlers.missedEvent made.tag

/-- The dispatch of a value through a channel of a table. -/
def AnyTable.dispatched {V R : Type} [Tagged V] (table : AnyTable V R) (channel : Channel)
    (value : V) : Dispatched where
  channel := channel
  tag := Tagged.tag value
  handled := (table.handlers.get? (Tagged.tag value)).isSome
  ending := (table.through channel value).outcome.map fun answer => answer.map fun _ => ()

/-- What a run does that a journal can show. -/
inductive Deed where
  /-- A note of the handler's own. -/
  | note (text : String)
  /-- A dispatch, with what the handler did in it. -/
  | dispatch (made : Dispatched) (inside : List Deed)

namespace Deed

mutual

/-- A dispatch is reported before all that is done inside it. -/
def journal : Deed → Journal
  | .note text => [.note text]
  | .dispatch made inside => made.channel.bounded (.event made.event :: journalAll inside)

def journalAll : List Deed → Journal
  | [] => []
  | deed :: rest => deed.journal ++ journalAll rest

end

mutual

/-- The dispatches, each before those inside it, with the channels that are open around each, its
own first. -/
def preorder (channels : List Channel) : Deed → List (Dispatched × List Channel)
  | .note _ => []
  | .dispatch made inside =>
    (made, made.channel :: channels) :: preorderAll (made.channel :: channels) inside

def preorderAll (channels : List Channel) : List Deed → List (Dispatched × List Channel)
  | [] => []
  | deed :: rest => preorder channels deed ++ preorderAll channels rest

end

theorem journalAll_append (deeds more : List Deed) :
    journalAll (deeds ++ more) = journalAll deeds ++ journalAll more := by
  induction deeds with
  | nil => rfl
  | cons deed rest ih => simp only [List.cons_append, journalAll, ih, List.append_assoc]

theorem preorderAll_append (channels : List Channel) (deeds more : List Deed) :
    preorderAll channels (deeds ++ more) =
      preorderAll channels deeds ++ preorderAll channels more := by
  induction deeds with
  | nil => rfl
  | cons deed rest ih => simp only [List.cons_append, preorderAll, ih, List.append_assoc]

mutual

theorem balanced_journal : ∀ deed : Deed, deed.journal.Balanced
  | .note text => Journal.balanced_note text
  | .dispatch made inside =>
    made.channel.balanced_bounded
      ((Journal.balanced_event made.event).append (balanced_journalAll inside))

/-- Deeds leave the spans open that were open before. -/
theorem balanced_journalAll : ∀ deeds : List Deed, (journalAll deeds).Balanced
  | [] => Journal.balanced_nil
  | deed :: rest => (balanced_journal deed).append (balanced_journalAll rest)

end

/-- The report of each dispatch in the list, with the spans that are open there. -/
def reports (around : List Span) (made : List (Dispatched × List Channel)) :
    List (Event × List Span) :=
  made.map fun entry => (entry.1.event, Channel.spans entry.2 ++ around)

mutual

theorem located_journal (around : List Span) (channels : List Channel) :
    ∀ deed : Deed, Journal.located (Channel.spans channels ++ around) deed.journal =
      reports around (deed.preorder channels)
  | .note _ => rfl
  | .dispatch made inside => by
    rw [journal, Channel.located_bounded, Journal.located,
      located_journalAll around (made.channel :: channels) inside]
    rfl

/-- The events of deeds are the reports of the dispatches in preorder. -/
theorem located_journalAll (around : List Span) (channels : List Channel) :
    ∀ deeds : List Deed, Journal.located (Channel.spans channels ++ around) (journalAll deeds) =
      reports around (preorderAll channels deeds)
  | [] => rfl
  | deed :: rest => by
    rw [journalAll, Journal.located_append, balanced_journal deed, located_journal around channels,
      located_journalAll around channels rest, preorderAll, reports, reports, reports,
      List.map_append]

end

end Deed

/-! ### Runs of handlers -/

namespace Run

variable {A B : Type}

/-- Run one computation and go on from its ending, be it a panic. -/
def resume (first : Run A) (next : Outcome A → Run B) : Run B :=
  ⟨first.journal ++ (next first.outcome).journal, (next first.outcome).outcome⟩

/-- Going on from a value only is to let a panic through. -/
theorem bind_eq_resume (first : Run A) (next : A → Run B) :
    first >>= next = first.resume fun
      | .returned value => next value
      | .panicked text => Run.panic text := by
  obtain ⟨journal, outcome⟩ := first
  cases outcome with
  | returned value => rfl
  | panicked text =>
    rw [bind_of_panicked rfl]
    simp [resume, Run.panic]

/-- `Performs run deeds`: the run is that of a handler that takes notes, panics, catches panics,
goes on with what it has found out so far, and dispatches any values through any tables, whose
handlers are of this kind too; and the deeds are what it does, in order. -/
inductive Performs : {A : Type} → Run A → List Deed → Prop where
  | pure {A : Type} (value : A) : Performs (pure value) []
  | panic {A : Type} (text : String) : Performs (Run.panic text : Run A) []
  | note (text : String) : Performs (Run.note text) [.note text]
  | resume {A B : Type} {first : Run A} {next : Outcome A → Run B} {before after : List Deed} :
      Performs first before → Performs (next first.outcome) after →
      Performs (first.resume next) (before ++ after)
  | dispatch {V R : Type} [Tagged V] (table : AnyTable V R) (channel : Channel) (value : V)
      {inside : List Deed} :
      (∀ handler, table.handlers.get? (Tagged.tag value) = some handler →
        Performs (handler value) inside) →
      (table.handlers.get? (Tagged.tag value) = none → inside = []) →
      Performs (table.through channel value)
        [.dispatch (table.dispatched channel value) inside]

end Run

/-- The journal of a dispatch: the report of it, and then what a handler leaves. -/
theorem AnyTable.journal_through {V R : Type} [Tagged V] (table : AnyTable V R) (channel : Channel)
    (value : V) {inside : Journal}
    (handled : ∀ handler, table.handlers.get? (Tagged.tag value) = some handler →
      (handler value).journal = inside)
    (unhandled : table.handlers.get? (Tagged.tag value) = none → inside = []) :
    (table.through channel value).journal =
      channel.bounded (.event (table.dispatched channel value).event :: inside) := by
  rw [table.through_eq, Channel.journal_enclose]
  cases found : table.handlers.get? (Tagged.tag value) with
  | some handler =>
    rw [Handlers.dispatch_of_some found, handled handler found, Dispatched.event, dispatched, found]
    rfl
  | none =>
    rw [Handlers.dispatch_of_none found, unhandled found, Dispatched.event, dispatched, found]
    rfl

/-- The deeds of a run tell its whole journal. -/
theorem Run.Performs.journal_eq {A : Type} {run : Run A} {deeds : List Deed}
    (performs : run.Performs deeds) : run.journal = Deed.journalAll deeds := by
  induction performs with
  | pure value => rfl
  | panic text => rfl
  | note text => rfl
  | resume _ _ ih ih' => rw [Deed.journalAll_append, ← ih, ← ih']; rfl
  | @dispatch V R _ table channel value inside _ unhandled ih =>
    have nothing : table.handlers.get? (Tagged.tag value) = none → Deed.journalAll inside = [] := by
      intro missed
      rw [unhandled missed]
      rfl
    rw [table.journal_through channel value ih nothing, Deed.journalAll, Deed.journalAll,
      Deed.journal, List.append_nil]
    rfl

/-! ### Reports tell how a dispatch went -/

/-- The report of the dispatch tells whether there was a handler, and whether the value came back
unhandled. -/
structure Dispatched.Truthful (made : Dispatched) : Prop where
  found_iff : made.event = Handlers.foundEvent made.tag ↔ made.handled
  missed_iff : made.event = Handlers.missedEvent made.tag ↔
    made.ending = .returned (.error (.unhandled made.tag))

theorem Handlers.foundEvent_ne_missedEvent (tag : String) : foundEvent tag ≠ missedEvent tag := by
  simp [foundEvent, missedEvent]

/-- A value comes back unhandled exactly where the table has no handler for its tag. -/
theorem AnyTable.dispatched_truthful {V R : Type} [Tagged V] (table : AnyTable V R)
    (channel : Channel) (value : V) : (table.dispatched channel value).Truthful := by
  have ne := Handlers.foundEvent_ne_missedEvent (Tagged.tag value)
  cases found : table.handlers.get? (Tagged.tag value) with
  | some handler =>
    have ends : (table.dispatched channel value).ending ≠
        .returned (.error (.unhandled (Tagged.tag value))) := by
      rw [dispatched, table.through_eq, Channel.outcome_enclose, Handlers.dispatch_of_some found]
      cases (handler value).outcome <;> simp [Outcome.map, Except.map]
    have event_eq : (table.dispatched channel value).event =
        Handlers.foundEvent (Tagged.tag value) := by
      rw [Dispatched.event, dispatched, found]
      rfl
    have handled : (table.dispatched channel value).handled = true := by
      rw [dispatched, found]
      rfl
    constructor
    · exact iff_of_true event_eq handled
    · rw [event_eq]
      exact iff_of_false ne ends
  | none =>
    have ends : (table.dispatched channel value).ending =
        .returned (.error (.unhandled (Tagged.tag value))) := by
      rw [dispatched, table.through_eq, Channel.outcome_enclose, Handlers.dispatch_of_none found]
      rfl
    have event_eq : (table.dispatched channel value).event =
        Handlers.missedEvent (Tagged.tag value) := by
      rw [Dispatched.event, dispatched, found]
      rfl
    have unhandled : (table.dispatched channel value).handled = false := by
      rw [dispatched, found]
      rfl
    constructor
    · rw [event_eq, unhandled]
      exact iff_of_false ne.symm Bool.false_ne_true
    · exact iff_of_true event_eq ends

theorem Run.Performs.truthful {A : Type} {run : Run A} {deeds : List Deed}
    (performs : run.Performs deeds) (channels : List Channel) :
    ∀ entry ∈ Deed.preorderAll channels deeds, entry.1.Truthful := by
  induction performs generalizing channels with
  | pure value => simp [Deed.preorderAll]
  | panic text => simp [Deed.preorderAll]
  | note text => simp [Deed.preorderAll, Deed.preorder]
  | resume _ _ ih ih' =>
    intro entry mem
    rw [Deed.preorderAll_append] at mem
    exact (List.mem_append.mp mem).elim (ih channels entry) (ih' channels entry)
  | @dispatch V R _ table channel value inside _ unhandled ih =>
    rw [Deed.preorderAll, Deed.preorderAll, List.append_nil, Deed.preorder, List.forall_mem_cons]
    refine ⟨table.dispatched_truthful channel value, ?_⟩
    cases found : table.handlers.get? (Tagged.tag value) with
    | some handler => exact ih handler found (channel :: channels)
    | none =>
      rw [unhandled found]
      simp [Deed.preorderAll]

/-! ### Handlers written as data -/

theorem Run.Performs.exists_bind {A B : Type} {first : Run A} {next : A → Run B}
    (begun : ∃ deeds, first.Performs deeds)
    (continued : ∀ value, ∃ deeds, (next value).Performs deeds) :
    ∃ deeds, (first >>= next).Performs deeds := by
  obtain ⟨before, performs⟩ := begun
  rw [bind_eq_resume]
  cases ended : first.outcome with
  | returned value =>
    obtain ⟨after, performs'⟩ := continued value
    exact ⟨before ++ after, .resume performs (by rw [ended]; exact performs')⟩
  | panicked text => exact ⟨before ++ [], .resume performs (by rw [ended]; exact .panic text)⟩

theorem AnyTable.exists_performs_through {V R : Type} [Tagged V] (table : AnyTable V R)
    (channel : Channel) (value : V)
    (each : ∀ handler, table.handlers.get? (Tagged.tag value) = some handler →
      ∃ inside, (handler value).Performs inside) :
    ∃ deeds, (table.through channel value).Performs deeds := by
  have followed : ∃ inside,
      (∀ handler, table.handlers.get? (Tagged.tag value) = some handler →
        (handler value).Performs inside) ∧
      (table.handlers.get? (Tagged.tag value) = none → inside = []) := by
    cases found : table.handlers.get? (Tagged.tag value) with
    | none => exact ⟨[], by simp, fun _ => rfl⟩
    | some handler =>
      obtain ⟨inside, performs⟩ := each handler found
      refine ⟨inside, ?_, by simp⟩
      rintro _ ⟨⟩
      exact performs
  obtain ⟨inside, handled, unhandled⟩ := followed
  exact ⟨_, .dispatch table channel value handled unhandled⟩

namespace Handling

mutual

/-- Every handling is a handler of this kind, however deep it dispatches. -/
theorem exists_performs (r : Record) :
    ∀ handling : Handling, ∃ deeds, (handling.eval r).Performs deeds
  | .const _ => ⟨[], .pure _⟩
  | .getStr _ _ => ⟨[], .pure _⟩
  | .textOf _ => ⟨[], .pure _⟩
  | .getInt _ _ => ⟨[], .pure _⟩
  | .tag => ⟨[], .pure _⟩
  | .count => ⟨[], .pure _⟩
  | .keys => ⟨[], .pure _⟩
  | .join _ parts => Run.Performs.exists_bind (exists_performsAll r parts) fun _ => ⟨[], .pure _⟩
  | .reroute cases => by
    let table := AnyTable.opened (Handlers.ofHistory (handlersOf cases))
    have dispatched : ∃ deeds, (table.through .routed r).Performs deeds := by
      refine table.exists_performs_through .routed r fun handler found => ?_
      have latest := (Handlers.get?_ofHistory _ _).symm.trans found
      exact exists_performs_of_latest r cases latest
    refine Run.Performs.exists_bind dispatched fun answer => ?_
    cases answer with
    | ok text => exact ⟨[], .pure text⟩
    | error fault => exact ⟨[], .pure _⟩
  | .panic text => ⟨[], .panic text⟩

theorem exists_performsAll (r : Record) :
    ∀ parts : List Handling, ∃ deeds, (evalAll parts r).Performs deeds
  | [] => ⟨[], .pure _⟩
  | part :: rest =>
    Run.Performs.exists_bind (exists_performs r part) fun _ =>
      Run.Performs.exists_bind (exists_performsAll r rest) fun _ => ⟨[], .pure _⟩

theorem exists_performs_of_latest (r : Record) {tag : String} {handler : Handler Record String} :
    ∀ cases : List (String × Handling), History.latest tag (handlersOf cases) = some handler →
      ∃ deeds, (handler r).Performs deeds
  | [], found => by cases found
  | (variant, handling) :: rest, found => by
    rw [handlersOf, History.latest] at found
    cases later : History.latest tag (handlersOf rest) with
    | some handler' =>
      rw [later, Option.some_or] at found
      cases found
      exact exists_performs_of_latest r rest later
    | none =>
      rw [later, Option.none_or] at found
      split at found
      · cases found
        exact exists_performs r handling
      · cases found

end

end Handling

/-! ### The law of nested dispatches -/

/-- What the journal of a run shows of the dispatches that it executes. -/
structure Run.Shows {A : Type} (run : Run A) (deeds : List Deed) : Prop where
  /-- A dispatch is reported once, within the span of its channel and ahead of what its handler
  does. -/
  journal_eq : run.journal = Deed.journalAll deeds
  /-- The events are the reports in preorder, each with the spans that are open there. -/
  located_eq : ∀ around, Journal.located around run.journal =
    Deed.reports around (Deed.preorderAll [] deeds)
  /-- A report tells how its dispatch went. -/
  truthful : ∀ entry ∈ Deed.preorderAll [] deeds, entry.1.Truthful
  /-- The innermost span around a report is that of routing where its dispatch or one around it is
  routed, and else the one from before. -/
  innermost_eq : ∀ around,
    (Journal.located around run.journal).map (fun report => (report.1, report.2.head?)) =
      (Deed.preorderAll [] deeds).map fun entry => (entry.1.event,
        if .routed ∈ entry.2 ∨ .anonymous ∈ entry.2 then some routeSpan else around.head?)
  /-- The spans that are open after the run, also when it panics, are those from before. -/
  closed : run.journal.Balanced

theorem Run.Performs.shows {A : Type} {run : Run A} {deeds : List Deed}
    (performs : run.Performs deeds) : run.Shows deeds := by
  have located_eq : ∀ around, Journal.located around run.journal =
      Deed.reports around (Deed.preorderAll [] deeds) := by
    intro around
    rw [performs.journal_eq]
    exact Deed.located_journalAll around [] deeds
  refine ⟨performs.journal_eq, located_eq, performs.truthful [], ?_, ?_⟩
  · intro around
    rw [located_eq, Deed.reports, List.map_map]
    refine List.map_congr_left fun entry _ => ?_
    rw [Function.comp_apply, Channel.head?_spans]
  · rw [performs.journal_eq]
    exact Deed.balanced_journalAll deeds

/-- Take a dispatch through any channel of any table, open or sealed, and let `inside` be what the
handler does in it, dispatches of its own among it; where there is no handler, that is nothing. The
journal shows the dispatch and all those inside it, however deep; and an open table and the sealed
one show the same. -/
theorem nested_dispatch_reports {V R : Type} [Tagged V] (table : AnyTable V R) (channel : Channel)
    (value : V) {inside : List Deed}
    (handled : ∀ handler, table.handlers.get? (Tagged.tag value) = some handler →
      (handler value).Performs inside)
    (unhandled : table.handlers.get? (Tagged.tag value) = none → inside = []) :
    (table.through channel value).Shows [.dispatch (table.dispatched channel value) inside] ∧
      (AnyTable.opened table.handlers).through channel value = table.through channel value := by
  refine ⟨(Run.Performs.dispatch table channel value handled unhandled).shows, ?_⟩
  rw [AnyTable.through_eq, AnyTable.through_eq]
  rfl

/-- A table without handlers. -/
def noHandlers : AnyTable Record String := .opened .empty

/-- Routes the record to the table without handlers, and then panics. -/
def tearing : Handler Record String := fun r => do
  let _ ← noHandlers.through .routed r
  Run.panic "torn"

/-- A table that has this handler for letters. -/
def tornLetters : AnyTable Record String := .opened (.ofHistory [("letter", tearing)])

theorem nested_dispatch_reports_torn :
    (tornLetters.through .direct (.ofTag "letter")).outcome = .panicked "torn" ∧
    Journal.located [] (tornLetters.through .direct (.ofTag "letter")).journal =
      [(Handlers.foundEvent "letter", []), (Handlers.missedEvent "letter", [routeSpan])] ∧
    Journal.openSpans [] (tornLetters.through .direct (.ofTag "letter")).journal = [] := by
  let letter : Record := .ofTag "letter"
  let lost : Deed := .dispatch (noHandlers.dispatched .routed letter) []
  have missed : noHandlers.handlers.get? "letter" = none := by
    simp [noHandlers, AnyTable.handlers, Handlers.get?, Handlers.empty]
  have returned : (noHandlers.through .routed letter).outcome =
      .returned (.error (.unhandled "letter")) := by
    rw [AnyTable.through_eq, Channel.outcome_enclose, Handlers.dispatch_of_none missed]
    rfl
  have inner : (noHandlers.through .routed letter).Performs [lost] := by
    refine .dispatch noHandlers .routed letter ?_ fun _ => rfl
    intro handler found
    cases missed.symm.trans found
  have performs : (tearing letter).Performs [lost] := by
    rw [tearing, Run.bind_eq_resume]
    exact @Run.Performs.resume _ _ _ _ [lost] [] inner (by rw [returned]; exact .panic "torn")
  have found : tornLetters.handlers.get? "letter" = some tearing :=
    Handlers.get?_ofHistory [("letter", tearing)] "letter"
  obtain ⟨shows, _⟩ := nested_dispatch_reports tornLetters .direct letter
    (fun handler found' => by cases found.symm.trans found'; exact performs)
    (fun missed' => by cases found.symm.trans missed')
  refine ⟨?_, ?_, shows.closed []⟩
  · rw [AnyTable.through_eq, Channel.outcome_enclose, Handlers.dispatch_of_some found]
    change (tearing letter).outcome.map _ = _
    rw [tearing, Run.bind_of_returned returned]
    rfl
  · have outer_event : (tornLetters.dispatched .direct letter).event =
        Handlers.foundEvent "letter" :=
      (tornLetters.dispatched_truthful .direct letter).found_iff.mpr (by
        rw [AnyTable.dispatched]
        exact congrArg Option.isSome found)
    have lost_event : (noHandlers.dispatched .routed letter).event =
        Handlers.missedEvent "letter" :=
      (noHandlers.dispatched_truthful .routed letter).missed_iff.mpr (by
        rw [AnyTable.dispatched]
        exact congrArg (Outcome.map _) returned)
    rw [shows.located_eq, ← outer_event, ← lost_event]
    rfl

end Switchboard

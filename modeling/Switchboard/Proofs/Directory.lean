import Switchboard.Proofs.Dispatch.Representation
import Switchboard.Proofs.Pattern.Combination
import Switchboard.Proofs.Pattern.Search

/-!
One discipline for all tables of named payloads.

Handlers, patterns, result functions and the values of a record are kept by name, the
first in a hash map beside a list of tags and the others in rosters. Each table can be
asked for its names, how many there are, whether there is one and whether it has a
given one: this is its `Directory`. Under the same registrations all four have the
directory of the history, which knows of no table (`Tables.ofHistory_keeps`), and under
every name answers what was registered last, wherever the table puts it to use.
-/

namespace Switchboard

variable {V R S P Q : Type}

/-! ### Directories -/

/-- What a table answers when it is asked about its names. -/
structure Directory where
  names : List String
  size : Nat
  isEmpty : Bool
  contains : String → Bool

/-- The different names of a history, each where it first came. -/
def History.directory {α : Type} (history : History α) : Directory where
  names := history.names
  size := (history.map Prod.fst).toFinset.card
  isEmpty := history.isEmpty
  contains name := name ∈ history.map Prod.fst

def Handlers.directory (h : Handlers V R) : Directory :=
  ⟨h.tags, h.size, h.isEmpty, h.contains⟩

def Roster.directory {α : Type} (r : Roster α) : Directory :=
  ⟨r.names, r.size, r.isEmpty, r.contains⟩

def Record.directory (r : Record) : Directory :=
  ⟨r.fields.names, r.size, r.isEmpty, fun name => (r.get? name).isSome⟩

/-- A table whose answers all follow from its list of names has the directory of the history that
this list is of. -/
theorem Directory.eq_of_names {α : Type} {d : Directory} {history : History α}
    (names_eq : d.names = history.names) (size_eq : d.size = d.names.length)
    (isEmpty_eq : d.isEmpty = d.names.isEmpty)
    (contains_iff : ∀ name, d.contains name ↔ name ∈ d.names) : d = history.directory := by
  have counted : history.names.length = (history.map Prod.fst).toFinset.card :=
    History.length_append_fresh List.nodup_nil _
  obtain ⟨names, size, isEmpty, contains⟩ := d
  simp only at names_eq size_eq isEmpty_eq contains_iff
  subst names_eq size_eq isEmpty_eq
  rw [History.directory, Directory.mk.injEq]
  refine ⟨rfl, counted, ?_, ?_⟩
  · rw [Bool.eq_iff_iff, List.isEmpty_iff_length_eq_zero, counted, Finset.card_eq_zero,
      List.toFinset_eq_empty_iff, List.map_eq_nil_iff, List.isEmpty_iff]
  · funext name
    rw [Bool.eq_iff_iff, contains_iff, History.mem_names_iff, decide_eq_true_iff]

theorem Handlers.directory_ofHistory (history : History (Handler V R)) :
    (ofHistory history).directory = history.directory :=
  Directory.eq_of_names (tags_ofHistory history) rfl rfl
    fun tag => ((coherent_ofHistory history).mem_tags_iff tag).symm

theorem Roster.directory_ofHistory {α : Type} (history : History α) :
    (ofHistory history).directory = history.directory := by
  refine Directory.eq_of_names (names_ofHistory history) (length_names _).symm ?_ (contains_iff _)
  exact List.isEmpty_map.symm

/-! ### Tables that take the same registrations -/

/-- What is registered under one name, one payload for each table. -/
structure Payload (V R S P Q : Type) where
  handler : Handler V R
  pattern : Pattern S P
  result : P → Run Q
  value : Value

/-- A table of each kind. -/
structure Tables (V R S P Q : Type) where
  handlers : Handlers V R
  patterns : Patterns S P
  results : Results P Q
  record : Record

namespace Tables

/-- The tables before any registration; the record has a tag. -/
def empty (tag : String) : Tables V R S P Q := ⟨∅, ∅, ∅, .ofTag tag⟩

/-- Register a payload in each table. -/
def register (t : Tables V R S P Q) (name : String) (a : Payload V R S P Q) :
    Tables V R S P Q where
  handlers := t.handlers.insert name a.handler
  patterns := t.patterns.insert name a.pattern
  results := t.results.insert name a.result
  record := t.record.set name a.value

/-- Register each payload of a history in turn. -/
def registerAll (t : Tables V R S P Q) (history : History (Payload V R S P Q)) :
    Tables V R S P Q :=
  history.foldl (fun acc entry => acc.register entry.1 entry.2) t

/-- The tables that a history of registrations leads to. -/
def ofHistory (tag : String) (history : History (Payload V R S P Q)) : Tables V R S P Q :=
  (empty tag).registerAll history

end Tables

/-- The registrations with a part of each payload. -/
def History.mapPayload {α β : Type} (part : α → β) (history : History α) : History β :=
  history.map fun entry => (entry.1, part entry.2)

namespace History

variable {α β : Type}

@[simp] theorem map_fst_mapPayload (part : α → β) (history : History α) :
    (history.mapPayload part).map Prod.fst = history.map Prod.fst := by
  simp [mapPayload]

/-- The directory of a history does not depend on the payloads. -/
@[simp] theorem directory_mapPayload (part : α → β) (history : History α) :
    (history.mapPayload part).directory = history.directory := by
  rw [directory, directory, names, names, map_fst_mapPayload, mapPayload, List.isEmpty_map]

/-- The last payload under a name is part of the last one. -/
theorem latest_mapPayload_of_last (part : α → β) {before after : History α} {name : String} {a : α}
    (last : name ∉ after.map Prod.fst) :
    ((before ++ (name, a) :: after).mapPayload part).latest name = some (part a) := by
  rw [latest_eq_some_iff]
  refine ⟨before.mapPayload part, after.mapPayload part, ?_, ?_⟩
  · simp [mapPayload]
  · rwa [map_fst_mapPayload]

end History

namespace Tables

/-- Every table takes its own part of each registration. -/
theorem registerAll_eq (t : Tables V R S P Q) (history : History (Payload V R S P Q)) :
    t.registerAll history =
      ⟨t.handlers.insertAll (history.mapPayload Payload.handler),
        t.patterns.insertAll (history.mapPayload Payload.pattern),
        t.results.insertAll (history.mapPayload Payload.result),
        t.record.setAll (history.mapPayload Payload.value)⟩ := by
  induction history generalizing t with
  | nil => rfl
  | cons entry rest ih =>
    change (t.register entry.1 entry.2).registerAll rest = _
    rw [ih]
    rfl

theorem ofHistory_eq (tag : String) (history : History (Payload V R S P Q)) :
    ofHistory tag history =
      ⟨.ofHistory (history.mapPayload Payload.handler),
        .ofHistory (history.mapPayload Payload.pattern),
        .ofHistory (history.mapPayload Payload.result),
        ⟨tag, .ofHistory (history.mapPayload Payload.value)⟩⟩ := by
  rw [ofHistory, registerAll_eq, Record.setAll_eq]
  rfl

end Tables

/-! ### What answers under a name -/

/-- Under the name the tables answer with the payload: dispatching a value with this tag calls the
handler, the pattern is the one that is found, every matcher with these result functions gives what
the pattern of the name extracts to the result function, and the field has the value. -/
structure Payload.Answers [Tagged V] (a : Payload V R S P Q) (name : String)
    (t : Tables V R S P Q) : Prop where
  dispatch_eq : ∀ value : V, Tagged.tag value = name →
    t.handlers.dispatch value =
      ⟨.event (Handlers.foundEvent name) :: (a.handler value).journal,
        (a.handler value).outcome.map .ok⟩
  pattern_eq : t.patterns.get? name = some a.pattern
  answer_eq : ∀ (table : History (Pattern S P)) (m : Matcher S P Q),
    (Pending.withResults ⟨.ofHistory table⟩ t.results).outcome = .returned (.ok m) →
    ∀ input, (m.winner input).outcome = .returned (some name) →
      ∃ (tried : List (Arm S P Q)) (pattern : Pattern S P) (value : P),
        table.latest name = some pattern ∧
        (pattern.extract input).outcome = .returned (some value) ∧
        m.answer input =
          ⟨.entered Matcher.answerSpan :: (Matcher.attempts tried input ++
              .event (Matcher.matchedEvent name) :: (a.result value).journal) ++
                [.left Matcher.answerSpan],
            (a.result value).outcome.map some⟩
  value_eq : t.record.get? name = some a.value

/-- The tables keep the history: asked about names they give the same answers, those of the
history, and under each name answers what was registered last. -/
structure Tables.Keeps [Tagged V] (t : Tables V R S P Q) (history : History (Payload V R S P Q)) :
    Prop where
  handlers_eq : t.handlers.directory = history.directory
  patterns_eq : t.patterns.directory = history.directory
  results_eq : t.results.directory = history.directory
  record_eq : t.record.directory = history.directory
  /-- A matcher can be made with these result functions for any patterns of the same names. -/
  combines : ∀ table : History (Pattern S P),
    (∀ name, name ∈ table.map Prod.fst ↔ name ∈ history.map Prod.fst) →
    ∃ m, (Pending.withResults ⟨.ofHistory table⟩ t.results).outcome = .returned (.ok m)
  last_answers : ∀ before name a after, history = before ++ (name, a) :: after →
    name ∉ after.map Prod.fst → a.Answers name t

namespace Tables

theorem answers_of_last [Tagged V] (tag : String)
    {history before after : History (Payload V R S P Q)} {name : String}
    {a : Payload V R S P Q} (split : history = before ++ (name, a) :: after)
    (last : name ∉ after.map Prod.fst) : a.Answers name (ofHistory tag history) := by
  have latest : ∀ {β : Type} (part : Payload V R S P Q → β),
      (history.mapPayload part).latest name = some (part a) := by
    intro β part
    rw [split]
    exact History.latest_mapPayload_of_last part last
  rw [ofHistory_eq]
  constructor
  · rintro value rfl
    exact Handlers.dispatch_of_some ((Handlers.get?_ofHistory _ _).trans (latest Payload.handler))
  · exact (Roster.get?_ofHistory _ _).trans (latest Payload.pattern)
  · intro table m made input wins
    obtain ⟨tried, arm, value, search, named⟩ := Matcher.exists_found_of_winner wins
    obtain ⟨mem, finds⟩ := search.found_mem
    have joins := Matcher.joins_ofHistories made
    obtain ⟨pattern, found, extract_eq⟩ := joins.pattern_of arm mem
    have result_eq := joins.result_of arm mem
    rw [named, Roster.get?_ofHistory] at found result_eq
    have same : arm.result = a.result := Option.some.inj (result_eq.symm.trans (latest _))
    have answered := Matcher.answer_of_searches search
    rw [Matcher.Ending.journal, Matcher.Ending.outcome, named, same] at answered
    exact ⟨tried, pattern, value, found, extract_eq ▸ finds, answered⟩
  · exact (Roster.get?_ofHistory _ _).trans (latest Payload.value)

/-- Whatever is registered, and however often under one name: the four tables list the same names
in the same order, are of the same size, and have the same names; and under each name every one of
them answers with the payload that was registered last. -/
theorem ofHistory_keeps [Tagged V] (tag : String) (history : History (Payload V R S P Q)) :
    (ofHistory tag history).Keeps history where
  handlers_eq := by
    rw [ofHistory_eq, Handlers.directory_ofHistory, History.directory_mapPayload]
  patterns_eq := by
    rw [ofHistory_eq, Roster.directory_ofHistory, History.directory_mapPayload]
  results_eq := by
    rw [ofHistory_eq, Roster.directory_ofHistory, History.directory_mapPayload]
  record_eq := by
    rw [ofHistory_eq, ← History.directory_mapPayload Payload.value, ← Roster.directory_ofHistory]
    rfl
  combines table same := by
    rw [ofHistory_eq]
    refine Matcher.exists_ofHistories_iff.mpr fun name => ?_
    rw [same, History.map_fst_mapPayload]
  last_answers _ _ _ _ := answers_of_last tag

/-- What is registered for odd numbers, in the place of something that panics. -/
def oddPayload : Payload Record String Nat Nat String :=
  ⟨fun r => return r.tag, .predicate id fun n => return n % 2 == 1, fun n => return s!"odd {n}",
    .int 1⟩

/-- Two names, of which the first is registered again behind the other. -/
def parityHistory : History (Payload Record String Nat Nat String) :=
  [("odd", ⟨fun _ => Run.panic "", .extracting fun _ => Run.panic "", fun _ => Run.panic "",
      .int 0⟩),
    ("even", ⟨fun _ => return "", .predicate id fun n => return n % 2 == 0,
      fun n => return s!"even {n}", .int 2⟩),
    ("odd", oddPayload)]

theorem ofHistory_keeps_odd :
    (ofHistory "parity" parityHistory).handlers.tags = ["odd", "even"] ∧
    ((ofHistory "parity" parityHistory).handlers.dispatch (.ofTag "odd")).outcome =
      .returned (.ok "odd") ∧
    (ofHistory "parity" parityHistory).record.get? "odd" = some (.int 1) ∧
    ∃ m, (Pending.withResults ⟨.ofHistory (parityHistory.mapPayload Payload.pattern)⟩
        (ofHistory "parity" parityHistory).results).outcome = .returned (.ok m) ∧
      (m.winner 7).outcome = .returned (some "odd") ∧
      (m.answer 7).outcome = .returned (some "odd 7") := by
  have keeps : (ofHistory "parity" parityHistory).Keeps parityHistory :=
    ofHistory_keeps "parity" parityHistory
  have answers := keeps.last_answers (parityHistory.take 2) "odd" oddPayload [] rfl (by simp)
  have dispatched := answers.dispatch_eq (.ofTag "odd") rfl
  obtain ⟨m, made⟩ := keeps.combines (parityHistory.mapPayload Payload.pattern) (by simp)
  refine ⟨congrArg Directory.names keeps.handlers_eq, by rw [dispatched]; rfl, answers.value_eq, m,
    made, ?_⟩
  have wins : (m.winner 7).outcome = .returned (some "odd") := by
    have joined : (Matcher.ofHistories (parityHistory.mapPayload Payload.pattern)
        (parityHistory.mapPayload Payload.result)).outcome = .returned (.ok m) := by
      rw [ofHistory_eq] at made
      exact made
    rw [Matcher.winner, (Matcher.ofHistories_eq_ok_iff.mp joined).2]
    rfl
  obtain ⟨tried, pattern, value, latest, finds, answered⟩ := answers.answer_eq _ m made 7 wins
  cases latest
  cases finds
  exact ⟨wins, by rw [answered]; rfl⟩

end Tables

end Switchboard

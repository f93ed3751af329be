import Switchboard.Proofs.Dispatch.Channels
import Switchboard.Proofs.History

/-!
What sealing leads to, read off the registrations.

Sealing asks the hash map of a table for each listed tag, and the map has the tags that were
ever registered (`Handlers.contains_ofHistory_iff`). So the list that is reported is the one
asked for, less the registered tags (`Handlers.uncovered_ofHistory`), and where nothing is
left of it the table is sealed as it is. The declared tags of a type are a list like any
other, and references to its values declare the same one (`sealing_settles`).
-/

namespace Switchboard

variable {V R : Type}

namespace Handlers

/-! ### Tags without a handler -/

theorem contains_ofHistory_iff {history : History (Handler V R)} {tag : String} :
    (ofHistory history).contains tag ↔ tag ∈ history.map Prod.fst := by
  rw [contains_iff_get?, get?_ofHistory, History.latest_isSome_iff]

theorem uncovered_ofHistory (history : History (Handler V R)) (tags : List String) :
    (ofHistory history).uncovered tags = history.unregistered tags := by
  apply History.filter_not_eq_unregistered
  intro tag
  exact contains_ofHistory_iff

/-! ### Sealing -/

/-- What sealing against the tags leads to after the registrations, with all that it leaves in the
journal. The two cases exclude each other. -/
inductive Settles [Tagged V] (history : History (Handler V R)) (tags : List String) :
    Run (Except DispatchFault (SealedHandlers V R)) → Prop where
  /-- Every tag was registered. The table stays as it is for all values, whether or not their tags
  were asked for; the event counts the tags as often as they were asked for. -/
  | closed {s : SealedHandlers V R} :
      (∀ tag ∈ tags, tag ∈ history.map Prod.fst) →
      s.tags = (ofHistory history).tags →
      (∀ channel value, s.through channel value = (ofHistory history).through channel value) →
      Settles history tags ⟨[.event (sealedEvent tags.length)], .returned (.ok s)⟩
  /-- Some tag was not registered. -/
  | refused {missing : List String} :
      (∃ tag ∈ tags, tag ∉ history.map Prod.fst) →
      missing = history.unregistered tags → missing ≠ [] →
      Settles history tags ⟨[], .returned (.error (.uncovered missing))⟩

theorem settles_sealFor [Tagged V] (history : History (Handler V R)) (tags : List String) :
    Settles history tags ((ofHistory history).sealFor tags) := by
  rw [sealFor_eq, uncovered_ofHistory]
  by_cases covered : history.unregistered tags = []
  · rw [if_pos covered]
    refine .closed (History.unregistered_eq_nil_iff.mp covered) rfl ?_
    intro channel value
    exact SealedHandlers.through_eq _ channel value
  · rw [if_neg covered]
    exact .refused (History.unregistered_ne_nil_iff.mp covered) rfl covered

end Handlers

/-- Whatever was registered and whatever tags are asked for: the table is sealed exactly where all
of them were registered, and then sends every value as before. Else those that were not are reported
in the order and as often as they were asked for. Sealing against declared tags is sealing against
the list of them, which for references is that of the type referred to. -/
theorem sealing_settles (R : Type) :
    (∀ (V : Type) [Tagged V] (history : History (Handler V R)) (tags : List String),
      Handlers.Settles history tags ((Handlers.ofHistory history).sealFor tags)) ∧
    (∀ (V : Type) [Declaring V] (h : Handlers V R),
      h.sealDeclared = h.sealFor (Declaring.declared V)) ∧
    ∀ (V : Type) [Declaring V] (h : Handlers (Ref V) R),
      h.sealDeclared = h.sealFor (Declaring.declared V) := by
  refine ⟨?_, ?_, ?_⟩
  · intro V tagged history tags
    exact Handlers.settles_sealFor history tags
  · intro V declaring h
    rfl
  · intro V declaring h
    rw [← Ref.declared_eq]
    rfl

/-- A tag that is asked for twice is missing twice. -/
example : replacedHandlers.unregistered ["b", "c", "a", "c"] = ["c", "c"] := by decide

end Switchboard

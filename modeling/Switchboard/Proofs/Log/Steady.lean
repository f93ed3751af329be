import Switchboard.Dispatch.Sealed
import Switchboard.Proofs.Log.Thinning
import Switchboard.Proofs.Pattern.FirstMatch
import Switchboard.Record.Shape

/-!
Steady journals: those of which a threshold only takes lines away.

A journal is steady when it leaves the spans that it enters and each of its events fits in
the spans around it. Steady journals one after the other are steady. What the library leaves
is steady as long as the callers' functions keep to this: a handler may leave any steady
journal (`Handlers.steady_dispatch`), and inside the span of an answer there may be notes and
events that fit in that span (`Matcher.steady_answer`).
-/

namespace Switchboard

theorem History.mem_of_latest {A : Type} {name : String} {a : A} {history : History A}
    (latest : history.latest name = some a) : (name, a) ∈ history := by
  obtain ⟨before, after, split, _⟩ := latest_eq_some_iff.mp latest
  exact split ▸ List.mem_append_right before List.mem_cons_self

/-- The entry is a note or an event that fits in the spans. -/
def Entry.FitsIn (spans : List Span) : Entry → Prop
  | .note _ => True
  | .event reported => reported.FitsIn spans
  | .entered _ | .left _ => False

namespace Journal

variable {spans : List Span} {j k : Journal}

/-! ### Steady journals -/

/-- The journal leaves the spans that it enters, and its events fit in the spans around them. -/
structure Steady (journal : Journal) : Prop where
  balanced : Balanced journal
  uniform : Uniform [] journal

theorem Steady.append (hj : Steady j) (hk : Steady k) : Steady (j ++ k) where
  balanced := hj.balanced.append hk.balanced
  uniform := by
    intro place mem
    rw [located_append, hj.balanced, List.mem_append] at mem
    exact mem.elim (hj.uniform place) (hk.uniform place)

/-! ### Journals without spans of their own -/

/-- The journal has no bounds of spans, and its events fit in the given ones. -/
def Flat (spans : List Span) (journal : Journal) : Prop :=
  ∀ entry ∈ journal, entry.FitsIn spans

theorem flat_nil : Flat spans [] := List.forall_mem_nil _

theorem Flat.append (hj : Flat spans j) (hk : Flat spans k) : Flat spans (j ++ k) :=
  List.forall_mem_append.mpr ⟨hj, hk⟩

theorem flat_event {event : Event} (fits : event.FitsIn spans) : Flat spans [.event event] :=
  List.forall_mem_singleton.mpr fits

theorem Flat.balanced (flat : Flat spans j) : Balanced j := by
  intro around
  induction j with
  | nil => rfl
  | cons entry rest ih =>
    obtain ⟨fits, others⟩ := List.forall_mem_cons.mp flat
    cases entry with
    | note text => exact ih others
    | event event => exact ih others
    | entered span => exact fits.elim
    | left span => exact fits.elim

theorem Flat.uniform (flat : Flat spans j) : Uniform spans j := by
  induction j with
  | nil => exact List.forall_mem_nil _
  | cons entry rest ih =>
    obtain ⟨fits, others⟩ := List.forall_mem_cons.mp flat
    cases entry with
    | note text => exact ih others
    | event event => exact List.forall_mem_cons.mpr ⟨fits, ih others⟩
    | entered span => exact fits.elim
    | left span => exact fits.elim

theorem Flat.steady (flat : Flat [] j) : Steady j := ⟨flat.balanced, flat.uniform⟩

/-- A span may be put around entries that fit in it. -/
theorem Flat.steady_wrap {span : Span} (flat : Flat [span] j) :
    Steady (.entered span :: j ++ [.left span]) where
  balanced := flat.balanced.wrap span
  uniform := by
    intro place mem
    change place ∈ located [span] (j ++ [.left span]) at mem
    rw [located_append, List.mem_append] at mem
    exact mem.elim (flat.uniform place) List.not_mem_nil.elim

theorem steady_nil : Steady [] := flat_nil.steady

theorem steady_note (text : String) : Steady [.note text] :=
  Flat.steady (List.forall_mem_singleton.mpr trivial)

theorem steady_event (event : Event) : Steady [.event event] :=
  (flat_event (List.forall_mem_nil _)).steady

end Journal

open Journal

/-! ### Calm runs -/

namespace Run

variable {A B : Type} {spans : List Span}

/-- The run returns, and what it leaves are notes and events that fit in the spans. -/
structure Calm (spans : List Span) (run : Run A) : Prop where
  returned : ∃ a, run.outcome = .returned a
  flat : Flat spans run.journal

theorem calm_pure (a : A) : Calm spans (pure a : Run A) := ⟨⟨a, rfl⟩, flat_nil⟩

theorem calm_emit {event : Event} (fits : event.FitsIn spans) : Calm spans (emit event) :=
  ⟨⟨(), rfl⟩, flat_event fits⟩

theorem Calm.bind {first : Run A} {next : A → Run B} (calm : Calm spans first)
    (rest : ∀ a, Calm spans (next a)) : Calm spans (first >>= next) := by
  obtain ⟨a, returned⟩ := calm.returned
  rw [bind_of_returned returned]
  exact ⟨(rest a).returned, calm.flat.append (rest a).flat⟩

end Run

/-! ### What the library leaves -/

section Library

variable {V S P R : Type}

theorem Shape.steady_build (s : Shape) (arguments : History Value) :
    (s.build arguments).journal.Steady := by
  rw [journal_build]
  split
  · exact steady_event _
  · exact steady_nil

namespace Handlers

theorem steady_sealFor (h : Handlers V R) (tags : List String) :
    (h.sealFor tags).journal.Steady := by
  unfold sealFor
  split
  · exact steady_event _
  · exact steady_nil

theorem steady_dispatch [Tagged V] {h : Handlers V R} {value : V}
    (steady : ∀ handler, h.get? (Tagged.tag value) = some handler →
      (handler value).journal.Steady) : (h.dispatch value).journal.Steady := by
  cases found : h.get? (Tagged.tag value) with
  | none =>
    rw [dispatch_of_none found]
    exact steady_event _
  | some handler =>
    rw [dispatch_of_some found]
    exact (steady_event _).append (steady handler found)

end Handlers

theorem Pending.steady_withResults (p : Pending S P) (results : Results P R) :
    (p.withResults results).journal.Steady := by
  unfold withResults
  split
  · exact steady_event _
  · exact steady_nil

theorem Pattern.calm_predicate {convert : S → P} {test : S → Run Bool} {spans : List Span}
    {input : S} (calm : (test input).Calm spans) :
    ((predicate convert test).extract input).Calm spans := by
  refine calm.bind fun found => ?_
  cases found with
  | true => exact Run.calm_pure _
  | false => exact Run.calm_pure _

namespace Matcher

/-- The functions of the arm return, and what they leave fits in the span of an answer. -/
structure CalmArm (arm : Arm S P R) : Prop where
  extract : ∀ input, (arm.extract input).Calm [answerSpan]
  result : ∀ value, (arm.result value).Calm [answerSpan]

theorem tryingEvent_fitsIn (name : String) : (tryingEvent name).FitsIn [answerSpan] :=
  List.forall_mem_singleton.mpr ⟨rfl, Nat.le_refl _⟩

theorem matchedEvent_fitsIn (name : String) : (matchedEvent name).FitsIn [answerSpan] :=
  List.forall_mem_singleton.mpr ⟨rfl, Nat.le_refl _⟩

theorem calm_firstResult {arms : List (Arm S P R)} (calm : ∀ arm ∈ arms, CalmArm arm)
    (input : S) : (firstResult arms input).Calm [answerSpan] := by
  induction arms with
  | nil => exact Run.calm_pure _
  | cons arm rest ih =>
    obtain ⟨first, others⟩ := List.forall_mem_cons.mp calm
    refine (Run.calm_emit (tryingEvent_fitsIn arm.name)).bind fun _ => ?_
    refine (first.extract input).bind fun found => ?_
    cases found with
    | none => exact ih others
    | some value =>
      refine (Run.calm_emit (matchedEvent_fitsIn arm.name)).bind fun _ => ?_
      exact (first.result value).bind fun _ => Run.calm_pure _

theorem returned_answer {m : Matcher S P R} (calm : ∀ arm ∈ m.arms, CalmArm arm) (input : S) :
    ∃ found, (m.answer input).outcome = .returned found :=
  (calm_firstResult calm input).returned

theorem steady_answer {m : Matcher S P R} (calm : ∀ arm ∈ m.arms, CalmArm arm) (input : S) :
    (m.answer input).journal.Steady :=
  (calm_firstResult calm input).flat.steady_wrap

/-- The arms of a matcher made of histories have the functions registered there. -/
theorem calm_of_made {patterns : History (Pattern S P)} {results : History (P → Run R)}
    {m : Matcher S P R} (made : (ofHistories patterns results).outcome = .returned (.ok m))
    (extracts : ∀ entry ∈ patterns, ∀ input, (entry.2.extract input).Calm [answerSpan])
    (answers : ∀ entry ∈ results, ∀ value, (entry.2 value).Calm [answerSpan]) :
    ∀ arm ∈ m.arms, CalmArm arm := by
  intro arm mem
  obtain ⟨pattern, latest, extract_eq⟩ := pattern_of_made made mem
  exact {
    extract := extract_eq ▸ extracts _ (History.mem_of_latest latest)
    result := answers _ (History.mem_of_latest (result_of_made made mem)) }

end Matcher

end Library

end Switchboard

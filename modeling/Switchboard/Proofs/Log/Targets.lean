import Switchboard.Log.Line
import Switchboard.Proofs.Log.Plain
import Switchboard.Proofs.Log.Thinning

/-!
Filters on targets.

A filter whose directives speak of whole targets is a threshold: target and level alone decide
whether an event or a span is shown (`Filter.enables`), and what the filter prints is what the
threshold shows (`Journal.written_eq_shown`).
-/

namespace Switchboard

/-! ### What a filter enables -/

namespace Filter

/-- The filter that shows nothing. -/
def silent : Filter := ⟨[]⟩

/-- The filter that shows everything. -/
def full : Filter := ⟨[⟨"", .every, some .trace⟩]⟩

/-- The most specific directive on the target lets the level through. -/
def enables (f : Filter) (target : String) (level : Level) : Bool :=
  (f.deciding (·.covers target)).any (·.admits level)

theorem byTarget_silent : silent.ByTarget := by simp [silent, ByTarget]

theorem parse_trace : parse "trace" = some full := by
  have read : Directive.read "trace" = .ok ⟨"", .every, some .trace⟩ := by decide +kernel
  have alone : (",".intercalate ["trace"]).splitOn "," = ["trace"] :=
    Text.splitOn_intercalate (by simp) (by decide)
  rw [String.intercalate_singleton] at alone
  rw [parse, alone, readAll, read]
  rfl

theorem enables_full (target : String) (level : Level) : full.enables target level := by
  cases level <;> rfl

/-- What is let through is let through with everything less detailed. -/
theorem enables_of_rank_le {f : Filter} {target : String} {a b : Level} (le : a.rank ≤ b.rank)
    (enabled : f.enables target b) : f.enables target a := by
  unfold enables at *
  cases decides : f.deciding (·.covers target) with
  | none => rw [decides] at enabled; cases enabled
  | some d =>
    rw [decides] at enabled
    exact Directive.admits_of_rank_le le enabled

/-- What a filter enables, as a threshold. -/
def threshold (f : Filter) : Threshold := ⟨f.enables, enables_of_rank_le⟩

theorem threshold_silent : silent.threshold = .silent := rfl

theorem deciding_congr {f : Filter} {chosen chosen' : Directive → Bool}
    (same : ∀ d ∈ f.directives, chosen d = chosen' d) : f.deciding chosen = f.deciding chosen' := by
  rw [deciding, deciding, List.filter_congr same]

section ByTarget

variable {f : Filter} (byTarget : f.ByTarget)

include byTarget

theorem ByTarget.opens_eq_false {d : Directive} (mem : d ∈ f.directives) (span : Span) :
    d.opens span = false := by
  rw [Directive.opens, byTarget d mem]

theorem ByTarget.admitsInside_eq_false (around : List Span) (level : Level) :
    f.admitsInside around level = false := by
  simp only [admitsInside, List.any_eq_false]
  intro span _ admitted
  obtain ⟨d, mem, opened⟩ := List.any_eq_true.mp admitted
  rw [byTarget.opens_eq_false mem] at opened
  simp at opened

theorem ByTarget.showsEvent_eq (around : List Span) (event : Event) :
    f.showsEvent around event = f.enables event.target event.level := by
  have concerned : ∀ d ∈ f.directives, d.concerns event = d.covers event.target := by
    intro d mem
    rw [Directive.concerns, byTarget d mem]
  rw [showsEvent, byTarget.admitsInside_eq_false, Bool.false_or, deciding_congr concerned, enables]

theorem ByTarget.showsSpan_eq (around : List Span) (span : Span) :
    f.showsSpan around span = f.enables span.target span.level := by
  have concerned : ∀ d ∈ f.directives, d.concernsSpan span = d.covers span.target := by
    intro d mem
    rw [Directive.concernsSpan, byTarget d mem]
  have unopened : (f.directives.any (·.opens span)) = false := by
    simp only [List.any_eq_false]
    intro d mem
    simp [byTarget.opens_eq_false mem]
  rw [showsSpan, unopened, byTarget.admitsInside_eq_false, Bool.false_or, Bool.false_or,
    deciding_congr concerned, enables]

theorem ByTarget.visible_eq (spans : List Span) : f.visible spans = f.threshold.visible spans := by
  induction spans with
  | nil => rfl
  | cons span around ih =>
    rw [visible, byTarget.showsSpan_eq, ih, Threshold.visible, Threshold.visible, List.filter_cons]
    rfl

end ByTarget

end Filter

/-! ### What a filter prints -/

def Line.text : Line → String
  | own text => text
  | logged event spans => event.line spans

namespace Journal

/-- The lines of a journal that starts inside some spans, innermost first, with their origin. -/
def written (f : Filter) (around : List Span) : Journal → List Line
  | [] => []
  | .note text :: rest => .own text :: written f around rest
  | .event event :: rest =>
    if f.showsEvent around event then .logged event (f.visible around) :: written f around rest
    else written f around rest
  | entry :: rest => written f (after around entry) rest

/-- The texts of the lines are what is printed; without a filter the silent one stands for it. -/
theorem map_text_written (filter : Option Filter) (around : List Span) (journal : Journal) :
    (written (filter.getD .silent) around journal).map Line.text =
      linesFrom filter around journal := by
  induction journal generalizing around with
  | nil => rfl
  | cons entry rest ih =>
    cases entry with
    | note text => rw [written, linesFrom, List.map_cons, ih, Line.text]
    | entered span => exact ih _
    | left span => exact ih _
    | event event =>
      cases filter with
      | none =>
        have hidden : Filter.silent.showsEvent around event = false :=
          Filter.byTarget_silent.showsEvent_eq around event
        rw [Option.getD_none, written, if_neg (by simp [hidden])]
        exact ih around
      | some f =>
        simp only [written, linesFrom, Option.getD_some]
        split
        · exact congrArg (event.line (f.visible around) :: ·) (ih around)
        · exact ih around

/-- Of a filter on targets only its threshold counts. -/
theorem written_eq_shown {f : Filter} (byTarget : f.ByTarget) (around : List Span)
    (journal : Journal) : written f around journal = shown f.threshold around journal := by
  induction journal generalizing around with
  | nil => rfl
  | cons entry rest ih =>
    cases entry with
    | note text => rw [written, shown, ih]
    | entered span => exact ih _
    | left span => exact ih _
    | event event =>
      rw [written, shown, byTarget.showsEvent_eq, byTarget.visible_eq, ih]
      rfl

end Journal

end Switchboard

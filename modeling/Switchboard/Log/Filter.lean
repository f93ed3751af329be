import Switchboard.Log.Directive

/-!
Log filters: which events and spans a log shows.

A filter is a list of directives of which each stands for itself: a later one has
taken the place of an earlier one with the same target and reach. For an event the
most specific directive that concerns it decides (`Filter.deciding`); where there is
none, the event is not shown. Besides, an event is shown if a directive on a span
around it lets it through (`Filter.admitsInside`).
-/

namespace Switchboard

/-- Directives, no two of them with the same target and reach. -/
structure Filter where
  directives : List Directive
deriving DecidableEq, Repr

namespace Filter

/-! ### Making filters -/

/-- The directives that no later one takes the place of. -/
def standing : List Directive → List Directive
  | [] => []
  | d :: rest =>
    if rest.any fun later => later.target == d.target && later.reach == d.reach then standing rest
    else d :: standing rest

theorem mem_of_mem_standing {d : Directive} {directives : List Directive}
    (kept : d ∈ standing directives) : d ∈ directives := by
  induction directives with
  | nil => exact kept
  | cons first rest ih =>
    simp only [standing] at kept
    split at kept
    · exact .tail _ (ih kept)
    · cases kept with
      | head => exact .head _
      | tail _ inRest => exact .tail _ (ih inRest)

/-- The filter of some directives. Without any it shows errors only. -/
def ofList : List Directive → Filter
  | [] => ⟨[⟨"", .every, some .error⟩]⟩
  | directives => ⟨standing directives⟩

/-- The directives among some texts, or nothing if one of the texts is torn. -/
def readAll : List String → Option (List Directive)
  | [] => some []
  | text :: rest =>
    match Directive.read text with
    | .ok d => (readAll rest).map (d :: ·)
    | .error .malformed => readAll rest
    | .error .torn => none

/-- The filter that a text with commas between directives describes. -/
def parse (text : String) : Option Filter :=
  (readAll (text.splitOn ",")).map ofList

/-! ### Deciding -/

/-- The more specific directive: the one with the longer target, then the one with the greater
name of a field. -/
def closer (best : Option Directive) (d : Directive) : Option Directive :=
  match best with
  | some b =>
    if d.target.length < b.target.length
        ∨ d.target.length = b.target.length ∧ d.reach.field < b.reach.field then some b
    else some d
  | none => some d

/-- The most specific of the directives chosen. -/
def deciding (f : Filter) (chosen : Directive → Bool) : Option Directive :=
  (f.directives.filter chosen).foldl closer none

/-- A directive on one of the spans around lets the level through. -/
def admitsInside (f : Filter) (around : List Span) (level : Level) : Bool :=
  around.any fun span => f.directives.any fun d => d.opens span && d.admits level

/-- The event is shown inside the spans around it. -/
def showsEvent (f : Filter) (around : List Span) (event : Event) : Bool :=
  f.admitsInside around event.level
    || (f.deciding (·.concerns event)).any (·.admits event.level)

/-- The span is shown inside the spans around it. A span with a directive on it always is. -/
def showsSpan (f : Filter) (around : List Span) (span : Span) : Bool :=
  f.directives.any (·.opens span) || f.admitsInside around span.level
    || (f.deciding (·.concernsSpan span)).any (·.admits span.level)

/-- The spans that are shown, out of spans given innermost first. -/
def visible (f : Filter) : List Span → List Span
  | [] => []
  | span :: around =>
    if f.showsSpan around span then span :: f.visible around else f.visible around

end Filter

end Switchboard

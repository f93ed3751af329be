import Switchboard.Dispatch.Sealed
import Switchboard.Pattern.Matcher
import Switchboard.Proofs.Outline.Legible

/-!
What the text of a table tells.

The text of a table shows names: of handlers, sealed handlers, result functions and matchers only
these, of patterns the form of each as well. All of them are made of quoted names, fixed words and
brackets, and are legible, so a table with other names, or with these in another order, has
another text (`texts_tell_tables`). What is not shown is not told: tables with the same names have
the same text, whatever functions they hold.
-/

namespace Switchboard

open Outline (Legible Tells)

variable {V R S P V' R' S' P' : Type}

/-! ### Tables that show their names -/

theorem Handlers.tells_outline (h : Handlers V R) (h' : Handlers V' R') :
    Tells h.outline h'.outline (h.tags = h'.tags) :=
  ((Outline.legible_names.labelledBy "tags").single "HandlerTable" .someFields).tells h.tags h'.tags

theorem SealedHandlers.tells_outline (s : SealedHandlers V R) (s' : SealedHandlers V' R') :
    Tells s.outline s'.outline (s.tags = s'.tags) :=
  ((Outline.legible_names.labelledBy "tags").single "SealedTable" .someFields).tells s.tags s'.tags

theorem Results.tells_outline (results : Results P R) (results' : Results P' R') :
    Tells results.outline results'.outline (results.names = results'.names) :=
  Outline.legible_names.tells results.names results'.names

theorem Matcher.tells_outline (m : Matcher S P R) (m' : Matcher S' P' R') :
    Tells m.outline m'.outline (m.names = m'.names) :=
  ((Outline.legible_names.labelledBy "patterns").single "PatternMatcher" .fields).tells m.names
    m'.names

/-! ### Patterns, which show their forms -/

theorem PatternForm.delimited_name : Text.Delimited fun form => (PatternForm.name form).toList := by
  intro form more x y same
  cases form <;> cases more <;> simp_all [PatternForm.name]

namespace Roster

variable {α β γ : Type}

/-- Payloads are looked up as they are, or with a part taken of each. -/
theorem find_map (f : α → β) (name : String) (entries : List (String × α)) :
    find name (entries.map fun e => (e.1, f e.2)) = (find name entries).map f := by
  induction entries with
  | nil => rfl
  | cons entry rest ih =>
    rw [List.map_cons, find, find, ih]
    split <;> rfl

/-- Where names are distinct, what stands under each makes up the entries. -/
theorem Distinct.map_entries_eq {r : Roster α} (distinct : r.Distinct) (f : α → β) :
    r.entries.map (fun e => (e.1, some (f e.2))) =
      r.names.map fun name => (name, (r.get? name).map f) := by
  rw [names, List.map_map]
  apply List.map_congr_left
  rintro ⟨name, a⟩ mem
  rw [Function.comp_apply, distinct.get?_eq_some_iff.mpr mem, Option.map_some]

/-- Rosters have the same parts in the same order where they have the same names in the same order
and the same part under each. -/
theorem Distinct.map_entries_eq_iff {r : Roster α} {q : Roster γ} (distinct : r.Distinct)
    (distinct' : q.Distinct) (f : α → β) (g : γ → β) :
    r.entries.map (fun e => (e.1, f e.2)) = q.entries.map (fun e => (e.1, g e.2)) ↔
      r.names = q.names ∧ ∀ name, (r.get? name).map f = (q.get? name).map g := by
  constructor
  · intro same
    constructor
    · simpa [names, Function.comp_def] using congrArg (List.map Prod.fst) same
    · intro name
      rw [get?, get?, ← find_map, ← find_map, same]
  · rintro ⟨names_eq, parts_eq⟩
    have views := distinct.map_entries_eq f
    rw [names_eq, funext fun name => congrArg (Prod.mk name) (parts_eq name),
      ← distinct'.map_entries_eq g] at views
    have injective : Function.Injective fun e : String × β => (e.1, some e.2) := by
      rintro ⟨_, _⟩ ⟨_, _⟩ same
      simpa using same
    apply injective.list_map
    simpa [Function.comp_def] using views

end Roster

namespace Patterns

/-- What the text shows: the names in order, each with its form. -/
def forms (table : Patterns S P) : List (String × PatternForm) :=
  table.entries.map fun e => (e.1, e.2.form)

/-- The same names in the same order, and under each the same form. -/
def SameForms (table : Patterns S P) (table' : Patterns S' P') : Prop :=
  table.names = table'.names ∧
    ∀ name, (table.get? name).map Pattern.form = (table'.get? name).map Pattern.form

theorem outline_eq (table : Patterns S P) :
    table.outline = .map (table.forms.map fun pair => (pair.1, .leaf pair.2.name)) := by
  rw [outline, forms, List.map_map]
  rfl

theorem forms_ofHistory_eq_iff {patterns : History (Pattern S P)}
    {patterns' : History (Pattern S' P')} :
    forms (.ofHistory patterns) = forms (.ofHistory patterns') ↔
      SameForms (.ofHistory patterns) (.ofHistory patterns') :=
  (Roster.distinct_ofHistory patterns).map_entries_eq_iff (Roster.distinct_ofHistory patterns') _ _

theorem tells_outline (patterns : History (Pattern S P)) (patterns' : History (Pattern S' P')) :
    Tells (outline (.ofHistory patterns)) (outline (.ofHistory patterns'))
      (SameForms (.ofHistory patterns) (.ofHistory patterns')) := by
  rw [← forms_ofHistory_eq_iff, outline_eq, outline_eq]
  exact (Outline.legible_map PatternForm.delimited_name).tells _ _

end Patterns

theorem Pending.tells_outline (patterns : History (Pattern S P))
    (patterns' : History (Pattern S' P')) :
    Tells (outline ⟨.ofHistory patterns⟩) (outline ⟨.ofHistory patterns'⟩)
      (Patterns.SameForms (.ofHistory patterns) (.ofHistory patterns')) := by
  rw [← Patterns.forms_ofHistory_eq_iff, outline, outline, Patterns.outline_eq, Patterns.outline_eq]
  exact ((Outline.legible_map PatternForm.delimited_name).single "PatternMatch" .parts).tells _ _

/-! ### All tables -/

/-- Take two tables of one kind, with any names. Their texts on one line are the same, and so are
those on several lines, exactly where the tables list the same names in the same order and, if they
hold patterns, the same form under each name. -/
theorem texts_tell_tables :
    (∀ (h : Handlers V R) (h' : Handlers V' R'), Tells h.outline h'.outline (h.tags = h'.tags)) ∧
    (∀ (s : SealedHandlers V R) (s' : SealedHandlers V' R'),
      Tells s.outline s'.outline (s.tags = s'.tags)) ∧
    (∀ (patterns : History (Pattern S P)) (patterns' : History (Pattern S' P')),
      Tells (Patterns.outline (.ofHistory patterns)) (Patterns.outline (.ofHistory patterns'))
        (Patterns.SameForms (.ofHistory patterns) (.ofHistory patterns'))) ∧
    (∀ (results : Results P R) (results' : Results P' R'),
      Tells results.outline results'.outline (results.names = results'.names)) ∧
    (∀ (patterns : History (Pattern S P)) (patterns' : History (Pattern S' P')),
      Tells (Pending.outline ⟨.ofHistory patterns⟩) (Pending.outline ⟨.ofHistory patterns'⟩)
        (Patterns.SameForms (.ofHistory patterns) (.ofHistory patterns'))) ∧
    ∀ (m : Matcher S P R) (m' : Matcher S' P' R'),
      Tells m.outline m'.outline (m.names = m'.names) :=
  ⟨Handlers.tells_outline, SealedHandlers.tells_outline, Patterns.tells_outline,
    Results.tells_outline, Pending.tells_outline, Matcher.tells_outline⟩

end Switchboard

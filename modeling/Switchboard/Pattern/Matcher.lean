import Switchboard.Pattern.Fault
import Switchboard.Pattern.Basic

/-!
Matchers: a pattern table combined with a result function for each pattern.

`Pending.combine` refuses when one side names what the other does not, missing
results before unknown ones; otherwise each pattern takes its result function out
of a hash map (`Pending.pair`). `Matcher.answer` tries the patterns in order and gives the first
extracted value to its result function. `Matcher.winner` names the pattern that
`answer` would stop at, without calling a result function or reporting anything.
-/

namespace Switchboard

/-- A pattern's extraction with the result function of the same name. -/
structure Arm (S P R : Type) where
  name : String
  extract : S → Run (Option P)
  result : P → Run R

/-- Arms in order of precedence. -/
structure Matcher (S P R : Type) where
  arms : List (Arm S P R)

/-- A pattern table that waits for its result functions. -/
structure Pending (S P : Type) where
  table : Patterns S P

namespace Matcher

variable {S P R : Type}

def names (m : Matcher S P R) : List String :=
  m.arms.map Arm.name

def size (m : Matcher S P R) : Nat :=
  m.arms.length

def isEmpty (m : Matcher S P R) : Bool :=
  m.arms.isEmpty

def outline (m : Matcher S P R) : Outline :=
  .struct "PatternMatcher" [("patterns", .names m.names)]

/-! ### Events -/

/-- Where matchers report. -/
def target : String := "tagmatch_patterns::matcher"

def builtEvent (count : Nat) : Event :=
  ⟨.debug, target, "built pattern matcher", [("patterns", .count count)]⟩

def tryingEvent (name : String) : Event :=
  ⟨.trace, target, "trying pattern", [("pattern", .name name)]⟩

def matchedEvent (name : String) : Event :=
  ⟨.trace, target, "pattern matched", [("pattern", .name name)]⟩

/-- The span around an answer. -/
def answerSpan : Span := ⟨"run", .trace, target⟩

/-! ### Matching -/

/-- The result of the first arm that extracts a value. -/
def firstResult : List (Arm S P R) → S → Run (Option R)
  | [], _ => return none
  | arm :: rest, input => do
    Run.emit (tryingEvent arm.name)
    match ← arm.extract input with
    | none => firstResult rest input
    | some value =>
      Run.emit (matchedEvent arm.name)
      return some (← arm.result value)

/-- The name of the first arm that extracts a value. -/
def firstName : List (Arm S P R) → S → Run (Option String)
  | [], _ => return none
  | arm :: rest, input => do
    match ← arm.extract input with
    | none => firstName rest input
    | some _ => return some arm.name

/-- Try the patterns in order, inside a span; nothing if none extracts a value. -/
def answer (m : Matcher S P R) (input : S) : Run (Option R) :=
  Run.within answerSpan (firstResult m.arms input)

/-- The pattern that wins for an input. -/
def winner (m : Matcher S P R) (input : S) : Run (Option String) :=
  firstName m.arms input

end Matcher

namespace Pending

variable {S P R : Type}

def outline (p : Pending S P) : Outline :=
  .tuple "PatternMatch" [p.table.outline]

/-! ### Combining -/

/-- Patterns without a result function, in order of precedence. -/
def unanswered (p : Pending S P) (byName : Std.HashMap String (P → Run R)) : List String :=
  p.table.names.filter fun name => !byName.contains name

/-- Result functions without a pattern, in order of registration. -/
def unmatched (p : Pending S P) (results : Results P R) : List String :=
  results.names.filter fun name => !p.table.contains name

/-- An arm for each pattern whose result function is there to be taken. A function is taken once,
and a pattern that finds none gets no arm. -/
def pair : List (String × Pattern S P) → Std.HashMap String (P → Run R) → List (Arm S P R)
  | [], _ => []
  | (name, pattern) :: rest, byName =>
    match byName[name]? with
    | some result => ⟨name, pattern.extract, result⟩ :: pair rest (byName.erase name)
    | none => pair rest byName

def combine (p : Pending S P) (results : Results P R) : Except PatternFault (Matcher S P R) :=
  let byName := results.toHashMap
  match p.unanswered byName, p.unmatched results with
  | [], [] => .ok ⟨pair p.table.entries byName⟩
  | [], unknown => .error (.unmatched unknown)
  | missing, _ => .error (.unanswered missing)

/-- Combine and report. A fault leaves nothing in the journal. -/
def withResults (p : Pending S P) (results : Results P R) :
    Run (Except PatternFault (Matcher S P R)) :=
  match p.combine results with
  | .ok matcher => do
    Run.emit (Matcher.builtEvent matcher.size)
    return .ok matcher
  | .error fault => return .error fault

theorem mem_unanswered_iff {p : Pending S P} {results : Results P R} {name : String} :
    name ∈ p.unanswered results.toHashMap ↔ name ∈ p.table.names ∧ name ∉ results.names := by
  simp only [unanswered, List.mem_filter, Bool.not_eq_true', Bool.eq_false_iff, ne_eq,
    Roster.contains_toHashMap]

theorem mem_unmatched_iff {p : Pending S P} {results : Results P R} {name : String} :
    name ∈ p.unmatched results ↔ name ∈ results.names ∧ name ∉ p.table.names := by
  simp [unmatched, ← Roster.contains_iff]

theorem outcome_withResults (p : Pending S P) (results : Results P R) :
    (p.withResults results).outcome = .returned (p.combine results) := by
  unfold withResults
  cases p.combine results <;> rfl

end Pending

end Switchboard

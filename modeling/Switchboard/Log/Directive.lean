import Switchboard.Decimal.Digits
import Switchboard.Journal
import Switchboard.Text.Expression
import Switchboard.Text.Piece
import Switchboard.Text.Space

/-!
Directives: levels of detail for parts of a log.

A directive speaks of the targets that begin with its own one. Its `Reach` says of
which of their events: of every one, of those that carry a field, or of those that
happen inside a span. Its level is the most detail that it lets through.

`Directive.read` reads one from a text of the form

    target[span{field}]=level

where each part may be missing; a field may be followed by `=` and its value, which is
a number or a regular expression. Spaces around the text do not count for its form,
but they are not taken off either: the places at which the parts begin and end are
counted without the spaces in front, and the parts are cut from the text as it is.
So spaces in front move every part, and a cut may fall inside a character.
-/

namespace Switchboard

/-- The events that a directive speaks of. -/
inductive Reach where
  | every
  /-- Those that carry a field of this name. -/
  | carrying (field : String)
  /-- Those inside a span of this name, whatever their own target. -/
  | inside (span : String)
  /-- Those inside a span with a field as described; spans carry no fields, so there are none. -/
  | insideWith (span field : String)
deriving DecidableEq, Repr

namespace Reach

/-- A condition on a field, of a span or, where no span and no value is named, of the event. -/
def ofField (span field : String) : Reach :=
  if span = "" ∧ '=' ∉ field.toList then carrying field else insideWith span field

/-- The field that an event has to carry, empty if it needs none. -/
def field : Reach → String
  | carrying field => field
  | every | inside _ | insideWith _ _ => ""

end Reach

/-- Let events through up to a level; at no level, let none through. -/
structure Directive where
  target : String
  reach : Reach
  level : Option Level
deriving DecidableEq, Repr

/-! ### Levels -/

/-- A level by its rank; rank zero is no level. -/
def Level.ofRank? : Nat → Option (Option Level)
  | 0 => some none
  | 1 => some (some .error)
  | 2 => some (some .warn)
  | 3 => some (some .info)
  | 4 => some (some .debug)
  | 5 => some (some .trace)
  | _ => none

/-- A level by its rank in digits or by its name in any case; `off` is no level. -/
def Level.ofName? (name : String) : Option (Option Level) :=
  match natOfNumeral? name.toList with
  | some rank => ofRank? rank
  | none =>
    match name.toLower with
    | "off" => some none
    | "error" => some (some .error)
    | "warn" => some (some .warn)
    | "info" => some (some .info)
    | "debug" => some (some .debug)
    | "trace" => some (some .trace)
    | _ => none

theorem Level.ofRank?_rank (level : Level) : ofRank? level.rank = some (some level) := by
  cases level <;> rfl

namespace Directive

/-! ### Reading -/

/-- Why a text is not read. -/
inductive Refusal where
  /-- It does not have the form of a directive. -/
  | malformed
  /-- A part of it would begin or end inside a character. -/
  | torn
deriving DecidableEq, Repr

/-- The part of a text between two places. -/
def cut (source : List Char) (start stop : Nat) : Except Refusal String :=
  match Text.between? start stop source with
  | some cs => .ok (String.ofList cs)
  | none => .error .torn

/-- The part of a text from a place on. -/
def cutFrom (source : List Char) (start : Nat) : Except Refusal String :=
  match Text.from? start source with
  | some cs => .ok (String.ofList cs)
  | none => .error .torn

/-- The level that a text ends with; an empty one is the most detailed. -/
def readLevel (source : List Char) (start : Nat) : Except Refusal (Option Level) := do
  let name ← cutFrom source start
  if name = "" then return some .trace
  match Level.ofName? name with
  | some level => return level
  | none => throw .malformed

/-- The level after a bracket; without one it is the most detailed. -/
def readEnding (source : List Char) (place : Nat) : List Char → Except Refusal (Option Level)
  | [] => return some .trace
  | '=' :: _ => readLevel source (place + 1)
  | _ => throw .malformed

/-- What may follow the name of a field: nothing, or an equals sign and a value. Of the value only
the part before a second equals sign counts. -/
def isCondition : List Char → Bool
  | [] => true
  | _ :: rest =>
    let value := rest.takeWhile (· ≠ '=')
    isNumeral value || Text.isExpression value

/-- What follows an opening brace: a condition on fields, both closing marks and a level. -/
def readField (source : List Char) (target span : String) (start : Nat) (body : List Char) :
    Except Refusal Directive := do
  let stop := start + Text.byteCount (body.takeWhile (· ≠ '\x7d'))
  match body.dropWhile (· ≠ '\x7d') with
  | _ :: rest =>
    let field ← cut source start stop
    if field = "" ∨ ¬ isCondition (field.toList.dropWhile (· ≠ '=')) then throw .malformed
    match rest with
    | ']' :: ending =>
      let level ← readEnding source (stop + 2) ending
      return ⟨target, .ofField span field, level⟩
    | _ => throw .malformed
  | [] => throw .malformed

/-- What follows an opening bracket: the name of a span, or a condition on fields, or both. -/
def readSpan (source : List Char) (target : String) (start : Nat) (body : List Char) :
    Except Refusal Directive := do
  let inName := fun c => c ≠ ']' ∧ c ≠ '\x7b'
  let stop := start + Text.byteCount (body.takeWhile inName)
  match body.dropWhile inName with
  | ']' :: ending =>
    let span ← cut source start stop
    let level ← readEnding source (stop + 1) ending
    return ⟨target, .inside span, level⟩
  | _ :: rest =>
    let span ← cut source start stop
    readField source target span (stop + 1) rest
  | [] => throw .malformed

/-- A level for all targets, or what begins with a target. -/
def readTarget (source body : List Char) : Except Refusal Directive := do
  let inName := fun c => c ≠ '=' ∧ c ≠ '['
  let stop := Text.byteCount (body.takeWhile inName)
  match body.dropWhile inName with
  | '=' :: _ =>
    let target ← cut source 0 stop
    let level ← readLevel source (stop + 1)
    return ⟨target, .every, level⟩
  | _ :: rest =>
    let target ← cut source 0 stop
    readSpan source target (stop + 1) rest
  | [] =>
    let word ← cutFrom source 0
    match Level.ofName? word with
    | some level => return ⟨"", .every, level⟩
    | none => return ⟨word, .every, some .trace⟩

/-- A target may begin with the character. -/
def startsTarget (c : Char) : Bool :=
  Text.isAlphanumeric c || c == '-' || c == ':' || c == '_'

/-- The directive that a text spells. -/
def read (text : String) : Except Refusal Directive :=
  let source := text.toList
  match Text.trim source with
  | '[' :: rest => readSpan source "" 1 rest
  | c :: rest => if startsTarget c then readTarget source (c :: rest) else throw .malformed
  | [] => throw .malformed

/-! ### Meaning -/

/-- The directive speaks of the target. -/
def covers (d : Directive) (target : String) : Bool :=
  d.target.toList.isPrefixOf target.toList

/-- The directive lets events of the level through. -/
def admits (d : Directive) (level : Level) : Bool :=
  match d.level with
  | some limit => level.rank ≤ limit.rank
  | none => false

/-- The directive speaks of an event by the event's own target and fields. -/
def concerns (d : Directive) (event : Event) : Bool :=
  match d.reach with
  | .every => d.covers event.target
  | .carrying field => d.covers event.target && event.carries field
  | .inside _ | .insideWith _ _ => false

/-- The directive speaks of a span by its target alone. -/
def concernsSpan (d : Directive) (span : Span) : Bool :=
  match d.reach with
  | .every | .carrying _ => d.covers span.target
  | .inside _ | .insideWith _ _ => false

/-- The directive speaks of all that happens inside the span. -/
def opens (d : Directive) (span : Span) : Bool :=
  match d.reach with
  | .inside name => name == span.name && d.covers span.target
  | .every | .carrying _ | .insideWith _ _ => false

/-- Letting a level through is letting everything less detailed through. -/
theorem admits_of_rank_le {d : Directive} {a b : Level} (le : a.rank ≤ b.rank)
    (admitted : d.admits b) : d.admits a := by
  unfold admits at *
  split at admitted <;> simp_all
  omega

end Directive

end Switchboard

import Switchboard.Pattern.Matcher
import Switchboard.Script.Extraction
import Switchboard.Script.Rendering
import Switchboard.Session.Answer

/-!
Sessions on a pattern table, its result functions and the matcher made of them.

Combining takes the table and the result functions away, whatever comes of it,
and leaves the matcher if there is one. Patterns and result functions are
numbered over the whole session, and each leaves its number before it runs.
-/

namespace Switchboard

/-- The kind of outcome that a decoder answers with. -/
inductive OutcomeKind where
  | option
  | result
  | finding
deriving DecidableEq, Repr

/-- How a step declares a pattern. -/
inductive PatternSpec where
  | predicate (condition : Condition)
  | extract (extraction : Extraction)
  | decode (extraction : Extraction) (outcome : OutcomeKind)
  | decodeWith (extraction : Extraction) (outcome : OutcomeKind)

/-- A step on patterns, result functions or their matcher. -/
inductive PatternStep where
  | add (name : String) (spec : PatternSpec)
  | form (name : String)
  | patternInline (name : String)
  | patternIndented (name : String)
  | test (name : String) (input : Value)
  | names
  | extent
  | inline
  | indented
  | addResult (name : String) (rendering : Rendering)
  | resultNames
  | resultExtent
  | resultInline
  | resultIndented
  | combine
  | answer (input : Value)
  | winner (input : Value)
  | matcherNames
  | matcherExtent
  | matcherInline
  | matcherIndented

/-! ### Patterns from their descriptions -/

/-- A function that serves as a decoder. -/
structure FunctionDecoder (S F : Type) where
  decode : S → Run F

instance {S F : Type} : Decoder (FunctionDecoder S F) S F := ⟨FunctionDecoder.decode⟩

namespace PatternSpec

/-- The option as a result with an error that says no more than that there is no value. -/
def asResult (v : Option Value) : Except String Value :=
  match v with
  | some value => .ok value
  | none => .error "nothing"

/-- The value found, stated as an outcome of some kind and read as an option again. -/
def read (outcome : OutcomeKind) (found : Option Value) : Option Value :=
  match outcome with
  | .option => OptionLike.toOption found
  | .result => OptionLike.toOption (asResult found)
  | .finding => OptionLike.toOption (Finding.ofOption found)

theorem read_eq (outcome : OutcomeKind) (found : Option Value) : read outcome found = found := by
  cases outcome <;> cases found <;> rfl

/-- The pattern over values that a description declares; it leaves its name before it runs. A
predicate extracts its input, so inputs that cannot be copied have none. -/
def pattern? (copyable : Bool) (name : String) : PatternSpec → Option (Pattern Value Value)
  | predicate condition =>
    if copyable then
      some (.predicate id fun input => do Run.note name; condition.eval input)
    else none
  | extract extraction =>
    some (.extracting fun input => do Run.note name; extraction.eval input)
  | decode extraction outcome =>
    let act := fun input => do Run.note name; extraction.eval input
    match outcome with
    | .option => some (.decoding (FunctionDecoder.mk act))
    | .result => some (.decoding (FunctionDecoder.mk fun input => return asResult (← act input)))
    | .finding =>
      some (.decoding (FunctionDecoder.mk fun input => return Finding.ofOption (← act input)))
  | decodeWith extraction outcome =>
    let act := fun input => do Run.note name; extraction.eval input
    match outcome with
    | .option => some (.decodingWith act)
    | .result => some (.decodingWith fun input => return asResult (← act input))
    | .finding => some (.decodingWith fun input => return Finding.ofOption (← act input))

end PatternSpec

/-! ### Steps -/

/-- The tables under construction, the matcher if there is one, and the counts. -/
structure PatternSession where
  /-- Inputs can be copied. -/
  copyable : Bool
  table : Patterns Value Value
  results : Results Value String
  matcher : Option (Matcher Value Value String)
  /-- The patterns added so far. -/
  patterns : Nat
  /-- The result functions added so far. -/
  functions : Nat

namespace PatternSession

/-- The session with empty tables. -/
def start (copyable : Bool) : PatternSession := ⟨copyable, ∅, ∅, none, 0, 0⟩

/-- The name that the pattern with a number leaves. -/
def patternName (n : Nat) : String := "p" ++ toString n

/-- The name that the result function with a number leaves. -/
def resultName (n : Nat) : String := "r" ++ toString n

/-- The answer to a combination, and the session after it. -/
def combine (s : PatternSession) : Answer × PatternSession :=
  let pending : Pending Value Value := ⟨s.table⟩
  let attempt := pending.withResults s.results
  let matcher :=
    match attempt.outcome with
    | .returned (.ok matcher) => some matcher
    | _ => none
  (⟨(fun r => Verdict.ofExcept (fun m => .count m.size) (r.mapError .pattern)) <$> attempt,
      some pending.outline⟩,
    { s with table := ∅, results := ∅, matcher := matcher })

/-- The steps that only a matcher takes. -/
def nextMatcher (m : Matcher Value Value String) : PatternStep → Answer
  | .answer input => .ofRun ((fun text => .done (.ofOption .text text)) <$> m.answer input)
  | .winner input => .ofRun ((fun name => .done (.ofOption .text name)) <$> m.winner input)
  | .matcherNames => .done (.names m.names)
  | .matcherExtent => .done (.extent m.size m.isEmpty)
  | .matcherInline => .done (.text m.outline.inline)
  | .matcherIndented => .done (.text m.outline.indented)
  | _ => .unavailable

/-- The answer to a step, and the session after it. -/
def next (s : PatternSession) : PatternStep → Answer × PatternSession
  | .add name spec =>
    match spec.pattern? s.copyable (patternName s.patterns) with
    | some pattern =>
      let table := s.table.insert name pattern
      (.done (.count table.size), { s with table := table, patterns := s.patterns + 1 })
    | none => (.unavailable, s)
  | .form name => (.done (.ofOption (.text ·.form.name) (s.table.get? name)), s)
  | .patternInline name => (.done (.ofOption (.text ·.outline.inline) (s.table.get? name)), s)
  | .patternIndented name => (.done (.ofOption (.text ·.outline.indented) (s.table.get? name)), s)
  | .test name input =>
    match s.table.get? name with
    | some pattern => (.ofRun ((fun v => .done (.extracted v)) <$> pattern.extract input), s)
    | none => (.done .nothing, s)
  | .names => (.done (.names s.table.names), s)
  | .extent => (.done (.extent s.table.size s.table.isEmpty), s)
  | .inline => (.done (.text (Patterns.outline s.table).inline), s)
  | .indented => (.done (.text (Patterns.outline s.table).indented), s)
  | .addResult name rendering =>
    let function := fun value => do
      Run.note (resultName s.functions)
      rendering.eval value
    let results := s.results.insert name function
    (.done (.count results.size), { s with results := results, functions := s.functions + 1 })
  | .resultNames => (.done (.names s.results.names), s)
  | .resultExtent => (.done (.extent s.results.size s.results.isEmpty), s)
  | .resultInline => (.done (.text (Results.outline s.results).inline), s)
  | .resultIndented => (.done (.text (Results.outline s.results).indented), s)
  | .combine => s.combine
  | step =>
    match s.matcher with
    | some m => (nextMatcher m step, s)
    | none => (.unavailable, s)

/-- The answers of a session that starts from empty tables. -/
def play (copyable : Bool) (steps : List PatternStep) : List Answer :=
  playWith next (start copyable) steps

end PatternSession

end Switchboard

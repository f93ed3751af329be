import Switchboard.Fault
import Switchboard.Record.Shape

/-!
Answers to the steps of a session.

A session holds some part of the library and takes steps on it, one after the
other. A step is answered by a run, so its answer has a journal and may be a
panic; a step that does not exist in the session's state is answered as
unavailable and changes nothing.
-/

namespace Switchboard

/-- What a step found. -/
inductive Reply where
  | nothing
  | flag (b : Bool)
  | count (n : Nat)
  /-- A size, and whether there is nothing. -/
  | extent (size : Nat) (isEmpty : Bool)
  | number (n : Int64)
  | text (content : String)
  | names (list : List String)
  | value (v : Value)
  /-- What a test extracted. -/
  | extracted (v : Option Value)
  | fields (list : List (String × Value))
  | record (r : Record)
  /-- The answers to several values, one each. -/
  | each (list : List (Except Fault String))

/-- A reply that is nothing where there is no value. -/
def Reply.ofOption {A : Type} (reply : A → Reply) : Option A → Reply
  | some a => reply a
  | none => nothing

/-- How a step went. -/
inductive Verdict where
  | done (reply : Reply)
  | failed (fault : Fault)
  | unavailable

/-- The verdict on a result with a fault. -/
def Verdict.ofExcept {A : Type} (reply : A → Reply) : Except Fault A → Verdict
  | .ok a => done (reply a)
  | .error fault => failed fault

/-- The answer to a step. -/
structure Answer where
  verdict : Run Verdict
  /-- What is shown beside the verdict. -/
  shown : Option Outline

namespace Answer

/-- An answer beside which nothing is shown. -/
def ofRun (verdict : Run Verdict) : Answer := ⟨verdict, none⟩

def ofVerdict (verdict : Verdict) : Answer := ofRun (pure verdict)

def done (reply : Reply) : Answer := ofVerdict (.done reply)

def unavailable : Answer := ofVerdict .unavailable

end Answer

/-- The answers to steps taken one after the other. -/
def playWith {State Step : Type} (next : State → Step → Answer × State) :
    State → List Step → List Answer
  | _, [] => []
  | state, step :: rest =>
    let (answer, after) := next state step
    answer :: playWith next after rest

/-! ### Records on demand -/

/-- How a step describes a record. -/
inductive RecordSpec where
  /-- Fields set one after the other. -/
  | fields (tag : String) (list : History Value)
  /-- Arguments for a shape. -/
  | shaped (shape : Shape) (arguments : History Value)

/-- The described record; building from a shape may fail and leaves its event. -/
def RecordSpec.make : RecordSpec → Run (Except Fault Record)
  | .fields tag list => return .ok ((Record.ofTag tag).setAll list)
  | .shaped shape arguments => return (← shape.build arguments).mapError .record

/-- Whether two described records are equal. The first is made first. -/
def RecordSpec.same (a b : RecordSpec) : Run (Except Fault Bool) := do
  match ← a.make with
  | .error fault => return .error fault
  | .ok r =>
    match ← b.make with
    | .error fault => return .error fault
    | .ok s => return .ok (r == s)

end Switchboard

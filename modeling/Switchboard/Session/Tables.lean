import Switchboard.Script.Handling
import Switchboard.Session.Answer

/-!
Sessions on a handler table.

The table is first open, then sealed, or given up when sealing fails; a new one
can be started at any time. The session can be held over any type of tagged
values that carry records (`Carrier`), and takes the same steps for each; only
sealing against declared tags asks for a type that declares some. Handlers are
numbered over the whole session, and each leaves its number before it runs.
-/

namespace Switchboard

/-- A step on a handler table. -/
inductive TableStep where
  | fresh
  | register (tag : String) (handling : Handling)
  | contains (tag : String)
  | size
  | isEmpty
  | sealFor (tags : List String)
  | sealDeclared
  | send (channel : Channel) (spec : RecordSpec)
  | sendEach (specs : List RecordSpec)
  | tags
  | inline
  | indented

/-! ### Carriers -/

/-- How values of a type carry records, and how a table over them is sealed against the tags that
the type declares, if it does. -/
structure Carrier (V : Type) where
  hold : Record → V
  release : V → Record
  seal? : Option (Handlers V String → Run (Except DispatchFault (SealedHandlers V String)))

/-- Records under layers. -/
def Carrier.layered (layers : List Layer) : Carrier (Held layers Record) where
  hold := Held.hold layers
  release := Held.release layers
  seal? := none

/-- Records of declared tags under so many references. -/
def Carrier.declared (tags : List String) (depth : Nat) :
    Carrier (Held (List.replicate depth .reference) (Variant tags)) where
  hold r := Held.hold _ (Variant.mk r)
  release held := (Held.release _ held).record
  seal? :=
    have := Held.declaringUnder (V := Variant tags) depth
    some Handlers.sealDeclared

/-! ### Stages -/

/-- What has become of the table. -/
inductive TableStage (V : Type) where
  | opened (handlers : Handlers V String)
  | sealed (handlers : SealedHandlers V String)
  | gone

namespace TableStage

variable {V : Type}

/-- The way to handlers through a channel, if there still is a table. -/
def outlet [Tagged V] :
    TableStage V → Channel → Option (V → Run (Except DispatchFault String))
  | opened h, channel => some (h.through channel)
  | sealed s, channel => some (s.through channel)
  | gone, _ => none

/-- The registered tags, if there still is a table. -/
def tags? : TableStage V → Option (List String)
  | opened h => some h.tags
  | sealed s => some s.tags
  | gone => none

/-- The outline of the table, if there still is one. -/
def outline? : TableStage V → Option Outline
  | opened h => some h.outline
  | sealed s => some s.outline
  | gone => none

/-- The stage that sealing leads to. -/
def afterSealing :
    Run (Except DispatchFault (SealedHandlers V String)) → TableStage V → TableStage V
  | ⟨_, .returned (.ok s)⟩, _ => sealed s
  | ⟨_, .returned (.error _)⟩, _ => gone
  | ⟨_, .panicked _⟩, before => before

end TableStage

/-! ### Steps -/

/-- A table in its state, with the count of handlers. -/
structure TableSession (V : Type) where
  stage : TableStage V
  /-- The handlers registered so far. -/
  registered : Nat

namespace TableSession

variable {V : Type} [Tagged V]

/-- The session with an empty table. -/
def start : TableSession V := ⟨.opened ∅, 0⟩

/-- The name that the handler with a number leaves. -/
def handlerName (n : Nat) : String := "h" ++ toString n

/-- Make the described record and send it to its handler. -/
def send (carrier : Carrier V) (outlet : V → Run (Except DispatchFault String))
    (spec : RecordSpec) : Run (Except Fault String) := do
  match ← spec.make with
  | .ok r => return (← outlet (carrier.hold r)).mapError .dispatch
  | .error fault => return .error fault

/-- Make and send each of the described records in turn. -/
def sendEach (carrier : Carrier V) (outlet : V → Run (Except DispatchFault String)) :
    List RecordSpec → Run (List (Except Fault String))
  | [] => return []
  | spec :: rest => return (← send carrier outlet spec) :: (← sendEach carrier outlet rest)

/-- A handler that leaves its name and then does as it is written. -/
def handler (carrier : Carrier V) (n : Nat) (handling : Handling) : Handler V String :=
  fun value => do
    Run.note (handlerName n)
    handling.eval (carrier.release value)

/-- The answer to an attempt at sealing, and the session after it. -/
def settle (s : TableSession V) (attempt : Run (Except DispatchFault (SealedHandlers V String))) :
    Answer × TableSession V :=
  (.ofRun ((fun r => .ofExcept (fun _ => .nothing) (r.mapError .dispatch)) <$> attempt),
    { s with stage := .afterSealing attempt s.stage })

/-- The steps that only an open table takes. -/
def nextOpen (carrier : Carrier V) (s : TableSession V) (h : Handlers V String) :
    TableStep → Answer × TableSession V
  | .register tag handling =>
    let extended := h.insert tag (handler carrier s.registered handling)
    (.done (.count extended.size), ⟨.opened extended, s.registered + 1⟩)
  | .contains tag => (.done (.flag (h.contains tag)), s)
  | .size => (.done (.count h.size), s)
  | .isEmpty => (.done (.flag h.isEmpty), s)
  | .sealFor tags => s.settle (h.sealFor tags)
  | .sealDeclared =>
    match carrier.seal? with
    | some sealDeclared => s.settle (sealDeclared h)
    | none => (.unavailable, s)
  | _ => (.unavailable, s)

/-- The answer to a step, and the session after it. -/
def next (carrier : Carrier V) (s : TableSession V) : TableStep → Answer × TableSession V
  | .fresh => (.done .nothing, { s with stage := .opened ∅ })
  | .send channel spec =>
    match s.stage.outlet channel with
    | some outlet => (.ofRun (Verdict.ofExcept .text <$> send carrier outlet spec), s)
    | none => (.unavailable, s)
  | .sendEach specs =>
    match s.stage.outlet .function with
    | some outlet =>
      (.ofRun ((fun list => .done (.each list)) <$> sendEach carrier outlet specs), s)
    | none => (.unavailable, s)
  | .tags =>
    match s.stage.tags? with
    | some tags => (.done (.names tags), s)
    | none => (.unavailable, s)
  | .inline =>
    match s.stage.outline? with
    | some outline => (.done (.text outline.inline), s)
    | none => (.unavailable, s)
  | .indented =>
    match s.stage.outline? with
    | some outline => (.done (.text outline.indented), s)
    | none => (.unavailable, s)
  | step =>
    match s.stage with
    | .opened h => nextOpen carrier s h step
    | _ => (.unavailable, s)

/-- The answers of a session over one type of values. -/
def play (carrier : Carrier V) (steps : List TableStep) : List Answer :=
  playWith (next carrier) start steps

end TableSession

/-! ### Ways to hold records -/

/-- How the values of a session hold their records. -/
inductive Holding where
  /-- Under layers, with no tags declared. -/
  | layered (layers : List Layer)
  /-- Under so many references, with declared tags. -/
  | declared (tags : List String) (depth : Nat)

/-- The answers of a session over records held in the given way. -/
def Holding.play : Holding → List TableStep → List Answer
  | layered layers, steps => TableSession.play (Carrier.layered layers) steps
  | declared tags depth, steps => TableSession.play (Carrier.declared tags depth) steps

end Switchboard

import Switchboard.Proofs.Dispatch.Nesting

/-!
How a value is held does not matter to a table.

A value can be put under references and boxes, and a table over such values can have the
handlers of a table over the values themselves, each behind a function that takes the
value out. `Handlers.Mirrors` relates two such tables. Every operation keeps the relation
and finds the same on both sides (`Operation.perform_under`), so whole runs of operations
do, step by step (`Operation.answers_under`). What the argument needs of the layers is
that a value can be taken out again and that the tag stays (`Holder`); sealing against
declared tags needs, besides, that these are the same.
-/

namespace Switchboard

variable {V W R : Type}

/-! ### Holders -/

/-- Values of one type hold those of another: what is put in can be taken out, and the tag is that
of the value inside. -/
structure Holder (V W : Type) [Tagged V] [Tagged W] where
  hold : V → W
  release : W → V
  release_hold : ∀ value, release (hold value) = value
  tag_eq : ∀ held, Tagged.tag held = Tagged.tag (release held)

namespace Held

theorem tag_release [Tagged V] (layers : List Layer) (held : Held layers V) :
    Tagged.tag held = Tagged.tag (release layers held) := by
  induction layers with
  | nil => rfl
  | cons layer rest ih =>
    cases layer with
    | reference => exact ih (Ref.target held)
    | box => exact ih (Boxed.content held)

/-- Any stack of layers holds values. -/
def holder [Tagged V] (layers : List Layer) : Holder V (Held layers V) where
  hold := hold layers
  release := release layers
  release_hold := release_hold layers
  tag_eq := tag_release layers

/-- References upon references have the tags of their type by way of its declaration. -/
theorem tag_release_declaring [declaring : Declaring V] (depth : Nat)
    (held : Held (.replicate depth .reference) V) :
    (declaringUnder depth).tag held = Tagged.tag (release _ held) := by
  induction depth with
  | zero => rfl
  | succ depth ih => exact ih (Ref.target held)

theorem declared_declaringUnder [declaring : Declaring V] (depth : Nat) :
    (declaringUnder (V := V) depth).declared = declaring.declared := by
  induction depth with
  | zero => rfl
  | succ depth ih => exact ih

/-- References upon references to values of a type with declared tags hold these values. -/
def declaringHolder [Declaring V] (depth : Nat) :
    @Holder V (Held (.replicate depth .reference) V) _ (declaringUnder depth).toTagged :=
  letI := (declaringUnder (V := V) depth).toTagged
  { hold := hold _
    release := release _
    release_hold := release_hold _
    tag_eq := tag_release_declaring depth }

end Held

/-! ### Operations -/

/-- An operation on a handler table. -/
inductive Operation (V R : Type) where
  | register (tag : String) (handler : Handler V R)
  | contains (tag : String)
  | size
  | isEmpty
  | tags
  | sealFor (tags : List String)
  | sealDeclared
  | send (channel : Channel) (value : V)

/-- What an operation finds. -/
inductive Finds (R : Type) where
  | nothing
  | flag (b : Bool)
  | count (n : Nat)
  | names (list : List String)
  /-- The table was sealed, or given up with a fault. -/
  | closed (result : Except DispatchFault Unit)
  | result (result : Except DispatchFault R)
  /-- The table is no more, or it is sealed and does not have the operation. -/
  | unavailable

/-- The registered tags of a table of either kind. -/
def AnyTable.tags : AnyTable V R → List String
  | opened h => h.tags
  | closed s => s.tags

/-- What is left of a table after an attempt at sealing it. -/
def AnyTable.afterSealing (attempt : Run (Except DispatchFault (SealedHandlers V R)))
    (before : AnyTable V R) : Option (AnyTable V R) :=
  match attempt.outcome with
  | .returned (.ok s) => some (.closed s)
  | .returned (.error _) => none
  | .panicked _ => some before

namespace Operation

/-- What an operation finds that only open tables have, and the table after it. -/
def whileOpen (table : Option (AnyTable V R))
    (next : Handlers V R → Run (Finds R) × Option (AnyTable V R)) :
    Run (Finds R) × Option (AnyTable V R) :=
  match table with
  | some (.opened h) => next h
  | _ => (pure .unavailable, table)

/-- What an attempt at sealing finds, and the table after it. -/
def settle (h : Handlers V R) (attempt : Run (Except DispatchFault (SealedHandlers V R))) :
    Run (Finds R) × Option (AnyTable V R) :=
  ((fun result => .closed (result.map fun _ => ())) <$> attempt,
    AnyTable.afterSealing attempt (.opened h))

/-- What the operation finds, and the table after it, if there still is one. Sealing against
declared tags is there for types that declare some. -/
def perform [Tagged V] (declaring? : Option (Declaring V)) (table : Option (AnyTable V R)) :
    Operation V R → Run (Finds R) × Option (AnyTable V R)
  | register tag handler =>
    whileOpen table fun h => (pure .nothing, some (.opened (h.insert tag handler)))
  | contains tag => whileOpen table fun h => (pure (.flag (h.contains tag)), table)
  | size => whileOpen table fun h => (pure (.count h.size), table)
  | isEmpty => whileOpen table fun h => (pure (.flag h.isEmpty), table)
  | sealFor list => whileOpen table fun h => settle h (h.sealFor list)
  | sealDeclared =>
    match declaring? with
    | some _ => whileOpen table fun h => settle h h.sealDeclared
    | none => (pure .unavailable, table)
  | tags =>
    match table with
    | some t => (pure (.names t.tags), table)
    | none => (pure .unavailable, table)
  | send channel value =>
    match table with
    | some t => (.result <$> t.through channel value, table)
    | none => (pure .unavailable, table)

/-- What operations find that are performed one after the other. -/
def answersFrom [Tagged V] (declaring? : Option (Declaring V)) :
    Option (AnyTable V R) → List (Operation V R) → List (Run (Finds R))
  | _, [] => []
  | table, operation :: rest =>
    (operation.perform declaring? table).1 ::
      answersFrom declaring? (operation.perform declaring? table).2 rest

/-- What operations find on a table that is empty at first. -/
def answers [Tagged V] (declaring? : Option (Declaring V)) (operations : List (Operation V R)) :
    List (Run (Finds R)) :=
  answersFrom declaring? (some (.opened ∅)) operations

/-- The operation on a table over values that are held: values are put under the layers before they
are sent, and handlers take them out. -/
def under [Tagged V] [Tagged W] (holder : Holder V W) : Operation V R → Operation W R
  | register tag handler => register tag fun held => handler (holder.release held)
  | contains tag => contains tag
  | size => size
  | isEmpty => isEmpty
  | tags => tags
  | sealFor list => sealFor list
  | sealDeclared => sealDeclared
  | send channel value => send channel (holder.hold value)

end Operation

/-! ### Tables that mirror each other -/

/-- The table has the tags of the other one, and under each its handler, which is called on what
the value holds. -/
structure Handlers.Mirrors (h' : Handlers W R) (release : W → V) (h : Handlers V R) : Prop where
  tags_eq : h'.tags = h.tags
  get?_eq : ∀ tag, h'.get? tag = (h.get? tag).map fun handler held => handler (release held)

namespace Handlers.Mirrors

variable {h' : Handlers W R} {h : Handlers V R}

theorem empty (release : W → V) : (∅ : Handlers W R).Mirrors release ∅ where
  tags_eq := rfl
  get?_eq tag := by
    change Handlers.empty.get? tag = (Handlers.empty.get? tag).map _
    simp [Handlers.empty, get?]

theorem contains_eq {release : W → V} (mirrors : h'.Mirrors release h) :
    h'.contains = h.contains := by
  funext tag
  rw [Bool.eq_iff_iff, contains_iff_get?, contains_iff_get?, mirrors.get?_eq, Option.isSome_map]

theorem size_eq {release : W → V} (mirrors : h'.Mirrors release h) : h'.size = h.size :=
  congrArg List.length mirrors.tags_eq

theorem isEmpty_eq {release : W → V} (mirrors : h'.Mirrors release h) : h'.isEmpty = h.isEmpty :=
  congrArg List.isEmpty mirrors.tags_eq

theorem insert {release : W → V} (mirrors : h'.Mirrors release h) (tag : String)
    (handler : Handler V R) :
    (h'.insert tag fun held => handler (release held)).Mirrors release (h.insert tag handler) where
  tags_eq := by
    have known : h'.byTag.contains tag = h.byTag.contains tag := congrFun mirrors.contains_eq tag
    have listed : h'.order = h.order := mirrors.tags_eq
    simp only [tags, Handlers.insert, known, listed]
  get?_eq other := by
    rw [get?_insert, get?_insert, mirrors.get?_eq]
    split <;> rfl

theorem uncovered_eq {release : W → V} (mirrors : h'.Mirrors release h) (tags : List String) :
    h'.uncovered tags = h.uncovered tags := by
  rw [uncovered, uncovered, mirrors.contains_eq]

theorem dispatch_eq [Tagged V] [Tagged W] {holder : Holder V W}
    (mirrors : h'.Mirrors holder.release h) (value : V) :
    h'.dispatch (holder.hold value) = h.dispatch value := by
  have tag_eq : Tagged.tag (holder.hold value) = Tagged.tag value := by
    rw [holder.tag_eq, holder.release_hold]
  have found_eq := mirrors.get?_eq (Tagged.tag value)
  cases found : h.get? (Tagged.tag value) with
  | some handler =>
    rw [found, ← tag_eq] at found_eq
    rw [dispatch_of_some found, dispatch_of_some found_eq, tag_eq]
    simp only [holder.release_hold]
  | none =>
    rw [found, ← tag_eq] at found_eq
    rw [dispatch_of_none found, dispatch_of_none found_eq, tag_eq]

end Handlers.Mirrors

/-- Both tables are of the same kind, and their handlers mirror each other. -/
inductive AnyTable.Mirrors (release : W → V) : AnyTable W R → AnyTable V R → Prop where
  | opened {h' : Handlers W R} {h : Handlers V R} :
      h'.Mirrors release h → Mirrors release (.opened h') (.opened h)
  | closed {s' : SealedHandlers W R} {s : SealedHandlers V R} :
      s'.handlers.Mirrors release s.handlers → Mirrors release (.closed s') (.closed s)

namespace AnyTable.Mirrors

variable {t' : AnyTable W R} {t : AnyTable V R}

theorem handlers {release : W → V} (mirrors : t'.Mirrors release t) :
    t'.handlers.Mirrors release t.handlers := by
  cases mirrors with
  | opened mirrors => exact mirrors
  | closed mirrors => exact mirrors

theorem tags_eq {release : W → V} (mirrors : t'.Mirrors release t) : t'.tags = t.tags := by
  cases mirrors with
  | opened mirrors => exact mirrors.tags_eq
  | closed mirrors => exact mirrors.tags_eq

/-- A value fares alike in both tables, through every channel. -/
theorem through_eq [Tagged V] [Tagged W] {holder : Holder V W}
    (mirrors : t'.Mirrors holder.release t) (channel : Channel) (value : V) :
    t'.through channel (holder.hold value) = t.through channel value := by
  rw [AnyTable.through_eq, AnyTable.through_eq, mirrors.handlers.dispatch_eq]

end AnyTable.Mirrors

/-- Either both tables are there and mirror each other, or neither is there. -/
inductive AnyTable.BothMirror (release : W → V) :
    Option (AnyTable W R) → Option (AnyTable V R) → Prop where
  | present {t' : AnyTable W R} {t : AnyTable V R} :
      t'.Mirrors release t → BothMirror release (some t') (some t)
  | gone : BothMirror release none none

/-! ### Operations on tables that mirror each other -/

namespace Operation

/-- Two operations find the same and lead to tables that mirror each other. -/
structure Agree (release : W → V) (next' : Run (Finds R) × Option (AnyTable W R))
    (next : Run (Finds R) × Option (AnyTable V R)) : Prop where
  finds_eq : next'.1 = next.1
  mirrors : AnyTable.BothMirror release next'.2 next.2

theorem Agree.whileOpen {release : W → V} {table' : Option (AnyTable W R)}
    {table : Option (AnyTable V R)} (both : AnyTable.BothMirror release table' table)
    {next' : Handlers W R → Run (Finds R) × Option (AnyTable W R)}
    {next : Handlers V R → Run (Finds R) × Option (AnyTable V R)}
    (agree : ∀ h' h, h'.Mirrors release h → Agree release (next' h') (next h)) :
    Agree release (whileOpen table' next') (whileOpen table next) := by
  cases both with
  | gone => exact ⟨rfl, .gone⟩
  | present mirrors =>
    cases mirrors with
    | opened mirrors => exact agree _ _ mirrors
    | closed mirrors => exact ⟨rfl, .present (.closed mirrors)⟩

/-- Tables that mirror each other are sealed alike. -/
theorem Agree.settle {release : W → V} {h' : Handlers W R} {h : Handlers V R}
    (mirrors : h'.Mirrors release h) (tags : List String) :
    Agree release (settle h' (h'.sealFor tags)) (settle h (h.sealFor tags)) := by
  rw [Handlers.sealFor_eq, Handlers.sealFor_eq, mirrors.uncovered_eq]
  split
  · exact ⟨rfl, .present (.closed mirrors)⟩
  · exact ⟨rfl, .gone⟩

section Runs

variable [Tagged V] [Tagged W] {holder : Holder V W} {declaring? : Option (Declaring V)}
  {declaring?' : Option (Declaring W)}

/-- What one operation finds does not depend on how values are held. -/
theorem perform_under
    (declared : declaring?'.map (·.declared) = declaring?.map (·.declared))
    {table' : Option (AnyTable W R)} {table : Option (AnyTable V R)}
    (both : AnyTable.BothMirror holder.release table' table) (operation : Operation V R) :
    Agree holder.release ((operation.under holder).perform declaring?' table')
      (operation.perform declaring? table) := by
  cases operation with
  | register tag handler =>
    exact .whileOpen both fun h' h mirrors =>
      ⟨rfl, .present (.opened (mirrors.insert tag handler))⟩
  | contains tag =>
    refine .whileOpen both fun h' h mirrors => ⟨?_, both⟩
    rw [mirrors.contains_eq]
  | size =>
    refine .whileOpen both fun h' h mirrors => ⟨?_, both⟩
    rw [mirrors.size_eq]
  | isEmpty =>
    refine .whileOpen both fun h' h mirrors => ⟨?_, both⟩
    rw [mirrors.isEmpty_eq]
  | sealFor tags => exact .whileOpen both fun h' h mirrors => .settle mirrors tags
  | sealDeclared =>
    cases declaring? with
    | none =>
      cases declaring?' with
      | none => exact ⟨rfl, both⟩
      | some _ => cases declared
    | some declaring =>
      cases declaring?' with
      | none => cases declared
      | some declaring' =>
        refine .whileOpen both fun h' h mirrors => ?_
        have same : declaring'.declared = declaring.declared := Option.some.inj declared
        rw [Handlers.sealDeclared, Handlers.sealDeclared, same]
        exact .settle mirrors _
  | tags =>
    cases both with
    | gone => exact ⟨rfl, .gone⟩
    | present mirrors =>
      exact ⟨congrArg (fun list => pure (Finds.names list)) mirrors.tags_eq, .present mirrors⟩
  | send channel value =>
    cases both with
    | gone => exact ⟨rfl, .gone⟩
    | present mirrors =>
      exact ⟨congrArg (Finds.result <$> ·) (mirrors.through_eq channel value), .present mirrors⟩

theorem answersFrom_under
    (declared : declaring?'.map (·.declared) = declaring?.map (·.declared))
    {table' : Option (AnyTable W R)} {table : Option (AnyTable V R)}
    (both : AnyTable.BothMirror holder.release table' table) (operations : List (Operation V R)) :
    answersFrom declaring?' table' (operations.map (under holder)) =
      answersFrom declaring? table operations := by
  induction operations generalizing table' table with
  | nil => rfl
  | cons operation rest ih =>
    obtain ⟨finds_eq, mirrors⟩ := perform_under declared both operation
    rw [List.map_cons, answersFrom, answersFrom, finds_eq, ih mirrors]

/-- So whole runs of operations find the same at each step. -/
theorem answers_under (declared : declaring?'.map (·.declared) = declaring?.map (·.declared))
    (operations : List (Operation V R)) :
    answers declaring?' (operations.map (under holder)) = answers declaring? operations :=
  answersFrom_under declared (.present (.opened (.empty _))) operations

end Runs

/-- A value has the same tag under any stack of references and boxes. Operations on a table over
values under such a stack, whose handlers take the values out, find at each step what they find on
the table over the values themselves: the same replies, faults and panics, by the same calls and
with the same reports. Under references, to any depth, this holds as well of sealing against the
tags that the type of the values declares. -/
theorem layers_change_nothing (R : Type) :
    (∀ (V : Type) [Tagged V] (layers : List Layer) (value : V),
      Tagged.tag (Held.hold layers value) = Tagged.tag value) ∧
    (∀ (V : Type) [Tagged V] (layers : List Layer) (operations : List (Operation V R)),
      answers none (operations.map (under (Held.holder layers))) = answers none operations) ∧
    ∀ (V : Type) [declaring : Declaring V] (depth : Nat) (operations : List (Operation V R)),
      letI := (Held.declaringUnder (V := V) depth).toTagged
      answers (some (Held.declaringUnder depth))
          (operations.map (under (Held.declaringHolder depth))) =
        answers (some declaring) operations := by
  refine ⟨fun V _ => Held.tag_hold, fun V _ layers => answers_under rfl, ?_⟩
  intro V declaring depth operations
  have declared : (Held.declaringUnder (V := V) depth).declared = declaring.declared :=
    Held.declared_declaringUnder depth
  exact @answers_under V _ R _ (Held.declaringUnder depth).toTagged (Held.declaringHolder depth)
    (some declaring) (some (Held.declaringUnder depth)) (congrArg some declared) operations

end Operation

end Switchboard

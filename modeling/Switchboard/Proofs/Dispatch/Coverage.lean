import Switchboard.Proofs.Dispatch.Representation
import Switchboard.Proofs.Record.Assembly

/-!
What sealing promises of the values that a table is made for.

A record keeps the tag of its shape from building on, whatever fields are set, so a
table that was sealed against the tags of shapes has a handler for every record of
these shapes. A table that was sealed against the declared tags of a type has one for
every value of the type that keeps to the declaration. A value that a sealed table
cannot handle lies outside the tags that it was sealed against, and outside its own.
-/

namespace Switchboard

variable {V R : Type}

namespace SealedHandlers

/-- Through every channel of the sealed table, the value meets the handler that the history
registered last under the tag: it is called on the value itself, and how it ends is the outcome. -/
def Serves [Tagged V] (s : SealedHandlers V R) (history : History (Handler V R)) (tag : String)
    (value : V) : Prop :=
  ∃ before handler after,
    history = before ++ (tag, handler) :: after ∧ tag ∉ after.map Prod.fst ∧
    ∀ channel : Channel, s.through channel value =
      channel.enclose
        ⟨.event (Handlers.foundEvent tag) :: (handler value).journal,
          (handler value).outcome.map .ok⟩

/-- A value that is served does not come back unhandled. -/
theorem Serves.handled [Tagged V] {s : SealedHandlers V R} {history : History (Handler V R)}
    {tag : String} {value : V} (serves : s.Serves history tag value) (channel : Channel)
    (fault : DispatchFault) :
    (s.through channel value).outcome ≠ .returned (.error fault) := by
  obtain ⟨_, handler, _, _, _, meets⟩ := serves
  rw [meets channel, Channel.outcome_enclose]
  cases (handler value).outcome <;> simp [Outcome.map]

/-- Through whichever channel, a value fares as by dispatch in the table that was sealed. -/
theorem outcome_through [Tagged V] (s : SealedHandlers V R) (channel : Channel) (value : V) :
    (s.through channel value).outcome = (s.handlers.dispatch value).outcome := by
  rw [s.through_eq, s.handlers.through_eq, Channel.outcome_enclose]

end SealedHandlers

namespace Handlers

variable [Tagged V] {history : History (Handler V R)} {tags : List String}
  {s : SealedHandlers V R} {value : V}

/-- A table serves the values with a tag that it was sealed against. -/
theorem SealsTo.serves (closed : (ofHistory history).SealsTo tags s)
    (covered : Tagged.tag value ∈ tags) : s.Serves history (Tagged.tag value) value := by
  obtain ⟨contained, unchanged⟩ := sealsTo_iff.mp closed
  have present := ((ofHistory history).contains_iff_get? _).mp (contained _ covered)
  obtain ⟨handler, found⟩ := Option.isSome_iff_exists.mp present
  have latest := (get?_ofHistory history _).symm.trans found
  obtain ⟨before, after, split, last⟩ := History.latest_eq_some_iff.mp latest
  refine ⟨before, handler, after, split, last, fun channel => ?_⟩
  rw [s.through_eq, unchanged, through_eq, dispatch_of_some found]

/-- A value is unhandled only where its tag is not registered, and then the fault names it. -/
theorem dispatch_eq_unhandled_iff {h : Handlers V R} {tag : String} :
    (h.dispatch value).outcome = .returned (.error (.unhandled tag)) ↔
      h.contains (Tagged.tag value) = false ∧ tag = Tagged.tag value := by
  have present := h.contains_iff_get? (Tagged.tag value)
  cases found : h.get? (Tagged.tag value) with
  | some handler =>
    have contained : h.contains (Tagged.tag value) := by simp [present, found]
    rw [dispatch_of_some found]
    cases (handler value).outcome <;> simp [Outcome.map, contained]
  | none =>
    have absent : h.contains (Tagged.tag value) = false := by
      rw [← Bool.not_eq_true, present, found]
      simp
    rw [dispatch_of_none found]
    simp only [Outcome.returned.injEq, Except.error.injEq, DispatchFault.unhandled.injEq, absent,
      true_and]
    exact eq_comm

/-- What a sealed table cannot handle is outside the tags that it was sealed against, and outside
those that it has. -/
theorem SealsTo.outside_of_unhandled (closed : (ofHistory history).SealsTo tags s)
    {channel : Channel} {tag : String}
    (unhandled : (s.through channel value).outcome = .returned (.error (.unhandled tag))) :
    tag = Tagged.tag value ∧ Tagged.tag value ∉ tags ∧ Tagged.tag value ∉ s.tags := by
  obtain ⟨contained, unchanged⟩ := sealsTo_iff.mp closed
  rw [s.outcome_through, unchanged, dispatch_eq_unhandled_iff, ← Bool.not_eq_true] at unhandled
  obtain ⟨absent, named⟩ := unhandled
  refine ⟨named, fun covered => absent (contained _ covered), fun listed => absent ?_⟩
  rw [← (coherent_ofHistory history).mem_tags_iff, ← unchanged]
  exact listed

end Handlers

/-- A table that was sealed against the tags of shapes serves every record that is built from one
of them, however it is held and whatever fields are set in it later; the handler is the last one
registered for the tag of the shape. A table that was sealed against the declared tags of a type
serves every value that has one of them. A value that comes back unhandled from a sealed table has
a tag outside those that the table was sealed against and outside those that it has. -/
theorem sealed_table_serves (R : Type) :
    (∀ (layers : List Layer) (shapes : List Shape)
      (history : History (Handler (Held layers Record) R)) (s : SealedHandlers _ R),
      ((Handlers.ofHistory history).sealFor (shapes.map Shape.tag)).outcome = .returned (.ok s) →
      ∀ shape ∈ shapes, ∀ arguments record,
        (shape.build arguments).outcome = .returned (.ok record) →
        ∀ updates : History Value,
          s.Serves history shape.tag (Held.hold layers (record.setAll updates)) ∧
          ∀ channel fault, (s.through channel (Held.hold layers (record.setAll updates))).outcome ≠
            .returned (.error fault)) ∧
    (∀ (V : Type) [Declaring V] (history : History (Handler V R)) (s : SealedHandlers V R),
      (Handlers.ofHistory history).sealDeclared.outcome = .returned (.ok s) →
      ∀ value : V, Tagged.tag value ∈ Declaring.declared V →
        s.Serves history (Tagged.tag value) value ∧
        ∀ channel fault, (s.through channel value).outcome ≠ .returned (.error fault)) ∧
    ∀ (V : Type) [Tagged V] (history : History (Handler V R)) (tags : List String)
      (s : SealedHandlers V R), (Handlers.ofHistory history).SealsTo tags s →
      ∀ (value : V) channel tag,
        (s.through channel value).outcome = .returned (.error (.unhandled tag)) →
        tag = Tagged.tag value ∧ Tagged.tag value ∉ tags ∧ Tagged.tag value ∉ s.tags := by
  refine ⟨?_, ?_, ?_⟩
  · intro layers shapes history s closed shape listed arguments record built updates
    have kept : Tagged.tag (Held.hold layers (record.setAll updates)) = shape.tag := by
      rw [Held.tag_hold]
      change (record.setAll updates).tag = shape.tag
      rw [Record.tag_setAll, Shape.tag_of_assemble (Shape.build_eq_ok_iff.mp built)]
    have covered : Tagged.tag (Held.hold layers (record.setAll updates)) ∈
        shapes.map Shape.tag := by
      rw [kept]
      exact List.mem_map_of_mem listed
    have serves := (Handlers.SealsTo.listed closed).serves covered
    rw [kept] at serves
    exact ⟨serves, serves.handled⟩
  · intro V declaring history s closed value declared
    have serves := (Handlers.SealsTo.declared closed).serves declared
    exact ⟨serves, serves.handled⟩
  · intro V tagged history tags s closed value channel tag unhandled
    exact closed.outside_of_unhandled unhandled

/-- A handler for parcels that was replaced, and one for letters. -/
def postHandlers (V : Type) : History (Handler V Nat) :=
  [("parcel", fun _ => Run.panic "replaced"), ("letter", fun _ => return 0),
    ("parcel", fun _ => return 1)]

/-- The table with these handlers, sealed. -/
def postTable (V : Type) : SealedHandlers V Nat := ⟨.ofHistory (postHandlers V)⟩

theorem sealFor_postHandlers (V : Type) {tags : List String}
    (known : ∀ tag ∈ tags, tag ∈ ["parcel", "letter"]) :
    ((Handlers.ofHistory (postHandlers V)).sealFor tags).outcome =
      .returned (.ok (postTable V)) := by
  have holds := Handlers.holds_ofHistory (postHandlers V)
  rw [Handlers.sealFor_eq_ok_iff]
  refine ⟨fun tag mem => ?_, rfl⟩
  rw [holds.contains_iff, holds.tags_eq]
  exact known tag mem

theorem sealed_table_serves_parcel :
    (postTable (Ref Record)).Serves (postHandlers _) "parcel"
        ⟨Shape.parcel.setAll [("note", .str "fragile")]⟩ ∧
      (postTable (Variant ["letter"])).Serves (postHandlers _) "letter" ⟨.ofTag "letter"⟩ ∧
      ((postTable Record).through .routed (.ofTag "card")).outcome =
        .returned (.error (.unhandled "card")) ∧
      "card" ∉ (postTable Record).tags := by
  have serves := sealed_table_serves Nat
  have parcels := serves.1 [.reference] [Shape.ofTag "letter", Shape.parcelShape]
    (postHandlers (Ref Record)) _ (sealFor_postHandlers _ (by decide)) Shape.parcelShape
    (by simp) _ _ Shape.build_parcelShape [("note", .str "fragile")]
  have letters := serves.2.1 (Variant ["letter"]) (postHandlers _) _
    (sealFor_postHandlers _ (by decide)) ⟨.ofTag "letter"⟩ (by decide)
  have unhandled : ((postTable Record).through .routed (.ofTag "card")).outcome =
      .returned (.error (.unhandled "card")) := by
    have holds := Handlers.holds_ofHistory (postHandlers Record)
    have absent : "card" ∉ (Handlers.ofHistory (postHandlers Record)).tags := by
      rw [holds.tags_eq]
      decide
    rw [SealedHandlers.outcome_through]
    refine Handlers.dispatch_eq_unhandled_iff.mpr ⟨?_, rfl⟩
    rw [← Bool.not_eq_true]
    exact mt (holds.contains_iff "card").mp absent
  have outside := serves.2.2 Record (postHandlers Record) ["letter", "parcel"] _
    (.listed (sealFor_postHandlers _ (by decide))) (.ofTag "card") .routed "card" unhandled
  exact ⟨parcels.1, letters.1, unhandled, outside.2.2⟩

end Switchboard

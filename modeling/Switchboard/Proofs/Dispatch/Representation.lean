import Switchboard.Proofs.Dispatch.Channels
import Switchboard.Proofs.History

/-!
What a handler table holds, whatever was registered and whether it was sealed.

A table has its tags twice, as the keys of a hash map and as a list. Registering
looks for a tag among the keys and sealing changes neither part, so the two agree
in every table that callers can have (`Handlers.Holds`, `registrations_determine_table`). Each
question that is put to a table reads one of the two parts; that the parts agree is
why all answers follow from the registrations alone.
-/

namespace Switchboard

variable {V R : Type}

/-! ### Sealing -/

/-- `h.SealsTo tags s`: the table was sealed against the tags, which were listed or are those that
its values declare. -/
inductive Handlers.SealsTo (h : Handlers V R) : List String → SealedHandlers V R → Prop where
  | listed {tags : List String} {s : SealedHandlers V R} :
      (h.sealFor tags).outcome = .returned (.ok s) → h.SealsTo tags s
  | declared [Declaring V] {s : SealedHandlers V R} :
      h.sealDeclared.outcome = .returned (.ok s) → h.SealsTo (Declaring.declared V) s

/-- Whether the tags are listed or declared, they are checked alike. -/
theorem Handlers.sealsTo_iff {h : Handlers V R} {tags : List String} {s : SealedHandlers V R} :
    h.SealsTo tags s ↔ (∀ tag ∈ tags, h.contains tag) ∧ s.handlers = h := by
  constructor
  · intro closed
    cases closed with
    | listed closed => exact sealFor_eq_ok_iff.mp closed
    | declared closed => exact sealFor_eq_ok_iff.mp closed
  · exact fun covered => .listed (sealFor_eq_ok_iff.mpr covered)

namespace Handlers

/-! ### The two parts -/

theorem Coherent.size_byTag {h : Handlers V R} (coherent : h.Coherent) :
    h.byTag.size = h.size := by
  have same : h.byTag.keys.Perm h.tags := by
    rw [List.perm_ext_iff_of_nodup Std.HashMap.nodup_keys coherent.nodup]
    intro tag
    rw [Std.HashMap.mem_keys, coherent.mem_tags_iff tag]
    rfl
  rw [← Std.HashMap.length_keys, same.length_eq]
  rfl

/-- The table holds exactly what the history registered, and its two parts agree. -/
structure Holds (h : Handlers V R) (history : History (Handler V R)) : Prop where
  /-- No tag is listed twice. -/
  nodup : h.order.Nodup
  /-- The listed tags are the keys of the hash map. -/
  mem_order_iff : ∀ tag, tag ∈ h.order ↔ tag ∈ h.byTag
  /-- The tags are those of the history, each where it first came. -/
  tags_eq : h.tags = history.names
  contains_iff : ∀ tag, h.contains tag ↔ tag ∈ h.tags
  /-- There are as many as there are different tags in the history. -/
  size_eq : h.size = (history.map Prod.fst).toFinset.card
  size_byTag : h.byTag.size = h.size
  isEmpty_iff : h.isEmpty ↔ history = []
  /-- The handler of a tag is the one that was registered last. -/
  get?_eq : ∀ tag, h.get? tag = history.latest tag

theorem size_ofHistory (history : History (Handler V R)) :
    (ofHistory history).size = (history.map Prod.fst).toFinset.card := by
  change (ofHistory history).tags.length = _
  rw [tags_ofHistory]
  exact History.length_append_fresh List.nodup_nil _

theorem isEmpty_ofHistory_iff {history : History (Handler V R)} :
    (ofHistory history).isEmpty ↔ history = [] := by
  rw [isEmpty, List.isEmpty_iff_length_eq_zero]
  change (ofHistory history).size = 0 ↔ _
  rw [size_ofHistory, Finset.card_eq_zero, List.toFinset_eq_empty_iff, List.map_eq_nil_iff]

theorem holds_ofHistory (history : History (Handler V R)) :
    (ofHistory history).Holds history where
  nodup := (coherent_ofHistory history).nodup
  mem_order_iff := (coherent_ofHistory history).mem_tags_iff
  tags_eq := tags_ofHistory history
  contains_iff tag := ((coherent_ofHistory history).mem_tags_iff tag).symm
  size_eq := size_ofHistory history
  size_byTag := (coherent_ofHistory history).size_byTag
  isEmpty_iff := isEmpty_ofHistory_iff
  get?_eq := get?_ofHistory history

/-! ### Registering again -/

theorem Coherent.tags_insert_of_mem {h : Handlers V R} (coherent : h.Coherent) {tag : String}
    (mem : tag ∈ h.tags) (handler : Handler V R) : (h.insert tag handler).tags = h.tags := by
  rw [coherent.tags_insert, if_pos mem]

/-- Every table that a caller can have, open or sealed, holds what was registered. Registering a
tag again changes the handler of that tag and nothing else, and sealing changes nothing. -/
theorem registrations_determine_table (history : History (Handler V R)) :
    (default : Handlers V R).insertAll history = ofHistory history ∧
    (ofHistory history).Holds history ∧
    (∀ tag ∈ (ofHistory history).tags, ∀ handler,
      ((ofHistory history).insert tag handler).tags = (ofHistory history).tags ∧
      ((ofHistory history).insert tag handler).size = (ofHistory history).size ∧
      ((ofHistory history).insert tag handler).get? tag = some handler ∧
      ∀ other, other ≠ tag →
        ((ofHistory history).insert tag handler).get? other = (ofHistory history).get? other) ∧
    ∀ tags s, (ofHistory history).SealsTo tags s →
      s.tags = (ofHistory history).tags ∧ s.handlers.Holds history ∧
      ∀ tag, s.handlers.get? tag = (ofHistory history).get? tag := by
  have coherent := coherent_ofHistory history
  refine ⟨rfl, holds_ofHistory history, ?_, ?_⟩
  · intro tag mem handler
    have same := coherent.tags_insert_of_mem mem handler
    refine ⟨same, congrArg List.length same, ?_, ?_⟩
    · rw [get?_insert, if_pos rfl]
    · intro other ne
      rw [get?_insert, if_neg ne]
  · intro tags s closed
    have unchanged : s.handlers = ofHistory history := (sealsTo_iff.mp closed).2
    refine ⟨congrArg Handlers.tags unchanged, ?_, fun tag => by rw [unchanged]⟩
    rw [unchanged]
    exact holds_ofHistory history

theorem registrations_determine_table_replaced :
    (∃ s, (ofHistory replacedHandlers).SealsTo ["b", "a", "b"] s ∧ s.tags = ["a", "b"] ∧
      s.handlers.Holds replacedHandlers) ∧
    ((ofHistory replacedHandlers).insert "b" fun _ => Run.panic "late").tags = ["a", "b"] ∧
    "a" ≠ "b" ∧
    ((ofHistory replacedHandlers).insert "b" fun _ => Run.panic "late").get? "a" =
      replacedHandlers.latest "a" := by
  have represents := registrations_determine_table replacedHandlers
  have tags_eq : (ofHistory replacedHandlers).tags = ["a", "b"] := represents.2.1.tags_eq
  have listed : "b" ∈ (ofHistory replacedHandlers).tags := by simp [tags_eq]
  obtain ⟨same, _, _, others⟩ := represents.2.2.1 "b" listed fun _ => Run.panic "late"
  have closed : (ofHistory replacedHandlers).SealsTo ["b", "a", "b"]
      ⟨ofHistory replacedHandlers⟩ := by
    rw [sealsTo_iff]
    simp [represents.2.1.contains_iff, tags_eq]
  obtain ⟨sealed_eq, holds, _⟩ := represents.2.2.2 _ _ closed
  refine ⟨⟨_, closed, sealed_eq.trans tags_eq, holds⟩, same.trans tags_eq, by decide, ?_⟩
  rw [others "a" (by decide), represents.2.1.get?_eq]

end Handlers

end Switchboard

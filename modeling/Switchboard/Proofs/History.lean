import Mathlib.Data.Finset.Card
import Switchboard.History

/-!
Names that a history registers, counted, and names that it does not.

A name is listed once, at its first registration, so the list of names that a history
leads to is as long as there are different names, those known before included. Of other
lists `History.unregistered` keeps the names that the history does not have: this is what
tables report that are asked for more than was registered. Registrations that follow a
history take their own names out of such a list and change nothing else
(`unregistered_append`).
-/

namespace Switchboard.History

/-! ### Last registrations -/

section Latest

variable {α : Type} {history history' : History α}

/-- Histories with the same last registrations register the same names. -/
theorem mem_iff_of_latest_eq (same : ∀ name, history.latest name = history'.latest name)
    (name : String) : name ∈ history.map Prod.fst ↔ name ∈ history'.map Prod.fst := by
  rw [← latest_isSome_iff, ← latest_isSome_iff, same]

theorem latest_append_self (history : History α) (name : String) (a : α) :
    latest name (history ++ [(name, a)]) = some a := by
  simp [latest_append, latest]

theorem latest_append_of_ne (history : History α) {name other : String} (ne : other ≠ name)
    (a : α) : latest other (history ++ [(name, a)]) = latest other history := by
  simp [latest_append, latest, ne]

end Latest

/-! ### Listing names -/

/-- The rest of a list brings the names that are neither known before nor in its first part. -/
theorem fresh_append (known list more : List String) :
    fresh known (list ++ more) = fresh known list ++ fresh (known ++ fresh known list) more := by
  induction list generalizing known with
  | nil => simp [fresh]
  | cons name rest ih =>
    rw [List.cons_append, fresh, fresh]
    by_cases seen : name ∈ known
    · rw [if_pos seen, if_pos seen, ih]
    · rw [if_neg seen, if_neg seen, ih, List.cons_append, List.append_assoc, List.singleton_append]

/-- Later registrations list their new names behind those of the earlier ones. -/
theorem names_append {α : Type} (history more : History α) :
    (history ++ more).names = history.names ++ fresh history.names (more.map Prod.fst) := by
  rw [names, List.map_append, fresh_append, List.nil_append]
  rfl

/-! ### Counting names -/

theorem nodup_append_fresh {known : List String} (nodup : known.Nodup) (list : List String) :
    (known ++ fresh known list).Nodup := by
  rw [List.nodup_append]
  refine ⟨nodup, nodup_fresh known list, ?_⟩
  rintro name old _ new rfl
  exact (mem_fresh_iff.mp new).2 old

theorem mem_append_fresh_iff {known list : List String} {name : String} :
    name ∈ known ++ fresh known list ↔ name ∈ known ++ list := by
  rw [List.mem_append, List.mem_append, mem_fresh_iff]
  by_cases old : name ∈ known
  · simp [old]
  · simp [old]

/-- There are as many listed names as there are different ones. -/
theorem length_append_fresh {known : List String} (nodup : known.Nodup) (list : List String) :
    (known ++ fresh known list).length = (known ++ list).toFinset.card := by
  have same : (known ++ fresh known list).toFinset = (known ++ list).toFinset := by
    ext name
    rw [List.mem_toFinset, List.mem_toFinset, mem_append_fresh_iff]
  rw [← same, List.toFinset_card_of_nodup (nodup_append_fresh nodup list)]

/-! ### Names that were not registered -/

section Unregistered

variable {α : Type} {history : History α} {list : List String}

/-- The names of the list that the history does not register, in the list's order and as often as
it has them. -/
def unregistered (history : History α) (list : List String) : List String :=
  list.filter fun name => name ∉ history.map Prod.fst

theorem mem_unregistered_iff {name : String} :
    name ∈ history.unregistered list ↔ name ∈ list ∧ name ∉ history.map Prod.fst := by
  rw [unregistered, List.mem_filter, decide_eq_true_iff]

theorem unregistered_eq_nil_iff :
    history.unregistered list = [] ↔ ∀ name ∈ list, name ∈ history.map Prod.fst := by
  rw [List.eq_nil_iff_forall_not_mem]
  simp only [mem_unregistered_iff, not_and, not_not]

theorem unregistered_ne_nil_iff :
    history.unregistered list ≠ [] ↔ ∃ name ∈ list, name ∉ history.map Prod.fst := by
  simp only [ne_eq, unregistered_eq_nil_iff, not_forall, exists_prop]

theorem unregistered_nil (list : List String) : unregistered ([] : History α) list = list := by
  simp [unregistered]

/-- What is registered later is left out of what was not registered so far. -/
theorem unregistered_append (history more : History α) (list : List String) :
    unregistered (history ++ more) list = more.unregistered (history.unregistered list) := by
  rw [unregistered, unregistered, unregistered, List.filter_filter]
  apply List.filter_congr
  intro name _
  simp only [List.map_append, List.mem_append, not_or, Bool.decide_and, Bool.and_comm]

theorem unregistered_list_append (history : History α) (list more : List String) :
    history.unregistered (list ++ more) = history.unregistered list ++ history.unregistered more :=
  List.filter_append _ _

/-- Registrations of names that the history has leave what it lacks of the others. -/
theorem unregistered_names_append {β : Type} {more : History β}
    (known : ∀ name ∈ more.map Prod.fst, name ∈ history.map Prod.fst) (others : History β) :
    history.unregistered (others ++ more).names = history.unregistered others.names := by
  have nothing : history.unregistered (fresh others.names (more.map Prod.fst)) = [] := by
    rw [unregistered_eq_nil_iff]
    intro name new
    exact known name (mem_fresh_iff.mp new).1
  rw [names_append, unregistered_list_append, nothing, List.append_nil]

/-- Whoever knows the registered names finds the others by leaving these out. -/
theorem filter_not_eq_unregistered {known : String → Bool}
    (registered : ∀ name, known name ↔ name ∈ history.map Prod.fst) (list : List String) :
    (list.filter fun name => !known name) = history.unregistered list := by
  unfold unregistered
  apply List.filter_congr
  intro name _
  rw [Bool.eq_iff_iff, Bool.not_eq_true', Bool.eq_false_iff, ne_eq, registered,
    decide_eq_true_iff]

end Unregistered

end Switchboard.History

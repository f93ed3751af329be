/-!
Histories: payloads registered under names, one after the other.

A name may be registered any number of times. `History.latest` is the payload that
was registered last under a name, and `History.fresh` lists the names at their
first registration, without those known before. What has a history answers
lookups by the one and lists its names by the other.
-/

namespace Switchboard

/-- Registrations in the order in which they were made. -/
abbrev History (α : Type) := List (String × α)

namespace History

variable {α : Type}

/-- The payload of the last registration under the name. -/
def latest (name : String) : History α → Option α
  | [] => none
  | (n, a) :: rest => (latest name rest).or (if name = n then some a else none)

/-- The names that are not known before, each at its first place. -/
def fresh (known : List String) : List String → List String
  | [] => []
  | name :: rest =>
    if name ∈ known then fresh known rest else name :: fresh (known ++ [name]) rest

/-- The names of a history in the order of their first registration. -/
def names (history : History α) : List String :=
  fresh [] (history.map Prod.fst)

@[simp] theorem latest_nil (name : String) : latest name ([] : History α) = none := rfl

theorem latest_append (name : String) (h k : History α) :
    latest name (h ++ k) = (latest name k).or (latest name h) := by
  induction h with
  | nil => simp
  | cons entry rest ih =>
    obtain ⟨n, a⟩ := entry
    rw [List.cons_append, latest, latest, ih, Option.or_assoc]

theorem latest_isSome_iff {name : String} {history : History α} :
    (latest name history).isSome ↔ name ∈ history.map Prod.fst := by
  induction history with
  | nil => simp
  | cons entry rest ih =>
    obtain ⟨n, a⟩ := entry
    by_cases same : name = n
    · simp [latest, same]
    · rw [latest, if_neg same, Option.or_none, ih]
      simp [same]

theorem latest_eq_none_iff {name : String} {history : History α} :
    latest name history = none ↔ name ∉ history.map Prod.fst := by
  rw [← latest_isSome_iff, Bool.not_eq_true, Option.isSome_eq_false_iff,
    Option.isNone_iff_eq_none]

/-- The last registration under a name is the one that none follows. -/
theorem latest_eq_some_iff {name : String} {a : α} {history : History α} :
    latest name history = some a ↔
      ∃ before after, history = before ++ (name, a) :: after ∧ name ∉ after.map Prod.fst := by
  constructor
  · intro found
    induction history with
    | nil => cases found
    | cons entry rest ih =>
      obtain ⟨n, b⟩ := entry
      cases later : latest name rest with
      | some c =>
        rw [latest, later, Option.some_or] at found
        obtain ⟨before, after, split, last⟩ := ih (later.trans found)
        exact ⟨(n, b) :: before, after, by rw [split, List.cons_append], last⟩
      | none =>
        rw [latest, later, Option.none_or] at found
        split at found
        · rename_i same
          cases found
          exact ⟨[], rest, by rw [same, List.nil_append], latest_eq_none_iff.mp later⟩
        · cases found
  · rintro ⟨before, after, rfl, last⟩
    rw [latest_append, latest, latest_eq_none_iff.mpr last, if_pos rfl]
    rfl

theorem mem_fresh_iff {known list : List String} {name : String} :
    name ∈ fresh known list ↔ name ∈ list ∧ name ∉ known := by
  induction list generalizing known with
  | nil => simp [fresh]
  | cons first rest ih =>
    by_cases seen : first ∈ known
    · rw [fresh, if_pos seen, ih, List.mem_cons]
      constructor
      · exact fun ⟨mem, new⟩ => ⟨.inr mem, new⟩
      · rintro ⟨rfl | mem, new⟩
        · exact absurd seen new
        · exact ⟨mem, new⟩
    · rw [fresh, if_neg seen, List.mem_cons, ih, List.mem_cons, List.mem_append,
        List.mem_singleton]
      by_cases same : name = first
      · simp [same, seen]
      · simp [same]

theorem nodup_fresh (known list : List String) : (fresh known list).Nodup := by
  induction list generalizing known with
  | nil => simp [fresh]
  | cons first rest ih =>
    rw [fresh]
    split
    · exact ih known
    · rw [List.nodup_cons, mem_fresh_iff]
      exact ⟨fun h => h.2 (by simp), ih _⟩

theorem mem_names_iff {history : History α} {name : String} :
    name ∈ history.names ↔ name ∈ history.map Prod.fst := by
  simp [names, mem_fresh_iff]

theorem nodup_names (history : History α) : history.names.Nodup :=
  nodup_fresh [] _

end History

end Switchboard

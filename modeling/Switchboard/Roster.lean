import Std.Data.HashMap
import Switchboard.History

/-!
Rosters: named entries in the order in which their names first came.

`Roster.insert` under a name that is present replaces the entry in place; under a
new name it adds the entry at the end. The view of a roster is its list of names
with `get?`: `names_insert` and `get?_insert` say what an insertion does to each, and
`names_ofHistory` and `get?_ofHistory` say it of a whole history. `Roster.Distinct` is
the property that no name occurs twice, kept by insertion.
-/

namespace Switchboard

/-- Entries with names, in order. -/
structure Roster (α : Type) where
  entries : List (String × α)
deriving DecidableEq, Repr

namespace Roster

variable {α : Type}

/-! ### Operations -/

def empty : Roster α := ⟨[]⟩

instance : EmptyCollection (Roster α) := ⟨empty⟩

instance : Inhabited (Roster α) := ⟨empty⟩

def names (r : Roster α) : List String :=
  r.entries.map Prod.fst

def size (r : Roster α) : Nat :=
  r.entries.length

def isEmpty (r : Roster α) : Bool :=
  r.entries.isEmpty

/-- The first entry under the name. -/
def find (name : String) : List (String × α) → Option α
  | [] => none
  | (n, a) :: rest => if name = n then some a else find name rest

/-- The entry under a name. -/
def get? (r : Roster α) (name : String) : Option α :=
  find name r.entries

def contains (r : Roster α) (name : String) : Bool :=
  (r.get? name).isSome

/-- Replace the first entry under the name, or add one at the end. -/
def put (name : String) (a : α) : List (String × α) → List (String × α)
  | [] => [(name, a)]
  | (n, b) :: rest => if name = n then (n, a) :: rest else (n, b) :: put name a rest

def insert (r : Roster α) (name : String) (a : α) : Roster α :=
  ⟨put name a r.entries⟩

/-- Insert each payload of a history in turn. -/
def insertAll (r : Roster α) (history : History α) : Roster α :=
  history.foldl (fun acc entry => acc.insert entry.1 entry.2) r

/-- The roster that a history leads to. -/
def ofHistory (history : History α) : Roster α :=
  empty.insertAll history

/-! ### The empty roster -/

@[simp] theorem names_empty : (empty : Roster α).names = [] := rfl

@[simp] theorem get?_empty (name : String) : (empty : Roster α).get? name = none := rfl

@[simp] theorem length_names (r : Roster α) : r.names.length = r.size := by
  simp [names, size]

/-! ### Presence -/

theorem get?_isSome_iff (r : Roster α) (name : String) :
    (r.get? name).isSome ↔ name ∈ r.names := by
  obtain ⟨entries⟩ := r
  simp only [get?, names]
  induction entries with
  | nil => simp [find]
  | cons entry rest ih =>
    obtain ⟨n, b⟩ := entry
    by_cases h : name = n
    · simp [find, h]
    · rw [find, if_neg h, ih]
      simp [h]

theorem contains_iff (r : Roster α) (name : String) : r.contains name ↔ name ∈ r.names :=
  r.get?_isSome_iff name

theorem get?_eq_none_iff (r : Roster α) (name : String) :
    r.get? name = none ↔ name ∉ r.names := by
  rw [← r.get?_isSome_iff name, Bool.not_eq_true, Option.isSome_eq_false_iff,
    Option.isNone_iff_eq_none]

/-! ### Insertion -/

theorem get?_insert (r : Roster α) (name other : String) (a : α) :
    (r.insert name a).get? other = if other = name then some a else r.get? other := by
  obtain ⟨entries⟩ := r
  simp only [get?, insert]
  induction entries with
  | nil => simp [put, find]
  | cons entry rest ih =>
    obtain ⟨n, b⟩ := entry
    by_cases same : name = n
    · subst same
      by_cases h : other = name <;> simp [put, find, h]
    · by_cases h : other = n
      · subst h
        simp [put, find, same, Ne.symm same]
      · simp [put, find, same, h, ih]

@[simp] theorem get?_insert_self (r : Roster α) (name : String) (a : α) :
    (r.insert name a).get? name = some a := by
  simp [get?_insert]

theorem names_insert_of_mem {r : Roster α} {name : String} (mem : name ∈ r.names) (a : α) :
    (r.insert name a).names = r.names := by
  obtain ⟨entries⟩ := r
  simp only [names, insert] at *
  induction entries with
  | nil => simp at mem
  | cons entry rest ih =>
    obtain ⟨n, b⟩ := entry
    by_cases same : name = n
    · simp [put, same]
    · rw [put, if_neg same, List.map_cons, List.map_cons,
        ih ((List.mem_cons.mp mem).resolve_left same)]

theorem names_insert_of_not_mem {r : Roster α} {name : String} (fresh : name ∉ r.names)
    (a : α) :
    (r.insert name a).names = r.names ++ [name] := by
  obtain ⟨entries⟩ := r
  simp only [names, insert] at *
  induction entries with
  | nil => rfl
  | cons entry rest ih =>
    obtain ⟨n, b⟩ := entry
    rw [List.map_cons, List.mem_cons, not_or] at fresh
    rw [put, if_neg fresh.1, List.map_cons, List.map_cons, ih fresh.2]
    rfl

theorem names_insert (r : Roster α) (name : String) (a : α) :
    (r.insert name a).names = if name ∈ r.names then r.names else r.names ++ [name] := by
  split
  · rename_i mem
    exact names_insert_of_mem mem a
  · rename_i fresh
    exact names_insert_of_not_mem fresh a

/-- An insertion leaves the entries of all other names as they are, each at its place. -/
theorem getElem?_insert_of_ne (r : Roster α) {name other : String} (ne : other ≠ name) (a b : α)
    (i : Nat) :
    (r.insert name a).entries[i]? = some (other, b) ↔ r.entries[i]? = some (other, b) := by
  obtain ⟨entries⟩ := r
  simp only [insert]
  induction entries generalizing i with
  | nil => cases i <;> simp [put, ne.symm]
  | cons entry rest ih =>
    obtain ⟨n, c⟩ := entry
    by_cases same : name = n
    · subst same
      cases i <;> simp [put, ne.symm]
    · cases i with
      | zero => simp [put, same]
      | succ i => simpa [put, same] using ih i

/-- Entries under other names are passed over. -/
theorem put_append {name : String} {before : List (String × α)}
    (absent : name ∉ before.map Prod.fst) (a : α) (after : List (String × α)) :
    put name a (before ++ after) = before ++ put name a after := by
  induction before with
  | nil => rfl
  | cons entry rest ih =>
    rw [List.map_cons, List.mem_cons, not_or] at absent
    rw [List.cons_append, put, if_neg absent.1, ih absent.2, List.cons_append]

/-- The first entry of a name is replaced in place. -/
theorem entries_insert_of_split {r : Roster α} {name : String} {old : α}
    {before after : List (String × α)} (split : r.entries = before ++ (name, old) :: after)
    (absent : name ∉ before.map Prod.fst) (a : α) :
    (r.insert name a).entries = before ++ (name, a) :: after := by
  simp only [insert, split, put_append absent, put, if_true]

/-! ### Histories -/

theorem get?_insertAll (r : Roster α) (history : History α) (name : String) :
    (r.insertAll history).get? name = (history.latest name).or (r.get? name) := by
  induction history generalizing r with
  | nil => rfl
  | cons entry rest ih =>
    obtain ⟨n, a⟩ := entry
    change ((r.insert n a).insertAll rest).get? name = _
    rw [ih, get?_insert, History.latest, Option.or_assoc]
    split <;> rfl

theorem names_insertAll (r : Roster α) (history : History α) :
    (r.insertAll history).names = r.names ++ History.fresh r.names (history.map Prod.fst) := by
  induction history generalizing r with
  | nil => simp [insertAll, History.fresh]
  | cons entry rest ih =>
    obtain ⟨n, a⟩ := entry
    change ((r.insert n a).insertAll rest).names = _
    rw [ih, List.map_cons, History.fresh]
    by_cases mem : n ∈ r.names
    · rw [if_pos mem, names_insert_of_mem mem]
    · rw [if_neg mem, names_insert_of_not_mem mem, List.append_assoc, List.singleton_append]

theorem get?_ofHistory (history : History α) (name : String) :
    (ofHistory history).get? name = history.latest name := by
  rw [ofHistory, get?_insertAll, get?_empty, Option.or_none]

/-- Histories with the same last entries lead to rosters with the same entries. -/
theorem get?_ofHistory_congr {history more : History α}
    (same : ∀ name, history.latest name = more.latest name) :
    (ofHistory history).get? = (ofHistory more).get? := by
  funext name
  rw [get?_ofHistory, get?_ofHistory, same]

theorem names_ofHistory (history : History α) : (ofHistory history).names = history.names := by
  rw [ofHistory, names_insertAll]
  rfl

theorem mem_names_ofHistory_iff {history : History α} {name : String} :
    name ∈ (ofHistory history).names ↔ name ∈ history.map Prod.fst := by
  rw [names_ofHistory, History.mem_names_iff]

/-- A history that leaves the names of some entries alone adds its own behind them. -/
theorem entries_insertAll_append {before : List (String × α)} {history : History α}
    (apart : ∀ name ∈ history.map Prod.fst, name ∉ before.map Prod.fst)
    (after : List (String × α)) :
    (insertAll ⟨before ++ after⟩ history).entries =
      before ++ (insertAll ⟨after⟩ history).entries := by
  induction history generalizing after with
  | nil => rfl
  | cons entry rest ih =>
    obtain ⟨name, a⟩ := entry
    obtain ⟨absent, others⟩ := List.forall_mem_cons.mp apart
    change (insertAll ⟨put name a (before ++ after)⟩ rest).entries = _
    rw [put_append absent, ih others]
    rfl

/-- Histories without a name in common lead to the entries of the one, then those of the other. -/
theorem entries_ofHistory_append {history more : History α}
    (apart : ∀ name ∈ more.map Prod.fst, name ∉ history.map Prod.fst) :
    (ofHistory (history ++ more)).entries =
      (ofHistory history).entries ++ (ofHistory more).entries := by
  have absent : ∀ name ∈ more.map Prod.fst, name ∉ (ofHistory history).entries.map Prod.fst := by
    exact fun name mem listed => apart name mem (mem_names_ofHistory_iff.mp listed)
  calc (ofHistory (history ++ more)).entries
      = (insertAll (ofHistory history) more).entries := by
        rw [ofHistory, insertAll, List.foldl_append]
        rfl
    _ = (ofHistory history).entries ++ (ofHistory more).entries := by
        have added := entries_insertAll_append absent []
        rwa [List.append_nil] at added

/-- Entries without a repeated name are those of the roster that they lead to as a history. -/
theorem entries_ofHistory_of_nodup {history : History α} (nodup : (history.map Prod.fst).Nodup) :
    (ofHistory history).entries = history := by
  induction history with
  | nil => rfl
  | cons entry rest ih =>
    rw [List.map_cons, List.nodup_cons] at nodup
    have apart : ∀ name ∈ rest.map Prod.fst, name ∉ [entry].map Prod.fst := by
      intro name mem first
      rw [List.map_singleton, List.mem_singleton] at first
      exact nodup.1 (first ▸ mem)
    calc (ofHistory (entry :: rest)).entries
        = (ofHistory [entry]).entries ++ (ofHistory rest).entries :=
          entries_ofHistory_append apart
      _ = entry :: rest := by
          rw [ih nodup.2]
          rfl

/-! ### Distinct names -/

/-- No name occurs twice. -/
def Distinct (r : Roster α) : Prop :=
  r.names.Nodup

theorem distinct_empty : (empty : Roster α).Distinct := by
  simp [Distinct]

theorem Distinct.insert {r : Roster α} (distinct : r.Distinct) (name : String) (a : α) :
    (r.insert name a).Distinct := by
  unfold Distinct at *
  rw [names_insert]
  split
  · exact distinct
  · rename_i fresh
    rw [List.nodup_append]
    exact ⟨distinct, by simp, by simp; exact fun n mem e => fresh (e ▸ mem)⟩

theorem Distinct.insertAll {r : Roster α} (distinct : r.Distinct) (history : History α) :
    (r.insertAll history).Distinct := by
  induction history generalizing r with
  | nil => exact distinct
  | cons entry rest ih => exact ih (distinct.insert entry.1 entry.2)

theorem distinct_ofHistory (history : History α) : (ofHistory history).Distinct :=
  distinct_empty.insertAll history

/-- Where names are distinct, an entry is found exactly under its own name. -/
theorem Distinct.get?_eq_some_iff {r : Roster α} (distinct : r.Distinct) {name : String} {a : α} :
    r.get? name = some a ↔ (name, a) ∈ r.entries := by
  obtain ⟨entries⟩ := r
  simp only [get?, Distinct, names] at *
  induction entries with
  | nil => simp [find]
  | cons entry rest ih =>
    obtain ⟨n, b⟩ := entry
    rw [List.map_cons, List.nodup_cons] at distinct
    by_cases h : name = n
    · subst h
      simp only [find, if_true, List.mem_cons]
      constructor
      · intro e
        simp_all
      · rintro (e | mem)
        · simp_all
        · exact absurd (List.mem_map_of_mem (f := Prod.fst) mem) distinct.1
    · simp [find, h, ih distinct.2]

/-! ### Hash maps -/

/-- The entries by hash; of several under one name the last is kept. -/
def toHashMap (r : Roster α) : Std.HashMap String α :=
  .ofList r.entries

theorem contains_toHashMap (r : Roster α) (name : String) :
    r.toHashMap.contains name ↔ name ∈ r.names := by
  simp [toHashMap, names]

/-- Where names are distinct, it does not matter which entry of a name is kept. -/
theorem Distinct.getElem?_toHashMap {r : Roster α} (distinct : r.Distinct) (name : String) :
    r.toHashMap[name]? = r.get? name := by
  have apart : r.entries.Pairwise fun a b => (a.1 == b.1) = false := by
    simpa [Distinct, names, List.Nodup, List.pairwise_map] using distinct
  cases found : r.get? name with
  | none =>
    have absent := (r.get?_eq_none_iff name).mp found
    have lacks : r.toHashMap.contains name = false :=
      Bool.eq_false_iff.mpr (mt (r.contains_toHashMap name).mp absent)
    rw [Std.HashMap.getElem?_eq_none_of_contains_eq_false lacks]
  | some a =>
    have mem := distinct.get?_eq_some_iff.mp found
    exact Std.HashMap.getElem?_ofList_of_mem (beq_self_eq_true name) apart mem

end Roster

end Switchboard

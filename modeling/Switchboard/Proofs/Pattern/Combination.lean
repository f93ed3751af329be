import Mathlib.Data.List.Basic
import Switchboard.Pattern.Matcher

/-!
Combining patterns with result functions: when it succeeds, and what the matcher
then holds.

Combining succeeds exactly when both sides have the same names
(`combine_eq_ok_iff`). The matcher then joins the two sides: its names are the
table's, and each arm has the pattern and the result function found under its name
(`Matcher.Joins`). Taking result functions out of a hash map is the same as looking
each of them up, because no name occurs twice in the table (`pair_eq_filterMap`).
`Matcher.ofHistories` combines what two histories of registrations lead to.
-/

namespace Switchboard

variable {S P R : Type}

/-- The matcher has the table's names, and each arm the pattern and the result function of its
name. -/
structure Matcher.Joins (m : Matcher S P R) (table : Patterns S P) (results : Results P R) :
    Prop where
  names_eq : m.names = table.names
  pattern_of : ∀ arm ∈ m.arms, ∃ pattern,
    table.get? arm.name = some pattern ∧ arm.extract = pattern.extract
  result_of : ∀ arm ∈ m.arms, results.get? arm.name = some arm.result

namespace Pending

/-! ### Pairing -/

/-- The arm of an entry, if there is a result function of its name. -/
def armOf (result? : String → Option (P → Run R)) (entry : String × Pattern S P) :
    Option (Arm S P R) :=
  (result? entry.1).map fun result => ⟨entry.1, entry.2.extract, result⟩

theorem armOf_eq_some_iff {result? : String → Option (P → Run R)} {entry : String × Pattern S P}
    {arm : Arm S P R} :
    armOf result? entry = some arm ↔
      arm.name = entry.1 ∧ arm.extract = entry.2.extract ∧ result? entry.1 = some arm.result := by
  rw [armOf, Option.map_eq_some_iff]
  constructor
  · rintro ⟨result, found, rfl⟩
    exact ⟨rfl, rfl, found⟩
  · rintro ⟨name_eq, extract_eq, found⟩
    exact ⟨arm.result, found, by rw [← name_eq, ← extract_eq]⟩

/-- Where no name occurs twice, a function that was taken out is not asked for again. -/
theorem pair_eq_filterMap {entries : List (String × Pattern S P)}
    (nodup : (entries.map Prod.fst).Nodup) (byName : Std.HashMap String (P → Run R)) :
    pair entries byName = entries.filterMap (armOf fun name => byName[name]?) := by
  induction entries generalizing byName with
  | nil => rfl
  | cons entry rest ih =>
    obtain ⟨name, pattern⟩ := entry
    rw [List.map_cons, List.nodup_cons] at nodup
    obtain ⟨absent, nodup⟩ := nodup
    cases found : byName[name]? with
    | none => simp [pair, armOf, found, ih nodup]
    | some result =>
      have kept : ∀ entry ∈ rest, armOf (fun other => (byName.erase name)[other]?) entry =
          armOf (fun other => byName[other]?) entry := by
        intro entry mem
        have listed : entry.1 ∈ rest.map Prod.fst := List.mem_map_of_mem mem
        have ne : name ≠ entry.1 := fun same => absent (same ▸ listed)
        rw [armOf, armOf, Std.HashMap.getElem?_erase, if_neg (by simpa using ne)]
      have first : armOf (fun other => byName[other]?) (name, pattern) =
          some ⟨name, pattern.extract, result⟩ := armOf_eq_some_iff.mpr ⟨rfl, rfl, found⟩
      rw [List.filterMap_cons_some first, ← List.filterMap_congr kept, ← ih nodup, pair, found]

/-! ### Combining -/

theorem combine_eq (p : Pending S P) (results : Results P R) :
    p.combine results =
      if p.unanswered results.toHashMap = [] then
        if p.unmatched results = [] then .ok ⟨pair p.table.entries results.toHashMap⟩
        else .error (.unmatched (p.unmatched results))
      else .error (.unanswered (p.unanswered results.toHashMap)) := by
  rw [combine]
  cases missing : p.unanswered results.toHashMap with
  | cons name rest => simp
  | nil =>
    cases unknown : p.unmatched results with
    | cons name rest => simp
    | nil => simp

theorem unanswered_eq_nil_iff {p : Pending S P} {results : Results P R} :
    p.unanswered results.toHashMap = [] ↔ ∀ name ∈ p.table.names, name ∈ results.names := by
  rw [List.eq_nil_iff_forall_not_mem]
  simp only [mem_unanswered_iff, not_and, not_not]

theorem unmatched_eq_nil_iff {p : Pending S P} {results : Results P R} :
    p.unmatched results = [] ↔ ∀ name ∈ results.names, name ∈ p.table.names := by
  rw [List.eq_nil_iff_forall_not_mem]
  simp only [mem_unmatched_iff, not_and, not_not]

theorem combine_eq_ok_iff {p : Pending S P} {results : Results P R} {m : Matcher S P R} :
    p.combine results = .ok m ↔
      (∀ name, name ∈ p.table.names ↔ name ∈ results.names) ∧
        m.arms = pair p.table.entries results.toHashMap := by
  have same_iff : (∀ name, name ∈ p.table.names ↔ name ∈ results.names) ↔
      p.unanswered results.toHashMap = [] ∧ p.unmatched results = [] := by
    rw [unanswered_eq_nil_iff, unmatched_eq_nil_iff]
    exact ⟨fun same => ⟨fun name => (same name).mp, fun name => (same name).mpr⟩,
      fun ⟨answered, matched⟩ name => ⟨answered name, matched name⟩⟩
  rw [same_iff, combine_eq]
  obtain ⟨arms⟩ := m
  by_cases answered : p.unanswered results.toHashMap = []
  · by_cases matched : p.unmatched results = []
    · simp [answered, matched, eq_comm]
    · simp [answered, matched]
  · simp [answered]

theorem combine_eq_ok_iff_of_distinct {p : Pending S P} {results : Results P R}
    {m : Matcher S P R} (distinct : p.table.Distinct) (apart : results.Distinct) :
    p.combine results = .ok m ↔
      (∀ name, name ∈ p.table.names ↔ name ∈ results.names) ∧
        m.arms = p.table.entries.filterMap (armOf results.get?) := by
  have looked_up : (fun name => results.toHashMap[name]?) = results.get? :=
    funext apart.getElem?_toHashMap
  rw [combine_eq_ok_iff, pair_eq_filterMap distinct, looked_up]

theorem joins_of_combine {p : Pending S P} {results : Results P R} {m : Matcher S P R}
    (distinct : p.table.Distinct) (apart : results.Distinct)
    (combined : p.combine results = .ok m) : m.Joins p.table results := by
  obtain ⟨same, arms_eq⟩ := (combine_eq_ok_iff_of_distinct distinct apart).mp combined
  have of_arm : ∀ arm ∈ m.arms, ∃ entry ∈ p.table.entries,
      arm.name = entry.1 ∧ arm.extract = entry.2.extract ∧
        results.get? entry.1 = some arm.result := by
    intro arm mem
    rw [arms_eq] at mem
    obtain ⟨entry, listed, made⟩ := List.mem_filterMap.mp mem
    exact ⟨entry, listed, armOf_eq_some_iff.mp made⟩
  constructor
  · have named : ∀ entry ∈ p.table.entries,
        (armOf results.get? entry).map Arm.name = some entry.1 := by
      intro entry mem
      have answered : (results.get? entry.1).isSome := by
        rw [Roster.get?_isSome_iff, ← same]
        exact List.mem_map_of_mem mem
      obtain ⟨result, found⟩ := Option.isSome_iff_exists.mp answered
      rw [armOf, found]
      rfl
    rw [Matcher.names, arms_eq, List.map_filterMap, List.filterMap_congr named]
    exact congrFun List.filterMap_eq_map p.table.entries
  · intro arm mem
    obtain ⟨entry, listed, name_eq, extract_eq, _⟩ := of_arm arm mem
    exact ⟨entry.2, by rw [name_eq]; exact distinct.get?_eq_some_iff.mpr listed, extract_eq⟩
  · intro arm mem
    obtain ⟨entry, _, name_eq, _, found⟩ := of_arm arm mem
    rw [name_eq, found]

end Pending

/-! ### Histories -/

namespace Matcher

/-- Register the patterns and the result functions one after the other, and combine them. -/
def ofHistories (patterns : History (Pattern S P)) (results : History (P → Run R)) :
    Run (Except PatternFault (Matcher S P R)) :=
  Pending.withResults ⟨Roster.ofHistory patterns⟩ (Roster.ofHistory results)

variable {patterns : History (Pattern S P)} {results : History (P → Run R)}

theorem ofHistories_eq_ok_iff {m : Matcher S P R} :
    (ofHistories patterns results).outcome = .returned (.ok m) ↔
      (∀ name, name ∈ patterns.map Prod.fst ↔ name ∈ results.map Prod.fst) ∧
        m.arms = (Roster.ofHistory patterns).entries.filterMap
          (Pending.armOf (Roster.ofHistory results).get?) := by
  have combined := Pending.combine_eq_ok_iff_of_distinct (m := m)
    (p := ⟨Roster.ofHistory patterns⟩) (Roster.distinct_ofHistory patterns)
    (Roster.distinct_ofHistory results)
  simp only [Roster.names_ofHistory, History.mem_names_iff] at combined
  rw [ofHistories, Pending.outcome_withResults, Outcome.returned.injEq]
  exact combined

theorem exists_ofHistories_iff :
    (∃ m, (ofHistories patterns results).outcome = .returned (.ok m)) ↔
      ∀ name, name ∈ patterns.map Prod.fst ↔ name ∈ results.map Prod.fst := by
  constructor
  · rintro ⟨m, made⟩
    exact (ofHistories_eq_ok_iff.mp made).1
  · intro same
    exact ⟨⟨_⟩, ofHistories_eq_ok_iff.mpr ⟨same, rfl⟩⟩

theorem joins_ofHistories {m : Matcher S P R}
    (made : (ofHistories patterns results).outcome = .returned (.ok m)) :
    m.Joins (Roster.ofHistory patterns) (Roster.ofHistory results) := by
  rw [ofHistories, Pending.outcome_withResults, Outcome.returned.injEq] at made
  exact Pending.joins_of_combine (Roster.distinct_ofHistory patterns)
    (Roster.distinct_ofHistory results) made

end Matcher

end Switchboard

import Switchboard.Proofs.Pattern.FirstMatch

/-!
Mappings that hold the same result functions.

A mapping is a list of its entries, and combining pours it into a hash map and takes
result functions out again in the order of the patterns. What comes of it depends on
which function each name has and on nothing else, with one exception: names without
a pattern are reported in the order of the mapping (`sameVerdict_of_get?_eq`). So
neither the order in which result functions are registered nor one that was replaced
can be told from the matcher.
-/

namespace Switchboard

variable {S P R : Type}

namespace Pending

/-! ### The steps of combining -/

section Steps

variable {p : Pending S P} {results results' : Results P R}

/-- Patterns without a result function are listed in the order of the table. -/
theorem unanswered_congr (same : ∀ name, name ∈ results.names ↔ name ∈ results'.names) :
    p.unanswered results.toHashMap = p.unanswered results'.toHashMap := by
  refine List.filter_congr fun name _ => congrArg (! ·) ?_
  rw [Bool.eq_iff_iff, Roster.contains_toHashMap, Roster.contains_toHashMap, same]

/-- Result functions without a pattern are listed in the order of the mapping. -/
theorem perm_unmatched (distinct : results.Distinct) (distinct' : results'.Distinct)
    (same : ∀ name, name ∈ results.names ↔ name ∈ results'.names) :
    (p.unmatched results).Perm (p.unmatched results') := by
  have permuted : results.names.Perm results'.names :=
    (List.perm_ext_iff_of_nodup distinct distinct').mpr same
  exact permuted.filter _

/-- Each pattern takes the function of its name, wherever that stands in the mapping. -/
theorem pair_congr (once : p.table.Distinct) (distinct : results.Distinct)
    (distinct' : results'.Distinct) (same : results.get? = results'.get?) :
    pair p.table.entries results.toHashMap = pair p.table.entries results'.toHashMap := by
  rw [pair_eq_filterMap once, pair_eq_filterMap once, funext distinct.getElem?_toHashMap,
    funext distinct'.getElem?_toHashMap]
  exact congrArg (fun result? => p.table.entries.filterMap (armOf result?)) same

end Steps

/-! ### Verdicts -/

/-- What combining one table with either of two mappings leads to, when nothing but the order of
names without a pattern may tell the mappings apart. -/
inductive SameVerdict :
    Except PatternFault (Matcher S P R) → Except PatternFault (Matcher S P R) → Prop where
  /-- One and the same matcher. -/
  | made (m : Matcher S P R) : SameVerdict (.ok m) (.ok m)
  | unanswered (missing : List String) :
      SameVerdict (.error (.unanswered missing)) (.error (.unanswered missing))
  | unmatched {unknown unknown' : List String} : unknown.Perm unknown' →
      SameVerdict (.error (.unmatched unknown)) (.error (.unmatched unknown'))

theorem sameVerdict_of_get?_eq {p : Pending S P} {results results' : Results P R}
    (once : p.table.Distinct) (distinct : results.Distinct) (distinct' : results'.Distinct)
    (same : results.get? = results'.get?) :
    SameVerdict (p.combine results) (p.combine results') := by
  have named : ∀ name, name ∈ results.names ↔ name ∈ results'.names := by
    intro name
    rw [← Roster.get?_isSome_iff, ← Roster.get?_isSome_iff, same]
  have unknown := perm_unmatched (p := p) distinct distinct' named
  rw [combine_eq, combine_eq, unanswered_congr named, pair_congr once distinct distinct' same]
  by_cases answered : p.unanswered results'.toHashMap = []
  · rw [if_pos answered, if_pos answered]
    by_cases matched : p.unmatched results = []
    · have matched' : p.unmatched results' = [] := by
        rw [matched] at unknown
        exact unknown.nil_eq.symm
      rw [if_pos matched, if_pos matched']
      exact .made _
    · have unmatched' : p.unmatched results' ≠ [] := by
        intro matched'
        rw [matched'] at unknown
        exact matched unknown.eq_nil
      rw [if_neg matched, if_neg unmatched']
      exact .unmatched unknown
  · rw [if_neg answered, if_neg answered]
    exact .unanswered _

/-- The report of combining does not tell them apart either. -/
theorem journal_withResults_of_sameVerdict {p : Pending S P} {results results' : Results P R}
    (same : SameVerdict (p.combine results) (p.combine results')) :
    (p.withResults results).journal = (p.withResults results').journal := by
  rw [withResults, withResults]
  generalize p.combine results = verdict at same
  generalize p.combine results' = verdict' at same
  cases same with
  | made m => rfl
  | unanswered missing => rfl
  | unmatched permuted => rfl

end Pending

/-! ### Histories of registrations -/

namespace Matcher

/-- Register result functions in two ways that end with the same function for each name, and for no
name in only one of them. Then a table combines with both or with neither. If it does, the matcher
is one and the same, and so is all that it answers, calls and reports; the report of combining is
the same too. If it does not, the fault is of the same kind: names without a result function are
listed alike, and names without a pattern are the same up to their order. -/
theorem registration_order_is_irrelevant (patterns : History (Pattern S P))
    {results results' : History (P → Run R)}
    (same : ∀ name, results.latest name = results'.latest name) :
    (ofHistories patterns results).journal = (ofHistories patterns results').journal ∧
    ∃ verdict verdict', (ofHistories patterns results).outcome = .returned verdict ∧
      (ofHistories patterns results').outcome = .returned verdict' ∧
      Pending.SameVerdict verdict verdict' := by
  have looked_up := Roster.get?_ofHistory_congr same
  have alike := Pending.sameVerdict_of_get?_eq (p := ⟨Roster.ofHistory patterns⟩)
    (Roster.distinct_ofHistory patterns) (Roster.distinct_ofHistory results)
    (Roster.distinct_ofHistory results') looked_up
  exact ⟨Pending.journal_withResults_of_sameVerdict alike, _, _,
    Pending.outcome_withResults _ _, Pending.outcome_withResults _ _, alike⟩

/-- The result functions for even and odd numbers in the other order, one of them registered
twice. -/
def lateResults : History (Nat → Run String) :=
  [("even", fun _ => Run.panic "replaced"), ("even", fun n => return s!"even {n}"),
    ("odd", fun n => return s!"odd {n}")]

theorem registration_order_is_irrelevant_late :
    (∀ name, History.latest name parityResults = History.latest name lateResults) ∧
      ∃ m, (ofHistories parityPatterns parityResults).outcome = .returned (.ok m) ∧
        (ofHistories parityPatterns lateResults).outcome = .returned (.ok m) := by
  have same : ∀ name, History.latest name parityResults = History.latest name lateResults := by
    intro name
    by_cases even : name = "even"
    · subst even
      rfl
    · simp [parityResults, lateResults, History.latest, even]
  obtain ⟨m, made⟩ := exists_ofHistories_iff.mpr parity_same_names
  obtain ⟨_, verdict, verdict', decided, decided', alike⟩ :=
    registration_order_is_irrelevant parityPatterns same
  rw [made] at decided
  cases decided
  cases alike
  exact ⟨same, m, made, decided'⟩

end Matcher

end Switchboard

import Switchboard.Proofs.Pattern.FirstMatch

/-!
What the order of patterns decides.

Two neighbouring arms can change places unnoticed wherever one of them finds nothing
(`ending_swap`). So an arm can be moved past any number of neighbours of which this
holds (`ending_move`), and where no two arms both find something, arms can be put into
any order (`ending_perm`). `order_matters_only_on_overlaps` says the same of tables:
the order of their entries shows only on inputs in which several patterns find a
value.
-/

namespace Switchboard

variable {S P R : Type}

/-! ### Matchers that agree -/

namespace Matcher

/-- The two matchers give the same answer to the input, or the same panic, and name the same
winner. -/
def AgreesWith (m m' : Matcher S P R) (input : S) : Prop :=
  (m.answer input).outcome = (m'.answer input).outcome ∧
    (m.winner input).outcome = (m'.winner input).outcome

theorem agreesWith_of_ending {m m' : Matcher S P R} {input : S}
    (same : ending m.arms input = ending m'.arms input) : m.AgreesWith m' input := by
  obtain ⟨answered, won⟩ := m.outcomes_of_ending input
  obtain ⟨answered', won'⟩ := m'.outcomes_of_ending input
  exact ⟨by rw [answered, answered', same], by rw [won, won', same]⟩

/-! ### Arms that change places -/

theorem ending_append_congr {arms arms' : List (Arm S P R)} {input : S}
    (same : ending arms input = ending arms' input) (before : List (Arm S P R)) :
    ending (before ++ arms) input = ending (before ++ arms') input := by
  induction before with
  | nil => exact same
  | cons arm rest ih => simp only [List.cons_append, ending, ih]

theorem ending_swap {a b : Arm S P R} {input : S} (apart : a.Passes input ∨ b.Passes input)
    (rest : List (Arm S P R)) : ending (a :: b :: rest) input = ending (b :: a :: rest) input := by
  cases apart with
  | inl passes =>
    have later := ending_append_congr (ending_cons_of_passes passes rest) [b]
    exact (ending_cons_of_passes passes (b :: rest)).trans later.symm
  | inr passes =>
    have later := ending_append_congr (ending_cons_of_passes passes rest) [a]
    exact later.trans (ending_cons_of_passes passes (a :: rest)).symm

/-- An arm is moved by changing places with one neighbour after the other. -/
theorem ending_move {moved : Arm S P R} {passed : List (Arm S P R)} {input : S}
    (apart : ∀ arm ∈ passed, moved.Passes input ∨ arm.Passes input)
    (before after : List (Arm S P R)) :
    ending (before ++ moved :: passed ++ after) input =
      ending (before ++ passed ++ moved :: after) input := by
  rw [List.append_assoc, List.append_assoc]
  refine ending_append_congr ?_ before
  induction passed with
  | nil => rfl
  | cons arm rest ih =>
    obtain ⟨first, others⟩ := List.forall_mem_cons.mp apart
    exact (ending_swap first (rest ++ after)).trans (ending_append_congr (ih others) [arm])

theorem ending_perm {arms arms' : List (Arm S P R)} {input : S} (permuted : arms.Perm arms')
    (apart : arms.Pairwise fun a b => a.Passes input ∨ b.Passes input) :
    ending arms input = ending arms' input := by
  induction permuted with
  | nil => rfl
  | cons arm _ ih => exact ending_append_congr (ih apart.of_cons) [arm]
  | swap a b rest =>
    have neighbours := (List.pairwise_cons.mp apart).1 a (List.mem_cons_self ..)
    exact ending_swap neighbours rest
  | trans first _ ih ih' => exact (ih apart).trans (ih' (first.pairwise apart Or.symm))

end Matcher

/-! ### Patterns that change places -/

/-- The pattern returns nothing for the input. -/
def Pattern.Passes (pattern : Pattern S P) (input : S) : Prop :=
  (pattern.extract input).outcome = .returned none

/-- A pattern that does not panic passes exactly where it finds no value. -/
theorem Pattern.found?_eq_none_iff {pattern : Pattern S P} {input : S}
    (quiet : ∀ text, (pattern.extract input).outcome ≠ .panicked text) :
    pattern.found? input = none ↔ pattern.Passes input := by
  rw [found?, Passes]
  cases ended : (pattern.extract input).outcome with
  | panicked text => exact absurd ended (quiet text)
  | returned found => simp

/-- Of two patterns that do not panic one passes exactly where not both find a value. -/
theorem Pattern.passes_or_passes_iff {a b : Pattern S P} {input : S}
    (quiet : ∀ text, (a.extract input).outcome ≠ .panicked text)
    (quiet' : ∀ text, (b.extract input).outcome ≠ .panicked text) :
    a.Passes input ∨ b.Passes input ↔
      ¬((a.found? input).isSome ∧ (b.found? input).isSome) := by
  rw [← found?_eq_none_iff quiet, ← found?_eq_none_iff quiet', not_and_or,
    Option.not_isSome_iff_eq_none, Option.not_isSome_iff_eq_none]

namespace Patterns

/-- No pattern of the table panics on the input, and at most one of them finds a value. -/
structure Unambiguous (table : Patterns S P) (input : S) : Prop where
  quiet : ∀ entry ∈ table.entries, ∀ text, (entry.2.extract input).outcome ≠ .panicked text
  single : ∀ a ∈ table.entries, ∀ b ∈ table.entries,
    (a.2.found? input).isSome → (b.2.found? input).isSome → a.1 = b.1

theorem Unambiguous.pairwise_passes {table : Patterns S P} {input : S}
    (unambiguous : Unambiguous table input) (distinct : table.Distinct) :
    table.entries.Pairwise fun a b => a.2.Passes input ∨ b.2.Passes input := by
  have apart : table.entries.Pairwise fun a b => a.1 ≠ b.1 := List.pairwise_map.mp distinct
  refine apart.imp_of_mem fun {a b} memA memB ne => ?_
  rw [Pattern.passes_or_passes_iff (unambiguous.quiet a memA) (unambiguous.quiet b memB)]
  exact fun ⟨foundA, foundB⟩ => ne (unambiguous.single a memA b memB foundA foundB)

/-- `MovedBack input entries entries'`: one entry of the former has been moved behind neighbours,
and of it and each of these at least one passes on the input. Where none panics, this is to say
that not both find a value (`Pattern.passes_or_passes_iff`). -/
inductive MovedBack (input : S) :
    List (String × Pattern S P) → List (String × Pattern S P) → Prop where
  | past {before passed after : List (String × Pattern S P)} {moved : String × Pattern S P} :
      (∀ entry ∈ passed, moved.2.Passes input ∨ entry.2.Passes input) →
      MovedBack input (before ++ moved :: passed ++ after) (before ++ passed ++ moved :: after)

end Patterns

namespace Matcher

theorem passes_iff_of_armOf {result? : String → Option (P → Run R)}
    {entry : String × Pattern S P} {arm : Arm S P R} (made : Pending.armOf result? entry = some arm)
    (input : S) : arm.Passes input ↔ entry.2.Passes input := by
  rw [Arm.Passes, Pattern.Passes, (Pending.armOf_eq_some_iff.mp made).2.1]

/-- The arms of a table change places as its entries do. -/
theorem ending_of_movedBack (result? : String → Option (P → Run R))
    {entries entries' : List (String × Pattern S P)} {input : S}
    (moves : Patterns.MovedBack input entries entries') :
    ending (entries.filterMap (Pending.armOf result?)) input =
      ending (entries'.filterMap (Pending.armOf result?)) input := by
  obtain @⟨before, passed, after, moved, apart⟩ := moves
  cases made : Pending.armOf result? moved with
  | none => simp [made]
  | some arm =>
    simp only [List.filterMap_append, List.filterMap_cons, made]
    refine ending_move (fun other mem => ?_) _ _
    obtain ⟨entry, listed, made'⟩ := List.mem_filterMap.mp mem
    rw [passes_iff_of_armOf made, passes_iff_of_armOf made']
    exact apart entry listed

theorem ending_of_permuted (result? : String → Option (P → Run R))
    {entries entries' : List (String × Pattern S P)} {input : S} (permuted : entries.Perm entries')
    (apart : entries.Pairwise fun a b => a.2.Passes input ∨ b.2.Passes input) :
    ending (entries.filterMap (Pending.armOf result?)) input =
      ending (entries'.filterMap (Pending.armOf result?)) input := by
  refine ending_perm (permuted.filterMap _) (List.pairwise_filterMap.mpr ?_)
  refine apart.imp fun apart arm made arm' made' => ?_
  rw [passes_iff_of_armOf made, passes_iff_of_armOf made']
  exact apart

/-- Take a table, result functions for its names, and mappings that have these functions,
registered in whichever order. Every permutation of the entries is a table, and every table with
the same entries in another order combines with the functions too. The two matchers agree on every
input on which at most one pattern of the table finds a value and none panics. And where the one
table comes from the other by moving one entry past neighbours, they agree on every input for which
of the entry and each of these neighbours one finds nothing, whatever the other patterns do. -/
theorem order_matters_only_on_overlaps {patterns : History (Pattern S P)}
    {results results' : History (P → Run R)}
    (named : ∀ name, name ∈ patterns.map Prod.fst ↔ name ∈ results.map Prod.fst)
    (same : ∀ name, results'.latest name = results.latest name) :
    (∀ entries', entries'.Perm (Roster.ofHistory patterns).entries →
      (Roster.ofHistory entries').entries = entries') ∧
    ∀ patterns' : History (Pattern S P),
      (Roster.ofHistory patterns').entries.Perm (Roster.ofHistory patterns).entries →
      ∃ m m', (ofHistories patterns results).outcome = .returned (.ok m) ∧
        (ofHistories patterns' results').outcome = .returned (.ok m') ∧
        (∀ input, Patterns.Unambiguous (Roster.ofHistory patterns) input →
          m.AgreesWith m' input) ∧
        ∀ input,
          Patterns.MovedBack input (Roster.ofHistory patterns).entries
              (Roster.ofHistory patterns').entries ∨
            Patterns.MovedBack input (Roster.ofHistory patterns').entries
              (Roster.ofHistory patterns).entries →
          m.AgreesWith m' input := by
  constructor
  · intro entries' permuted
    refine Roster.entries_ofHistory_of_nodup ?_
    exact (permuted.map Prod.fst).nodup_iff.mpr (Roster.distinct_ofHistory patterns)
  intro patterns' permuted
  have looked_up := Roster.get?_ofHistory_congr same
  have named' : ∀ name, name ∈ patterns'.map Prod.fst ↔ name ∈ results'.map Prod.fst := by
    intro name
    calc name ∈ patterns'.map Prod.fst
        ↔ name ∈ (Roster.ofHistory patterns').names := Roster.mem_names_ofHistory_iff.symm
      _ ↔ name ∈ (Roster.ofHistory patterns).names := (permuted.map Prod.fst).mem_iff
      _ ↔ name ∈ results.map Prod.fst := Roster.mem_names_ofHistory_iff.trans (named name)
      _ ↔ name ∈ results'.map Prod.fst := by
        rw [← History.latest_isSome_iff, ← same, History.latest_isSome_iff]
  refine ⟨⟨_⟩, ⟨_⟩, ofHistories_eq_ok_iff.mpr ⟨named, rfl⟩,
    ofHistories_eq_ok_iff.mpr ⟨named', rfl⟩, ?_, ?_⟩
  · intro input unambiguous
    have apart := unambiguous.pairwise_passes (Roster.distinct_ofHistory patterns)
    refine agreesWith_of_ending ?_
    rw [looked_up]
    exact ending_of_permuted _ permuted.symm apart
  · intro input moves
    refine agreesWith_of_ending ?_
    rw [looked_up]
    cases moves with
    | inl back => exact ending_of_movedBack _ back
    | inr forth => exact (ending_of_movedBack _ forth).symm

/-- The patterns for even and odd numbers in the other order. -/
def oddFirst : History (Pattern Nat Nat) :=
  (Roster.ofHistory parityPatterns).entries.reverse

theorem unambiguous_seven : Patterns.Unambiguous (Roster.ofHistory parityPatterns) 7 where
  quiet entry mem text panics := by
    rcases List.mem_pair.mp mem with rfl | rfl
    · cases panics
    · cases panics
  single a memA b memB foundA foundB := by
    rcases List.mem_pair.mp memA with rfl | rfl
    · cases foundA
    · rcases List.mem_pair.mp memB with rfl | rfl
      · cases foundB
      · rfl

theorem movedBack_seven :
    Patterns.MovedBack 7 (Roster.ofHistory parityPatterns).entries
      (Roster.ofHistory oddFirst).entries := by
  let even : Pattern Nat Nat := .predicate id fun n => return n % 2 == 0
  let odd : Pattern Nat Nat := .predicate id fun n => return n % 2 == 1
  exact @Patterns.MovedBack.past Nat Nat 7 [] [("odd", odd)] [] ("even", even)
    fun _ _ => .inl rfl

theorem order_matters_only_on_overlaps_seven :
    ∃ m m', (ofHistories parityPatterns parityResults).outcome = .returned (.ok m) ∧
      (ofHistories oddFirst parityResults.reverse).outcome = .returned (.ok m') ∧
      Patterns.Unambiguous (Roster.ofHistory parityPatterns) 7 ∧
      Patterns.MovedBack 7 (Roster.ofHistory parityPatterns).entries
        (Roster.ofHistory oddFirst).entries ∧
      m.AgreesWith m' 7 := by
  have same : ∀ name, History.latest name parityResults.reverse =
      History.latest name parityResults := by
    intro name
    by_cases even : name = "even"
    · subst even
      rfl
    · simp [parityResults, History.latest, even]
  obtain ⟨tables, agrees⟩ := order_matters_only_on_overlaps parity_same_names same
  have permuted : (Roster.ofHistory oddFirst).entries.Perm
      (Roster.ofHistory parityPatterns).entries := by
    have reversed := List.reverse_perm (Roster.ofHistory parityPatterns).entries
    rw [oddFirst, tables _ reversed]
    exact reversed
  obtain ⟨m, m', made, made', _, moved⟩ := agrees oddFirst permuted
  exact ⟨m, m', made, made', unambiguous_seven, movedBack_seven, moved 7 (.inl movedBack_seven)⟩

end Matcher

end Switchboard

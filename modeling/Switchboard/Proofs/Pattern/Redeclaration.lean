import Mathlib.Logic.Relation
import Switchboard.Proofs.Pattern.FirstMatch

/-!
Ways to declare one test.

A caller may declare a test as a predicate, as an extraction or as a decoder, and a
decoder may answer with an option, with a result or with a type of the caller's own
(`Pattern.Redeclares`). Every declaration comes down to the same extraction
(`Redeclares.extract_eq`). Combining a table with result functions looks at names and
extractions only (`withResults_eq_of_tests`), so neither the matcher nor anything that
it does tells which declaration stands in the table.
-/

namespace Switchboard

variable {S P R : Type}

/-! ### Runs that are alike -/

/-- Two endings agree when both return, with values that correspond, or both panic with one
text. -/
inductive Outcome.Agrees {A B : Type} (rel : A → B → Prop) : Outcome A → Outcome B → Prop where
  | returned {a : A} {b : B} : rel a b → Agrees rel (.returned a) (.returned b)
  | panicked (text : String) : Agrees rel (.panicked text) (.panicked text)

/-- Two runs leave the same behind, and their endings agree. -/
structure Run.Alike {A B : Type} (rel : A → B → Prop) (r : Run A) (s : Run B) : Prop where
  journal_eq : r.journal = s.journal
  outcome_agrees : r.outcome.Agrees rel s.outcome

/-- Runs that are alike become the same run once corresponding values are made equal. -/
theorem Run.Alike.map_eq_map {A B C : Type} {rel : A → B → Prop} {r : Run A} {s : Run B}
    (alike : r.Alike rel s) {f : A → C} {g : B → C} (agree : ∀ a b, rel a b → f a = g b) :
    f <$> r = g <$> s := by
  obtain ⟨journal, outcome⟩ := r
  obtain ⟨journal', outcome'⟩ := s
  obtain ⟨same, ends⟩ := alike
  cases same
  cases ends with
  | returned corresponds => simp [Functor.map, Run.andThen, agree _ _ corresponds]
  | panicked text => simp [Functor.map, Run.andThen]

/-! ### Declarations of one test -/

/-- The result holds the value of the option, or an error, whichever, where there is none. -/
inductive Reports {A E : Type} : Option A → Except E A → Prop where
  | value (a : A) : Reports (some a) (.ok a)
  | failure (error : E) : Reports none (.error error)

theorem Reports.toOption_eq {A E : Type} {found : Option A} {result : Except E A}
    (reports : Reports found result) :
    OptionLike.toOption found = OptionLike.toOption result := by
  cases reports <;> rfl

namespace Pattern

/-- `Redeclares old new`: the new pattern declares the test of the old one in another way. -/
inductive Redeclares : Pattern S P → Pattern S P → Prop where
  /-- A predicate, as an extraction of the input, converted, where the predicate holds. -/
  | extraction {convert : S → P} {test : S → Run Bool} {extract : S → Run (Option P)} :
      (∀ input, (test input).Alike
        (fun holds found => found = if holds then some (convert input) else none)
        (extract input)) →
      Redeclares (.predicate convert test) (.extracting extract)
  /-- An extraction, as a decoding function that answers with an option. -/
  | function (extract : S → Run (Option P)) :
      Redeclares (.extracting extract) (.decodingWith extract)
  /-- An extraction, as a decoder that answers with an option. -/
  | decoder {D : Type} [Decoder D S (Option P)] (decoder : D) :
      Redeclares (.extracting (Decoder.decode decoder)) (.decoding decoder)
  /-- An option as the answer, for which a result is given. -/
  | result {E : Type} {decode : S → Run (Option P)} {decode' : S → Run (Except E P)} :
      (∀ input, (decode input).Alike Reports (decode' input)) →
      Redeclares (.decodingWith decode) (.decodingWith decode')
  /-- One kind of answer, for which another is given that holds the same value or none. -/
  | answer {F G : Type} [OptionLike F P] [OptionLike G P] {decode : S → Run F}
      {decode' : S → Run G} :
      (∀ input, (decode input).Alike
        (fun found found' => OptionLike.toOption found = OptionLike.toOption found')
        (decode' input)) →
      Redeclares (.decodingWith decode) (.decodingWith decode')
  /-- A decoder, as its bare function. -/
  | bare {D F : Type} [Decoder D S F] [OptionLike F P] (decoder : D) :
      Redeclares (.decoding decoder) (.decodingWith (Decoder.decode decoder))

/-- What a predicate extracts. -/
theorem extract_predicate (convert : S → P) (test : S → Run Bool) (input : S) :
    (predicate convert test).extract input =
      (fun holds => if holds then some (convert input) else none) <$> test input := by
  rw [map_eq_pure_bind]
  refine congrArg (test input >>= ·) (funext fun holds => ?_)
  cases holds <;> rfl

/-- What a decoding function extracts. -/
theorem extract_decodingWith {F : Type} [OptionLike F P] (decode : S → Run F) (input : S) :
    (decodingWith decode).extract input = OptionLike.toOption <$> decode input := by
  rw [map_eq_pure_bind]
  rfl

/-- All declarations of a test extract alike. -/
theorem Redeclares.extract_eq {old new : Pattern S P} (same : Redeclares old new) (input : S) :
    new.extract input = old.extract input := by
  cases same with
  | @extraction convert test extract alike =>
    rw [extract_predicate]
    have extracted : _ <$> _ = id <$> extract input :=
      (alike input).map_eq_map fun _ _ corresponds => corresponds.symm
    rw [extracted, id_map]
    rfl
  | function extract =>
    rw [extract_decodingWith]
    exact id_map (extract input)
  | decoder decoder =>
    change (decodingWith (Decoder.decode decoder)).extract input = _
    rw [extract_decodingWith]
    exact id_map (Decoder.decode decoder input)
  | result alike =>
    rw [extract_decodingWith, extract_decodingWith]
    exact ((alike input).map_eq_map fun _ _ => Reports.toOption_eq).symm
  | answer alike =>
    rw [extract_decodingWith, extract_decodingWith]
    exact ((alike input).map_eq_map fun _ _ => id).symm
  | bare decoder => rfl

/-- So does any chain of them, in either direction. -/
theorem extract_eq_of_redeclared {old new : Pattern S P}
    (same : Relation.EqvGen Redeclares old new) : new.extract = old.extract := by
  induction same with
  | rel old new same => exact funext same.extract_eq
  | refl pattern => rfl
  | symm old new _ ih => exact ih.symm
  | trans old between new _ _ ih ih' => exact ih'.trans ih

end Pattern

/-! ### What combining looks at -/

/-- The names of a table with the tests under them, whatever their form. -/
def Patterns.tests (table : Patterns S P) : List (String × (S → Run (Option P))) :=
  table.entries.map fun entry => (entry.1, entry.2.extract)

theorem Patterns.names_eq_of_tests {table table' : Patterns S P}
    (same : table.tests = table'.tests) : table.names = table'.names := by
  have names_tests : ∀ t : Patterns S P, t.names = t.tests.map Prod.fst := by
    intro t
    simp [Roster.names, tests]
  rw [names_tests, names_tests, same]

namespace Pending

theorem pair_eq_of_tests {entries entries' : List (String × Pattern S P)}
    (same : Patterns.tests ⟨entries⟩ = Patterns.tests ⟨entries'⟩)
    (byName : Std.HashMap String (P → Run R)) : pair entries byName = pair entries' byName := by
  induction entries generalizing entries' byName with
  | nil =>
    cases entries' with
    | nil => rfl
    | cons entry' rest' => cases same
  | cons entry rest ih =>
    cases entries' with
    | nil => cases same
    | cons entry' rest' =>
      obtain ⟨name, pattern⟩ := entry
      obtain ⟨name', pattern'⟩ := entry'
      simp only [Patterns.tests, List.map_cons, List.cons.injEq, Prod.mk.injEq] at same
      obtain ⟨⟨rfl, extract_eq⟩, rest_eq⟩ := same
      -- What is left of the hash map differs by arm, so the rest has to agree for every one.
      have later : ∀ byName, pair rest byName = pair rest' byName := ih rest_eq
      rw [pair, pair]
      cases byName[name]? with
      | none => exact later byName
      | some result => simp only [extract_eq, later]

/-- Tables with the same tests under the same names combine alike. -/
theorem withResults_eq_of_tests {table table' : Patterns S P} (same : table.tests = table'.tests)
    (results : Results P R) :
    withResults ⟨table⟩ results = withResults ⟨table'⟩ results := by
  have names_eq := Patterns.names_eq_of_tests same
  have contains_eq : table.contains = table'.contains := by
    funext name
    rw [Bool.eq_iff_iff, Roster.contains_iff, Roster.contains_iff, names_eq]
  have paired : pair table.entries results.toHashMap = pair table'.entries results.toHashMap :=
    pair_eq_of_tests same _
  have combined : combine ⟨table⟩ results = combine ⟨table'⟩ results := by
    simp only [combine, unanswered, unmatched, names_eq, contains_eq, paired]
  rw [withResults, withResults, combined]

end Pending

/-! ### Another declaration in the table -/

/-- Registering a pattern again puts the new one in the place of the old one. -/
theorem Roster.entries_ofHistory_of_placed {α : Type} {history : History α} {name : String}
    {old : α} {before after : List (String × α)}
    (placed : (ofHistory history).entries = before ++ (name, old) :: after) (new : α) :
    (ofHistory (history ++ [(name, new)])).entries = before ++ (name, new) :: after := by
  -- Insertion stops at the first entry of the name, which is this one.
  have absent : name ∉ before.map Prod.fst := by
    have nodup := distinct_ofHistory history
    rw [Distinct, names, placed, List.map_append, List.map_cons] at nodup
    intro mem
    exact (List.nodup_append.mp nodup).2.2 name mem name (List.mem_cons_self ..) rfl
  rw [← entries_insert_of_split placed absent new]
  simp [ofHistory, insertAll]

namespace Matcher

/-- Where a pattern of a table is declared in another way, only the form of this pattern changes.
The table can be had by registering the new pattern under the name of the old one. In every table
that has the new one in place of the old one, the patterns combine with result functions exactly
as before, with the same report or the same fault; and the matcher has the same names and, for
every input, gives the same answer and names the same winner, by the same calls and reports in the
same order. -/
theorem redeclaring_is_unobservable {old new : Pattern S P}
    (same : Relation.EqvGen Pattern.Redeclares old new) (patterns : History (Pattern S P))
    (results : History (P → Run R)) {name : String} {before after : List (String × Pattern S P)}
    (placed : (Roster.ofHistory patterns).entries = before ++ (name, old) :: after) :
    new = { old with form := new.form } ∧
    (Roster.ofHistory (patterns ++ [(name, new)])).entries = before ++ (name, new) :: after ∧
    ∀ patterns' : History (Pattern S P),
      (Roster.ofHistory patterns').entries = before ++ (name, new) :: after →
      (ofHistories patterns' results).journal = (ofHistories patterns results).journal ∧
      (∀ fault, (ofHistories patterns' results).outcome = .returned (.error fault) ↔
        (ofHistories patterns results).outcome = .returned (.error fault)) ∧
      ∀ m, (ofHistories patterns results).outcome = .returned (.ok m) →
        ∃ m', (ofHistories patterns' results).outcome = .returned (.ok m') ∧
          m'.names = m.names ∧
          ∀ input, m'.answer input = m.answer input ∧ m'.winner input = m.winner input := by
  have extract_eq := Pattern.extract_eq_of_redeclared same
  refine ⟨?_, Roster.entries_ofHistory_of_placed placed new, ?_⟩
  · rw [← extract_eq]
  · intro patterns' placed'
    have tests_eq : Patterns.tests (Roster.ofHistory patterns') =
        Patterns.tests (Roster.ofHistory patterns) := by
      rw [Patterns.tests, Patterns.tests, placed, placed']
      simp only [List.map_append, List.map_cons, extract_eq]
    have combined : ofHistories patterns' results = ofHistories patterns results :=
      Pending.withResults_eq_of_tests tests_eq _
    rw [combined]
    exact ⟨rfl, fun _ => Iff.rfl, fun m made => ⟨m, made, rfl, fun _ => ⟨rfl, rfl⟩⟩⟩

/-- Odd numbers, tested by a predicate. -/
def oddPredicate : Pattern Nat Nat :=
  .predicate id fun n => return n % 2 == 1

/-- Odd numbers, found by a function that answers with an error for the others. -/
def oddDecoder : Pattern Nat Nat :=
  .decodingWith fun n => return if n % 2 == 1 then Except.ok n else Except.error "even"

theorem odd_redeclared : Relation.EqvGen Pattern.Redeclares oddPredicate oddDecoder := by
  let extract : Nat → Run (Option Nat) := fun n => return if n % 2 == 1 then some n else none
  have extraction : Pattern.Redeclares oddPredicate (.extracting extract) :=
    .extraction fun n => ⟨rfl, .returned rfl⟩
  have result : Pattern.Redeclares (.decodingWith extract) oddDecoder := by
    refine .result fun n => ⟨rfl, .returned ?_⟩
    cases n % 2 == 1 with
    | true => exact .value n
    | false => exact .failure "even"
  exact .trans _ _ _ (.rel _ _ extraction) (.trans _ _ _ (.rel _ _ (.function _)) (.rel _ _ result))

theorem redeclaring_is_unobservable_seven :
    (Roster.ofHistory parityPatterns).entries =
        [("even", .predicate id fun n => return n % 2 == 0)] ++ ("odd", oddPredicate) :: [] ∧
      ∃ m m', (ofHistories parityPatterns parityResults).outcome = .returned (.ok m) ∧
        (ofHistories (parityPatterns ++ [("odd", oddDecoder)]) parityResults).outcome =
          .returned (.ok m') ∧
        m'.answer 7 = m.answer 7 ∧ m'.winner 7 = m.winner 7 := by
  have placed : (Roster.ofHistory parityPatterns).entries =
      [("even", .predicate id fun n => return n % 2 == 0)] ++ ("odd", oddPredicate) :: [] := rfl
  obtain ⟨_, placed', unobservable⟩ :=
    redeclaring_is_unobservable odd_redeclared parityPatterns parityResults placed
  obtain ⟨m, made⟩ := exists_ofHistories_iff.mpr parity_same_names
  obtain ⟨_, _, agrees⟩ := unobservable _ placed'
  obtain ⟨m', made', _, alike⟩ := agrees m made
  exact ⟨placed, m, m', made, made', alike 7⟩

end Matcher

end Switchboard

import Switchboard.Fault

/-!
Messages tell faults apart.

A message is words and names in turn, with a backtick between each two of them. Where no
name has a backtick, cutting the message at its backticks gives these parts back
(`Text.parted_injective`). The words among the parts tell the kind of the fault, and what
stands between them are its names, of a list as many as it has: an empty list leaves the
words alone, and one empty name leaves two parts behind them.
-/

namespace Switchboard

/-! ### Texts in parts -/

namespace Text

/-- The character between parts. -/
def tick : Char := '\x60'

/-- Parts with a backtick between each two of them. -/
def parted (parts : List String) : String :=
  "`".intercalate parts

theorem parted_singleton (part : String) : parted [part] = part :=
  String.intercalate_singleton

theorem parted_cons_cons (part next : String) (rest : List String) :
    parted (part :: next :: rest) = part ++ ("`" ++ parted (next :: rest)) := by
  rw [parted, String.intercalate_cons_cons, String.append_assoc]
  rfl

theorem toList_parted (parts : List String) :
    (parted parts).toList = [tick].intercalate (parts.map String.toList) :=
  String.toList_intercalate

/-- Parts without a backtick are told by their text. -/
theorem parted_injective {parts more : List String} (some_part : parts ≠ []) (some_more : more ≠ [])
    (unticked : ∀ part ∈ parts, tick ∉ part.toList) (unticked' : ∀ part ∈ more, tick ∉ part.toList)
    (same : parted parts = parted more) : parts = more := by
  have cut : ∀ {list : List String}, list ≠ [] → (∀ part ∈ list, tick ∉ part.toList) →
      (parted list).toList.splitOn tick = list.map String.toList := by
    intro list some_part unticked
    rw [toList_parted]
    exact List.splitOn_intercalate tick (by simpa using unticked) (by simpa using some_part)
  have cut_same : parts.map String.toList = more.map String.toList := by
    rw [← cut some_part unticked, same, cut some_more unticked']
  exact List.map_inj_right (fun _ _ => String.toList_injective) |>.mp cut_same

/-- The parts that listed names add behind other words. -/
def listedParts : List String → List String
  | [] => []
  | [name] => [name, ""]
  | name :: next :: rest => name :: ", " :: listedParts (next :: rest)

theorem append_listed (words : String) (names : List String) :
    words ++ listed names = parted (words :: listedParts names) := by
  induction names generalizing words with
  | nil => rw [listed_nil, String.append_empty, listedParts, parted_singleton]
  | cons name rest ih =>
    cases rest with
    | nil =>
      change words ++ listed [name] = parted [words, name, ""]
      rw [parted_cons_cons, parted_cons_cons, parted_singleton, listed, List.map_singleton,
        String.intercalate_singleton, ticked, String.append_empty, String.append_assoc]
    | cons next rest =>
      have behind : listed (name :: next :: rest) =
          ticked name ++ ", " ++ listed (next :: rest) := String.intercalate_cons_cons
      rw [behind, listedParts, parted_cons_cons, parted_cons_cons, ← ih ", ", ticked]
      simp only [String.append_assoc]

theorem eq_or_mem_of_mem_listedParts {part : String} {names : List String}
    (mem : part ∈ listedParts names) : part = "" ∨ part = ", " ∨ part ∈ names := by
  fun_induction listedParts names with
  | case1 => simp at mem
  | case2 name =>
    rw [List.mem_cons, List.mem_singleton] at mem
    rcases mem with rfl | rfl
    · simp
    · simp
  | case3 name next rest ih =>
    rw [List.mem_cons, List.mem_cons] at mem
    rcases mem with rfl | rfl | later
    · simp
    · simp
    · rcases ih later with empty | comma | listed
      · exact .inl empty
      · exact .inr (.inl comma)
      · exact .inr (.inr (.tail _ listed))

/-- The list ends where the part behind a name is empty and not a comma with a blank. -/
theorem listedParts_inj {names more : List String} :
    listedParts names = listedParts more ↔ names = more := by
  refine ⟨fun same => ?_, congrArg listedParts⟩
  induction names generalizing more with
  | nil =>
    cases more with
    | nil => rfl
    | cons name rest => cases rest <;> simp [listedParts] at same
  | cons name rest ih =>
    cases rest with
    | nil =>
      match more with
      | [] => simp [listedParts] at same
      | [_] => simpa [listedParts] using same
      | _ :: _ :: _ => simp [listedParts] at same
    | cons next rest =>
      match more with
      | [] => simp [listedParts] at same
      | [_] => simp [listedParts] at same
      | name' :: next' :: rest' =>
        simp only [listedParts, List.cons.injEq, true_and] at same
        rw [same.1, ih same.2]

end Text

/-! ### Faults in parts -/

namespace Fault

/-- The tags and names that the fault carries. -/
def names : Fault → List String
  | .dispatch (.unhandled tag) => [tag]
  | .dispatch (.uncovered missing) => missing
  | .record .untagged => []
  | .record (.missing tag field) => [tag, field]
  | .record (.undeclared tag field) => [tag, field]
  | .record (.redeclared tag field) => [tag, field]
  | .pattern (.unanswered missing) => missing
  | .pattern (.unmatched unknown) => unknown

/-- The parts of the message, words and names in turn. -/
def parts : Fault → List String
  | .dispatch (.unhandled tag) => ["unhandled variant ", tag, ""]
  | .dispatch (.uncovered missing) =>
    "non-exhaustive handler table: missing " :: Text.listedParts missing
  | .record .untagged => ["record shape has an empty tag"]
  | .record (.missing tag field) => ["", tag, " is missing required field ", field, ""]
  | .record (.undeclared tag field) => ["", tag, " has no field named ", field, ""]
  | .record (.redeclared tag field) => ["", tag, " declares field ", field, " more than once"]
  | .pattern (.unanswered missing) =>
    "incomplete result mapping: no result for " :: Text.listedParts missing
  | .pattern (.unmatched unknown) =>
    "result mapping names unknown patterns: " :: Text.listedParts unknown

theorem message_eq_parted (fault : Fault) : fault.message = Text.parted fault.parts := by
  cases fault with
  | dispatch fault =>
    cases fault with
    | unhandled tag =>
      have words : "unhandled variant `" = "unhandled variant " ++ "`" := rfl
      change "unhandled variant `" ++ tag ++ "`" = Text.parted ["unhandled variant ", tag, ""]
      simp only [words, Text.parted_cons_cons, Text.parted_singleton, String.append_empty,
        String.append_assoc]
    | uncovered missing => exact Text.append_listed _ missing
  | record fault =>
    have opening (tag : String) (rest : List String) :
        Text.parted ("" :: tag :: rest) = "`" ++ Text.parted (tag :: rest) := by
      rw [Text.parted_cons_cons, String.empty_append]
    cases fault with
    | untagged => exact (Text.parted_singleton _).symm
    | missing tag field =>
      have words : "` is missing required field `" =
          "`" ++ " is missing required field " ++ "`" := rfl
      simp only [message, RecordFault.message, words, parts, opening, Text.parted_cons_cons,
        Text.parted_singleton, String.append_empty, String.append_assoc]
    | undeclared tag field =>
      have words : "` has no field named `" = "`" ++ " has no field named " ++ "`" := rfl
      simp only [message, RecordFault.message, words, parts, opening, Text.parted_cons_cons,
        Text.parted_singleton, String.append_empty, String.append_assoc]
    | redeclared tag field =>
      have words : "` declares field `" = "`" ++ " declares field " ++ "`" := rfl
      have ending : "` more than once" = "`" ++ " more than once" := rfl
      simp only [message, RecordFault.message, words, ending, parts, opening,
        Text.parted_cons_cons, Text.parted_singleton, String.append_assoc]
  | pattern fault =>
    cases fault with
    | unanswered missing => exact Text.append_listed _ missing
    | unmatched unknown => exact Text.append_listed _ unknown

theorem parts_ne_nil (fault : Fault) : fault.parts ≠ [] := by
  rcases fault with fault | fault | fault <;> cases fault <;> simp [parts]

/-- The parts of messages that are no names. -/
def words : List String :=
  ["", ", ", "unhandled variant ", "non-exhaustive handler table: missing ",
    "record shape has an empty tag", " is missing required field ", " has no field named ",
    " declares field ", " more than once", "incomplete result mapping: no result for ",
    "result mapping names unknown patterns: "]

theorem unticked_words : ∀ part ∈ words, Text.tick ∉ part.toList := by
  simp [words, Text.tick]

theorem mem_names_or_mem_words {fault : Fault} {part : String} (mem : part ∈ fault.parts) :
    part ∈ fault.names ∨ part ∈ words := by
  have listed {lead : String} (known : lead ∈ words) {list : List String}
      (mem : part ∈ lead :: Text.listedParts list) : part ∈ list ∨ part ∈ words := by
    rcases List.mem_cons.mp mem with rfl | behind
    · exact .inr known
    · rcases Text.eq_or_mem_of_mem_listedParts behind with rfl | rfl | named
      · exact .inr (by simp [words])
      · exact .inr (by simp [words])
      · exact .inl named
  cases fault with
  | dispatch fault =>
    cases fault with
    | unhandled tag =>
      simp only [parts, List.mem_cons, List.not_mem_nil, or_false] at mem
      rcases mem with rfl | rfl | rfl <;> simp [names, words]
    | uncovered missing => exact listed (by simp [words]) mem
  | record fault =>
    cases fault with
    | untagged => exact .inr (List.mem_singleton.mp mem ▸ by simp [words])
    | _ tag field =>
      simp only [parts, List.mem_cons, List.not_mem_nil, or_false] at mem
      rcases mem with rfl | rfl | rfl | rfl | rfl <;> simp [names, words]
  | pattern fault =>
    cases fault with
    | _ list => exact listed (by simp [words]) mem

theorem unticked_parts {fault : Fault} (unticked : ∀ name ∈ fault.names, Text.tick ∉ name.toList) :
    ∀ part ∈ fault.parts, Text.tick ∉ part.toList :=
  fun part mem => (mem_names_or_mem_words mem).elim (unticked part) (unticked_words part)

/-- The words tell the kind of a fault, and behind them stand its names. -/
theorem parts_injective {f g : Fault} (same : f.parts = g.parts) : f = g := by
  -- The first words differ by kind, except that three messages begin with a tag: those differ in
  -- the words behind the tag.
  rcases f with f | f | f <;> rcases g with g | g | g <;> cases f <;> cases g <;>
    simp_all [parts, Text.listedParts_inj]

/-- Where no name has a backtick, two messages are the same only if the faults are: the message
tells the kind of the fault and all its tags and names, of a list each one in its order and as
often as it is there. The message of a fault is that of the part of the library that it comes
from. -/
theorem message_determines_fault :
    (∀ f g : Fault, (∀ name ∈ f.names, Text.tick ∉ name.toList) →
      (∀ name ∈ g.names, Text.tick ∉ name.toList) → (f.message = g.message ↔ f = g)) ∧
    (∀ fault : DispatchFault, (Fault.dispatch fault).message = fault.message) ∧
    (∀ fault : RecordFault, (Fault.record fault).message = fault.message) ∧
    ∀ fault : PatternFault, (Fault.pattern fault).message = fault.message := by
  refine ⟨fun f g unticked unticked' => ⟨fun same => ?_, congrArg message⟩, fun _ => rfl,
    fun _ => rfl, fun _ => rfl⟩
  rw [message_eq_parted, message_eq_parted] at same
  exact parts_injective (Text.parted_injective f.parts_ne_nil g.parts_ne_nil
    (unticked_parts unticked) (unticked_parts unticked') same)

theorem message_determines_fault_listed :
    (Fault.dispatch (.uncovered [])).message ≠ (Fault.dispatch (.uncovered [""])).message ∧
    (Fault.pattern (.unmatched ["a, b", ""])).message ≠
      (Fault.pattern (.unmatched ["a", "b", ""])).message := by
  have differs {f g : Fault} (unticked : ∀ name ∈ f.names, Text.tick ∉ name.toList)
      (unticked' : ∀ name ∈ g.names, Text.tick ∉ name.toList) (ne : f ≠ g) :
      f.message ≠ g.message :=
    mt (message_determines_fault.1 f g unticked unticked').mp ne
  exact ⟨differs (by decide) (by decide) (by decide), differs (by decide) (by decide) (by decide)⟩

/-- Backticks in a name can stand for the end of it. -/
example : (Fault.dispatch (.uncovered ["a`, `b"])).message =
    (Fault.dispatch (.uncovered ["a", "b"])).message := rfl

end Fault

end Switchboard

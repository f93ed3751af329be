import Mathlib.Data.List.Basic
import Switchboard.Text.Quoted

/-!
Texts that show where they end.

A way to write things is *delimited* when a text can be cut behind what was written without knowing
what follows: no two things are written alike, and no written text begins another one. Texts
written one after the other can then be told apart although nothing stands between them
(`Delimited.pair`), and so can lists, if only their end differs from the beginning of one more
member (`Delimited.series`, `Delimited.separated`). A quoted text is a list of escaped characters
that ends with a quote, and a quote among them is escaped; so it is delimited (`delimited_quoted`),
whatever stands between the quotes.
-/

namespace Switchboard.Text

/-- Whatever follows a written text, the text tells what was written and what follows. -/
def Delimited {α : Type} (write : α → List Char) : Prop :=
  ∀ ⦃a b : α⦄ ⦃x y : List Char⦄, write a ++ x = write b ++ y → a = b ∧ x = y

variable {α β : Type} {write : α → List Char} {write' : β → List Char}

/-- The first member follows at once, every other one a separator. -/
theorem intercalate_map_cons (separator : List Char) (a : α) (list : List α) :
    separator.intercalate ((a :: list).map write) =
      write a ++ list.flatMap fun b => separator ++ write b := by
  induction list generalizing a with
  | nil => simp
  | cons b list ih =>
    rw [List.map_cons, List.map_cons, List.intercalate_cons_cons, ← List.map_cons, ih,
      List.flatMap_cons, List.append_assoc, List.append_assoc]

namespace Delimited

/-! ### Texts put together -/

theorem injective (delimited : Delimited write) : Function.Injective write := by
  intro a b same
  exact (delimited (congrArg (· ++ []) same)).1

theorem comp {f : β → α} (delimited : Delimited write) (injective : Function.Injective f) :
    Delimited fun b => write (f b) := by
  intro a b x y same
  obtain ⟨equal, rest⟩ := delimited same
  exact ⟨injective equal, rest⟩

/-- The same text before and the same behind. -/
theorem enclosed (delimited : Delimited write) (before after : List Char) :
    Delimited fun a => before ++ write a ++ after := by
  intro a b x y same
  simp only [List.append_assoc] at same
  obtain ⟨rfl, rest⟩ := delimited (List.append_cancel_left same)
  exact ⟨rfl, List.append_cancel_left rest⟩

theorem pair (delimited : Delimited write) (delimited' : Delimited write') :
    Delimited fun p : α × β => write p.1 ++ write' p.2 := by
  rintro ⟨a, c⟩ ⟨b, d⟩ x y same
  simp only [List.append_assoc] at same
  obtain ⟨rfl, second⟩ := delimited same
  obtain ⟨rfl, rest⟩ := delimited' second
  exact ⟨rfl, rest⟩

/-- One after the other up to a text that no member begins with or cuts short. -/
theorem series {stop : List Char} (delimited : Delimited write)
    (apart : ∀ a x y, write a ++ x ≠ stop ++ y) :
    Delimited fun list : List α => list.flatMap write ++ stop := by
  intro list more x y same
  induction list generalizing more with
  | nil =>
    cases more with
    | nil => exact ⟨rfl, List.append_cancel_left same⟩
    | cons b more =>
      simp only [List.flatMap_cons, List.flatMap_nil, List.nil_append, List.append_assoc] at same
      exact absurd same.symm (apart b _ _)
  | cons a list ih =>
    cases more with
    | nil =>
      simp only [List.flatMap_cons, List.flatMap_nil, List.nil_append, List.append_assoc] at same
      exact absurd same (apart a _ _)
    | cons b more =>
      simp only [List.flatMap_cons, List.append_assoc] at same
      obtain ⟨rfl, others⟩ := delimited same
      simp only [← List.append_assoc] at others
      obtain ⟨rfl, rest⟩ := ih others
      exact ⟨rfl, rest⟩

/-- With a separator between them, up to a text that is told from both at once. -/
theorem separated {separator stop : List Char} (delimited : Delimited write)
    (apart : ∀ a x y, write a ++ x ≠ stop ++ y) (apart' : ∀ x y, separator ++ x ≠ stop ++ y) :
    Delimited fun list : List α => separator.intercalate (list.map write) ++ stop := by
  have tails : Delimited fun list : List α =>
      (list.flatMap fun b => separator ++ write b) ++ stop := by
    apply series (by simpa using delimited.enclosed separator [])
    intro a x y
    rw [List.append_assoc]
    exact apart' _ y
  intro list more x y same
  cases list with
  | nil =>
    cases more with
    | nil => exact ⟨rfl, List.append_cancel_left same⟩
    | cons b more =>
      simp only [intercalate_map_cons, List.append_assoc] at same
      exact absurd same.symm (apart b _ _)
  | cons a list =>
    cases more with
    | nil =>
      simp only [intercalate_map_cons, List.append_assoc] at same
      exact absurd same (apart a _ _)
    | cons b more =>
      simp only [intercalate_map_cons, List.append_assoc] at same
      obtain ⟨rfl, others⟩ := delimited same
      simp only [← List.append_assoc] at others
      obtain ⟨rfl, rest⟩ := tails others
      exact ⟨rfl, rest⟩

end Delimited

/-! ### Quoted texts -/

/-- The characters with a short escape, each with its letter. -/
def shortEscapes : List (Char × Char) :=
  [('\x00', '0'), ('\t', 't'), ('\n', 'n'), ('\r', 'r'), ('"', '"'), ('\\', '\\')]

theorem mem_shortEscapes {c letter : Char} (short : shortEscape c = some letter) :
    (c, letter) ∈ shortEscapes := by
  unfold shortEscape at short
  split_ifs at short <;> cases short <;> simp_all [shortEscapes]

/-- The letter of a short escape tells the character, and begins no escape by code point. -/
theorem shortEscapes_apart :
    (∀ p ∈ shortEscapes, p.2 ≠ 'u') ∧
    ∀ p ∈ shortEscapes, ∀ q ∈ shortEscapes, p.2 = q.2 → p = q := by
  decide

theorem hexDigit_ne {n : Nat} (small : n < 16) : hexDigit n ≠ '\x7d' := by
  have all : ∀ m : Fin 16, hexDigit m ≠ '\x7d' := by decide
  exact all ⟨n, small⟩

theorem ne_of_mem_hex {n : Nat} {c : Char} (mem : c ∈ hex n) : c ≠ '\x7d' := by
  fun_induction hex n with
  | case1 n small =>
    rw [List.mem_singleton.mp mem]
    exact hexDigit_ne small
  | case2 n _ ih =>
    rcases List.mem_append.mp mem with high | low
    · exact ih high
    · rw [List.mem_singleton.mp low]
      exact hexDigit_ne (Nat.mod_lt n (by decide))

/-- Hexadecimal digits end at the first character that is none. -/
theorem delimited_hex : Delimited fun n => hex n ++ ['\x7d'] := by
  intro m n x y same
  have digits : ∀ k, ∀ c ∈ hex k, decide (c ≠ '\x7d') := by simpa using fun k c => ne_of_mem_hex
  have cut : ∀ k (z : List Char),
      (hex k ++ ['\x7d'] ++ z).takeWhile (· ≠ '\x7d') = hex k ∧
      (hex k ++ ['\x7d'] ++ z).dropWhile (· ≠ '\x7d') = '\x7d' :: z := by
    intro k z
    rw [List.append_assoc, List.takeWhile_append_of_pos (digits k),
      List.dropWhile_append_of_pos (digits k)]
    simp
  have first := (cut m x).1.symm.trans ((congrArg _ same).trans (cut n y).1)
  have rest := (cut m x).2.symm.trans ((congrArg _ same).trans (cut n y).2)
  exact ⟨hex_injective first, (List.cons.inj rest).2⟩

/-- How a character stands between quotes. -/
inductive Escaped (c : Char) : List Char → Prop where
  | plain : c ≠ '"' → c ≠ '\\' → Escaped c [c]
  | short {letter : Char} : (c, letter) ∈ shortEscapes → Escaped c ['\\', letter]
  | code : Escaped c ('\\' :: 'u' :: '\x7b' :: (hex c.toNat ++ ['\x7d']))

theorem escaped_escape (c : Char) : Escaped c (escape c) := by
  unfold escape
  split
  · rename_i short
    exact .short (mem_shortEscapes short)
  · rename_i unnamed
    split
    · apply Escaped.plain
      · rintro rfl
        cases unnamed
      · rintro rfl
        cases unnamed
    · exact .code

theorem delimited_escape : Delimited escape := by
  intro a b x y same
  have first := escaped_escape a
  have second := escaped_escape b
  generalize escape a = s at first same
  generalize escape b = t at second same
  cases first with
  | plain _ unescaped =>
    cases second with
    | plain => simpa using same
    | short => simp [unescaped] at same
    | code => simp [unescaped] at same
  | short listed =>
    cases second with
    | plain _ unescaped => simp [Ne.symm unescaped] at same
    | short listed' =>
      simp only [List.cons_append, List.nil_append, List.cons.injEq, true_and] at same
      have equal := shortEscapes_apart.2 _ listed _ listed' same.1
      exact ⟨congrArg Prod.fst equal, same.2⟩
    | code =>
      simp only [List.cons_append, List.nil_append, List.cons.injEq, true_and] at same
      exact absurd same.1 (shortEscapes_apart.1 _ listed)
  | code =>
    cases second with
    | plain _ unescaped => simp [Ne.symm unescaped] at same
    | short listed =>
      simp only [List.cons_append, List.nil_append, List.cons.injEq, true_and] at same
      exact absurd same.1.symm (shortEscapes_apart.1 _ listed)
    | code =>
      simp only [List.cons_append, List.cons.injEq, true_and] at same
      obtain ⟨code_eq, rest⟩ := delimited_hex same
      exact ⟨Char.toNat_inj.mp code_eq, rest⟩

/-- No character is escaped by a text that begins with a quote. -/
theorem escape_append_ne (c : Char) (x y : List Char) : escape c ++ x ≠ ['"'] ++ y := by
  have escaped := escaped_escape c
  generalize escape c = s at escaped
  cases escaped with
  | plain unquoted => simp [unquoted]
  | short => simp
  | code => simp

theorem delimited_quote : Delimited quote := by
  change Delimited fun cs : List Char => '"' :: cs.flatMap escape ++ ['"']
  simpa using (delimited_escape.series escape_append_ne).enclosed ['"'] []

theorem delimited_quoted : Delimited fun s => (quoted s).toList := by
  simp only [toList_quoted]
  exact delimited_quote.comp fun _ _ => String.toList_injective

end Switchboard.Text

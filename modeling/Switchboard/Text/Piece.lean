/-!
Pieces of a text by their places, which are counted in bytes of its UTF-8 form.

A place may lie inside a character; there a text cannot be cut. `splitAt?_eq_some_iff`
says that cutting succeeds exactly at the ends of characters.
-/

namespace Switchboard.Text

/-- Number of bytes of a text. -/
def byteCount (cs : List Char) : Nat :=
  cs.foldr (fun c count => c.utf8Size + count) 0

@[simp] theorem byteCount_nil : byteCount [] = 0 := rfl

@[simp] theorem byteCount_cons (c : Char) (cs : List Char) :
    byteCount (c :: cs) = c.utf8Size + byteCount cs := rfl

@[simp] theorem byteCount_append (cs ds : List Char) :
    byteCount (cs ++ ds) = byteCount cs + byteCount ds := by
  induction cs with
  | nil => simp
  | cons c cs ih => rw [List.cons_append, byteCount_cons, byteCount_cons, ih, Nat.add_assoc]

/-- The text before and after a place. -/
def splitAt? : Nat → List Char → Option (List Char × List Char)
  | 0, cs => some ([], cs)
  | _ + 1, [] => none
  | place + 1, c :: cs =>
    if c.utf8Size ≤ place + 1 then
      (splitAt? (place + 1 - c.utf8Size) cs).map fun parts => (c :: parts.1, parts.2)
    else none

@[simp] theorem splitAt?_zero (cs : List Char) : splitAt? 0 cs = some ([], cs) := by
  cases cs <;> rfl

@[simp] theorem splitAt?_append (before after : List Char) :
    splitAt? (byteCount before) (before ++ after) = some (before, after) := by
  induction before with
  | nil => simp
  | cons c cs ih =>
    have positive := c.utf8Size_pos
    obtain ⟨place, succ⟩ : ∃ place, byteCount (c :: cs) = place + 1 :=
      ⟨byteCount (c :: cs) - 1, by simp; omega⟩
    have rest : place + 1 - c.utf8Size = byteCount cs := by simp at succ; omega
    have fits : c.utf8Size ≤ place + 1 := by simp at succ; omega
    simp [succ, splitAt?, fits, rest, ih]

theorem append_of_splitAt? {place : Nat} {cs before after : List Char}
    (split : splitAt? place cs = some (before, after)) :
    before ++ after = cs ∧ byteCount before = place := by
  induction cs generalizing place before with
  | nil =>
    cases place with
    | zero => simp_all [splitAt?]
    | succ place => simp [splitAt?] at split
  | cons c cs ih =>
    cases place with
    | zero =>
      simp only [splitAt?, Option.some.injEq, Prod.mk.injEq] at split
      simp [← split.1, ← split.2]
    | succ place =>
      simp only [splitAt?] at split
      split at split
      · rename_i fits
        simp only [Option.map_eq_some_iff, Prod.mk.injEq] at split
        obtain ⟨⟨front, back⟩, inner, rfl, rfl⟩ := split
        obtain ⟨whole, count⟩ := ih inner
        simp only [List.cons_append, whole, byteCount_cons, count, true_and]
        omega
      · simp at split

/-- A text can be cut at a place exactly where a character ends. -/
theorem splitAt?_eq_some_iff {place : Nat} {cs before after : List Char} :
    splitAt? place cs = some (before, after) ↔ before ++ after = cs ∧ byteCount before = place :=
  ⟨append_of_splitAt?, fun ⟨whole, count⟩ => whole ▸ count ▸ splitAt?_append before after⟩

/-- The text from a place on. -/
def from? (start : Nat) (cs : List Char) : Option (List Char) :=
  (splitAt? start cs).map Prod.snd

/-- The text from a place up to another one. -/
def between? (start stop : Nat) (cs : List Char) : Option (List Char) :=
  (from? start cs).bind fun rest => (splitAt? (stop - start) rest).map Prod.fst

@[simp] theorem from?_append (before after : List Char) :
    from? (byteCount before) (before ++ after) = some after := by
  simp [from?]

@[simp] theorem between?_append (before middle after : List Char) :
    between? (byteCount before) (byteCount before + byteCount middle)
      (before ++ (middle ++ after)) = some middle := by
  simp [between?]

end Switchboard.Text

import Switchboard.Outline
import Switchboard.Proofs.Text.Delimited

/-!
What the text of an outline tells.

Both texts of an outline are made from the outside in: a node's name and brackets stand around its
entries, each entry behind its label. If every entry shows where it ends so does the node, on one
line and on several (`Legible.single`, `Legible.bracketed`), since what follows an entry is either
a separator or the end of the node. Names stand in quotes, so no name can pass for what stands
around it. Of outlines that are made so, either text tells which one it is of (`Legible.tells`).
-/

namespace Switchboard

namespace Outline

open Text (Delimited)

/-! ### Entries that show where they end -/

/-- An entry on one line, behind its label. -/
def inlineEntry (entry : Option String × Outline) : String :=
  labelText entry.1 ++ entry.2.inline

/-- An entry with its own entries on lines of their own. -/
def indentedEntryAt (depth : Nat) (entry : Option String × Outline) : String :=
  labelText entry.1 ++ entry.2.indentedAt depth

/-- Both texts of the entries show where they end, however far they are indented. -/
structure Legible {α : Type} (entry : α → Option String × Outline) : Prop where
  inline : Delimited fun a => (inlineEntry (entry a)).toList
  indented : ∀ depth, Delimited fun a => (indentedEntryAt depth (entry a)).toList

variable {α β : Type} {entry : α → Option String × Outline}

@[simp] theorem inlineEntry_none (outline : Outline) :
    inlineEntry (none, outline) = outline.inline :=
  String.empty_append

@[simp] theorem indentedEntryAt_none (depth : Nat) (outline : Outline) :
    indentedEntryAt depth (none, outline) = outline.indentedAt depth :=
  String.empty_append

theorem legible_leaf {content : α → String} (delimited : Delimited fun a => (content a).toList) :
    Legible fun a => (none, leaf (content a)) where
  inline := by simpa using delimited
  indented depth := by simpa [indentedAt] using delimited

theorem legible_text : Legible fun s => (none, text s) :=
  legible_leaf Text.delimited_quoted

/-- A quoted label tells the name, and what it stands before as well. -/
theorem Legible.labelled {outline : β → Outline} (legible : Legible fun b => (none, outline b)) :
    Legible fun p : String × β => (some (Text.quoted p.1), outline p.2) where
  inline := by
    have label := Text.delimited_quoted.enclosed [] ": ".toList
    simpa [inlineEntry, labelText] using label.pair legible.inline
  indented depth := by
    have label := Text.delimited_quoted.enclosed [] ": ".toList
    simpa [indentedEntryAt, labelText] using label.pair (legible.indented depth)

/-- A fixed label tells nothing, and takes nothing away. -/
theorem Legible.labelledBy {outline : β → Outline} (legible : Legible fun b => (none, outline b))
    (label : String) : Legible fun b => (some label, outline b) where
  inline := by
    have behind := legible.inline.enclosed (label ++ ": ").toList []
    simpa [inlineEntry, labelText] using behind
  indented depth := by
    have behind := (legible.indented depth).enclosed (label ++ ": ").toList []
    simpa [indentedEntryAt, labelText] using behind

/-! ### Nodes with one entry -/

theorem inlineEntries_eq_map (entries : List (Option String × Outline)) :
    inlineEntries entries = entries.map inlineEntry := by
  induction entries with
  | nil => rw [inlineEntries, List.map_nil]
  | cons e rest ih =>
    rw [inlineEntries, ih, List.map_cons]
    rfl

/-- What stands around the only entry does not depend on it. -/
theorem toList_inline_single (name : String) (enclosure : Enclosure)
    (e : Option String × Outline) :
    (node name enclosure [e]).inline.toList =
      (name ++ enclosure.opening).toList ++ (inlineEntry e).toList ++
        ((enclosure.ellipsis.flatMap fun sign => ", ".toList ++ sign.toList) ++
          enclosure.closing.toList) := by
  have items := @Text.intercalate_map_cons _ String.toList ", ".toList (inlineEntry e)
    enclosure.ellipsis
  rw [inline, inlineEntries_eq_map, List.map_singleton, List.singleton_append]
  simp only [String.toList_append, String.toList_intercalate, List.append_assoc, items]

theorem toList_indentedAt_single (depth : Nat) (name : String) (enclosure : Enclosure)
    (e : Option String × Outline) :
    ((node name enclosure [e]).indentedAt depth).toList =
      (name ++ enclosure.openingLine ++ "\n" ++ indent (depth + 1)).toList ++
        (indentedEntryAt (depth + 1) e).toList ++
        (",\n" ++
          String.join (enclosure.ellipsis.map fun sign => indent (depth + 1) ++ sign ++ "\n") ++
          indent depth ++ enclosure.closingLine).toList := by
  rw [indentedAt, indentedEntries, indentedEntries, indentedEntryAt]
  simp only [String.toList_append, List.append_assoc, String.toList_empty, List.nil_append]

/-- A node with one entry tells the entry. -/
theorem Legible.single (legible : Legible entry) (name : String) (enclosure : Enclosure) :
    Legible fun a => (none, node name enclosure [entry a]) where
  inline := by
    simp only [inlineEntry_none, toList_inline_single]
    exact legible.inline.enclosed _ _
  indented depth := by
    simp only [indentedEntryAt_none, toList_indentedAt_single]
    exact (legible.indented (depth + 1)).enclosed _ _

/-! ### Lists and maps -/

theorem toList_indentedEntries (depth : Nat) (entries : List (Option String × Outline)) :
    (indentedEntries depth entries).toList =
      entries.flatMap fun e =>
        (indent (depth + 1)).toList ++ (indentedEntryAt (depth + 1) e).toList ++ ",\n".toList := by
  induction entries with
  | nil => rw [indentedEntries, List.flatMap_nil, String.toList_empty]
  | cons e rest ih =>
    rw [indentedEntries, List.flatMap_cons, ← ih, indentedEntryAt]
    simp only [String.toList_append, List.append_assoc]

/-- One level more is four columns more. -/
theorem toList_indent_succ (depth : Nat) :
    (indent (depth + 1)).toList = (indent depth).toList ++ List.replicate 4 ' ' := by
  rw [indent, indent, String.toList_ofList, String.toList_ofList, Nat.mul_add, List.replicate_add]

section Brackets

variable {enclosure : Enclosure} (bracket : enclosure = .members ∨ enclosure = .associations)

include bracket

/-- Nothing but commas marks the entries of a list or a map, and its brackets are the same on
lines of their own. -/
theorem brackets_plain :
    enclosure.ellipsis = [] ∧ enclosure.openingLine = enclosure.opening ∧
      enclosure.closingLine = enclosure.closing := by
  rcases bracket with rfl | rfl <;> exact ⟨rfl, rfl, rfl⟩

/-- A list or a map without entries is its two brackets, on one line as with others. -/
theorem toList_inline_bracketed (entries : List (Option String × Outline)) :
    (node "" enclosure entries).inline.toList =
      enclosure.opening.toList ++
        (", ".toList.intercalate (entries.map fun e => (inlineEntry e).toList) ++
          enclosure.closing.toList) := by
  cases entries with
  | nil => rcases bracket with rfl | rfl <;> rw [inline] <;> rfl
  | cons e rest =>
    rw [inline, (brackets_plain bracket).1, List.append_nil, inlineEntries_eq_map]
    simp only [String.toList_append, String.toList_intercalate, List.map_map, List.append_assoc,
      String.toList_empty, List.nil_append]
    rfl

theorem toList_indentedAt_nil (depth : Nat) :
    ((node "" enclosure []).indentedAt depth).toList =
      enclosure.opening.toList ++ enclosure.closing.toList := by
  rcases bracket with rfl | rfl <;> rw [indentedAt] <;> rfl

theorem toList_indentedAt_cons (depth : Nat) (e : Option String × Outline)
    (rest : List (Option String × Outline)) :
    ((node "" enclosure (e :: rest)).indentedAt depth).toList =
      enclosure.opening.toList ++ '\n' :: ((indentedEntries depth (e :: rest)).toList ++
        ((indent depth).toList ++ enclosure.closing.toList)) := by
  obtain ⟨unmarked, openingLine_eq, closingLine_eq⟩ := brackets_plain bracket
  rw [indentedAt, unmarked, openingLine_eq, closingLine_eq]
  simp

/-- Behind the first bracket stands the other one, or a new line. -/
theorem indentedAt_nil_ne_cons (depth : Nat) (e : Option String × Outline)
    (rest : List (Option String × Outline)) (x y : List Char) :
    ((node "" enclosure []).indentedAt depth).toList ++ x ≠
      ((node "" enclosure (e :: rest)).indentedAt depth).toList ++ y := by
  rw [toList_indentedAt_nil bracket, toList_indentedAt_cons bracket, List.append_assoc,
    List.append_assoc, Ne, List.append_right_inj]
  rcases bracket with rfl | rfl <;> simp [Enclosure.closing]

/-- Behind an entry on the same line stands a comma or the bracket. -/
theorem Legible.delimited_members (legible : Legible entry)
    (quoted : ∀ a, (inlineEntry (entry a)).toList.head? = some '"') :
    Delimited fun list : List α =>
      ", ".toList.intercalate (list.map fun a => (inlineEntry (entry a)).toList) ++
        enclosure.closing.toList := by
  apply legible.inline.separated
  · intro a x y
    obtain ⟨rest, begins⟩ := List.head?_eq_some_iff.mp (quoted a)
    rw [begins]
    rcases bracket with rfl | rfl <;> simp [Enclosure.closing]
  · intro x y
    rcases bracket with rfl | rfl <;> simp [Enclosure.closing]

/-- A line of the list goes on with blanks where the last line has the bracket. -/
theorem Legible.delimited_lines (legible : Legible entry) (depth : Nat) :
    Delimited fun list : List α =>
      (indentedEntries depth (list.map entry)).toList ++
        ((indent depth).toList ++ enclosure.closing.toList) := by
  simp only [toList_indentedEntries, List.flatMap_map]
  apply ((legible.indented (depth + 1)).enclosed _ _).series
  intro a x y
  rw [toList_indent_succ]
  rcases bracket with rfl | rfl <;> simp [Enclosure.closing, List.replicate]

/-- A list or a map of entries that begin with a quote tells all of them. -/
theorem Legible.bracketed (legible : Legible entry)
    (quoted : ∀ a, (inlineEntry (entry a)).toList.head? = some '"') :
    Legible fun list : List α => (none, node "" enclosure (list.map entry)) where
  inline := by
    have around := (legible.delimited_members bracket quoted).enclosed enclosure.opening.toList []
    simp only [List.append_nil] at around
    simp only [inlineEntry_none, toList_inline_bracketed bracket, List.map_map]
    exact around
  indented depth := by
    intro list more x y same
    simp only [indentedEntryAt_none] at same
    cases list with
    | nil =>
      cases more with
      | nil => exact ⟨rfl, List.append_cancel_left same⟩
      | cons b more => exact (indentedAt_nil_ne_cons bracket depth _ _ _ _ same).elim
    | cons a list =>
      cases more with
      | nil => exact (indentedAt_nil_ne_cons bracket depth _ _ _ _ same.symm).elim
      | cons b more =>
        simp only [List.map_cons, toList_indentedAt_cons bracket, List.append_assoc,
          List.append_right_inj, List.cons_append, List.cons.injEq, true_and] at same
        apply legible.delimited_lines bracket depth
        simpa using same

end Brackets

theorem legible_names : Legible fun members => (none, names members) := by
  have listed := legible_text.bracketed (.inl rfl) fun s => by simp [text, Text.quote]
  simpa [names, list, Function.comp_def] using listed

/-- A name that looks like two members is one, since its quotes are escaped. -/
example : (names ["a\", \"b"]).inline = "[\"a\\\", \\\"b\"]" ∧
    (names ["a", "b"]).inline = "[\"a\", \"b\"]" :=
  ⟨rfl, rfl⟩

/-- A map with a leaf under each name. -/
theorem legible_map {content : β → String} (delimited : Delimited fun b => (content b).toList) :
    Legible fun pairs : List (String × β) =>
      (none, map (pairs.map fun p => (p.1, leaf (content p.2)))) := by
  have listed := (legible_leaf delimited).labelled.bracketed (.inr rfl)
    fun p => by simp [inlineEntry, labelText, Text.quote]
  simpa [map, Function.comp_def] using listed

/-- Outlines have the same text on one line, and the same text on several, exactly where the
things that they are of are the same in some respect. -/
structure Tells (o p : Outline) (same : Prop) : Prop where
  inline_iff : o.inline = p.inline ↔ same
  indented_iff : o.indented = p.indented ↔ same

theorem Legible.tells {outline : α → Outline} (legible : Legible fun a => (none, outline a))
    (a b : α) : Tells (outline a) (outline b) (a = b) where
  inline_iff := by
    have injective := legible.inline.injective
    simp only [inlineEntry_none] at injective
    exact String.toList_inj.symm.trans injective.eq_iff
  indented_iff := by
    have injective := (legible.indented 0).injective
    simp only [indentedEntryAt_none] at injective
    exact String.toList_inj.symm.trans injective.eq_iff

end Outline

end Switchboard

import Mathlib.Data.String.Basic
import Switchboard.Log.Filter

/-!
Plain filter texts: levels, and lists of targets with levels.

A text is plain when no bracket opens in it and none of its directives would be cut inside
a character. What is read from it are directives on whole targets (`Filter.parse_of_plain`):
a malformed one is passed over, and none of them speaks of a span or a field. A level
alone and every list of targets with levels are plain (`Filter.plain_intercalate`), whether or
not there are such levels.
-/

namespace Switchboard

/-! ### Texts between commas -/

namespace Text

open String

/-- The walk over a text from inside a piece on. -/
theorem splitOnAux_comma (before piece rest : List Char) (done : List String) :
    splitOnAux (ofList (before ++ piece ++ rest)) "," ⟨utf8Len before⟩
        ⟨utf8Len (before ++ piece)⟩ 0 done =
      done.reverse ++ (List.splitOnPPrepend (· == ',') rest piece.reverse).map ofList := by
  induction rest generalizing before piece done with
  | nil =>
    have ended := (atEnd_of_valid (before ++ piece) []).mpr rfl
    have last := extract_of_valid before piece []
    rw [← utf8Len_append] at last
    rw [splitOnAux, if_pos ended, last]
    simp
  | cons c rest ih =>
    have inside := mt (atEnd_of_valid (before ++ piece) (c :: rest)).mp (List.cons_ne_nil c rest)
    have here := get_of_valid (before ++ piece) (c :: rest)
    have next := next_of_valid (before ++ piece) c rest
    have comma : Pos.Raw.get "," 0 = ',' := rfl
    have past : Pos.Raw.next "," 0 = ⟨1⟩ := rfl
    have whole : Pos.Raw.atEnd "," ⟨1⟩ := rfl
    rw [List.headD_cons] at here
    rw [splitOnAux, if_neg inside, here, comma, next, past, if_pos whole,
      List.splitOnPPrepend_cons_eq_if]
    by_cases same : c = ','
    · subst same
      have cut := extract_of_valid before piece (',' :: rest)
      rw [← utf8Len_append] at cut
      have back : (Pos.Raw.mk (utf8Len (before ++ piece) + ','.utf8Size)).unoffsetBy ⟨1⟩ =
          ⟨utf8Len (before ++ piece)⟩ := rfl
      simp only [beq_self_eq_true, if_true, back, cut]
      simpa [Nat.add_assoc] using ih (before ++ piece ++ [',']) [] (ofList piece :: done)
    · have back : (Pos.Raw.mk (utf8Len (before ++ piece))).unoffsetBy 0 =
          ⟨utf8Len (before ++ piece)⟩ := rfl
      simp only [beq_iff_eq, if_neg same, back, next]
      simpa [Nat.add_assoc] using ih before (piece ++ [c]) done

theorem splitOn_comma (text : String) :
    text.splitOn "," = (text.toList.splitOn ',').map ofList := by
  have walked := splitOnAux_comma [] [] text.toList []
  simpa [splitOn, List.splitOn, List.splitOnPPrepend_nil_right] using walked

/-- Pieces without a comma are told apart by commas between them. -/
theorem splitOn_intercalate {pieces : List String} (some_piece : pieces ≠ [])
    (apart : ∀ piece ∈ pieces, ',' ∉ piece.toList) :
    (",".intercalate pieces).splitOn "," = pieces := by
  have unsplit : ∀ cs ∈ pieces.map String.toList, ',' ∉ cs := by
    intro cs listed
    obtain ⟨piece, mem, rfl⟩ := List.mem_map.mp listed
    exact apart piece mem
  rw [splitOn_comma, String.toList_intercalate]
  change ((([','] : List Char).intercalate _).splitOn ',').map ofList = _
  rw [List.splitOn_intercalate ',' unsplit (by simpa using some_piece), List.map_map]
  simp

/-! ### Ends of texts -/

theorem byteCount_of_ascii {cs : List Char} (ascii : ∀ c ∈ cs, c.utf8Size = 1) :
    byteCount cs = cs.length := by
  induction cs with
  | nil => rfl
  | cons c cs ih =>
    obtain ⟨one, others⟩ := List.forall_mem_cons.mp ascii
    rw [byteCount_cons, one, ih others, List.length_cons, Nat.add_comm]

theorem exists_trail (cs : List Char) : ∃ trail, trim cs ++ trail = cs.dropWhile isSpace := by
  refine ⟨((cs.dropWhile isSpace).reverse.takeWhile isSpace).reverse, ?_⟩
  rw [trim, ← List.reverse_append, List.takeWhile_append_dropWhile, List.reverse_reverse]

theorem mem_of_mem_trim {c : Char} {cs : List Char} (mem : c ∈ trim cs) : c ∈ cs := by
  obtain ⟨trail, whole⟩ := exists_trail cs
  exact (List.dropWhile_sublist isSpace).mem (whole ▸ List.mem_append_left trail mem)

end Text

/-! ### Reading a directive -/

namespace Directive

/-- No bracket opens in the text, and its parts end where characters do: spaces stand in front only
where each character is one byte long. -/
def Plain (source : List Char) : Prop :=
  '[' ∉ source ∧
    ((∀ c ∈ source, c.utf8Size = 1) ∨ ∀ c ∈ source.head?, Text.isSpace c = false)

/-- A plain text can be cut where a part of the trimmed text ends, counted from its own start. -/
theorem Plain.exists_splitAt? {source part rest : List Char} (plain : Plain source)
    (trimmed : Text.trim source = part ++ rest) :
    ∃ before after, Text.splitAt? (Text.byteCount part) source = some (before, after) := by
  obtain ⟨trail, whole⟩ := Text.exists_trail source
  rw [trimmed, List.append_assoc] at whole
  have dropped : (source.dropWhile Text.isSpace).Sublist source := List.dropWhile_sublist _
  cases plain.2 with
  | inl ascii =>
    have ascii_part : ∀ c ∈ part, c.utf8Size = 1 :=
      fun c mem => ascii c (dropped.mem (whole ▸ List.mem_append_left _ mem))
    have ascii_before : ∀ c ∈ source.take part.length, c.utf8Size = 1 :=
      fun c mem => ascii c (List.mem_of_mem_take mem)
    have short : part.length ≤ source.length := by
      have shorter := dropped.length_le
      rw [← whole, List.length_append] at shorter
      omega
    refine ⟨source.take part.length, source.drop part.length, ?_⟩
    rw [Text.splitAt?_eq_some_iff, Text.byteCount_of_ascii ascii_part,
      Text.byteCount_of_ascii ascii_before]
    exact ⟨List.take_append_drop _ _, List.length_take_of_le short⟩
  | inr flush =>
    have kept : source.dropWhile Text.isSpace = source := by
      cases source with
      | nil => rfl
      | cons c cs => exact List.dropWhile_cons_of_neg (by simp [flush c rfl])
    rw [← kept, ← whole]
    exact ⟨part, rest ++ trail, Text.splitAt?_append part _⟩

/-- Nothing is torn: what is read has the property, or there is nothing to read. -/
def Untorn {A : Type} (holds : A → Prop) : Except Refusal A → Prop
  | .ok a => holds a
  | .error refusal => refusal = .malformed

theorem Untorn.bind {A B : Type} {holds : A → Prop} {holds' : B → Prop}
    {first : Except Refusal A} {next : A → Except Refusal B} (untorn : Untorn holds first)
    (rest : ∀ a, holds a → Untorn holds' (next a)) : Untorn holds' (first >>= next) := by
  cases first with
  | ok a => exact rest a untorn
  | error refusal => exact untorn

section Cuts

variable {source before after : List Char} {place : Nat}

theorem untorn_cut (split : Text.splitAt? place source = some (before, after)) :
    Untorn (fun _ => True) (cut source 0 place) := by
  simp [cut, Text.between?, Text.from?, split, Untorn]

theorem untorn_cutFrom (split : Text.splitAt? place source = some (before, after)) :
    Untorn (fun _ => True) (cutFrom source place) := by
  simp [cutFrom, Text.from?, split, Untorn]

theorem untorn_readLevel (split : Text.splitAt? place source = some (before, after)) :
    Untorn (fun _ => True) (readLevel source place) := by
  refine (untorn_cutFrom split).bind fun name _ => ?_
  split
  · trivial
  · split
    · trivial
    · rfl

end Cuts

theorem Plain.untorn_readTarget {source : List Char} (plain : Plain source) :
    Untorn (fun d => d.reach = .every) (readTarget source (Text.trim source)) := by
  unfold readTarget
  dsimp only
  generalize named : (Text.trim source).takeWhile _ = name
  split
  · rename_i rest found
    have trimmed : Text.trim source = name ++ '=' :: rest := by
      rw [← named, ← found, List.takeWhile_append_dropWhile]
    obtain ⟨_, _, atSign⟩ := plain.exists_splitAt? trimmed
    obtain ⟨_, _, pastSign⟩ :=
      plain.exists_splitAt? (trimmed.trans (List.append_cons name '=' rest))
    rw [Text.byteCount_append] at pastSign
    exact (untorn_cut atSign).bind fun target _ =>
      (untorn_readLevel pastSign).bind fun level _ => rfl
  · rename_i c rest noSign found
    -- a name ends at an equals sign or at a bracket, and there is no bracket
    have stops : c = '[' := by
      have head := List.head?_dropWhile_not (fun b => decide (b ≠ '=' ∧ b ≠ '[')) (Text.trim source)
      rw [found] at head
      simp only [List.head?_cons] at head
      by_contra other
      exact absurd head (by simp [other, show c ≠ '=' from noSign])
    have mem : c ∈ Text.trim source := (List.dropWhile_sublist _).mem (found ▸ List.mem_cons_self)
    exact absurd (stops ▸ Text.mem_of_mem_trim mem) plain.1
  · refine (untorn_cutFrom (Text.splitAt?_zero source)).bind fun word _ => ?_
    split <;> rfl

theorem untorn_read {text : String} (plain : Plain text.toList) :
    Untorn (fun d => d.reach = .every) (read text) := by
  have target := plain.untorn_readTarget
  unfold read
  dsimp only
  split
  · rename_i rest found
    exact absurd (Text.mem_of_mem_trim (found ▸ List.mem_cons_self)) plain.1
  · rename_i c rest _ found
    rw [found] at target
    split
    · exact target
    · rfl
  · rfl

end Directive

/-! ### Reading a filter -/

namespace Filter

/-- The texts between commas are plain. -/
def Plain (text : String) : Prop :=
  ∀ piece ∈ text.splitOn ",", Directive.Plain piece.toList

/-- Each directive speaks of every event of its targets. -/
def ByTarget (f : Filter) : Prop :=
  ∀ d ∈ f.directives, d.reach = .every

theorem readAll_of_plain {texts : List String}
    (plain : ∀ text ∈ texts, Directive.Plain text.toList) :
    ∃ directives, readAll texts = some directives ∧ ∀ d ∈ directives, d.reach = .every := by
  induction texts with
  | nil => exact ⟨[], rfl, by simp⟩
  | cons text rest ih =>
    obtain ⟨first, others⟩ := List.forall_mem_cons.mp plain
    obtain ⟨directives, read, every⟩ := ih others
    have untorn := Directive.untorn_read first
    unfold readAll
    split
    · rename_i d outcome
      rw [outcome] at untorn
      exact ⟨d :: directives, by rw [read]; rfl, List.forall_mem_cons.mpr ⟨untorn, every⟩⟩
    · exact ⟨directives, read, every⟩
    · rename_i outcome
      rw [outcome] at untorn
      cases untorn

theorem byTarget_ofList {directives : List Directive} (every : ∀ d ∈ directives, d.reach = .every) :
    (ofList directives).ByTarget := by
  unfold ofList
  split
  · simp [ByTarget]
  · exact fun d kept => every d (mem_of_mem_standing kept)

/-- A plain text describes a filter, and its directives speak of whole targets. -/
theorem parse_of_plain {text : String} (plain : Plain text) :
    ∃ f, parse text = some f ∧ f.ByTarget := by
  obtain ⟨directives, read, every⟩ := readAll_of_plain plain
  exact ⟨ofList directives, by rw [parse, read]; rfl, byTarget_ofList every⟩

/-- Pieces with a comma between each two are plain, such as a level alone or targets with levels. -/
theorem plain_intercalate {pieces : List String}
    (clean : ∀ piece ∈ pieces, ∀ c ∈ piece.toList, c ≠ '[' ∧ c ≠ ',' ∧ Text.isSpace c = false) :
    Plain (",".intercalate pieces) := by
  cases pieces with
  | nil =>
    intro piece mem
    rw [String.intercalate_nil, Text.splitOn_comma] at mem
    cases List.mem_singleton.mp mem
    exact ⟨List.not_mem_nil, .inl (by simp)⟩
  | cons first rest =>
    rw [Plain, Text.splitOn_intercalate (by simp)
      fun piece mem comma => (clean piece mem ',' comma).2.1 rfl]
    intro piece mem
    refine ⟨fun bracket => (clean piece mem '[' bracket).1 rfl, .inr fun c head => ?_⟩
    exact (clean piece mem c (List.mem_of_mem_head? head)).2.2

end Filter

end Switchboard

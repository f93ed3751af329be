import Switchboard.Demo
import Switchboard.Proofs.Dispatch.Channels
import Switchboard.Proofs.Log.Steady
import Switchboard.Proofs.Log.Targets
import Switchboard.Proofs.Record.Assembly

/-!
The demonstration under thresholds and settings.

Each part of the program succeeds and leaves a steady journal (`Demo.Succeeds`), so the whole
does (`Demo.succeeds_program`). What it prints is therefore the same under every threshold, and
thresholds differ only in the log lines that they leave out
(`Demo.thresholds_only_drop_log_lines`). Behind each plain setting stands a threshold.
-/

namespace Switchboard.Demo

open Journal

variable {A B F : Type}

/-! ### Parts that succeed -/

/-- The part returns a value with the property, and its journal is steady. -/
structure Succeeds (part : Part A) (holds : A → Prop) : Prop where
  returned : ∃ a, part.run.outcome = .returned (.ok a) ∧ holds a
  steady : part.run.journal.Steady

theorem Succeeds.bind {first : Part A} {next : A → Part B} {holds : A → Prop}
    {holds' : B → Prop} (succeeds : Succeeds first holds)
    (rest : ∀ a, holds a → Succeeds (next a) holds') : Succeeds (first >>= next) holds' := by
  obtain ⟨a, returned, held⟩ := succeeds.returned
  have run_eq : (first >>= next).run =
      ⟨first.run.journal ++ (next a).run.journal, (next a).run.outcome⟩ := by
    rw [ExceptT.run_bind, Run.bind_of_returned returned]
  constructor
  · rw [run_eq]
    exact (rest a held).returned
  · rw [run_eq]
    exact succeeds.steady.append (rest a held).steady

theorem succeeds_of_ok {run : Run (Except F A)} {wrap : F → Fault} {a : A} {holds : A → Prop}
    (returned : run.outcome = .returned (.ok a)) (held : holds a) (steady : run.journal.Steady) :
    Succeeds (ExceptT.mk ((·.mapError wrap) <$> run)) holds where
  returned := ⟨a, by simp [ExceptT.run_mk, returned, Outcome.map, Except.mapError], held⟩
  steady := by simpa [ExceptT.run_mk] using steady

theorem succeeds_lift {run : Run A} {a : A} {holds : A → Prop}
    (returned : run.outcome = .returned a) (held : holds a) (steady : run.journal.Steady) :
    Succeeds (ExceptT.lift run) holds where
  returned := ⟨a, by simp [returned, Outcome.map], held⟩
  steady := by simpa using steady

theorem succeeds_print (line : String) : Succeeds (print line) fun _ => True :=
  succeeds_lift (a := ()) rfl trivial (steady_note line)

section Tables

variable {V R : Type} {history : History (Handler V R)}

theorem succeeds_sealFor {tags : List String}
    (covered : ∀ tag ∈ tags, tag ∈ history.map Prod.fst) :
    Succeeds (dispatching ((Handlers.ofHistory history).sealFor tags))
      (· = ⟨.ofHistory history⟩) := by
  have contained : ∀ tag ∈ tags, (Handlers.ofHistory history).contains tag := by
    intro tag mem
    rw [Handlers.contains_iff_get?, Handlers.get?_ofHistory, History.latest_isSome_iff]
    exact covered tag mem
  exact succeeds_of_ok (Handlers.sealFor_eq_ok_iff.mpr ⟨contained, rfl⟩) rfl
    (Handlers.steady_sealFor _ tags)

theorem succeeds_dispatch [Tagged V] (calm : ∀ entry ∈ history, ∀ value, (entry.2 value).Calm [])
    {value : V} (known : Tagged.tag value ∈ history.map Prod.fst) :
    Succeeds (dispatching (SealedHandlers.dispatch ⟨.ofHistory history⟩ value))
      fun _ => True := by
  obtain ⟨handler, latest⟩ := Option.isSome_iff_exists.mp (History.latest_isSome_iff.mpr known)
  have calm_handler := calm _ (History.mem_of_latest latest) value
  obtain ⟨r, returned⟩ := calm_handler.returned
  have found := (Handlers.get?_ofHistory history (Tagged.tag value)).trans latest
  refine succeeds_of_ok (a := r) ?_ trivial (Handlers.steady_dispatch ?_)
  · change ((Handlers.ofHistory history).dispatch value).outcome = _
    rw [Handlers.dispatch_of_some found, returned, Outcome.map]
  · intro other found'
    rw [found, Option.some.injEq] at found'
    exact found' ▸ calm_handler.flat.steady

end Tables

theorem succeeds_build {s : Shape} {arguments : History Value} {r : Record}
    (assembled : s.assemble arguments = .ok r) :
    Succeeds (building (s.build arguments)) fun made => made.tag = s.tag :=
  succeeds_of_ok (a := r) (by rw [Shape.outcome_build, assembled])
    (Shape.tag_of_assemble assembled) (s.steady_build arguments)

/-! ### The program -/

theorem succeeds_showOptions : Succeeds showOptions fun _ => True := by
  have closed : Succeeds (dispatching optionHandlers.sealDeclared) (· = ⟨optionHandlers⟩) :=
    succeeds_sealFor fun tag declared => declared
  have served (value : Option String) :
      Succeeds (dispatching (SealedHandlers.dispatch ⟨optionHandlers⟩ value)) fun _ => True :=
    succeeds_dispatch (by simp [Run.calm_pure]) (by cases value <;> simp [Tagged.tag])
  refine closed.bind fun options same => ?_
  subst same
  refine (served _).bind fun line _ => (succeeds_print line).bind fun _ _ => ?_
  exact (served _).bind fun line _ => succeeds_print line

theorem succeeds_showLabels : Succeeds showLabels fun _ => True := by
  have closed : Succeeds (dispatching (labelHandlers.sealFor [fooShape.tag, barShape.tag]))
      (· = ⟨labelHandlers⟩) := succeeds_sealFor fun tag listed => listed
  have served (r : Record) (known : r.tag = fooShape.tag ∨ r.tag = barShape.tag) :
      Succeeds (dispatching (SealedHandlers.dispatch ⟨labelHandlers⟩ r)) fun _ => True :=
    succeeds_dispatch (by simp [Run.calm_pure])
      (by rcases known with tag | tag <;> simp [Tagged.tag, tag, fooShape, barShape])
  refine (succeeds_build rfl).bind fun foo fooTag => ?_
  refine (succeeds_build rfl).bind fun bar barTag => ?_
  refine closed.bind fun labels same => ?_
  subst same
  refine (served foo (.inl fooTag)).bind fun line _ => (succeeds_print line).bind fun _ _ => ?_
  exact (served bar (.inr barTag)).bind fun line _ => succeeds_print line

theorem succeeds_classify {matcher : Matcher Int64 Int64 String}
    (calm : ∀ arm ∈ matcher.arms, Matcher.CalmArm arm) (n : Int64) :
    Succeeds (classify matcher n) fun _ => True := by
  obtain ⟨found, returned⟩ := Matcher.returned_answer calm n
  have answered : Succeeds (ExceptT.lift (matcher.answer n)) fun _ => True :=
    succeeds_lift returned trivial (Matcher.steady_answer calm n)
  exact answered.bind fun found _ => succeeds_print _

theorem succeeds_showClasses : Succeeds showClasses fun _ => True := by
  let pending : Pending Int64 Int64 := ⟨integerPatterns⟩
  obtain ⟨matcher, made⟩ : ∃ m, (pending.withResults integerResults).outcome = .returned (.ok m) :=
    Matcher.exists_ofHistories_iff.mpr (by simp)
  have calm : ∀ arm ∈ matcher.arms, Matcher.CalmArm arm :=
    Matcher.calm_of_made made (by simp [Pattern.calm_predicate, Run.calm_pure])
      (by simp [Run.calm_pure])
  have combined : Succeeds (combining (pending.withResults integerResults)) (· = matcher) :=
    succeeds_of_ok made rfl (pending.steady_withResults integerResults)
  refine combined.bind fun m same => ?_
  subst same
  refine (succeeds_classify calm _).bind fun _ _ => (succeeds_classify calm _).bind fun _ _ => ?_
  exact (succeeds_classify calm _).bind fun _ _ => succeeds_classify calm _

theorem succeeds_program : Succeeds program fun _ => True :=
  succeeds_showOptions.bind fun _ _ => succeeds_showLabels.bind fun _ _ => succeeds_showClasses

/-! ### Thresholds -/

/-- Let target and level decide what of the demonstration is logged. Its own lines are there in any
case, in their order. And the log under one threshold is the log under any other that enables the
same events and more, without the lines of those that the first does not enable. -/
theorem thresholds_only_drop_log_lines (t : Threshold) :
    (shown t [] program.run.journal).filter Line.isOwn =
        (notes program.run.journal).map Line.own ∧
      ∀ u : Threshold,
        (∀ event ∈ events program.run.journal,
          t.enables event.target event.level → u.enables event.target event.level) →
        shown t [] program.run.journal =
          (shown u [] program.run.journal).filter (Line.stays t.enables) :=
  ⟨filter_isOwn_shown t [] _, fun _ fewer => shown_eq_filter succeeds_program.steady.uniform fewer⟩

/-! ### Settings -/

/-- The filter of a setting: the silent one without a setting, else the one that the text
describes, if it can be read. -/
def filterOf : Option String → Option Filter
  | none => some .silent
  | some text => Filter.parse text

/-- The setting lets through what the target reports at the level. -/
def enables (setting : Option String) (target : String) (level : Level) : Bool :=
  (filterOf setting).any (·.enables target level)

/-- The lines under a setting, with their origin. -/
def linesUnder (setting : Option String) : List Line :=
  match filterOf setting with
  | some f => program.run.journal.written f []
  | none => []

/-- The setting is not there, or a plain text such as a level or a list of targets with levels. -/
def PlainSetting (setting : Option String) : Prop :=
  ∀ text ∈ setting, Filter.Plain text

theorem plainSetting_trace : PlainSetting (some "trace") := by
  rintro _ ⟨⟩
  exact Filter.plain_intercalate (List.forall_mem_singleton.mpr (by simp [Text.isSpace]))

variable {setting more : Option String}

/-- Behind a plain setting stands a threshold. -/
theorem exists_threshold (plain : PlainSetting setting) :
    ∃ t : Threshold, enables setting = t.enables ∧
      linesUnder setting = shown t [] program.run.journal := by
  obtain ⟨f, found, byTarget⟩ : ∃ f, filterOf setting = some f ∧ f.ByTarget := by
    cases setting with
    | none => exact ⟨.silent, rfl, Filter.byTarget_silent⟩
    | some text => exact Filter.parse_of_plain (plain text rfl)
  refine ⟨f.threshold, ?_, ?_⟩
  · funext target level
    rw [enables, found, Option.any_some]
    rfl
  · rw [linesUnder, found]
    exact written_eq_shown byTarget [] _

theorem enables_trace (target : String) (level : Level) : enables (some "trace") target level := by
  rw [enables, filterOf, Filter.parse_trace]
  exact Filter.enables_full target level

/-- The program ends by itself, whatever is logged. -/
theorem outputUnder_eq (filter : Option Filter) :
    outputUnder filter = ⟨0, program.run.journal.lines filter⟩ := by
  obtain ⟨_, returned, _⟩ := succeeds_program.returned
  rw [outputUnder, returned]

theorem output_eq (plain : PlainSetting setting) :
    output setting = ⟨0, (linesUnder setting).map Line.text⟩ := by
  cases setting with
  | none =>
    have lines_eq := map_text_written none [] program.run.journal
    rw [output, outputUnder_eq, lines, ← lines_eq]
    rfl
  | some text =>
    obtain ⟨f, parsed, _⟩ := Filter.parse_of_plain (plain text rfl)
    have lines_eq := map_text_written (some f) [] program.run.journal
    rw [linesUnder, filterOf, parsed, output, parsed]
    change outputUnder (some f) = _
    rw [outputUnder_eq, lines, ← lines_eq]
    rfl

/-- A setting shows the lines that a more generous one shows, without those that it does not
enable. -/
theorem linesUnder_eq_filter (plain : PlainSetting setting) (plain' : PlainSetting more)
    (fewer : ∀ event ∈ events program.run.journal,
      enables setting event.target event.level → enables more event.target event.level) :
    linesUnder setting = (linesUnder more).filter (Line.stays (enables setting)) := by
  obtain ⟨t, enables_eq, lines_eq⟩ := exists_threshold plain
  obtain ⟨u, enables_eq', lines_eq'⟩ := exists_threshold plain'
  rw [enables_eq, enables_eq'] at fewer
  rw [enables_eq, lines_eq, lines_eq']
  exact (thresholds_only_drop_log_lines t).2 u fewer

theorem filter_isOwn_linesUnder (plain : PlainSetting setting) :
    (linesUnder setting).filter Line.isOwn = linesUnder none := by
  obtain ⟨t, _, lines_eq⟩ := exists_threshold plain
  have unset : linesUnder none = shown .silent [] program.run.journal := by
    rw [← Filter.threshold_silent]
    exact written_eq_shown Filter.byTarget_silent [] _
  rw [lines_eq, unset, shown_silent]
  exact (thresholds_only_drop_log_lines t).1

/-- Without a setting and under every plain one the demonstration ends with code zero. Without its
log lines the output is that without a setting; and it is the output under `trace`, or under any
other plain setting that enables what this one does, without the log lines of the events that this
one does not enable. So a setting that enables more takes no line away, and moves none. -/
theorem settings_only_drop_log_lines (setting : Option String) (plain : PlainSetting setting) :
    output setting = ⟨0, (linesUnder setting).map Line.text⟩
      ∧ output none = ⟨0, (linesUnder none).map Line.text⟩
      ∧ output (some "trace") = ⟨0, (linesUnder (some "trace")).map Line.text⟩
      ∧ (linesUnder setting).filter Line.isOwn = linesUnder none
      ∧ linesUnder setting =
          (linesUnder (some "trace")).filter (Line.stays (enables setting))
      ∧ ∀ more, PlainSetting more →
          (∀ event ∈ events program.run.journal,
            enables setting event.target event.level → enables more event.target event.level) →
          linesUnder setting = (linesUnder more).filter (Line.stays (enables setting)) := by
  have unset : PlainSetting none := by simp [PlainSetting]
  refine ⟨output_eq plain, output_eq unset, output_eq plainSetting_trace,
    filter_isOwn_linesUnder plain, ?_, fun more plain' => linesUnder_eq_filter plain plain'⟩
  exact linesUnder_eq_filter plain plainSetting_trace fun event _ _ =>
    enables_trace event.target event.level

def mixedDirectives : List String := ["tagmatch_union=debug", "tagmatch_patterns=trace"]

/-- Everything about patterns, and less about tables. -/
def mixedSetting : String := ",".intercalate mixedDirectives

theorem parse_mixedSetting :
    Filter.parse mixedSetting = some ⟨[
      ⟨"tagmatch_union", .every, some .debug⟩, ⟨"tagmatch_patterns", .every, some .trace⟩]⟩ := by
  have split : mixedSetting.splitOn "," = mixedDirectives :=
    Text.splitOn_intercalate (by decide) (by decide)
  have tables : Directive.read "tagmatch_union=debug" =
      .ok ⟨"tagmatch_union", .every, some .debug⟩ := by decide +kernel
  have patterns : Directive.read "tagmatch_patterns=trace" =
      .ok ⟨"tagmatch_patterns", .every, some .trace⟩ := by decide +kernel
  rw [Filter.parse, split, mixedDirectives, Filter.readAll, tables, Filter.readAll, patterns]
  rfl

theorem plainSetting_mixed : PlainSetting (some mixedSetting) := by
  rintro _ ⟨⟩
  exact Filter.plain_intercalate (by simp [mixedDirectives, Text.isSpace])

theorem settings_only_drop_log_lines_mixed :
    mixedSetting = "tagmatch_union=debug,tagmatch_patterns=trace"
      ∧ PlainSetting (some mixedSetting)
      ∧ enables (some mixedSetting) Handlers.target .debug
      ∧ enables (some mixedSetting) Handlers.target .trace = false
      ∧ enables (some mixedSetting) Matcher.target .trace
      ∧ output (some mixedSetting) = ⟨0, (linesUnder (some mixedSetting)).map Line.text⟩
      ∧ linesUnder (some mixedSetting) =
          (linesUnder (some "trace")).filter (Line.stays (enables (some mixedSetting))) := by
  obtain ⟨shown, _, _, _, thinned, _⟩ :=
    settings_only_drop_log_lines (some mixedSetting) plainSetting_mixed
  have enables_eq (target : String) (level : Level) : enables (some mixedSetting) target level =
      Filter.enables ⟨[⟨"tagmatch_union", .every, some .debug⟩,
        ⟨"tagmatch_patterns", .every, some .trace⟩]⟩ target level := by
    rw [enables, filterOf, parse_mixedSetting]
    rfl
  refine ⟨rfl, plainSetting_mixed, ?_, ?_, ?_, shown, thinned⟩ <;> rw [enables_eq] <;> decide

end Switchboard.Demo

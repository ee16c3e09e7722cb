import TagQuery.Proofs.Commands

namespace TagQuery

namespace Invocation

/-- The arguments ask to filter the lines of the standard input as they stand, without debugging. -/
def AsksForLines (arguments : List Text) (query : Text) : Prop :=
  ofArguments arguments = .request ⟨false, query, .filter none true⟩

theorem asksForLines_of_written {words arguments : List Text} (filled : words ≠ [])
    (written : Command.filter.Written [(.raw, none)] words arguments) :
    AsksForLines ("filter".toList :: arguments) ([' '].intercalate words) := by
  have asked : (Action.filter none true).Written words false ("filter".toList :: arguments) :=
    .quiet (.refl _) written
  exact Action.ofArguments_of_written asked filled

theorem asksForLines_of_unhyphened {query : Text} (plain : query.head? ≠ some '-') :
    AsksForLines ["filter".toList, "--raw".toList, query] query := by
  have bare : Argument.Bare query := fun hyphened => absurd hyphened plain
  have raw : Switch.raw.Written none ["--raw".toList] := .named rfl
  have asks := asksForLines_of_written (List.cons_ne_nil query [])
    (.switch (by decide) raw (.word bare .done))
  rwa [List.intercalate_singleton] at asks

theorem asksForLines_behind (query : Text) :
    AsksForLines ["filter".toList, "--raw".toList, "--".toList, query] query := by
  have raw : Switch.raw.Written none ["--raw".toList] := .named rfl
  have asks := asksForLines_of_written (List.cons_ne_nil query [])
    (.switch (by decide) raw (.rest [query]))
  rwa [List.intercalate_singleton] at asks

end Invocation

namespace Program

def stage (colored : Bool) (layout : Log.Layout) (arguments : List Text) (bytes : ByteArray) :
    Report :=
  run colored (.ok bytes) (Invocation.ofArguments arguments) layout

end Program

namespace Session

open Query

theorem filterLines_select (colored : Bool) (layout : Log.Layout) (query : Text)
    (lines : List Text) :
    filterLines ⟨false, colored, layout⟩ query (lines.filter (selects query)) =
      filterLines ⟨false, colored, layout⟩ query lines := by
  have same : (lines.filter (selects query)).filter (selects query) =
      lines.filter (selects query) := by
    rw [List.filter_filter]
    exact List.filter_congr fun line _ => Bool.and_self _
  simp only [filterLines, same]
  rfl

end Session

namespace Program

open Query Invocation

theorem source?_of_lines {arguments : List Text} {query : Text} {value : Bool}
    (asks : AsksForLines arguments query) (checked : verdict query [] = .value value) :
    source? (ofArguments arguments) = some none :=
  (Session.source?_of_answer asks).mpr ⟨⟨value, checked⟩, true, rfl⟩

section Stages

variable {arguments : List Text} {query text : Text} {bytes : ByteArray} {value : Bool}
variable (colored : Bool) (layout : Log.Layout) (asks : AsksForLines arguments query)
  (checked : verdict query [] = .value value) (decoded : Text.decode? bytes = some text)
include asks checked decoded

theorem stage_of_lines :
    stage colored layout arguments bytes =
      (Session.check ⟨false, colored, layout⟩ query).andThen
        (Session.filterLines ⟨false, colored, layout⟩ query text.lines) := by
  rw [stage, asks, run, Session.run]
  simp only [Session.check_of_value _ checked, Session.act, Session.filter, Session.linesOf,
    decoded]
  rfl

theorem out_of_lines :
    (stage colored layout arguments bytes).out = Text.ofLines (text.lines.filter (selects query)) ∧
      (stage colored layout arguments bytes).exit = 0 := by
  rw [stage_of_lines colored layout asks checked decoded, Session.check_of_value _ checked]
  exact ⟨rfl, rfl⟩

variable (clean : ∀ line ∈ text.lines, line.getLast? ≠ some '\r')
include clean

theorem lines_of_out :
    Text.lines (stage colored layout arguments bytes).out = text.lines.filter (selects query) := by
  rw [(out_of_lines colored layout asks checked decoded).1]
  apply Text.lines_ofLines
  · intro line member
    exact Text.newline_not_mem_of_mem_lines (List.mem_filter.mp member).1
  · intro line member
    exact clean line (List.mem_filter.mp member).1

variable {next : List Text} {other : Text} {value' : Bool} (asks' : AsksForLines next other)
  (checked' : verdict other [] = .value value')
include asks' checked'

theorem stage_of_out :
    stage colored layout next (Text.encode (stage colored layout arguments bytes).out) =
      (Session.check ⟨false, colored, layout⟩ other).andThen
        (Session.filterLines ⟨false, colored, layout⟩ other
          (text.lines.filter (selects query))) := by
  rw [stage_of_lines colored layout asks' checked' (Text.decode?_encode _),
    lines_of_out colored layout asks checked decoded clean]

theorem out_of_out :
    (stage colored layout next (Text.encode (stage colored layout arguments bytes).out)).out =
      Text.ofLines (text.lines.filter fun line => selects other line && selects query line) := by
  rw [(out_of_lines colored layout asks' checked' (Text.decode?_encode _)).1,
    lines_of_out colored layout asks checked decoded clean, List.filter_filter]

end Stages

/-- A filter can be asked for with every query. With a well-formed one it prints the lines that the
query selects, in their order and each with a line feed, and succeeds. On what it has printed it
gives the same answer again. Two filters print the same whichever of them comes first. -/
theorem pipeline_of_filters :
    (∀ query,
      (query.head? ≠ some '-' → AsksForLines ["filter".toList, "--raw".toList, query] query) ∧
        AsksForLines ["filter".toList, "--raw".toList, "--".toList, query] query) ∧
      ∀ colored layout bytes text, Text.decode? bytes = some text →
        (∀ line ∈ text.lines, line.getLast? ≠ some '\r') →
        (∀ arguments query value, AsksForLines arguments query → verdict query [] = .value value →
          let answer := stage colored layout arguments bytes
          source? (ofArguments arguments) = some none ∧
            answer.out = Text.ofLines (text.lines.filter (selects query)) ∧ answer.exit = 0 ∧
            stage colored layout arguments (Text.encode answer.out) = answer) ∧
          ∀ first second query other value value', AsksForLines first query →
            AsksForLines second other → verdict query [] = .value value →
            verdict other [] = .value value' →
            (stage colored layout second (Text.encode (stage colored layout first bytes).out)).out =
              (stage colored layout first
                (Text.encode (stage colored layout second bytes).out)).out := by
  constructor
  · exact fun query => ⟨asksForLines_of_unhyphened, asksForLines_behind query⟩
  intro colored layout bytes text decoded clean
  constructor
  · intro arguments query value asks checked answer
    obtain ⟨printed, succeeds⟩ := out_of_lines colored layout asks checked decoded
    refine ⟨source?_of_lines asks checked, printed, succeeds, ?_⟩
    calc
      stage colored layout arguments (Text.encode answer.out) =
          (Session.check ⟨false, colored, layout⟩ query).andThen
            (Session.filterLines ⟨false, colored, layout⟩ query
              (text.lines.filter (selects query))) :=
        stage_of_out colored layout asks checked decoded clean asks checked
      _ = (Session.check ⟨false, colored, layout⟩ query).andThen
            (Session.filterLines ⟨false, colored, layout⟩ query text.lines) := by
        rw [Session.filterLines_select]
      _ = answer := (stage_of_lines colored layout asks checked decoded).symm
  · intro first second query other value value' asks asks' checked checked'
    rw [out_of_out colored layout asks checked decoded clean asks' checked',
      out_of_out colored layout asks' checked' decoded clean asks checked]
    simp only [Bool.and_comm]

theorem pipeline_of_filters_on_mixed_endings :
    let text : Text := "é : {b}\r\n\n{a},{b}\n{c}\r\n{b}".toList
    let first := ["filter".toList, "--raw".toList, "!{a}".toList]
    let second := ["filter".toList, "--raw".toList, "--".toList, "{b} or {a}".toList]
    let answer (arguments : List Text) (text : Text) :=
      stage false .plain arguments (Text.encode text)
    (∀ line ∈ text.lines, line.getLast? ≠ some '\r') ∧ AsksForLines first "!{a}".toList ∧
      AsksForLines second "{b} or {a}".toList ∧ verdict "!{a}".toList [] = .value true ∧
      verdict "{b} or {a}".toList [] = .value false ∧
      (answer first text).out = "é : {b}\n\n{c}\n{b}\n".toList ∧
      answer first (answer first text).out = answer first text ∧
      (answer second (answer first text).out).out =
        (answer first (answer second text).out).out := by
  intro text first second answer
  obtain ⟨asking, piped⟩ := pipeline_of_filters
  have clean : ∀ line ∈ text.lines, line.getLast? ≠ some '\r' := by decide
  have asks : AsksForLines first "!{a}".toList := (asking _).1 (by decide)
  have asks' : AsksForLines second "{b} or {a}".toList := (asking _).2
  have checked : verdict "!{a}".toList [] = .value true := by decide +kernel
  have checked' : verdict "{b} or {a}".toList [] = .value false := by decide +kernel
  obtain ⟨prints, commutes⟩ := piped false .plain _ text (Text.decode?_encode text) clean
  obtain ⟨-, printed, -, again⟩ := prints first _ _ asks checked
  have swapped := commutes first second _ _ _ _ asks asks' checked checked'
  refine ⟨clean, asks, asks', checked, checked', ?_, again, swapped⟩
  calc
    (answer first text).out = Text.ofLines (text.lines.filter (selects "!{a}".toList)) := printed
    _ = "é : {b}\n\n{c}\n{b}\n".toList := by decide +kernel

end Program
end TagQuery

import TagQuery.Proofs.Arguments
import TagQuery.Proofs.Checking

namespace TagQuery
namespace Session

open Query Invocation

theorem complaint_ends (colored : Bool) (query : Text) (fault : Fault) :
    ∃ picture, complaint colored query fault =
      picture ++ (Style.strongTinted .red).paint colored "error: ".toList ++
        Style.strong.paint colored fault.message ++ ['\n'] := by
  have told : ∃ picture, complaint colored query fault =
      picture ++ (Diagnostic.ofFault query fault).sentence colored := by
    unfold complaint Diagnostic.rendered
    split
    · exact ⟨[], rfl⟩
    · exact ⟨_, rfl⟩
  obtain ⟨picture, told⟩ := told
  refine ⟨picture, ?_⟩
  rw [told, List.append_assoc, List.append_assoc]
  exact congrArg _ (List.append_assoc ..)

section Commands

variable {debug : Bool} {query : Text} {arguments : List Text} {action : Action}
variable (asks : ofArguments arguments = .request ⟨debug, query, action⟩) (colored : Bool)
include asks

theorem answer_of_malformed {fault : Fault} (malformed : verdict query [] = .malformed fault)
    (layout : Log.Layout) (input : Except ReadError ByteArray) :
    Program.run colored input (ofArguments arguments) layout =
      ⟨symbolListing debug colored query,
        warning colored query ++ logged ⟨debug, colored, layout⟩ 0 (evaluate query []).events ++
          complaint colored query fault, 1⟩ := by
  calc
    Program.run colored input (ofArguments arguments) layout =
        run colored layout input ⟨debug, query, action⟩ := by rw [asks, Program.run]
    _ = check ⟨debug, colored, layout⟩ query := run_of_malformed malformed ..
    _ = _ := check_of_malformed _ malformed

theorem exit_of_answer {value : Bool} (checked : verdict query [] = .value value)
    (layout : Log.Layout) (input : Except ReadError ByteArray) :
    (Program.run colored input (ofArguments arguments) layout).exit =
      (act ⟨debug, colored, layout⟩ query input action).exit := by
  rw [asks, Program.run, run_of_value checked]
  rfl

theorem source?_of_answer {source? : Option Text} :
    Program.source? (ofArguments arguments) = some source? ↔
      (∃ value, verdict query [] = .value value) ∧ ∃ raw, action = .filter source? raw := by
  rw [asks, Program.source?, source?_eq_some_iff]

theorem source?_of_other (other : ∀ source? raw, action ≠ .filter source? raw) :
    Program.source? (ofArguments arguments) = none := by
  apply Option.eq_none_iff_forall_ne_some.mpr
  intro source? reads
  obtain ⟨-, raw, filters⟩ := (source?_of_answer asks).mp reads
  exact other source? raw filters

theorem unread_of_malformed {fault : Fault} (malformed : verdict query [] = .malformed fault) :
    Program.source? (ofArguments arguments) = none := by
  rw [asks]
  exact source?_of_malformed malformed

end Commands

theorem exit_of_tested {debug : Bool} {query text : Text} {arguments : List Text}
    (asks : ofArguments arguments = .request ⟨debug, query, .test text⟩) {value : Bool}
    (checked : verdict query [] = .value value) (colored : Bool) (layout : Log.Layout)
    (input : Except ReadError ByteArray) :
    (Program.run colored input (ofArguments arguments) layout).exit = 0 ∧
        verdict query text = .value true ∨
      (Program.run colored input (ofArguments arguments) layout).exit = 1 ∧
        verdict query text = .value false := by
  obtain ⟨found, evaluated⟩ := value_everywhere checked text
  rw [exit_of_answer asks colored checked, act, exit_of_test _ evaluated, evaluated]
  cases found with
  | false => exact .inr ⟨rfl, rfl⟩
  | true => exact .inl ⟨rfl, rfl⟩

/-- The commands agree on every query, whatever command line asks for them. If the query is
malformed, all of them print the same and fail, with the fault that the query has about every text,
and none reads its input. If it is well-formed, the check succeeds, a test tells what the query
says, a filter reads the source that it names and succeeds on every text in UTF-8, and no evaluation
finds a fault. Of all that is printed only the log depends on its layout, so on the times of its
records. -/
theorem commands_agree (debug colored : Bool) (query : Text) :
    let asks (arguments : List Text) (action : Action) :=
      ofArguments arguments = .request ⟨debug, query, action⟩
    let source? (arguments : List Text) := Program.source? (ofArguments arguments)
    let answer (arguments : List Text) (layout : Log.Layout) (input : Except ReadError ByteArray) :=
      Program.run colored input (ofArguments arguments) layout
    (∀ action words arguments, words ≠ [] → query = [' '].intercalate words →
      action.Written words debug arguments → asks arguments action) ∧
    (∀ fault, verdict query [] = .malformed fault →
      (∀ text, verdict query text = .malformed fault) ∧
      (∀ other : Fault, other.message = fault.message → other = fault) ∧
      (∀ column, fault.column? = some column → Text.decimal column <:+: fault.message) ∧
      (∃ picture, complaint colored query fault =
        picture ++ (Style.strongTinted .red).paint colored "error: ".toList ++
          Style.strong.paint colored fault.message ++ ['\n']) ∧
      (∀ layout events, debug = false → logged ⟨debug, colored, layout⟩ 0 events = []) ∧
      ∀ arguments action, asks arguments action →
        source? arguments = none ∧
        ∀ layout input, answer arguments layout input =
          ⟨symbolListing debug colored query,
            warning colored query ++
              logged ⟨debug, colored, layout⟩ 0 (evaluate query []).events ++
              complaint colored query fault, 1⟩) ∧
    ∀ value, verdict query [] = .value value →
      (∀ arguments, asks arguments .check →
        source? arguments = none ∧ ∀ layout input, (answer arguments layout input).exit = 0) ∧
      (∀ arguments text, asks arguments (.test text) →
        source? arguments = none ∧ ∀ layout input,
          (answer arguments layout input).exit = 0 ∧ verdict query text = .value true ∨
            (answer arguments layout input).exit = 1 ∧ verdict query text = .value false) ∧
      (∀ arguments file? raw, asks arguments (.filter file? raw) →
        source? arguments = some file? ∧ ∀ layout input,
          (answer arguments layout input).exit = 0 ↔ ∃ text, input = .ok (Text.encode text)) ∧
      ∀ text named fault, .malformed named fault ∉ events query text := by
  intro asks source? answer
  refine ⟨?_, ?_, ?_⟩
  · rintro action words arguments filled rfl written
    exact Action.ofArguments_of_written written filled
  · intro fault malformed
    refine ⟨malformed_everywhere malformed, fun other same => Fault.message_injective same,
      fun column => Fault.decimal_infix_message, complaint_ends colored query fault, ?_, ?_⟩
    · intro layout events quiet
      exact logged_of_quiet _ quiet 0 events
    · intro arguments action asked
      exact ⟨unread_of_malformed asked malformed, answer_of_malformed asked colored malformed⟩
  · intro value checked
    refine ⟨?_, ?_, ?_, ?_⟩
    · intro arguments asked
      exact ⟨source?_of_other asked (by simp), exit_of_answer asked colored checked⟩
    · intro arguments text asked
      exact ⟨source?_of_other asked (by simp), exit_of_tested asked checked colored⟩
    · intro arguments file? raw asked
      refine ⟨(source?_of_answer asked).mpr ⟨⟨value, checked⟩, raw, rfl⟩, ?_⟩
      intro layout input
      simp only [answer]
      rw [exit_of_answer asked colored checked]
      exact exit_of_filter ..
    · intro text
      obtain ⟨found, evaluated⟩ := value_everywhere checked text
      exact malformed_not_mem_events evaluated

/-- Two command lines for a query with a fault that only its words together show, and one for a
query that is well-formed although it leaves a literal open. -/
theorem commands_agree_on_words :
    let faulty : Text := "{a} ({b} and".toList
    let sound : Text := "not {a} \x7bb".toList
    let test := ["-d".toList, "match".toList, "{a}".toList, "-tx".toList, "({b} and".toList]
    let filter := ["--debug".toList, "filter".toList, "{a}".toList, "({b} and".toList,
      "--file".toList, "/".toList]
    let lines := ["filter".toList, "--raw".toList, "-f=x".toList, "--".toList, "not".toList,
      "{a} \x7bb".toList]
    verdict faulty [] = .malformed (.danglingOperator 10) ∧ verdict sound [] = .value true ∧
      (∀ layout input other,
        Program.run false input (ofArguments test) layout =
          Program.run false other (ofArguments filter) layout ∧
        (Program.run false input (ofArguments test) layout).exit = 1) ∧
      Program.source? (ofArguments filter) = none ∧
      Program.source? (ofArguments lines) = some (some "x".toList) ∧
      ∀ layout input, (Program.run false input (ofArguments lines) layout).exit = 0 ↔
        ∃ text, input = .ok (Text.encode text) := by
  intro faulty sound test filter lines
  have malformed : verdict faulty [] = .malformed (.danglingOperator 10) := by decide +kernel
  have checked : verdict sound [] = .value true := by decide +kernel
  have tests : ofArguments test = .request ⟨true, faulty, .test "x".toList⟩ := rfl
  obtain ⟨asked, faults, -⟩ := commands_agree true false faulty
  have named : Switch.file.Written (some "/".toList) ["--file".toList, "/".toList] :=
    .apart rfl (by decide)
  have behind : Command.filter.Written [(.file, some "/".toList)]
      ["{a}".toList, "({b} and".toList] filter.tail.tail :=
    .word (by decide) (.word (by decide) (.switch (by decide) named .done))
  have filters : ofArguments filter = .request ⟨true, faulty, .filter (some "/".toList) false⟩ :=
    asked _ _ filter (by decide) rfl (.debugging (.named rfl) (.refl _) behind)
  obtain ⟨-, -, -, -, -, same⟩ := faults _ malformed
  obtain ⟨-, tested⟩ := same test _ tests
  obtain ⟨unread, filtered⟩ := same filter _ filters
  have asks : ofArguments lines = .request ⟨false, sound, .filter (some "x".toList) true⟩ := rfl
  obtain ⟨-, -, succeeds⟩ := commands_agree false false sound
  obtain ⟨reads, exits⟩ := (succeeds _ checked).2.2.1 lines _ _ asks
  refine ⟨malformed, checked, ?_, unread, reads, exits⟩
  intro layout input other
  exact ⟨(tested layout input).trans (filtered layout other).symm,
    congrArg Report.exit (tested layout input)⟩

end Session
end TagQuery

import TagQuery.Proofs.Checking
import TagQuery.Proofs.Diagnosis

namespace TagQuery

theorem Symbol.filter_column {symbols : List Symbol}
    (increasing : symbols.Pairwise (·.column < ·.column)) {symbol : Symbol}
    (member : symbol ∈ symbols) : symbols.filter (·.column = symbol.column) = [symbol] := by
  induction symbols with
  | nil => simp at member
  | cons head tail ih =>
      obtain ⟨above, ordered⟩ := List.pairwise_cons.mp increasing
      rcases List.mem_cons.mp member with rfl | later
      · have apart : tail.filter (·.column = symbol.column) = [] := by
          apply List.filter_eq_nil_iff.mpr
          intro other present same
          exact Nat.ne_of_gt (above other present) (of_decide_eq_true same)
        rw [List.filter_cons, apart]
        simp
      · have distinct : head.column ≠ symbol.column := Nat.ne_of_lt (above symbol later)
        rw [List.filter_cons, ih ordered later]
        simp [distinct]

namespace Diagnostic

/-- The query on a line of its own, and carets under `width` of its characters from `column` on. -/
def underlined (query : Text) (column width : Nat) : Text :=
  "query:  ".toList ++ query ++ ['\n'] ++
    (List.replicate (8 + column - 1) ' ' ++ List.replicate width '^' ++ ['\n'])

theorem widthAt_of_mem {symbols : List Symbol} (increasing : symbols.Pairwise (·.column < ·.column))
    {symbol : Symbol} (member : symbol ∈ symbols) :
    widthAt symbols symbol.column = symbol.length := by
  rw [widthAt, ← List.head?_filter, Symbol.filter_column increasing member]
  rfl

theorem caretLine_plain (column : Nat) {width : Nat} (visible : 0 < width) :
    caretLine false ⟨column, width⟩ =
      List.replicate (8 + column - 1) ' ' ++ List.replicate width '^' ++ ['\n'] := by
  have carets : max width 1 = width := Nat.max_eq_left visible
  rw [caretLine, Style.paint_false, carets]
  rfl

theorem length_caretLine_to_end (query : Text) {column : Nat} (positive : 0 < column)
    (within : column ≤ query.length) :
    (caretLine false ⟨column, query.length + 1 - column⟩).length =
      (queryLabel ++ query ++ ['\n']).length := by
  have labelled : queryLabel.length = 8 := rfl
  rw [caretLine_plain column (by omega)]
  simp only [List.length_append, List.length_replicate, List.length_singleton, labelled]
  omega

theorem picture_plain (query : Text) (column : Nat) {width : Nat} (visible : 0 < width) :
    picture false query ⟨column, width⟩ = underlined query column width := by
  rw [picture, Style.paint_false, caretLine_plain column visible]
  rfl

end Diagnostic

namespace Session

open Query

theorem sentence_plain (diagnostic : Diagnostic) :
    diagnostic.sentence false = diagnostic.severity.label ++ diagnostic.message ++ ['\n'] := by
  rw [Diagnostic.sentence, Style.paint_false, Style.paint_false]

theorem warning_of_closed {query : Text} (closed : pending? query = none) (colored : Bool) :
    warning colored query = [] := by
  rw [warning, Diagnostic.pending?, closed]
  rfl

theorem warning_of_pending {query : Text} {column : Nat} (pending : pending? query = some column)
    (within : column ≤ query.length) :
    warning false query = Diagnostic.underlined query column (query.length + 1 - column) ++
      ("warning: ".toList ++ "tag literal is never closed and will be ignored".toList ++
        ['\n']) := by
  have visible : 0 < query.length + 1 - column := by omega
  have drawn := Diagnostic.picture_plain query column visible
  rw [warning, Diagnostic.pending?, pending, Option.map_some]
  simp only [Diagnostic.rendered, drawn, sentence_plain]
  rfl

theorem complaint_of_unplaced (query : Text) {fault : Fault} (unplaced : fault.column? = none) :
    complaint false query fault = "error: ".toList ++ fault.message ++ ['\n'] := by
  have spanless : (Diagnostic.ofFault query fault).span? = none := by
    rw [Diagnostic.ofFault, unplaced]
    rfl
  rw [complaint, Diagnostic.rendered, spanless]
  exact sentence_plain _

theorem complaint_of_placed {query : Text} {fault : Fault} {column width : Nat}
    (placed : (Diagnostic.ofFault query fault).span? = some ⟨column, width⟩) (visible : 0 < width) :
    complaint false query fault =
      (if pending? query = none then [] else ['\n']) ++ Diagnostic.underlined query column width ++
        ("error: ".toList ++ fault.message ++ ['\n']) := by
  rw [complaint, Diagnostic.rendered, placed]
  simp only [Option.isNone_iff_eq_none, Diagnostic.picture_plain query column visible,
    sentence_plain]
  rfl

theorem emptyNotice_plain {α : Type} (selected : List α) :
    emptyNotice false selected = [] ∨
      emptyNotice false selected = "No item matched this query\n".toList := by
  unfold emptyNotice
  split
  · refine .inr ?_
    rw [announcement, Style.paint_false]
    rfl
  · exact .inl rfl

theorem err_of_act (debug : Bool) (layout : Log.Layout) (query : Text)
    (input : Except ReadError ByteArray) (action : Action) :
    ∃ later closing, (act ⟨debug, false, layout⟩ query input action).err =
        loggedLater ⟨debug, false, layout⟩ query later ++ closing ∧
      (closing = [] ∨ closing = "No item matched this query\n".toList ∨
        ∃ error, linesOf input = .error error ∧
          closing = "error: ".toList ++ error.message ++ ['\n']) := by
  cases action with
  | check =>
      refine ⟨[], [], ?_, .inl rfl⟩
      rw [loggedLater, logged_nil]
      rfl
  | test text =>
      refine ⟨events query text, [], ?_, .inl rfl⟩
      rw [act, test, List.append_nil]
      split <;> rfl
  | filter file? raw =>
      rw [act, filter]
      cases read : linesOf input with
      | error error =>
          refine ⟨[], "error: ".toList ++ error.message ++ ['\n'], ?_,
            .inr (.inr ⟨error, rfl, rfl⟩)⟩
          rw [loggedLater, logged_nil, List.nil_append]
          exact sentence_plain (.ofMessage error.message)
      | ok lines =>
          cases raw with
          | false => exact ⟨_, _, rfl, (emptyNotice_plain _).imp_right .inl⟩
          | true => exact ⟨_, _, rfl, (emptyNotice_plain _).imp_right .inl⟩

theorem err_of_malformed {query : Text} {fault : Fault}
    (malformed : verdict query [] = .malformed fault) (debug : Bool) (layout : Log.Layout)
    (action : Action) (input : Except ReadError ByteArray) :
    (Program.run false input (.request ⟨debug, query, action⟩) layout).err =
      warning false query ++ logged ⟨debug, false, layout⟩ 0 (evaluate query []).events ++
        complaint false query fault := by
  rw [Program.run, run_of_malformed malformed, check_of_malformed _ malformed]

theorem err_of_value {query : Text} {value : Bool} (checked : verdict query [] = .value value)
    (debug : Bool) (layout : Log.Layout) (action : Action) (input : Except ReadError ByteArray) :
    ∃ later closing, (Program.run false input (.request ⟨debug, query, action⟩) layout).err =
        warning false query ++
          logged ⟨debug, false, layout⟩ 0 ((evaluate query []).events ++ later) ++ closing ∧
      (closing = [] ∨ closing = "No item matched this query\n".toList ∨
        ∃ error, linesOf input = .error error ∧
          closing = "error: ".toList ++ error.message ++ ['\n']) := by
  obtain ⟨later, closing, told, words⟩ := err_of_act debug layout query input action
  refine ⟨later, closing, ?_, words⟩
  rw [Program.run, run_of_value checked, check_of_value _ checked, Report.andThen, told,
    logged_append, Nat.zero_add]
  simp only [loggedLater, List.append_assoc]

end Session

namespace Query

/-- Every caret that is drawn stands under a character of the query. Those of a fault mark the one
symbol at its column, and those of the warning about a literal that is left open mark the query from
its brace on, behind every symbol. Whatever is asked for, nothing else is drawn: the rest of what a
run prints as messages is its log, the sentences and the notices. -/
theorem carets_mark_query (query : Text) :
    (∀ symbol ∈ symbols query,
      1 ≤ symbol.column ∧ 1 ≤ symbol.length ∧
        symbol.column + symbol.length ≤ query.length + 1) ∧
    (∀ fault column, verdict query [] = .malformed fault → fault.column? = some column →
      ∃ symbol, (symbols query).filter (·.column = column) = [symbol] ∧
        Diagnostic.widthAt (symbols query) column = symbol.length ∧
        1 ≤ column ∧ column + symbol.length - 1 ≤ query.length ∧
        Diagnostic.caretLine false ⟨column, symbol.length⟩ =
          List.replicate (8 + column - 1) ' ' ++ List.replicate symbol.length '^' ++ ['\n'] ∧
        Session.complaint false query fault =
          (if pending? query = none then [] else ['\n']) ++
            Diagnostic.underlined query column symbol.length ++
            ("error: ".toList ++ fault.message ++ ['\n'])) ∧
    (∀ fault, fault.column? = none → Session.complaint false query fault =
      "error: ".toList ++ fault.message ++ ['\n']) ∧
    (pending? query = none → Session.warning false query = []) ∧
    (∀ column, pending? query = some column →
      1 ≤ column ∧ column ≤ query.length ∧ 1 ≤ query.length + 1 - column ∧
        Diagnostic.caretLine false ⟨column, query.length + 1 - column⟩ =
          List.replicate (8 + column - 1) ' ' ++
            List.replicate (query.length + 1 - column) '^' ++ ['\n'] ∧
        (Diagnostic.caretLine false ⟨column, query.length + 1 - column⟩).length =
          (Diagnostic.queryLabel ++ query ++ ['\n']).length ∧
        (∀ symbol ∈ symbols query, symbol.column + symbol.length ≤ column) ∧
        Session.warning false query =
          Diagnostic.underlined query column (query.length + 1 - column) ++
            ("warning: ".toList ++ "tag literal is never closed and will be ignored".toList ++
              ['\n'])) ∧
    (∀ fault, verdict query [] = .malformed fault → ∀ debug layout action input,
      (Program.run false input (.request ⟨debug, query, action⟩) layout).err =
        Session.warning false query ++
          Session.logged ⟨debug, false, layout⟩ 0 (evaluate query []).events ++
          Session.complaint false query fault) ∧
    ∀ value, verdict query [] = .value value → ∀ debug layout action input,
      ∃ later closing, (Program.run false input (.request ⟨debug, query, action⟩) layout).err =
          Session.warning false query ++
            Session.logged ⟨debug, false, layout⟩ 0 ((evaluate query []).events ++ later) ++
            closing ∧
        (closing = [] ∨ closing = "No item matched this query\n".toList ∨
          ∃ error, Session.linesOf input = .error error ∧
            closing = "error: ".toList ++ error.message ++ ['\n']) := by
  refine ⟨fun symbol member => span_of_mem member, ?_,
    fun fault => Session.complaint_of_unplaced query,
    fun closed => Session.warning_of_closed closed false, ?_,
    fun fault => Session.err_of_malformed, fun value => Session.err_of_value⟩
  · intro fault column malformed pointed
    obtain ⟨symbol, member, rfl⟩ := exists_symbol_of_fault malformed pointed
    have only := Symbol.filter_column (symbols_increasing query) member
    have width := Diagnostic.widthAt_of_mem (symbols_increasing query) member
    obtain ⟨positive, visible, within⟩ := span_of_mem member
    have placed : (Diagnostic.ofFault query fault).span? =
        some ⟨symbol.column, symbol.length⟩ := by
      rw [Diagnostic.ofFault, pointed, ← width]
      rfl
    have ends : symbol.column + symbol.length - 1 ≤ query.length := by
      rw [endColumn] at within
      omega
    exact ⟨symbol, only, width, positive, ends, Diagnostic.caretLine_plain _ visible,
      Session.complaint_of_placed placed visible⟩
  · intro column pending
    obtain ⟨-, -, -, opens, -⟩ := pending?_eq_some_iff.mp pending
    have positive := opens.1
    have within := opens.le
    have visible : 0 < query.length + 1 - column := by omega
    exact ⟨positive, within, visible, Diagnostic.caretLine_plain _ visible,
      Diagnostic.length_caretLine_to_end query positive within,
      fun symbol member => span_before_pending member pending,
      Session.warning_of_pending pending within⟩

theorem carets_mark_first_literal :
    let query : Text := "{é} not {x} \x7byz".toList
    verdict query [] = .malformed (.missingOperand 1) ∧ pending? query = some 13 ∧
      (∃ symbol, (symbols query).filter (·.column = 1) = [symbol] ∧ symbol.length = 3) ∧
      Diagnostic.caretLine false ⟨1, 3⟩ = "        ^^^\n".toList ∧
      Diagnostic.caretLine false ⟨13, 3⟩ = "                    ^^^\n".toList ∧
      ∀ layout action input,
        (Program.run false input (.request ⟨false, query, action⟩) layout).err =
          Text.ofLines [
            "query:  {é} not {x} \x7byz".toList,
            "                    ^^^".toList,
            "warning: tag literal is never closed and will be ignored".toList,
            [],
            "query:  {é} not {x} \x7byz".toList,
            "        ^^^".toList,
            "error: missing operand near column 1".toList] := by
  intro query
  have malformed : verdict query [] = .malformed (.missingOperand 1) := by
    decide +kernel
  have pending : pending? query = some 13 := by decide
  obtain ⟨-, faults, -, -, literals, printed, -⟩ := carets_mark_query query
  obtain ⟨symbol, only, width, -, -, line, complains⟩ := faults _ 1 malformed rfl
  obtain ⟨-, -, -, open_line, -, -, warns⟩ := literals 13 pending
  have covered : symbol.length = 3 := by
    rw [← width]
    decide
  rw [covered] at line complains
  refine ⟨malformed, pending, ⟨symbol, only, covered⟩, line, open_line, ?_⟩
  intro layout action input
  rw [printed _ malformed, warns, complains, Session.logged_of_quiet _ rfl, pending]
  decide +kernel

end Query
end TagQuery

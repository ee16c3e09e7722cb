import Mathlib.Logic.Function.Basic
import TagQuery.CommandLine.Program
import TagQuery.Proofs.Shape

namespace TagQuery

theorem Text.decimal_injective : Function.Injective Text.decimal := by
  intro first second same
  have read := congrArg (Nat.ofDigitChars 10 · 0) same
  simpa [decimal] using read

namespace Fault

theorem head?_message (fault : Fault) :
    fault.message.head? = some (match fault with
      | missingOperand _ => 'm'
      | unopenedGroup _ => '`'
      | danglingOperator _ => 'o'
      | unclosedGroup _ => 'g'
      | emptyQuery => 'q') := by
  cases fault <;> rfl

/-- No two faults are told in the same words. -/
theorem message_injective : Function.Injective message := by
  intro first second same
  have initials : first.message.head? = second.message.head? := congrArg List.head? same
  rw [head?_message, head?_message] at initials
  cases first <;> cases second <;> try (simp at initials; done)
  · exact congrArg missingOperand (Text.decimal_injective (List.append_cancel_left same))
  · have digits := List.append_cancel_left (List.append_cancel_right same)
    exact congrArg unopenedGroup (Text.decimal_injective digits)
  · have digits := List.append_cancel_left (List.append_cancel_right same)
    exact congrArg danglingOperator (Text.decimal_injective digits)
  · have digits := List.append_cancel_left (List.append_cancel_right same)
    exact congrArg unclosedGroup (Text.decimal_injective digits)
  · rfl

theorem decimal_infix_message {fault : Fault} {column : Nat}
    (placed : fault.column? = some column) : Text.decimal column <:+: fault.message := by
  cases fault <;> cases placed
  · exact (List.suffix_append ..).isInfix
  · exact ⟨_, _, rfl⟩
  · exact ⟨_, _, rfl⟩
  · exact ⟨_, _, rfl⟩

end Fault

namespace Stack

def Plain (events : List Event) : Prop := ∀ query fault, .malformed query fault ∉ events

theorem Plain.append {front back : List Event} (first : Plain front) (second : Plain back) :
    Plain (front ++ back) := by
  intro query fault member
  rcases List.mem_append.mp member with member | member
  · exact first query fault member
  · exact second query fault member

theorem plain_closeInnermost (column : Nat) (stack : Stack) :
    Plain (closeInnermost column stack).events := by
  fun_induction closeInnermost column stack with
  | case1 stack operator result rest applied ih =>
      have first : Plain [.reduced operator result] := by simp [Plain]
      exact first.append ih
  | case2 => simp [Plain]
  | case3 => simp [Plain]

theorem plain_settle (endColumn : Nat) (stack : Stack) : Plain (settle endColumn stack).events := by
  fun_induction settle endColumn stack with
  | case4 top next below closed operator result rest applied ih =>
      have first : Plain [.reduced operator result] := by simp [Plain]
      exact first.append ih
  | case1 => simp [Plain]
  | case2 => simp [Plain]
  | case3 => simp [Plain]
  | case5 => simp [Plain]
  | case6 => simp [Plain]

theorem plain_accept (text : Text) (symbol : Symbol) (stack : Stack) :
    Plain (accept text symbol stack).events := by
  unfold accept
  split
  · simp [Plain, push, Outcome.after]
  · simp [Plain, push]
  · simp [Plain, push]
  · split
    · exact plain_closeInnermost symbol.column stack
    · simp [Plain]

theorem plain_read (text : Text) (stack : Stack) (symbols : List Symbol) :
    Plain (read text stack symbols).events := by
  induction symbols generalizing stack with
  | nil => simp [Plain, read]
  | cons symbol symbols ih =>
      have first := plain_accept text symbol stack
      simp only [read]
      split
      · exact first
      · exact first.append (ih _)

theorem plain_evaluate (text : Text) (endColumn : Nat) (symbols : List Symbol) (stack : Stack) :
    Plain (evaluate text endColumn symbols stack).events := by
  have reading := plain_read text stack symbols
  simp only [evaluate]
  split
  · exact reading
  · exact reading.append (plain_settle endColumn _)

end Stack

namespace Query

theorem malformed_mem_events_iff {query text named : Text} {fault : Fault} :
    .malformed named fault ∈ events query text ↔
      named = query ∧ verdict query text = .malformed fault := by
  have plain : Stack.Plain (evaluate query text).events := by
    unfold evaluate
    split
    · simp [Stack.Plain]
    · exact Stack.plain_evaluate text _ _ []
  rw [events, verdict]
  cases found : (evaluate query text).verdict with
  | value value => simp [plain named fault]
  | malformed other =>
      simp only [List.mem_append, plain named fault, false_or, List.mem_singleton,
        Event.malformed.injEq, Verdict.malformed.injEq]
      exact and_congr_right fun _ => eq_comm

theorem malformed_not_mem_events {query text : Text} {value : Bool}
    (checked : verdict query text = .value value) (named : Text) (fault : Fault) :
    .malformed named fault ∉ events query text := by
  intro member
  obtain ⟨-, malformed⟩ := malformed_mem_events_iff.mp member
  rw [checked] at malformed
  cases malformed

end Query

namespace Session

open Query

section Logs

variable (settings : Settings)

theorem logged_of_quiet (quiet : settings.debug = false) (first : Nat) (events : List Event) :
    logged settings first events = [] := by
  simp [logged, quiet]

theorem logged_nil (first : Nat) : logged settings first [] = [] := by
  cases debug : settings.debug <;> simp [logged, debug]

theorem logged_append (first : Nat) (front back : List Event) :
    logged settings first (front ++ back) =
      logged settings first front ++ logged settings (first + front.length) back := by
  cases debug : settings.debug <;> simp [logged, debug, List.zipIdx_append]

end Logs

theorem check_of_malformed (settings : Settings) {query : Text} {fault : Fault}
    (malformed : verdict query [] = .malformed fault) :
    check settings query =
      ⟨symbolListing settings.debug settings.colored query,
        warning settings.colored query ++ logged settings 0 (evaluate query []).events ++
          complaint settings.colored query fault, 1⟩ := by
  rw [verdict] at malformed
  simp only [check, malformed]

theorem check_of_value (settings : Settings) {query : Text} {value : Bool}
    (checked : verdict query [] = .value value) :
    check settings query =
      ⟨symbolListing settings.debug settings.colored query,
        warning settings.colored query ++ logged settings 0 (evaluate query []).events, 0⟩ := by
  rw [verdict] at checked
  simp only [check, checked]

theorem check_exit_iff (settings : Settings) (query : Text) :
    (check settings query).exit = 0 ↔ ∃ value, verdict query [] = .value value := by
  rw [verdict]
  cases checked : (Query.evaluate query []).verdict <;> simp [check, checked]

theorem run_of_malformed {request : Request} {fault : Fault}
    (malformed : verdict request.query [] = .malformed fault) (colored : Bool)
    (layout : Log.Layout) (input : Except ReadError ByteArray) :
    run colored layout input request = check ⟨request.debug, colored, layout⟩ request.query := by
  have failed : (check ⟨request.debug, colored, layout⟩ request.query).exit ≠ 0 := by
    rw [check_of_malformed _ malformed]
    exact Nat.one_ne_zero
  rw [run, if_neg failed]

theorem run_of_value {request : Request} {value : Bool}
    (checked : verdict request.query [] = .value value) (colored : Bool) (layout : Log.Layout)
    (input : Except ReadError ByteArray) :
    run colored layout input request =
      (check ⟨request.debug, colored, layout⟩ request.query).andThen
        (act ⟨request.debug, colored, layout⟩ request.query input request.action) := by
  have passed : (check ⟨request.debug, colored, layout⟩ request.query).exit = 0 :=
    (check_exit_iff _ _).mpr ⟨value, checked⟩
  rw [run, if_pos passed]

theorem source?_eq_some_iff {request : Request} {source : Option Text} :
    source? request = some source ↔
      (∃ value, verdict request.query [] = .value value) ∧
        ∃ raw, request.action = .filter source raw := by
  unfold source?
  cases request.action <;> cases verdict request.query [] <;> simp

theorem source?_of_malformed {request : Request} {fault : Fault}
    (malformed : verdict request.query [] = .malformed fault) : source? request = none := by
  rw [source?, malformed]
  cases request.action <;> rfl

theorem exit_of_test (settings : Settings) {query text : Text} {value : Bool}
    (evaluated : verdict query text = .value value) :
    (test settings query text).exit = if value then 0 else 1 := by
  rw [test, selects, evaluated]
  cases value <;> rfl

theorem exit_of_filter (settings : Settings) (query : Text) (raw : Bool)
    (input : Except ReadError ByteArray) :
    (filter settings query raw input).exit = 0 ↔ ∃ text, input = .ok (Text.encode text) := by
  cases input with
  | error error => simp [filter, linesOf]
  | ok bytes =>
      cases decoded : Text.decode? bytes with
      | none =>
          have unread : ∀ text, bytes ≠ Text.encode text := by
            rintro text rfl
            rw [Text.decode?_encode] at decoded
            cases decoded
          simp [filter, linesOf, decoded, unread]
      | some text =>
          have encoded := Text.decode?_eq_some_iff.mp decoded
          have succeeds : (filter settings query raw (.ok bytes)).exit = 0 := by
            simp only [filter, linesOf, decoded]
            cases raw <;> rfl
          exact iff_of_true succeeds ⟨text, congrArg Except.ok encoded⟩

end Session

namespace Query

/-- Whether a query is malformed, where, and what its evaluation does but for the truth values, does
not depend on the text. Checking the query once therefore decides it for every text. -/
theorem shape_ignores_text (query first second : Text) :
    ((∃ left right, verdict query first = .value left ∧ verdict query second = .value right) ∨
        ∃ fault, verdict query first = .malformed fault ∧ verdict query second = .malformed fault) ∧
      (events query first).map Event.shape = (events query second).map Event.shape ∧
      (∀ count, Stack.shape (Stack.read first [] ((symbols query).take count)).stack =
        Stack.shape (Stack.read second [] ((symbols query).take count)).stack) ∧
      ∀ settings, (Session.check settings query).exit = 0 ↔
        ∃ value, verdict query first = .value value := by
  have verdicts := Verdict.shape_congr (verdict_congr query first second)
  refine ⟨verdicts, events_congr query first second, ?_, ?_⟩
  · intro count
    exact congrArg Stack.Outcome.stack (Stack.read_congr (Eq.refl (Stack.shape [])) first second _)
  · intro settings
    rw [Session.check_exit_iff]
    rcases Verdict.shape_congr (verdict_congr query [] first) with
      ⟨left, right, blank, whole⟩ | ⟨fault, blank, whole⟩
    · simp [blank, whole]
    · simp [blank, whole]

end Query
end TagQuery

import TagQuery.Proofs.Blame
import TagQuery.Proofs.Coverage
import TagQuery.Proofs.Placement

namespace TagQuery

open Grammar
open TagQuery.Symbol (Kind openings closings)

namespace Stack

theorem read_fault_iff {text : Text} {stack : Stack} {symbols : List Symbol} {fault : Fault} :
    (stack.read text symbols).fault? = some fault ↔
      ∃ before symbol after, symbols = before ++ symbol :: after ∧
        (stack.read text before).fault? = none ∧
        ((stack.read text before).stack.accept text symbol).fault? = some fault := by
  constructor
  · intro failed
    induction symbols generalizing stack with
    | nil => cases failed
    | cons symbol symbols ih =>
        cases first : (stack.accept text symbol).fault? with
        | some found =>
            simp only [read, first] at failed
            exact ⟨[], symbol, symbols, rfl, rfl, first.trans failed⟩
        | none =>
            rw [read_cons first] at failed
            obtain ⟨before, next, after, rfl, accepted, stopped⟩ := ih failed
            refine ⟨symbol :: before, next, after, rfl, ?_⟩
            rw [read_cons first]
            exact ⟨accepted, stopped⟩
  · rintro ⟨before, symbol, after, rfl, accepted, stopped⟩
    rw [read_append accepted]
    simp only [read, Outcome.after, stopped]

theorem read_prefix {text : Text} {stack : Stack} {before after : List Symbol}
    (accepted : (stack.read text (before ++ after)).fault? = none) :
    (stack.read text before).fault? = none := by
  cases found : (stack.read text before).fault? with
  | none => rfl
  | some fault =>
      obtain ⟨front, symbol, rest, rfl, clean, stopped⟩ := read_fault_iff.mp found
      have failed : (stack.read text (front ++ symbol :: rest ++ after)).fault? = some fault :=
        read_fault_iff.mpr ⟨front, symbol, rest ++ after, by simp, clean, stopped⟩
      rw [failed] at accepted
      cases accepted

theorem evaluate_malformed_iff {text : Text} {endColumn : Nat} {symbols : List Symbol}
    {stack : Stack} {fault : Fault} :
    (evaluate text endColumn symbols stack).verdict = .malformed fault ↔
      (stack.read text symbols).fault? = some fault ∨
        (stack.read text symbols).fault? = none ∧
          ((stack.read text symbols).stack.settle endColumn).verdict = .malformed fault := by
  cases found : (stack.read text symbols).fault? with
  | some first => simp [evaluate, found]
  | none => simp [evaluate, found, Evaluation.after]

theorem fault_of_accept {text : Text} {stack : Stack} {symbol : Symbol} {fault : Fault}
    (failed : (stack.accept text symbol).fault? = some fault) :
    symbol.kind = .closing ∧
      (stack.hasOpening = false ∧ fault = .unopenedGroup symbol.column ∨
        stack.hasOpening = true ∧ Blames stack fault) := by
  obtain ⟨kind, column, length⟩ := symbol
  cases kind with
  | literal literal => cases failed
  | opening => cases failed
  | operator operator => cases failed
  | closing =>
      refine ⟨rfl, ?_⟩
      cases present : stack.hasOpening with
      | false =>
          simp only [accept, present] at failed
          exact .inl ⟨rfl, (Option.some.inj failed).symm⟩
      | true =>
          simp only [accept, present, if_true] at failed
          obtain ⟨group, opened, lower, rfl, -⟩ := exists_innermost (hasOpening_iff.mp present)
          have blames := (blames_of_closeInnermost failed).append lower
          rw [List.append_assoc] at blames
          exact .inr ⟨rfl, blames⟩

end Stack

/-- The symbols can be read about the text, from the first to the last, without a fault. -/
def Readable (text : Text) (symbols : List Symbol) : Prop :=
  (Stack.read text [] symbols).fault? = none

/-- A parenthesis closes at the column where no group is open. -/
def Unopened (text : Text) (symbols : List Symbol) (column : Nat) : Prop :=
  ∃ before closing after, symbols = before ++ closing :: after ∧ closing.kind = .closing ∧
    closing.column = column ∧ Readable text before ∧ openings before = closings before

/-- A group is opened at the column, and all that follows is nothing or the phrase inside it. -/
def Unclosed (text : Text) (symbols : List Symbol) (column : Nat) : Prop :=
  ∃ before opening tail, symbols = before ++ opening :: tail ∧ opening.kind = .opening ∧
    opening.column = column ∧ Readable text before ∧
    (tail = [] ∨ ∃ value, Phrase text (tail.map Symbol.kind) value)

/-- An operator stands at the column, and it is the last symbol or the last of an open group. -/
def Dangling (text : Text) (symbols : List Symbol) (column : Nat) : Prop :=
  ∃ before symbol rest operator, symbols = before ++ symbol :: rest ∧
    symbol.kind = .operator operator ∧ symbol.column = column ∧ Readable text before ∧
    (rest = [] ∨ (∃ closing after, rest = closing :: after ∧ closing.kind = .closing) ∧
      closings before < openings before)

/-- The fault is the one that the symbols have. An operand is missing at a symbol that has a place
for one beside it. -/
def Diagnosed (text : Text) (symbols : List Symbol) : Fault → Prop
  | .emptyQuery => symbols = []
  | .unopenedGroup column => Unopened text symbols column
  | .unclosedGroup column => Unclosed text symbols column
  | .danglingOperator column => Dangling text symbols column
  | .missingOperand column =>
    ∃ symbol ∈ symbols, symbol.column = column ∧ symbol.kind.Blamable

namespace Stack

theorem Covers.of_readable {text : Text} {symbols : List Symbol}
    (readable : Readable text symbols) :
    Covers text symbols (Stack.read text [] symbols).stack := by
  have empty : Covers text [] [] := .nil
  exact empty.read readable

theorem Covers.balanced_iff {text : Text} {symbols : List Symbol} {stack : Stack}
    (covers : Covers text symbols stack) :
    openings symbols = closings symbols ↔ stack.hasOpening = false := by
  have counted : openings symbols = closings symbols + (terms stack).count .opening :=
    covers.represents.count
  rw [← Bool.not_eq_true, hasOpening_iff, ← List.count_eq_zero]
  omega

theorem Covers.open_iff {text : Text} {symbols : List Symbol} {stack : Stack}
    (covers : Covers text symbols stack) :
    closings symbols < openings symbols ↔ stack.hasOpening = true := by
  have counted : openings symbols = closings symbols + (terms stack).count .opening :=
    covers.represents.count
  rw [hasOpening_iff, ← List.count_pos_iff]
  omega

theorem Blames.diagnosed {text : Text} {symbols : List Symbol} {stack : Stack} {fault : Fault}
    (blames : Blames stack fault) (covers : Covers text symbols stack) :
    (∃ before symbol operator, symbols = before ++ [symbol] ∧ symbol.kind = .operator operator ∧
        fault = .danglingOperator symbol.column) ∨
      ∃ symbol ∈ symbols, fault = .missingOperand symbol.column ∧ symbol.kind.Blamable := by
  rcases blames.entry with ⟨operator, column, below, rfl, rfl⟩ | ⟨entry, member, other, rfl⟩
  · obtain ⟨before, symbol, rfl, kind, rfl⟩ := covers.operator_last
    exact .inl ⟨before, symbol, operator, rfl, kind, rfl⟩
  · obtain ⟨symbol, present, same, blamable⟩ := covers.blamable member other
    exact .inr ⟨symbol, present, by rw [same], blamable⟩

theorem diagnosed_of_read {text : Text} {symbols : List Symbol} {fault : Fault}
    (failed : (read text [] symbols).fault? = some fault) : Diagnosed text symbols fault := by
  obtain ⟨before, closing, after, rfl, readable, stopped⟩ := read_fault_iff.mp failed
  have covers := Covers.of_readable readable
  obtain ⟨kind, ⟨closed, rfl⟩ | ⟨present, blames⟩⟩ := fault_of_accept stopped
  · exact ⟨before, closing, after, rfl, kind, rfl, readable, covers.balanced_iff.mpr closed⟩
  · have waiting := covers.open_iff.mpr present
    rcases blames.diagnosed covers with
      ⟨front, symbol, operator, rfl, worded, rfl⟩ | ⟨symbol, member, rfl, blamable⟩
    · have fewer : closings front < openings front := by
        simpa [openings, closings, worded] using waiting
      exact ⟨front, symbol, closing :: after, operator, by simp, worded, rfl,
        read_prefix readable, .inr ⟨⟨closing, after, rfl, kind⟩, fewer⟩⟩
    · exact ⟨symbol, List.mem_append_left _ member, rfl, blamable⟩

theorem diagnosed_of_settle {text : Text} {endColumn : Nat} {symbols : List Symbol} {fault : Fault}
    (readable : Readable text symbols)
    (malformed : ((read text [] symbols).stack.settle endColumn).verdict = .malformed fault) :
    Diagnosed text symbols fault := by
  have covers := Covers.of_readable readable
  rcases fault_of_settle malformed with ⟨empty, rfl⟩ | ⟨opened, leaves, rfl⟩ | blames
  · rw [empty] at covers
    cases covers
    rfl
  · obtain ⟨group, lower, whole, holds⟩ := leaves
    rw [whole] at covers
    obtain ⟨before, opening, tail, rfl, kind, rfl, -, inner⟩ := covers.opening_split
    refine ⟨before, opening, tail, rfl, kind, rfl, read_prefix readable, ?_⟩
    rcases holds with rfl | ⟨value, chain⟩
    · cases inner
      exact .inl rfl
    · exact .inr ⟨value, inner.represents.phrase_of_chain chain⟩
  · rcases blames.diagnosed covers with
      ⟨front, symbol, operator, rfl, worded, rfl⟩ | ⟨symbol, member, rfl, blamable⟩
    · exact ⟨front, symbol, [], operator, rfl, worded, rfl, read_prefix readable, .inl rfl⟩
    · exact ⟨symbol, member, rfl, blamable⟩

theorem diagnosed_of_evaluate {text : Text} {endColumn : Nat} {symbols : List Symbol}
    {fault : Fault} (malformed : (evaluate text endColumn symbols []).verdict = .malformed fault) :
    Diagnosed text symbols fault := by
  rcases evaluate_malformed_iff.mp malformed with failed | ⟨readable, malformed⟩
  · exact diagnosed_of_read failed
  · exact diagnosed_of_settle readable malformed

section Diagnoses

variable {text : Text} {endColumn column : Nat} {symbols : List Symbol}

theorem evaluate_unopened (found : Unopened text symbols column) :
    (evaluate text endColumn symbols []).verdict = .malformed (.unopenedGroup column) := by
  obtain ⟨before, ⟨kind, place, length⟩, after, rfl, rfl, rfl, readable, balanced⟩ := found
  have closed := (Covers.of_readable readable).balanced_iff.mp balanced
  apply evaluate_malformed_iff.mpr
  left
  apply read_fault_iff.mpr
  refine ⟨before, _, after, rfl, readable, ?_⟩
  simp only [accept, closed]
  rfl

theorem evaluate_unclosed (found : Unclosed text symbols column) :
    (evaluate text endColumn symbols []).verdict = .malformed (.unclosedGroup column) := by
  obtain ⟨before, ⟨kind, place, length⟩, tail, rfl, rfl, rfl, readable, inner⟩ := found
  have reads : (read text (⟨.opening, place⟩ :: (read text [] before).stack) tail).fault? = none ∧
      LeavesOpen (read text (⟨.opening, place⟩ :: (read text [] before).stack) tail).stack
        place := by
    rcases inner with rfl | ⟨value, phrase⟩
    · exact ⟨rfl, [], _, rfl, .inl rfl⟩
    · obtain ⟨accepted, upper, left, chain⟩ := read_of_derives phrase _ tail rfl
      exact ⟨accepted, upper, _, left, .inr ⟨value, chain⟩⟩
  apply evaluate_malformed_iff.mpr
  right
  rw [read_append readable, read_opening]
  exact ⟨reads.1, reads.2.settle⟩

theorem evaluate_dangling (found : Dangling text symbols column) :
    (evaluate text endColumn symbols []).verdict = .malformed (.danglingOperator column) := by
  obtain ⟨before, ⟨kind, place, length⟩, rest, operator, rfl, rfl, rfl, readable, ends⟩ := found
  apply evaluate_malformed_iff.mpr
  rw [read_append readable, read_operator]
  rcases ends with rfl | ⟨⟨⟨kind, width, last⟩, after, rfl, rfl⟩, fewer⟩
  · right
    exact ⟨rfl, settle_of_operator endColumn place operator _⟩
  · left
    have present := (Covers.of_readable readable).open_iff.mp fewer
    obtain ⟨group, opened, lower, whole, -⟩ := exists_innermost (hasOpening_iff.mp present)
    have stopped : reduce width (⟨.operator operator, place⟩ :: (read text [] before).stack) =
        .failed (.danglingOperator place) (read text [] before).stack := rfl
    have failed : (accept text ⟨.closing, width, last⟩
        (⟨.operator operator, place⟩ :: (read text [] before).stack)).fault? =
          some (.danglingOperator place) := by
      rw [whole, ← List.cons_append, accept_closing, List.cons_append, ← whole,
        closeInnermost_of_failed stopped]
    simp only [Outcome.after, read, failed]

end Diagnoses

theorem evaluate_malformed_iff_diagnosed {text : Text} {endColumn : Nat} {symbols : List Symbol}
    {fault : Fault} (other : ∀ column, fault ≠ .missingOperand column) :
    (evaluate text endColumn symbols []).verdict = .malformed fault ↔
      Diagnosed text symbols fault := by
  constructor
  · exact diagnosed_of_evaluate
  · intro diagnosed
    cases fault with
    | missingOperand column => exact absurd rfl (other column)
    | unopenedGroup column => exact evaluate_unopened diagnosed
    | unclosedGroup column => exact evaluate_unclosed diagnosed
    | danglingOperator column => exact evaluate_dangling diagnosed
    | emptyQuery =>
        obtain rfl : symbols = [] := diagnosed
        simp [evaluate, read, settle, Evaluation.after]

theorem exists_symbol_of_fault {text : Text} {endColumn column : Nat} {symbols : List Symbol}
    {fault : Fault} (malformed : (evaluate text endColumn symbols []).verdict = .malformed fault)
    (pointed : fault.column? = some column) : ∃ symbol ∈ symbols, symbol.column = column := by
  have diagnosed := diagnosed_of_evaluate malformed
  cases fault with
  | emptyQuery => cases pointed
  | missingOperand place =>
      cases pointed
      obtain ⟨symbol, member, same, -⟩ := diagnosed
      exact ⟨symbol, member, same⟩
  | unopenedGroup place =>
      cases pointed
      obtain ⟨before, symbol, after, rfl, -, same, -⟩ := diagnosed
      exact ⟨symbol, by simp, same⟩
  | unclosedGroup place =>
      cases pointed
      obtain ⟨before, symbol, after, rfl, -, same, -⟩ := diagnosed
      exact ⟨symbol, by simp, same⟩
  | danglingOperator place =>
      cases pointed
      obtain ⟨before, symbol, after, operator, rfl, -, same, -⟩ := diagnosed
      exact ⟨symbol, by simp, same⟩

end Stack

namespace Query

theorem evaluate_of_scanned {query : Text} (scanned : query ≠ everything) (text : Text) :
    evaluate query text = Stack.evaluate text (endColumn query) (symbols query) [] :=
  if_neg scanned

theorem verdict_of_scanned {query : Text} (scanned : query ≠ everything) (text : Text) :
    verdict query text =
      (Stack.evaluate text (endColumn query) (symbols query) []).verdict := by
  rw [verdict, evaluate_of_scanned scanned]

theorem exists_symbol_of_fault {query text : Text} {fault : Fault} {column : Nat}
    (malformed : verdict query text = .malformed fault) (pointed : fault.column? = some column) :
    ∃ symbol ∈ symbols query, symbol.column = column := by
  have scanned : query ≠ everything := by
    rintro rfl
    cases malformed
  rw [verdict_of_scanned scanned] at malformed
  exact Stack.exists_symbol_of_fault malformed pointed

/-- Every malformed query has exactly one fault. It has no symbol, or closes a group that is not
open, or leaves one open, or has an operator with nothing at its right; and in any other case an
operand is missing at a symbol that is neither a negation nor a closing parenthesis. -/
theorem fault_follows_symbols (query text : Text) (scanned : query ≠ everything) :
    (verdict query text = .malformed .emptyQuery ↔ symbols query = []) ∧
      (∀ column, verdict query text = .malformed (.unopenedGroup column) ↔
        Unopened text (symbols query) column) ∧
      (∀ column, verdict query text = .malformed (.unclosedGroup column) ↔
        Unclosed text (symbols query) column) ∧
      (∀ column, verdict query text = .malformed (.danglingOperator column) ↔
        Dangling text (symbols query) column) ∧
      ((¬ ∃ value, verdict query text = .value value) → symbols query ≠ [] →
        (∀ column, ¬ Unopened text (symbols query) column) →
        (∀ column, ¬ Unclosed text (symbols query) column) →
        (∀ column, ¬ Dangling text (symbols query) column) →
        ∃ symbol ∈ symbols query,
          verdict query text = .malformed (.missingOperand symbol.column) ∧
            symbol.kind.Blamable ∧ symbol.column < endColumn query ∧
            ∀ other ∈ symbols query, other.column = symbol.column → other = symbol) := by
  have exact_fault {fault : Fault} (other : ∀ column, fault ≠ .missingOperand column) :
      verdict query text = .malformed fault ↔ Diagnosed text (symbols query) fault := by
    rw [verdict_of_scanned scanned]
    exact Stack.evaluate_malformed_iff_diagnosed other
  refine ⟨exact_fault (by simp), fun column => exact_fault (by simp),
    fun column => exact_fault (by simp), fun column => exact_fault (by simp), ?_⟩
  intro valueless filled unopened unclosed dangling
  cases found : verdict query text with
  | value value => exact absurd ⟨value, found⟩ valueless
  | malformed fault =>
      rw [verdict_of_scanned scanned] at found
      have diagnosed := Stack.diagnosed_of_evaluate found
      cases fault with
      | emptyQuery => exact absurd diagnosed filled
      | unopenedGroup column => exact absurd diagnosed (unopened column)
      | unclosedGroup column => exact absurd diagnosed (unclosed column)
      | danglingOperator column => exact absurd diagnosed (dangling column)
      | missingOperand column =>
          obtain ⟨symbol, member, rfl, blamable⟩ := diagnosed
          refine ⟨symbol, member, rfl, blamable, column_lt_endColumn member, ?_⟩
          intro other present same
          exact eq_of_column present member same

theorem missing_operator_follows_symbols :
    "({a} ({b}|{c})) & {d}".toList ≠ everything ∧
      verdict "({a} ({b}|{c})) & {d}".toList "x : {b}".toList = .malformed (.missingOperand 2) ∧
      (∀ column, ¬ Unopened "x : {b}".toList (symbols "({a} ({b}|{c})) & {d}".toList) column) ∧
      (∀ column, ¬ Unclosed "x : {b}".toList (symbols "({a} ({b}|{c})) & {d}".toList) column) ∧
      (∀ column, ¬ Dangling "x : {b}".toList (symbols "({a} ({b}|{c})) & {d}".toList) column) ∧
      ∃ symbol ∈ symbols "({a} ({b}|{c})) & {d}".toList,
        symbol.column = 2 ∧ symbol.kind.Blamable := by
  have scanned : "({a} ({b}|{c})) & {d}".toList ≠ everything := by decide
  have malformed : verdict "({a} ({b}|{c})) & {d}".toList "x : {b}".toList =
      .malformed (.missingOperand 2) := by
    decide +kernel
  obtain ⟨empty, unopened, unclosed, dangling, missing⟩ :=
    fault_follows_symbols _ "x : {b}".toList scanned
  rw [malformed] at empty unopened unclosed dangling missing
  have filled : symbols "({a} ({b}|{c})) & {d}".toList ≠ [] := by
    intro none
    cases empty.mpr none
  have opened : ∀ column,
      ¬ Unopened "x : {b}".toList (symbols "({a} ({b}|{c})) & {d}".toList) column := by
    intro column found
    cases (unopened column).mpr found
  have closed : ∀ column,
      ¬ Unclosed "x : {b}".toList (symbols "({a} ({b}|{c})) & {d}".toList) column := by
    intro column found
    cases (unclosed column).mpr found
  have ended : ∀ column,
      ¬ Dangling "x : {b}".toList (symbols "({a} ({b}|{c})) & {d}".toList) column := by
    intro column found
    cases (dangling column).mpr found
  obtain ⟨symbol, member, same, blamable, -⟩ := missing (by simp) filled opened closed ended
  have placed : 2 = symbol.column := by simpa using same
  exact ⟨scanned, malformed, opened, closed, ended, symbol, member, placed.symm, blamable⟩

end Query
end TagQuery

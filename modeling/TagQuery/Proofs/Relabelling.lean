import TagQuery.Proofs.Diagnosis

/-!
Columns are labels. An evaluation copies them from symbols to entries, events and faults and never
looks at one, so replacing every column by another replaces them in all that comes out and changes
nothing else. Numbering the symbols of a query by their positions then shows that its verdict
depends on their kinds only, but for the column of the symbol that the fault points at.
-/
namespace TagQuery

open TagQuery.Symbol (Kind)

namespace Fault

def relabel (place : Nat → Nat) : Fault → Fault
  | missingOperand column => missingOperand (place column)
  | unopenedGroup column => unopenedGroup (place column)
  | danglingOperator column => danglingOperator (place column)
  | unclosedGroup column => unclosedGroup (place column)
  | emptyQuery => emptyQuery

def variants : List (Nat → Fault) :=
  [missingOperand, unopenedGroup, danglingOperator, unclosedGroup]

theorem variant_of_ne_emptyQuery {fault : Fault} (pointed : fault ≠ .emptyQuery) :
    ∃ variant ∈ variants, ∃ column, fault.column? = some column ∧
      ∀ place, fault.relabel place = variant (place column) := by
  cases fault with
  | missingOperand column =>
      exact ⟨missingOperand, by simp [variants], column, rfl, fun place => rfl⟩
  | unopenedGroup column =>
      exact ⟨unopenedGroup, by simp [variants], column, rfl, fun place => rfl⟩
  | danglingOperator column =>
      exact ⟨danglingOperator, by simp [variants], column, rfl, fun place => rfl⟩
  | unclosedGroup column =>
      exact ⟨unclosedGroup, by simp [variants], column, rfl, fun place => rfl⟩
  | emptyQuery => exact absurd rfl pointed

end Fault

def Event.relabel (place : Nat → Nat) : Event → Event
  | .literal text found => .literal text found
  | .pushed term column depth => .pushed term (place column) depth
  | .reduced operator result => .reduced operator result
  | .closed value column => .closed value (place column)
  | .malformed query fault => .malformed query (fault.relabel place)

def Verdict.relabel (place : Nat → Nat) : Verdict → Verdict
  | .value found => .value found
  | .malformed fault => .malformed (fault.relabel place)

namespace Evaluation

def relabel (place : Nat → Nat) (evaluation : Evaluation) : Evaluation :=
  ⟨evaluation.events.map (Event.relabel place), evaluation.verdict.relabel place⟩

theorem relabel_after (place : Nat → Nat) (events : List Event) (evaluation : Evaluation) :
    (evaluation.after events).relabel place =
      (evaluation.relabel place).after (events.map (Event.relabel place)) := by
  simp [after, relabel]

end Evaluation

def Entry.relabel (place : Nat → Nat) (entry : Entry) : Entry := ⟨entry.term, place entry.column⟩

namespace Stack

def relabel (place : Nat → Nat) (stack : Stack) : Stack := stack.map (Entry.relabel place)

namespace Outcome

def relabel (place : Nat → Nat) (outcome : Outcome) : Outcome :=
  ⟨outcome.events.map (Event.relabel place), Stack.relabel place outcome.stack,
    outcome.fault?.map (Fault.relabel place)⟩

theorem relabel_after (place : Nat → Nat) (events : List Event) (outcome : Outcome) :
    (outcome.after events).relabel place =
      (outcome.relabel place).after (events.map (Event.relabel place)) := by
  simp [after, relabel]

end Outcome

def Reduction.relabel (place : Nat → Nat) : Reduction → Reduction
  | .applied operator result stack => .applied operator result (Stack.relabel place stack)
  | .closed value column stack => .closed value (place column) (Stack.relabel place stack)
  | .failed fault stack => .failed (fault.relabel place) (Stack.relabel place stack)

@[simp] theorem relabel_nil (place : Nat → Nat) : relabel place [] = [] := rfl

@[simp] theorem relabel_cons (place : Nat → Nat) (term : Term) (column : Nat) (below : Stack) :
    relabel place (⟨term, column⟩ :: below) = ⟨term, place column⟩ :: relabel place below := rfl

@[simp] theorem length_relabel (place : Nat → Nat) (stack : Stack) :
    (relabel place stack).length = stack.length := by
  simp [relabel]

section Labels

variable (place : Nat → Nat)

theorem joinLeft_relabel (operator : Operator) (join : Bool → Bool → Bool) (column : Nat)
    (right : Bool) (stack : Stack) :
    joinLeft operator join (place column) right (relabel place stack) =
      (joinLeft operator join column right stack).relabel place := by
  rcases stack with _ | ⟨⟨term, edge⟩, below⟩
  · rfl
  · cases term <;> rfl

theorem reduceValue_relabel (fallback : Nat) (right : Bool) (stack : Stack) :
    reduceValue (place fallback) right (relabel place stack) =
      (reduceValue fallback right stack).relabel place := by
  rcases stack with _ | ⟨⟨term, column⟩, below⟩
  · rfl
  cases term with
  | value left => rfl
  | opening => rfl
  | operator operator =>
      cases operator with
      | not => rfl
      | and => exact joinLeft_relabel place .and and column right below
      | or => exact joinLeft_relabel place .or or column right below

theorem reduce_relabel (fallback : Nat) (stack : Stack) :
    reduce (place fallback) (relabel place stack) = (reduce fallback stack).relabel place := by
  rcases stack with _ | ⟨⟨term, column⟩, below⟩
  · rfl
  cases term with
  | value right => exact reduceValue_relabel place fallback right below
  | opening => rfl
  | operator operator => rfl

variable {place} in
theorem relabel_reduced {fallback : Nat} {stack : Stack} {reduction : Reduction}
    (reduced : reduce fallback stack = reduction) :
    reduce (place fallback) (relabel place stack) = reduction.relabel place := by
  rw [reduce_relabel, reduced]

theorem closeInnermost_relabel (column : Nat) (stack : Stack) :
    closeInnermost (place column) (relabel place stack) =
      (closeInnermost column stack).relabel place := by
  fun_induction closeInnermost column stack with
  | case1 stack operator result rest applied ih =>
      rw [closeInnermost_of_applied (relabel_reduced applied), ih, Outcome.relabel_after]
      rfl
  | case2 stack value opened rest closed =>
      rw [closeInnermost_of_closed (relabel_reduced closed)]
      rfl
  | case3 stack fault rest failed =>
      rw [closeInnermost_of_failed (relabel_reduced failed)]
      rfl

theorem settle_relabel (endColumn : Nat) (stack : Stack) :
    settle (place endColumn) (relabel place stack) = (settle endColumn stack).relabel place := by
  fun_induction settle endColumn stack with
  | case1 =>
      rw [relabel_nil, settle]
      rfl
  | case2 entry =>
      obtain ⟨term, column⟩ := entry
      rw [relabel_cons, relabel_nil, settle]
      cases term <;> rfl
  | case3 top next below opens =>
      obtain ⟨term, column⟩ := top
      obtain ⟨other, edge⟩ := next
      obtain rfl : term = .opening := opens
      rw [relabel_cons, relabel_cons, settle, if_pos rfl]
      rfl
  | case4 top next below closed operator result rest applied ih =>
      rw [settle_of_applied (relabel_reduced applied), ih, Evaluation.relabel_after]
      rfl
  | case5 top next below closed value opened rest reduced =>
      rw [settle_of_closed (relabel_reduced reduced)]
      rfl
  | case6 top next below closed fault rest failed =>
      exact settle_of_failed closed (relabel_reduced failed)

theorem hasOpening_relabel (stack : Stack) :
    (relabel place stack).hasOpening = stack.hasOpening := by
  induction stack with
  | nil => rfl
  | cons top below ih => simp_all [hasOpening, relabel, Entry.relabel]

theorem accept_relabel (text : Text) {symbol other : Symbol} (kind : symbol.kind = other.kind)
    (column : symbol.column = place other.column) (stack : Stack) :
    accept text symbol (relabel place stack) = (accept text other stack).relabel place := by
  unfold accept
  rw [kind, column]
  split
  · simp [push, Outcome.after, Outcome.relabel, Event.relabel]
  · simp [push, Outcome.relabel, Event.relabel]
  · simp [push, Outcome.relabel, Event.relabel]
  · rw [hasOpening_relabel]
    split
    · exact closeInnermost_relabel place other.column stack
    · rfl

/-- The symbols are the others in all but their columns, which are relabelled, and their lengths. -/
def Relabels (others symbols : List Symbol) : Prop :=
  List.Forall₂ (fun other symbol => symbol.kind = other.kind ∧ symbol.column = place other.column)
    others symbols

theorem read_relabel (text : Text) {others symbols : List Symbol}
    (relabels : Relabels place others symbols) (stack : Stack) :
    read text (relabel place stack) symbols = (read text stack others).relabel place := by
  induction relabels generalizing stack with
  | nil => rfl
  | @cons other symbol others symbols same relabels ih =>
      have accepted := accept_relabel place text same.1 same.2 stack
      cases fault : (accept text other stack).fault? with
      | some found =>
          simp only [read, accepted, fault, Outcome.relabel, Option.map_some]
      | none =>
          have clean : (accept text symbol (relabel place stack)).fault? = none := by
            rw [accepted, Outcome.relabel, fault]
            rfl
          simp only [read, clean, fault]
          rw [accepted, Outcome.relabel_after, ← ih]
          rfl

theorem evaluate_relabel (text : Text) {others symbols : List Symbol}
    (relabels : Relabels place others symbols) (endColumn : Nat) (stack : Stack) :
    evaluate text (place endColumn) symbols (relabel place stack) =
      (evaluate text endColumn others stack).relabel place := by
  have run := read_relabel place text relabels stack
  cases fault : (read text stack others).fault? with
  | some found =>
      simp only [evaluate, run, fault, Outcome.relabel, Option.map_some]
      rfl
  | none =>
      simp only [evaluate, run, fault, Outcome.relabel, Option.map_none]
      rw [settle_relabel, Evaluation.relabel_after]

end Labels

end Stack

def Symbol.numbered (kinds : List Kind) : List Symbol :=
  kinds.mapIdx fun index kind => ⟨kind, index, 0⟩

theorem Symbol.column_lt_of_mem_numbered {kinds : List Kind} {symbol : Symbol}
    (member : symbol ∈ numbered kinds) : symbol.column < kinds.length := by
  obtain ⟨index, bound, rfl⟩ := List.mem_mapIdx.mp member
  exact bound

namespace Query

def columnAt (query : Text) (index : Nat) : Nat :=
  ((symbols query)[index]?.map Symbol.column).getD (endColumn query)

theorem columnAt_length (query : Text) : columnAt query (kinds query).length = endColumn query := by
  simp [columnAt, kinds]

theorem relabels_numbered (query : Text) :
    Stack.Relabels (columnAt query) (Symbol.numbered (kinds query)) (symbols query) := by
  apply List.forall₂_iff_get.mpr
  apply And.intro
  · simp [Symbol.numbered, kinds]
  · intro index left right
    simp [Symbol.numbered, kinds, columnAt, List.getElem?_eq_getElem right]

/-- The verdict on numbered symbols of the same kinds says it all: its fault is to be moved to the
column of the symbol at the position that it points at. -/
theorem verdict_eq_relabel {query : Text} (scanned : query ≠ everything) (text : Text) :
    verdict query text =
      (Stack.evaluate text (kinds query).length (Symbol.numbered (kinds query)) []).verdict.relabel
        (columnAt query) := by
  have moved := Stack.evaluate_relabel (columnAt query) text (relabels_numbered query)
    (kinds query).length []
  rw [columnAt_length, Stack.relabel_nil] at moved
  rw [verdict_of_scanned scanned, moved]
  rfl

/-- Two queries whose symbols have the same kinds say the same about every text: the same value, or
the same sort of fault at the symbol of the same position. -/
theorem verdict_of_same_kinds {first second : Text} (scanned : first ≠ everything)
    (scanned' : second ≠ everything) (same : kinds first = kinds second) (text : Text) :
    (∃ value, verdict first text = .value value ∧ verdict second text = .value value) ∨
      (verdict first text = .malformed .emptyQuery ∧ verdict second text = .malformed .emptyQuery) ∨
      ∃ variant ∈ Fault.variants, ∃ (index : Nat) (left right : Symbol),
        (symbols first)[index]? = some left ∧ (symbols second)[index]? = some right ∧
          verdict first text = .malformed (variant left.column) ∧
          verdict second text = .malformed (variant right.column) := by
  have left := verdict_eq_relabel scanned text
  have right := verdict_eq_relabel scanned' text
  rw [← same] at right
  cases numbered : (Stack.evaluate text (kinds first).length
      (Symbol.numbered (kinds first)) []).verdict with
  | value value =>
      rw [numbered] at left right
      exact .inl ⟨value, left, right⟩
  | malformed fault =>
      rw [numbered] at left right
      by_cases empty : fault = .emptyQuery
      · subst empty
        exact .inr (.inl ⟨left, right⟩)
      · -- On numbered symbols the column of a fault is the position of the symbol it points at.
        obtain ⟨variant, known, index, pointed, relabels⟩ :=
          Fault.variant_of_ne_emptyQuery empty
        obtain ⟨symbol, member, rfl⟩ := Stack.exists_symbol_of_fault numbered pointed
        have bound : symbol.column < (kinds first).length := Symbol.column_lt_of_mem_numbered member
        have found (query : Text) (alike : kinds query = kinds first) :
            ∃ there, (symbols query)[symbol.column]? = some there ∧
              columnAt query symbol.column = there.column := by
          have inside : symbol.column < (symbols query).length := by
            rw [← alike, kinds, List.length_map] at bound
            exact bound
          refine ⟨(symbols query)[symbol.column], List.getElem?_eq_getElem inside, ?_⟩
          simp [columnAt, List.getElem?_eq_getElem inside]
        obtain ⟨here, placed, column⟩ := found first rfl
        obtain ⟨there, placed', column'⟩ := found second same.symm
        refine .inr (.inr ⟨variant, known, symbol.column, here, there, placed, placed', ?_, ?_⟩)
        · rw [left, Verdict.relabel, relabels, column]
        · rw [right, Verdict.relabel, relabels, column']

theorem verdict_of_two_spellings :
    let first := "!{a}({b}".toList
    let second := "NOT {a} é( {b}".toList
    first ≠ everything ∧ second ≠ everything ∧ kinds first = kinds second ∧
      verdict first "x : {b}".toList = .malformed (.unclosedGroup 5) ∧
      ∃ variant ∈ Fault.variants, ∃ (index : Nat) (left right : Symbol),
        (symbols first)[index]? = some left ∧ (symbols second)[index]? = some right ∧
          verdict first "x : {b}".toList = .malformed (variant left.column) ∧
          verdict second "x : {b}".toList = .malformed (variant right.column) := by
  intro first second
  have scanned : first ≠ everything := by decide
  have scanned' : second ≠ everything := by decide
  have same : kinds first = kinds second := by decide
  have malformed : verdict first "x : {b}".toList = .malformed (.unclosedGroup 5) := by
    decide +kernel
  apply And.intro scanned
  apply And.intro scanned'
  apply And.intro same
  apply And.intro malformed
  rcases verdict_of_same_kinds scanned scanned' same "x : {b}".toList with
    ⟨value, found, -⟩ | ⟨found, -⟩ | pointed
  · rw [malformed] at found
    cases found
  · rw [malformed] at found
    cases found
  · exact pointed

end Query
end TagQuery

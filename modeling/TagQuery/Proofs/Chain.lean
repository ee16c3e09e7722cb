import TagQuery.Proofs.Grammar

/-!
Chains: the rows of terms that a stack machine folds to one value. What one reduction can do is said
once, in `Reduces`. One that applies an operator replaces the end of a chain by its value, so it
keeps the value of the whole chain. Closing a group therefore succeeds exactly when the group holds
a chain, and settling exactly when the whole stack is one.
-/
namespace TagQuery
namespace Stack

def terms (stack : Stack) : List Term := (stack.map Entry.term).reverse

@[simp] theorem terms_nil : terms [] = [] := rfl

@[simp] theorem terms_cons (entry : Entry) (below : Stack) :
    terms (entry :: below) = terms below ++ [entry.term] := by
  simp [terms]

@[simp] theorem terms_append (upper lower : Stack) :
    terms (upper ++ lower) = terms lower ++ terms upper := by
  simp [terms]

/-- The terms fold to the value, each operator taking all that follows it as its right operand. -/
inductive Chain : List Term → Bool → Prop where
  | value (value : Bool) : Chain [.value value] value
  | joined {operator : Operator} {join : Bool → Bool → Bool} {terms : List Term} {right : Bool}
      (joins : operator.Joins join) (left : Bool) (rest : Chain terms right) :
      Chain (.value left :: .operator operator :: terms) (join left right)
  | negated {terms : List Term} {value : Bool} (rest : Chain terms value) :
      Chain (.operator .not :: terms) (!value)

namespace Chain

theorem joined_iff {operator : Operator} {join : Bool → Bool → Bool} (joins : operator.Joins join)
    {left value : Bool} {row : List Term} :
    Chain (.value left :: .operator operator :: row) value ↔
      ∃ right, Chain row right ∧ value = join left right := by
  constructor
  · intro chain
    cases chain with
    | joined joins' left rest =>
        cases joins <;> cases joins' <;> exact ⟨_, rest, rfl⟩
  · rintro ⟨right, rest, rfl⟩
    exact .joined joins left rest

theorem negated_iff {row : List Term} {value : Bool} :
    Chain (.operator .not :: row) value ↔ ∃ inner, Chain row inner ∧ value = !inner := by
  constructor
  · intro chain
    cases chain with
    | negated rest => exact ⟨_, rest, rfl⟩
  · rintro ⟨inner, rest, rfl⟩
    exact .negated rest

theorem expand {front back : List Term} {inner value : Bool}
    (chain : Chain (front ++ [.value inner]) value) (part : Chain back inner) :
    Chain (front ++ back) value := by
  generalize whole : front ++ [.value inner] = terms at chain
  induction chain generalizing front with
  | value value =>
      cases front with
      | nil =>
          simp only [List.nil_append, List.cons.injEq, Term.value.injEq, and_true] at whole
          subst whole
          exact part
      | cons first front => simp at whole
  | joined joins left rest ih =>
      rcases front with _ | ⟨first, _ | ⟨second, front⟩⟩
      · simp at whole
      · simp at whole
      · simp only [List.cons_append, List.cons.injEq] at whole ⊢
        obtain ⟨rfl, rfl, rfl⟩ := whole
        exact .joined joins left (ih rfl)
  | negated rest ih =>
      cases front with
      | nil => simp at whole
      | cons first front =>
          simp only [List.cons_append, List.cons.injEq] at whole ⊢
          obtain ⟨rfl, rfl⟩ := whole
          exact .negated (ih rfl)

/-- What stands at the end of a chain: one value, or an operator with its operands, which a chain of
the same value has as one value instead. -/
inductive Ending : List Term → Bool → Prop where
  | value (value : Bool) : Ending [.value value] value
  | joined (front : List Term) {operator : Operator} {join : Bool → Bool → Bool} {value : Bool}
      (joins : operator.Joins join) (left right : Bool)
      (shorter : Chain (front ++ [.value (join left right)]) value) :
      Ending (front ++ [.value left] ++ [.operator operator] ++ [.value right]) value
  | negated (front : List Term) {value : Bool} (inner : Bool)
      (shorter : Chain (front ++ [.value (!inner)]) value) :
      Ending (front ++ [.operator .not] ++ [.value inner]) value

theorem ending {terms : List Term} {value : Bool} (chain : Chain terms value) :
    Ending terms value := by
  induction chain with
  | value value => exact .value value
  | joined joins left rest ih =>
      cases ih with
      | value => exact .joined [] joins left _ (.value _)
      | joined front inner second right shorter =>
          exact .joined (.value left :: _ :: front) inner second right (.joined joins left shorter)
      | negated front inner shorter =>
          exact .negated (.value left :: _ :: front) inner (.joined joins left shorter)
  | negated rest ih =>
      cases ih with
      | value => exact .negated [] _ (.value _)
      | joined front joins left right shorter =>
          exact .joined (.operator .not :: front) joins left right (.negated shorter)
      | negated front inner shorter =>
          exact .negated (.operator .not :: front) inner (.negated shorter)

end Chain

theorem terms_eq_concat {stack : Stack} (front : List Term) {term : Term}
    (same : terms stack = front ++ [term]) :
    ∃ column below, stack = ⟨term, column⟩ :: below ∧ terms below = front := by
  cases stack with
  | nil => simp at same
  | cons top below =>
      rw [terms_cons] at same
      obtain ⟨lower, rfl⟩ := List.append_inj' same rfl |>.imp_right List.singleton_inj.mp
      exact ⟨top.column, below, rfl, lower⟩

theorem reduce_joined {operator : Operator} {join : Bool → Bool → Bool}
    (joins : operator.Joins join) (fallback place column edge : Nat) (left right : Bool)
    (below : Stack) :
    reduce fallback
        (⟨.value right, place⟩ :: ⟨.operator operator, column⟩ :: ⟨.value left, edge⟩ :: below) =
      .applied operator (join left right) (⟨.value (join left right), column⟩ :: below) := by
  cases joins <;> rfl

theorem Chain.reduces {stack : Stack} {value : Bool} (chain : Chain (terms stack) value) :
    (∃ column, stack = [⟨.value value, column⟩]) ∨
      ∃ operator result rest, Chain (terms rest) value ∧
        ∀ fallback lower,
          reduce fallback (stack ++ lower) = .applied operator result (rest ++ lower) := by
  generalize whole : terms stack = row at chain
  cases chain.ending with
  | value =>
      obtain ⟨column, below, rfl, empty⟩ := terms_eq_concat [] whole
      simp only [terms, List.reverse_eq_nil_iff, List.map_eq_nil_iff] at empty
      subst empty
      exact .inl ⟨column, rfl⟩
  | @joined front operator join _ joins left right shorter =>
      right
      obtain ⟨place, _, rfl, middle⟩ := terms_eq_concat _ whole
      obtain ⟨column, _, rfl, lower⟩ := terms_eq_concat _ middle
      obtain ⟨edge, below, rfl, rfl⟩ := terms_eq_concat front lower
      exact ⟨operator, join left right, ⟨.value (join left right), column⟩ :: below,
        by simpa using shorter, fun fallback lower => reduce_joined joins ..⟩
  | negated front inner shorter =>
      right
      obtain ⟨place, _, rfl, lower⟩ := terms_eq_concat _ whole
      obtain ⟨column, below, rfl, rfl⟩ := terms_eq_concat front lower
      exact ⟨.not, !inner, ⟨.value (!inner), column⟩ :: below, by simpa using shorter,
        fun fallback lower => rfl⟩

/-- Everything that one reduction can do. The fallback column is blamed on a stack of one value or
none, and in every other case the reduction does not depend on it. -/
inductive Reduces (fallback : Nat) : Stack → Reduction → Prop where
  | joined {operator : Operator} {join : Bool → Bool → Bool} (joins : operator.Joins join)
      (place column edge : Nat) (left right : Bool) (below : Stack) :
      Reduces fallback
        (⟨.value right, place⟩ :: ⟨.operator operator, column⟩ :: ⟨.value left, edge⟩ :: below)
        (.applied operator (join left right) (⟨.value (join left right), column⟩ :: below))
  | negated (place column : Nat) (inner : Bool) (below : Stack) :
      Reduces fallback (⟨.value inner, place⟩ :: ⟨.operator .not, column⟩ :: below)
        (.applied .not (!inner) (⟨.value (!inner), column⟩ :: below))
  | closed (place opened : Nat) (value : Bool) (below : Stack) :
      Reduces fallback (⟨.value value, place⟩ :: ⟨.opening, opened⟩ :: below)
        (.closed value opened (⟨.value value, opened⟩ :: below))
  | dangling (operator : Operator) (column : Nat) (below : Stack) :
      Reduces fallback (⟨.operator operator, column⟩ :: below)
        (.failed (.danglingOperator column) below)
  | vacant (opened : Nat) (below : Stack) :
      Reduces fallback (⟨.opening, opened⟩ :: below) (.failed (.missingOperand opened) below)
  | adjacent (place column : Nat) (right left : Bool) (below : Stack) :
      Reduces fallback (⟨.value right, place⟩ :: ⟨.value left, column⟩ :: below)
        (.failed (.missingOperand column) below)
  | leftless {operator : Operator} {join : Bool → Bool → Bool} (joins : operator.Joins join)
      (place column : Nat) (right : Bool) {below : Stack}
      (other : ∀ left edge lower, below ≠ ⟨.value left, edge⟩ :: lower) :
      Reduces fallback (⟨.value right, place⟩ :: ⟨.operator operator, column⟩ :: below)
        (.failed (.missingOperand column) below.tail)
  | alone (place : Nat) (value : Bool) :
      Reduces fallback [⟨.value value, place⟩] (.failed (.missingOperand fallback) [])
  | empty : Reduces fallback [] (.failed (.missingOperand fallback) [])

private theorem reduces_joinLeft {operator : Operator} {join : Bool → Bool → Bool}
    (joins : operator.Joins join) (fallback place column : Nat) (right : Bool) (below : Stack) :
    Reduces fallback (⟨.value right, place⟩ :: ⟨.operator operator, column⟩ :: below)
      (joinLeft operator join column right below) := by
  cases below with
  | nil => exact .leftless joins place column right (by simp)
  | cons next lower =>
      obtain ⟨term, edge⟩ := next
      cases term with
      | value left => exact .joined joins place column edge left right lower
      | operator other => exact .leftless joins place column right (by simp)
      | opening => exact .leftless joins place column right (by simp)

theorem reduces (fallback : Nat) (stack : Stack) :
    Reduces fallback stack (reduce fallback stack) := by
  rcases stack with _ | ⟨⟨top, place⟩, below⟩
  · exact .empty
  cases top with
  | operator operator => exact .dangling operator place below
  | opening => exact .vacant place below
  | value right =>
      rcases below with _ | ⟨⟨next, column⟩, lower⟩
      · exact .alone place right
      cases next with
      | value left => exact .adjacent place column right left lower
      | opening => exact .closed place column right lower
      | operator operator =>
          cases operator with
          | not => exact .negated place column right lower
          | and => exact reduces_joinLeft .and ..
          | or => exact reduces_joinLeft .or ..

theorem applied_replaces {fallback : Nat} {stack rest : Stack} {operator : Operator} {result : Bool}
    (applied : reduce fallback stack = .applied operator result rest) :
    ∃ upper column below, stack = upper ++ below ∧ Chain (terms upper) result ∧
      rest = ⟨.value result, column⟩ :: below := by
  have step := reduces fallback stack
  rw [applied] at step
  cases step with
  | joined joins place column edge left right below =>
      exact ⟨[⟨.value right, place⟩, ⟨.operator operator, column⟩, ⟨.value left, edge⟩], column,
        below, rfl, .joined joins left (.value right), rfl⟩
  | negated place column inner below =>
      exact ⟨[⟨.value inner, place⟩, ⟨.operator .not, column⟩], column, below, rfl,
        .negated (.value inner), rfl⟩

theorem closed_replaces {fallback opened : Nat} {stack rest : Stack} {value : Bool}
    (closed : reduce fallback stack = .closed value opened rest) :
    ∃ place lower, stack = ⟨.value value, place⟩ :: ⟨.opening, opened⟩ :: lower ∧
      rest = ⟨.value value, opened⟩ :: lower := by
  have step := reduces fallback stack
  rw [closed] at step
  cases step with
  | closed place opened value below => exact ⟨place, below, rfl, rfl⟩

theorem failed_leaves {fallback : Nat} {stack rest : Stack} {fault : Fault}
    (failed : reduce fallback stack = .failed fault rest) : rest <:+ stack.tail := by
  have step := reduces fallback stack
  rw [failed] at step
  cases step with
  | dangling => exact List.suffix_rfl
  | vacant => exact List.suffix_rfl
  | adjacent => exact List.suffix_cons ..
  | leftless => exact (List.tail_suffix _).trans (List.suffix_cons ..)
  | alone => exact List.suffix_rfl
  | empty => exact List.suffix_rfl

theorem chain_of_applied {fallback : Nat} {stack rest : Stack} {operator : Operator}
    {result value : Bool} (applied : reduce fallback stack = .applied operator result rest)
    (chain : Chain (terms rest) value) : Chain (terms stack) value := by
  obtain ⟨upper, column, below, rfl, part, rfl⟩ := applied_replaces applied
  rw [terms_cons] at chain
  rw [terms_append]
  exact chain.expand part

theorem settle_of_applied {endColumn : Nat} {stack rest : Stack} {operator : Operator}
    {result : Bool} (applied : reduce endColumn stack = .applied operator result rest) :
    settle endColumn stack = (settle endColumn rest).after [.reduced operator result] := by
  rcases stack with _ | ⟨⟨top, column⟩, _ | ⟨next, below⟩⟩
  · cases applied
  · cases top <;> cases applied
  · have closed : top ≠ .opening := by
      rintro rfl
      cases applied
    rw [settle, if_neg closed]
    split <;> simp_all

theorem settle_of_closed {endColumn opened : Nat} {stack rest : Stack} {value : Bool}
    (closed : reduce endColumn stack = .closed value opened rest) :
    settle endColumn stack = ⟨[.closed value opened], .malformed (.unclosedGroup opened)⟩ := by
  obtain ⟨place, lower, rfl, -⟩ := closed_replaces closed
  rw [settle, if_neg (by simp)]
  split <;> simp_all

theorem settle_of_failed {endColumn : Nat} {top next : Entry} {below rest : Stack} {fault : Fault}
    (closed : top.term ≠ .opening)
    (failed : reduce endColumn (top :: next :: below) = .failed fault rest) :
    settle endColumn (top :: next :: below) = ⟨[], .malformed fault⟩ := by
  rw [settle, if_neg closed]
  split <;> simp_all

theorem settle_value_column (endColumn : Nat) (value : Bool) (place other : Nat) (lower : Stack) :
    settle endColumn (⟨.value value, place⟩ :: lower) =
      settle endColumn (⟨.value value, other⟩ :: lower) := by
  cases lower with
  | nil => simp only [settle, Entry.verdict]
  | cons next below =>
      have same (column : Nat) : reduce endColumn (⟨.value value, column⟩ :: next :: below) =
          reduceValue endColumn value (next :: below) := rfl
      cases reduced : reduceValue endColumn value (next :: below) with
      | applied operator result rest =>
          rw [settle_of_applied ((same place).trans reduced),
            settle_of_applied ((same other).trans reduced)]
      | closed found opened rest =>
          rw [settle_of_closed ((same place).trans reduced),
            settle_of_closed ((same other).trans reduced)]
      | failed fault rest =>
          rw [settle_of_failed (by simp) ((same place).trans reduced),
            settle_of_failed (by simp) ((same other).trans reduced)]

theorem settle_of_folded {upper : Stack} {value : Bool} (chain : Chain (terms upper) value)
    (endColumn place : Nat) (lower : Stack) :
    (settle endColumn (upper ++ lower)).verdict =
      (settle endColumn (⟨.value value, place⟩ :: lower)).verdict := by
  rcases chain.reduces with ⟨column, rfl⟩ | ⟨operator, result, rest, shorter, reduces⟩
  · exact congrArg Evaluation.verdict (settle_value_column endColumn value column place lower)
  · rw [settle_of_applied (reduces endColumn lower)]
    exact settle_of_folded shorter endColumn place lower
termination_by upper.length
decreasing_by exact length_lt_of_applied (by simpa using reduces endColumn [])

theorem settle_of_chain {endColumn : Nat} {stack : Stack} {value : Bool}
    (chain : Chain (terms stack) value) : (settle endColumn stack).verdict = .value value := by
  have folded := settle_of_folded chain endColumn 0 []
  rw [List.append_nil] at folded
  rw [folded, settle]
  rfl

theorem chain_of_settle {endColumn : Nat} {stack : Stack} {value : Bool}
    (settled : (settle endColumn stack).verdict = .value value) : Chain (terms stack) value := by
  fun_induction settle endColumn stack with
  | case1 => cases settled
  | case2 entry =>
      obtain ⟨term, column⟩ := entry
      cases term with
      | value found =>
          cases settled
          exact .value value
      | operator operator => cases settled
      | opening => cases settled
  | case3 => cases settled
  | case4 top next below closed operator result rest applied ih =>
      exact chain_of_applied applied (ih settled)
  | case5 => cases settled
  | case6 => cases settled

theorem closeInnermost_of_applied {column : Nat} {stack rest : Stack} {operator : Operator}
    {result : Bool} (applied : reduce column stack = .applied operator result rest) :
    closeInnermost column stack =
      (closeInnermost column rest).after [.reduced operator result] := by
  rw [closeInnermost]
  split <;> simp_all

theorem closeInnermost_of_closed {column opened : Nat} {stack rest : Stack} {value : Bool}
    (closed : reduce column stack = .closed value opened rest) :
    closeInnermost column stack = ⟨[.closed value opened], rest, none⟩ := by
  rw [closeInnermost]
  split <;> simp_all

theorem closeInnermost_of_failed {column : Nat} {stack rest : Stack} {fault : Fault}
    (failed : reduce column stack = .failed fault rest) :
    closeInnermost column stack = ⟨[], rest, some fault⟩ := by
  rw [closeInnermost]
  split <;> simp_all

theorem closeInnermost_value_column (column : Nat) (value : Bool) (place other : Nat)
    (lower : Stack) :
    closeInnermost column (⟨.value value, place⟩ :: lower) =
      closeInnermost column (⟨.value value, other⟩ :: lower) := by
  have same (edge : Nat) : reduce column (⟨.value value, edge⟩ :: lower) =
      reduceValue column value lower := rfl
  cases reduced : reduceValue column value lower with
  | applied operator result rest =>
      rw [closeInnermost_of_applied ((same place).trans reduced),
        closeInnermost_of_applied ((same other).trans reduced)]
  | closed found opened rest =>
      rw [closeInnermost_of_closed ((same place).trans reduced),
        closeInnermost_of_closed ((same other).trans reduced)]
  | failed fault rest =>
      rw [closeInnermost_of_failed ((same place).trans reduced),
        closeInnermost_of_failed ((same other).trans reduced)]

theorem closeInnermost_of_folded {upper : Stack} {value : Bool} (chain : Chain (terms upper) value)
    (column place : Nat) (lower : Stack) :
    (closeInnermost column (upper ++ lower)).stack =
        (closeInnermost column (⟨.value value, place⟩ :: lower)).stack ∧
      (closeInnermost column (upper ++ lower)).fault? =
        (closeInnermost column (⟨.value value, place⟩ :: lower)).fault? := by
  rcases chain.reduces with ⟨edge, rfl⟩ | ⟨operator, result, rest, shorter, reduces⟩
  · rw [List.singleton_append, closeInnermost_value_column column value edge place lower]
    exact ⟨rfl, rfl⟩
  · rw [closeInnermost_of_applied (reduces column lower)]
    exact closeInnermost_of_folded shorter column place lower
termination_by upper.length
decreasing_by exact length_lt_of_applied (by simpa using reduces column [])

theorem closeInnermost_of_chain {group : Stack} {value : Bool} (chain : Chain (terms group) value)
    (column opened : Nat) (lower : Stack) :
    (closeInnermost column (group ++ ⟨.opening, opened⟩ :: lower)).stack =
        ⟨.value value, opened⟩ :: lower ∧
      (closeInnermost column (group ++ ⟨.opening, opened⟩ :: lower)).fault? = none := by
  obtain ⟨left, fault⟩ := closeInnermost_of_folded chain column 0 (⟨.opening, opened⟩ :: lower)
  have closed : reduce column (⟨.value value, 0⟩ :: ⟨.opening, opened⟩ :: lower) =
      .closed value opened (⟨.value value, opened⟩ :: lower) := rfl
  rw [left, fault, closeInnermost_of_closed closed]
  exact ⟨rfl, rfl⟩

theorem chain_of_closeInnermost {column : Nat} {stack : Stack}
    (closed : (closeInnermost column stack).fault? = none) :
    ∃ group opened lower value, stack = group ++ ⟨.opening, opened⟩ :: lower ∧
      Chain (terms group) value ∧
        (closeInnermost column stack).stack = ⟨.value value, opened⟩ :: lower := by
  fun_induction closeInnermost column stack with
  | case1 stack operator result rest applied ih =>
      obtain ⟨group, opened, lower, value, whole, chain, left⟩ := ih closed
      obtain ⟨upper, place, below, rfl, part, rfl⟩ := applied_replaces applied
      -- The result of the reduction is a value, so it lies in the group and not at its opening.
      cases group with
      | nil => cases whole
      | cons top group =>
          cases whole
          rw [terms_cons] at chain
          refine ⟨upper ++ group, opened, lower, value, by simp, ?_, left⟩
          rw [terms_append]
          exact chain.expand part
  | case2 stack value opened rest reduced =>
      obtain ⟨place, lower, rfl, rfl⟩ := closed_replaces reduced
      exact ⟨[⟨.value value, place⟩], opened, lower, value, rfl, .value value, rfl⟩
  | case3 => cases closed

/-- A group that cannot be closed leaves some of the entries below the top as they were: the values
of the reductions before the failed one are all gone. -/
theorem closeInnermost_failed_leaves {column : Nat} {stack : Stack} {fault : Fault}
    (failed : (closeInnermost column stack).fault? = some fault) :
    (closeInnermost column stack).stack <:+ stack.tail := by
  fun_induction closeInnermost column stack with
  | case1 stack operator result rest applied ih =>
      obtain ⟨upper, place, below, rfl, part, rfl⟩ := applied_replaces applied
      have left := ih failed
      rw [List.tail_cons] at left
      cases upper with
      | nil => cases part
      | cons top upper => exact left.trans (List.suffix_append upper below)
  | case2 => cases failed
  | case3 stack found rest reduced => exact failed_leaves reduced

end Stack
end TagQuery

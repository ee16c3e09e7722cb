import TagQuery.Proofs.Chain

/-!
What a fault points at. A reduction that fails blames one of the two entries on top of the stack,
and the value that an earlier reduction has put on top is never blamed. So a fault that is found
while a group is closed or a query is settled points at an entry that was there at the start, and
the column for a stack that runs out is never used.
-/
namespace TagQuery
namespace Stack

/-- The fault points at an entry of the stack: an operator or an opening on top of it, or below the
top any entry but a negation, which has no left operand to miss. -/
inductive Blames : Stack → Fault → Prop where
  | operator (operator : Operator) (column : Nat) (below : Stack) :
      Blames (⟨.operator operator, column⟩ :: below) (.danglingOperator column)
  | opening (column : Nat) (below : Stack) :
      Blames (⟨.opening, column⟩ :: below) (.missingOperand column)
  | below {top entry : Entry} {lower : Stack} (member : entry ∈ lower)
      (other : entry.term ≠ .operator .not) : Blames (top :: lower) (.missingOperand entry.column)

namespace Blames

theorem append {upper : Stack} {fault : Fault} (blames : Blames upper fault) (lower : Stack) :
    Blames (upper ++ lower) fault := by
  cases blames with
  | operator operator column below => exact .operator operator column (below ++ lower)
  | opening column below => exact .opening column (below ++ lower)
  | below member other => exact .below (List.mem_append_left lower member) other

theorem restore {upper part : Stack} {value result : Bool} {column : Nat} {fault : Fault}
    (chain : Chain (terms upper) result)
    (blames : Blames (⟨.value value, column⟩ :: part) fault) : Blames (upper ++ part) fault := by
  cases blames with
  | below member other =>
      cases upper with
      | nil => cases chain
      | cons top upper => exact .below (List.mem_append_right upper member) other

theorem entry {stack : Stack} {fault : Fault} (blames : Blames stack fault) :
    (∃ operator column below, stack = ⟨.operator operator, column⟩ :: below ∧
        fault = .danglingOperator column) ∨
      ∃ entry ∈ stack, entry.term ≠ .operator .not ∧ fault = .missingOperand entry.column := by
  cases blames with
  | operator operator column below => exact .inl ⟨operator, column, below, rfl, rfl⟩
  | opening column below =>
      have here : (⟨.opening, column⟩ : Entry) ∈ ⟨.opening, column⟩ :: below :=
        List.mem_cons_self ..
      exact .inr ⟨_, here, by simp, rfl⟩
  | @below top entry lower member other =>
      exact .inr ⟨entry, List.mem_cons_of_mem top member, other, rfl⟩

end Blames

theorem blames_of_failed {fallback : Nat} {top next : Entry} {below rest : Stack} {fault : Fault}
    (failed : reduce fallback (top :: next :: below) = .failed fault rest) :
    Blames [top, next] fault := by
  have step := reduces fallback (top :: next :: below)
  rw [failed] at step
  cases step with
  | dangling operator column => exact .operator operator column [next]
  | vacant opened => exact .opening opened [next]
  | adjacent place column right left => exact .below (List.mem_singleton_self _) (by simp)
  | leftless joins place column right =>
      exact .below (List.mem_singleton_self _) (by cases joins <;> simp)

theorem Chain.plain {row : List Term} {value : Bool} (chain : Chain row value) :
    .opening ∉ row := by
  induction chain with
  | value value => simp
  | joined joins left rest ih => simp [ih]
  | negated rest ih => simp [ih]

theorem Chain.split {upper below group lower : Stack} {opened : Nat} {value : Bool}
    (chain : Chain (terms upper) value)
    (whole : upper ++ below = group ++ ⟨.opening, opened⟩ :: lower) :
    ∃ part, group = upper ++ part ∧ below = part ++ ⟨.opening, opened⟩ :: lower := by
  rcases List.append_eq_append_iff.mp whole with ⟨part, rfl, rest⟩ | ⟨part, rfl, rest⟩
  · exact ⟨part, rfl, rest⟩
  · cases part with
    | nil => exact ⟨[], by simp, rest.symm⟩
    | cons first part =>
        obtain ⟨rfl, -⟩ := List.cons.inj rest
        have plain := chain.plain
        simp [terms] at plain

theorem applied_within {fallback opened : Nat} {group lower rest : Stack} {operator : Operator}
    {result : Bool}
    (applied : reduce fallback (group ++ ⟨.opening, opened⟩ :: lower) =
      .applied operator result rest) :
    ∃ upper part column, group = upper ++ part ∧ Chain (terms upper) result ∧
      rest = (⟨.value result, column⟩ :: part) ++ ⟨.opening, opened⟩ :: lower := by
  obtain ⟨upper, column, below, whole, chain, rfl⟩ := applied_replaces applied
  obtain ⟨part, rfl, rfl⟩ := chain.split whole.symm
  exact ⟨upper, part, column, rfl, chain, rfl⟩

/-- A group that cannot be closed has the fault in itself or at its opening. -/
theorem blames_of_closeInnermost {column opened : Nat} {group lower : Stack} {fault : Fault}
    (failed : (closeInnermost column (group ++ ⟨.opening, opened⟩ :: lower)).fault? = some fault) :
    Blames (group ++ [⟨.opening, opened⟩]) fault := by
  generalize whole : group ++ ⟨.opening, opened⟩ :: lower = stack at failed
  fun_induction closeInnermost column stack generalizing group with
  | case1 stack operator result rest applied ih =>
      subst whole
      obtain ⟨upper, part, place, rfl, chain, rfl⟩ := applied_within applied
      -- What is blamed after the reduction is not its result, so it was there before.
      have inner : Blames (⟨.value result, place⟩ :: (part ++ [⟨.opening, opened⟩])) fault :=
        ih rfl failed
      rw [List.append_assoc]
      exact inner.restore chain
  | case2 => cases failed
  | case3 stack found rest reduced =>
      subst whole
      obtain rfl : found = fault := Option.some.inj failed
      -- The reduction has failed at the two entries on top, and neither lies below the opening.
      rcases group with _ | ⟨top, _ | ⟨next, group⟩⟩
      · cases reduced
        exact .opening opened []
      · exact blames_of_failed reduced
      · exact (blames_of_failed reduced).append (group ++ [⟨.opening, opened⟩])

/-- Some group is open, and what stands on its opening, if anything, is a chain. -/
def LeavesOpen (stack : Stack) (opened : Nat) : Prop :=
  ∃ group lower, stack = group ++ ⟨.opening, opened⟩ :: lower ∧
    (group = [] ∨ ∃ value, Chain (terms group) value)

theorem LeavesOpen.of_applied {fallback opened : Nat} {stack rest : Stack} {operator : Operator}
    {result : Bool} (applied : reduce fallback stack = .applied operator result rest)
    (leaves : LeavesOpen rest opened) : LeavesOpen stack opened := by
  obtain ⟨upper, column, below, rfl, part, rfl⟩ := applied_replaces applied
  obtain ⟨group, lower, whole, holds⟩ := leaves
  cases group with
  | nil => cases whole
  | cons top group =>
      obtain ⟨rfl, rfl⟩ := List.cons.inj whole
      rcases holds with empty | ⟨value, chain⟩
      · cases empty
      · refine ⟨upper ++ group, lower, by simp, .inr ⟨value, ?_⟩⟩
        rw [terms_cons] at chain
        rw [terms_append]
        exact chain.expand part

/-- A stack that does not settle to a value is empty, has a group open, or has an entry to blame. -/
theorem fault_of_settle {endColumn : Nat} {stack : Stack} {fault : Fault}
    (malformed : (settle endColumn stack).verdict = .malformed fault) :
    (stack = [] ∧ fault = .emptyQuery) ∨
      (∃ opened, LeavesOpen stack opened ∧ fault = .unclosedGroup opened) ∨ Blames stack fault := by
  fun_induction settle endColumn stack with
  | case1 =>
      cases malformed
      exact .inl ⟨rfl, rfl⟩
  | case2 entry =>
      obtain ⟨term, column⟩ := entry
      cases term with
      | value value => cases malformed
      | operator operator =>
          cases malformed
          exact .inr (.inr (.operator operator column []))
      | opening =>
          cases malformed
          exact .inr (.inl ⟨column, ⟨[], [], rfl, .inl rfl⟩, rfl⟩)
  | case3 top next below opens =>
      obtain ⟨term, column⟩ := top
      cases malformed
      obtain rfl : term = .opening := opens
      exact .inr (.inl ⟨column, ⟨[], next :: below, rfl, .inl rfl⟩, rfl⟩)
  | case4 top next below closed operator result rest applied ih =>
      rcases ih malformed with ⟨rfl, -⟩ | ⟨opened, leaves, rfl⟩ | blames
      · obtain ⟨_, _, _, _, _, filled⟩ := applied_replaces applied
        cases filled
      · exact .inr (.inl ⟨opened, leaves.of_applied applied, rfl⟩)
      · obtain ⟨upper, column, lower, whole, chain, rfl⟩ := applied_replaces applied
        rw [whole]
        exact .inr (.inr (blames.restore chain))
  | case5 top next below closed value opened rest reduced =>
      cases malformed
      obtain ⟨place, lower, whole, -⟩ := closed_replaces reduced
      rw [whole]
      exact .inr (.inl ⟨opened, ⟨[_], lower, rfl, .inr ⟨value, .value value⟩⟩, rfl⟩)
  | case6 top next below closed found rest reduced =>
      cases malformed
      exact .inr (.inr ((blames_of_failed reduced).append below))

theorem settle_of_opening (endColumn opened : Nat) (below : Stack) :
    (settle endColumn (⟨.opening, opened⟩ :: below)).verdict =
      .malformed (.unclosedGroup opened) := by
  cases below with
  | nil => simp [settle, Entry.verdict]
  | cons next below => simp [settle]

theorem settle_of_operator (endColumn column : Nat) (operator : Operator) (below : Stack) :
    (settle endColumn (⟨.operator operator, column⟩ :: below)).verdict =
      .malformed (.danglingOperator column) := by
  cases below with
  | nil => simp [settle, Entry.verdict]
  | cons next below =>
      rw [settle_of_failed (by simp) rfl]

theorem settle_of_open_chain {endColumn opened : Nat} {group : Stack} {value : Bool}
    (chain : Chain (terms group) value) (lower : Stack) :
    (settle endColumn (group ++ ⟨.opening, opened⟩ :: lower)).verdict =
      .malformed (.unclosedGroup opened) := by
  have closed : reduce endColumn (⟨.value value, 0⟩ :: ⟨.opening, opened⟩ :: lower) =
      .closed value opened (⟨.value value, opened⟩ :: lower) := rfl
  rw [settle_of_folded chain endColumn 0, settle_of_closed closed]

theorem LeavesOpen.settle {endColumn opened : Nat} {stack : Stack}
    (leaves : LeavesOpen stack opened) :
    (settle endColumn stack).verdict = .malformed (.unclosedGroup opened) := by
  obtain ⟨group, lower, rfl, rfl | ⟨value, chain⟩⟩ := leaves
  · exact settle_of_opening endColumn opened lower
  · exact settle_of_open_chain chain lower

end Stack
end TagQuery

import TagQuery.Proofs.Diagnosis
import TagQuery.Proofs.Enclosure

/-!
The column for a stack that runs out. A reduction would blame it on an empty stack, or below a value
with no entry under it. But settling reduces two entries or more, and while a group is closed its
opening stays on the stack, so neither of them ever comes to such a stack: the column that they are
given changes nothing, and a fault points at an entry.
-/
namespace TagQuery
namespace Stack

theorem reduce_of_two (first second : Nat) (top next : Entry) (below : Stack) :
    reduce first (top :: next :: below) = reduce second (top :: next :: below) := by
  obtain ⟨term, column⟩ := top
  cases term with
  | operator operator => rfl
  | opening => rfl
  | value right =>
      obtain ⟨under, place⟩ := next
      cases under with
      | value left => rfl
      | opening => rfl
      | operator operator => cases operator <;> rfl

theorem reduce_in_group (first second opened : Nat) (group lower : Stack) :
    reduce first (group ++ ⟨.opening, opened⟩ :: lower) =
      reduce second (group ++ ⟨.opening, opened⟩ :: lower) := by
  cases group with
  | nil => rfl
  | cons top group =>
      cases group with
      | nil => exact reduce_of_two first second top ⟨.opening, opened⟩ lower
      | cons next group => exact reduce_of_two first second top next _

theorem settle_anywhere (first second : Nat) (stack : Stack) :
    settle first stack = settle second stack := by
  fun_induction settle first stack with
  | case1 => rw [settle]
  | case2 entry => rw [settle]
  | case3 top next below opens => rw [settle, if_pos opens]
  | case4 top next below closed operator result rest applied ih =>
      rw [reduce_of_two first second] at applied
      rw [settle_of_applied applied, ih]
  | case5 top next below closed value opened rest reduced =>
      rw [reduce_of_two first second] at reduced
      exact (settle_of_closed reduced).symm
  | case6 top next below closed fault rest reduced =>
      rw [reduce_of_two first second] at reduced
      exact (settle_of_failed closed reduced).symm

theorem evaluate_anywhere (text : Text) (first second : Nat) (symbols : List Symbol)
    (stack : Stack) :
    stack.evaluate text first symbols = stack.evaluate text second symbols := by
  simp only [evaluate, settle_anywhere first second]

theorem closeInnermost_anywhere (first second opened : Nat) (group lower : Stack) :
    closeInnermost first (group ++ ⟨.opening, opened⟩ :: lower) =
      closeInnermost second (group ++ ⟨.opening, opened⟩ :: lower) := by
  generalize whole : group ++ ⟨.opening, opened⟩ :: lower = stack
  fun_induction closeInnermost first stack generalizing group with
  | case1 stack operator result rest applied ih =>
      subst whole
      obtain ⟨upper, part, place, rfl, chain, rfl⟩ := applied_within applied
      -- The opening is still there after the reduction, so the next one finds it too.
      have further := ih _ rfl
      rw [reduce_in_group first second] at applied
      rw [closeInnermost_of_applied applied, further]
  | case2 stack value opened rest reduced =>
      subst whole
      rw [reduce_in_group first second] at reduced
      exact (closeInnermost_of_closed reduced).symm
  | case3 stack fault rest reduced =>
      subst whole
      rw [reduce_in_group first second] at reduced
      exact (closeInnermost_of_failed reduced).symm

theorem Blames.points {stack : Stack} {fault : Fault} (blames : Blames stack fault) :
    ∃ entry ∈ stack, fault.column? = some entry.column := by
  rcases blames.entry with ⟨operator, column, below, rfl, rfl⟩ | ⟨entry, member, -, rfl⟩
  · exact ⟨⟨.operator operator, column⟩, List.mem_cons_self .., rfl⟩
  · exact ⟨entry, member, rfl⟩

theorem settle_points {endColumn column : Nat} {stack : Stack} {fault : Fault}
    (malformed : (settle endColumn stack).verdict = .malformed fault)
    (pointed : fault.column? = some column) : ∃ entry ∈ stack, entry.column = column := by
  rcases fault_of_settle malformed with ⟨-, rfl⟩ | ⟨opened, leaves, rfl⟩ | blames
  · cases pointed
  · obtain ⟨group, lower, rfl, -⟩ := leaves
    cases pointed
    exact ⟨⟨.opening, column⟩, by simp, rfl⟩
  · obtain ⟨entry, member, same⟩ := blames.points
    rw [pointed] at same
    exact ⟨entry, member, (Option.some.inj same).symm⟩

theorem closing_points {text : Text} {column length : Nat} {stack : Stack} {fault : Fault}
    (present : .opening ∈ terms stack)
    (refused : (accept text ⟨.closing, column, length⟩ stack).fault? = some fault) :
    ∃ entry ∈ stack, fault.column? = some entry.column := by
  obtain ⟨-, ⟨absent, -⟩ | ⟨-, blames⟩⟩ := fault_of_accept refused
  · exact absurd present (not_hasOpening_iff.mp absent)
  · exact blames.points

/-- The column for a stack that runs out is never reported. What is left at the end is settled in
the same way whatever the end column is, and a group is closed, or refused, in the same way wherever
its parenthesis stands. A fault that points somewhere points at an entry of the stack. -/
theorem fallback_never_reported (text : Text) (stack : Stack) :
    (∀ first second, settle first stack = settle second stack) ∧
      (.opening ∈ terms stack → ∀ first second width length,
        accept text ⟨.closing, first, width⟩ stack =
          accept text ⟨.closing, second, length⟩ stack) ∧
      (∀ endColumn fault column, (settle endColumn stack).verdict = .malformed fault →
        fault.column? = some column → ∃ entry ∈ stack, entry.column = column) ∧
      (.opening ∈ terms stack → ∀ column length fault,
        (accept text ⟨.closing, column, length⟩ stack).fault? = some fault →
          ∃ entry ∈ stack, fault.column? = some entry.column) := by
  refine ⟨fun first second => settle_anywhere first second stack, ?_, ?_, ?_⟩
  · intro present first second width length
    obtain ⟨group, opened, lower, rfl, -⟩ := exists_innermost present
    rw [accept_closing, accept_closing]
    exact closeInnermost_anywhere first second opened group lower
  · intro endColumn fault column malformed pointed
    exact settle_points malformed pointed
  · intro present column length fault refused
    exact closing_points present refused

theorem fallback_not_reported_at_conjunction :
    let stack : Stack := [⟨.value true, 6⟩, ⟨.operator .and, 2⟩, ⟨.opening, 1⟩]
    .opening ∈ terms stack ∧
      (∀ endColumn, (settle endColumn stack).verdict = .malformed (.missingOperand 2)) ∧
      ∀ column length, (accept [] ⟨.closing, column, length⟩ stack).fault? =
        some (.missingOperand 2) := by
  intro stack
  have present : .opening ∈ terms stack := by decide
  have settled : (settle 0 stack).verdict = .malformed (.missingOperand 2) := by decide +kernel
  have refused : (accept [] ⟨.closing, 0, 1⟩ stack).fault? = some (.missingOperand 2) := by
    decide +kernel
  obtain ⟨settles, closes, -, -⟩ := fallback_never_reported [] stack
  refine ⟨present, ?_, ?_⟩
  · intro endColumn
    rw [settles endColumn 0]
    exact settled
  · intro column length
    rw [closes present column 0 length 1]
    exact refused

end Stack
end TagQuery

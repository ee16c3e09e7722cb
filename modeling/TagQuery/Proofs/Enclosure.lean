import TagQuery.Proofs.Blame
import TagQuery.Proofs.Coverage

namespace TagQuery
namespace Stack

theorem suffix_tail_of_opening (group lower : Stack) (opened : Nat) :
    lower <:+ (group ++ ⟨.opening, opened⟩ :: lower).tail := by
  cases group with
  | nil => exact List.suffix_rfl
  | cons top group =>
      rw [List.cons_append, List.tail_cons]
      exact (List.suffix_cons _ lower).trans (List.suffix_append group _)

theorem opening_below {group lower below : Stack} {opened : Nat} {top : Entry}
    (whole : group ++ ⟨.opening, opened⟩ :: lower = top :: below) (other : top.term ≠ .opening) :
    ∃ inner, below = inner ++ ⟨.opening, opened⟩ :: lower := by
  cases group with
  | nil =>
      obtain ⟨rfl, -⟩ := List.cons.inj whole
      exact absurd rfl other
  | cons first inner =>
      obtain ⟨-, rest⟩ := List.cons.inj whole
      exact ⟨inner, rest.symm⟩

theorem failed_keeps {fallback opened : Nat} {group lower rest : Stack} {fault : Fault}
    (failed : reduce fallback (group ++ ⟨.opening, opened⟩ :: lower) = .failed fault rest) :
    lower <:+ rest := by
  have tail := suffix_tail_of_opening group lower opened
  have step := reduces fallback (group ++ ⟨.opening, opened⟩ :: lower)
  rw [failed] at step
  generalize whole : group ++ ⟨.opening, opened⟩ :: lower = stack at step tail
  cases step with
  | dangling => exact tail
  | vacant => exact tail
  | adjacent =>
      obtain ⟨inner, same⟩ := opening_below whole (by simp)
      have kept := suffix_tail_of_opening inner lower opened
      rw [← same] at kept
      exact kept
  | leftless =>
      obtain ⟨inner, same⟩ := opening_below whole (by simp)
      obtain ⟨inner, rfl⟩ := opening_below same.symm (by simp)
      exact suffix_tail_of_opening inner lower opened
  | alone =>
      obtain ⟨inner, same⟩ := opening_below whole (by simp)
      simp at same
  | empty => simp at whole

theorem closeInnermost_failed_keeps {column opened : Nat} {group lower : Stack} {fault : Fault}
    (failed : (closeInnermost column (group ++ ⟨.opening, opened⟩ :: lower)).fault? = some fault) :
    lower <:+ (closeInnermost column (group ++ ⟨.opening, opened⟩ :: lower)).stack := by
  generalize whole : group ++ ⟨.opening, opened⟩ :: lower = stack at failed ⊢
  fun_induction closeInnermost column stack generalizing group with
  | case1 stack operator result rest applied ih =>
      subst whole
      obtain ⟨upper, part, place, rfl, chain, rfl⟩ := applied_within applied
      exact ih rfl failed
  | case2 => cases failed
  | case3 stack found rest reduced =>
      subst whole
      exact failed_keeps reduced

theorem closeInnermost_accepted_iff {group : Stack} (plain : .opening ∉ terms group)
    (column opened : Nat) (lower : Stack) :
    (closeInnermost column (group ++ ⟨.opening, opened⟩ :: lower)).fault? = none ↔
      ∃ value, Chain (terms group) value := by
  constructor
  · intro closed
    obtain ⟨inner, place, below, value, whole, chain, -⟩ := chain_of_closeInnermost closed
    obtain ⟨part, rfl, rest⟩ := chain.split whole.symm
    cases part with
    | nil =>
        rw [List.append_nil]
        exact ⟨value, chain⟩
    | cons first part =>
        -- The opening that has been closed would stand above the innermost one.
        obtain ⟨rfl, -⟩ := List.cons.inj rest
        simp at plain
  · rintro ⟨value, chain⟩
    exact (closeInnermost_of_chain chain column opened lower).2

/-- A closing parenthesis touches nothing outside the innermost group. If no group is open, it is
refused and the stack stays. Otherwise it is accepted exactly when the group holds a chain, whose
value then takes the place of the group; and when it is refused, it has taken off entries of the
group only, perhaps its opening, has put none in their place, and blames one of the group. -/
theorem accept_closing_inside_group (text : Text) (column length : Nat) (stack : Stack) :
    let outcome := accept text ⟨.closing, column, length⟩ stack
    (.opening ∉ terms stack →
      outcome.fault? = some (.unopenedGroup column) ∧ outcome.stack = stack) ∧
    (.opening ∈ terms stack → ∃ group opened lower,
      stack = group ++ ⟨.opening, opened⟩ :: lower ∧ .opening ∉ terms group ∧
      (outcome.fault? = none ↔ ∃ value, Chain (terms group) value) ∧
      (∀ value, Chain (terms group) value → outcome.stack = ⟨.value value, opened⟩ :: lower) ∧
      ∀ fault, outcome.fault? = some fault →
        outcome.stack <:+ stack ∧ outcome.stack ≠ stack ∧ lower <:+ outcome.stack ∧
        ∃ entry ∈ group ++ [⟨.opening, opened⟩],
          fault = .danglingOperator entry.column ∨ fault = .missingOperand entry.column) := by
  intro outcome
  constructor
  · intro absent
    have closed : stack.hasOpening = false := not_hasOpening_iff.mpr absent
    simp only [outcome, accept, closed]
    exact ⟨rfl, rfl⟩
  · intro present
    obtain ⟨group, opened, lower, rfl, plain⟩ := exists_innermost present
    have same : outcome = closeInnermost column (group ++ ⟨.opening, opened⟩ :: lower) :=
      accept_closing text group lower column length opened
    rw [same]
    refine ⟨group, opened, lower, rfl, plain, closeInnermost_accepted_iff plain .., ?_, ?_⟩
    · intro value chain
      exact (closeInnermost_of_chain chain column opened lower).1
    · intro fault failed
      have left := closeInnermost_failed_leaves failed
      refine ⟨left.trans (List.tail_suffix _), ?_, closeInnermost_failed_keeps failed, ?_⟩
      · intro unchanged
        have shorter := left.length_le
        simp only [unchanged, List.length_tail, List.length_append, List.length_cons] at shorter
        omega
      · rcases (blames_of_closeInnermost failed).entry with
          ⟨operator, place, below, whole, rfl⟩ | ⟨entry, member, -, rfl⟩
        · refine ⟨⟨.operator operator, place⟩, ?_, .inl rfl⟩
          rw [whole]
          exact List.mem_cons_self ..
        · exact ⟨entry, member, .inr rfl⟩

/-- Two values side by side in a group: what has been applied at their right is gone, and the
opening and what lies below it are left. -/
theorem accept_closing_at_adjacent_values :
    let lower : Stack := [⟨.operator .and, 2⟩, ⟨.value true, 1⟩]
    let stack : Stack :=
      [⟨.value true, 6⟩, ⟨.operator .not, 5⟩, ⟨.value false, 4⟩, ⟨.opening, 3⟩] ++ lower
    let outcome := accept [] ⟨.closing, 9, 1⟩ stack
    .opening ∈ terms stack ∧ outcome.fault? = some (.missingOperand 4) ∧
      outcome.stack = ⟨.opening, 3⟩ :: lower ∧
      ∃ group opened below, stack = group ++ ⟨.opening, opened⟩ :: below ∧
        .opening ∉ terms group ∧ ¬ ∃ value, Chain (terms group) value := by
  intro lower stack outcome
  have present : .opening ∈ terms stack := by decide
  have failed : outcome.fault? = some (.missingOperand 4) := by decide +kernel
  have left : outcome.stack = ⟨.opening, 3⟩ :: lower := by decide +kernel
  obtain ⟨-, opens⟩ := accept_closing_inside_group [] 9 1 stack
  obtain ⟨group, opened, below, whole, plain, closes, -⟩ := opens present
  refine ⟨present, failed, left, group, opened, below, whole, plain, ?_⟩
  intro chain
  have accepted : outcome.fault? = none := closes.mpr chain
  rw [failed] at accepted
  cases accepted

section Above

variable {text : Text} {upper lower : Stack}

/-- A symbol that is accepted on a stack is accepted with anything below it, which stays there. -/
theorem accept_above {symbol : Symbol} (accepted : (accept text symbol upper).fault? = none)
    (lower : Stack) :
    (accept text symbol (upper ++ lower)).fault? = none ∧
      (accept text symbol (upper ++ lower)).stack = (accept text symbol upper).stack ++ lower := by
  obtain ⟨kind, column, length⟩ := symbol
  cases kind with
  | literal literal => exact ⟨rfl, rfl⟩
  | opening => exact ⟨rfl, rfl⟩
  | operator operator => exact ⟨rfl, rfl⟩
  | closing =>
      cases present : upper.hasOpening with
      | false => simp [accept, present] at accepted
      | true =>
          obtain ⟨group, opened, below, rfl, plain⟩ := exists_innermost (hasOpening_iff.mp present)
          rw [accept_closing, closeInnermost_accepted_iff plain] at accepted
          obtain ⟨value, chain⟩ := accepted
          have alone := closeInnermost_of_chain chain column opened below
          have above := closeInnermost_of_chain chain column opened (below ++ lower)
          rw [List.append_assoc, List.cons_append, accept_closing, accept_closing, above.1, alone.1]
          exact ⟨above.2, rfl⟩

theorem accepted_alone (plain : .opening ∉ terms lower) {symbol : Symbol}
    (accepted : (accept text symbol (upper ++ lower)).fault? = none) :
    (accept text symbol upper).fault? = none := by
  obtain ⟨kind, column, length⟩ := symbol
  cases kind with
  | literal literal => rfl
  | opening => rfl
  | operator operator => rfl
  | closing =>
      cases open_here : upper.hasOpening with
      | false =>
          have absent := not_hasOpening_iff.mp open_here
          have closed : (upper ++ lower).hasOpening = false :=
            not_hasOpening_iff.mpr (by simp [plain, absent])
          simp [accept, closed] at accepted
      | true =>
          obtain ⟨group, opened, below, rfl, bare⟩ :=
            exists_innermost (hasOpening_iff.mp open_here)
          rw [List.append_assoc, List.cons_append, accept_closing,
            closeInnermost_accepted_iff bare] at accepted
          rw [accept_closing, closeInnermost_accepted_iff bare]
          exact accepted

theorem read_above {symbols : List Symbol} (accepted : (read text upper symbols).fault? = none)
    (lower : Stack) :
    (read text (upper ++ lower) symbols).fault? = none ∧
      (read text (upper ++ lower) symbols).stack = (read text upper symbols).stack ++ lower := by
  induction symbols generalizing upper with
  | nil => exact ⟨rfl, rfl⟩
  | cons symbol symbols ih =>
      obtain ⟨first, rest⟩ := accepted_of_read accepted
      obtain ⟨clean, left⟩ := accept_above first lower
      rw [read_cons first, read_cons clean, left]
      exact ih rest

theorem read_alone (plain : .opening ∉ terms lower) {symbols : List Symbol}
    (accepted : (read text (upper ++ lower) symbols).fault? = none) :
    (read text upper symbols).fault? = none := by
  induction symbols generalizing upper with
  | nil => rfl
  | cons symbol symbols ih =>
      obtain ⟨first, rest⟩ := accepted_of_read accepted
      have alone := accepted_alone plain first
      rw [(accept_above alone lower).2] at rest
      rw [read_cons alone]
      exact ih rest

end Above

end Stack
end TagQuery

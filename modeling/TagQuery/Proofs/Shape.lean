import TagQuery.Proofs.Chain

/-!
The shape of an evaluation is what remains of it without its truth values. Every step of an
evaluation has a shape that depends on the shape of the stack alone, so two texts that are searched
for the same query see evaluations of one shape, faults and columns included.
-/
namespace TagQuery

namespace Term

def shape : Term → Term
  | .value _ => .value false
  | term => term

theorem shape_eq_opening {term : Term} : term.shape = .opening ↔ term = .opening := by
  cases term <;> simp [shape]

end Term

namespace Entry

def shape (entry : Entry) : Entry := ⟨entry.term.shape, entry.column⟩

end Entry

namespace Event

def shape : Event → Event
  | .literal text _ => .literal text false
  | .pushed term column depth => .pushed term.shape column depth
  | .reduced operator _ => .reduced operator false
  | .closed _ column => .closed false column
  | .malformed query fault => .malformed query fault

end Event

namespace Verdict

def shape : Verdict → Verdict
  | .value _ => .value false
  | .malformed fault => .malformed fault

theorem shape_congr {first second : Verdict} (same : first.shape = second.shape) :
    (∃ left right, first = .value left ∧ second = .value right) ∨
      ∃ fault, first = .malformed fault ∧ second = .malformed fault := by
  cases first <;> cases second <;> simp_all [shape]

end Verdict

theorem Entry.verdict_congr {first second : Term} (like : first.shape = second.shape)
    (column : Nat) :
    (Entry.verdict ⟨first, column⟩).shape = (Entry.verdict ⟨second, column⟩).shape := by
  cases first <;> cases second <;> simp_all [Term.shape, Entry.verdict, Verdict.shape]

namespace Evaluation

def shape (evaluation : Evaluation) : Evaluation :=
  ⟨evaluation.events.map Event.shape, evaluation.verdict.shape⟩

theorem shape_after (events : List Event) (evaluation : Evaluation) :
    (evaluation.after events).shape = evaluation.shape.after (events.map Event.shape) := by
  simp [after, shape]

end Evaluation

namespace Stack

def shape (stack : Stack) : Stack := stack.map Entry.shape

namespace Outcome

def shape (outcome : Outcome) : Outcome :=
  ⟨outcome.events.map Event.shape, Stack.shape outcome.stack, outcome.fault?⟩

theorem shape_after (events : List Event) (outcome : Outcome) :
    (outcome.after events).shape = outcome.shape.after (events.map Event.shape) := by
  simp [after, shape]

end Outcome

namespace Reduction

def shape : Reduction → Reduction
  | .applied operator _ stack => .applied operator false (Stack.shape stack)
  | .closed _ column stack => .closed false column (Stack.shape stack)
  | .failed fault stack => .failed fault (Stack.shape stack)

end Reduction

@[simp] theorem shape_cons (term : Term) (column : Nat) (below : Stack) :
    shape (⟨term, column⟩ :: below) = ⟨term.shape, column⟩ :: shape below := rfl

@[simp] theorem shape_shape (stack : Stack) : shape (shape stack) = shape stack := by
  induction stack with
  | nil => rfl
  | cons entry below ih =>
      obtain ⟨term, column⟩ := entry
      rw [shape_cons, shape_cons, ih]
      cases term <;> rfl

theorem shape_eq_cons {term : Term} {column : Nat} {below stack : Stack}
    (same : shape (⟨term, column⟩ :: below) = shape stack) :
    ∃ other lower, stack = ⟨other, column⟩ :: lower ∧ term.shape = other.shape ∧
      shape below = shape lower := by
  cases stack with
  | nil => cases same
  | cons top lower =>
      obtain ⟨other, place⟩ := top
      simp only [shape_cons, List.cons.injEq, Entry.mk.injEq] at same
      obtain ⟨⟨like, rfl⟩, rest⟩ := same
      exact ⟨other, lower, rfl, like, rest⟩

@[simp] theorem length_shape (stack : Stack) : (shape stack).length = stack.length := by
  simp [shape]

theorem joinLeft_shape (operator : Operator) (join : Bool → Bool → Bool) (column : Nat)
    (right other : Bool) (stack : Stack) :
    (joinLeft operator join column right stack).shape =
      (joinLeft operator join column other (shape stack)).shape := by
  cases stack with
  | nil => rfl
  | cons top below =>
      obtain ⟨term, place⟩ := top
      cases term <;> simp [joinLeft, Reduction.shape, Term.shape]

theorem reduceValue_shape (fallback : Nat) (right other : Bool) (stack : Stack) :
    (reduceValue fallback right stack).shape =
      (reduceValue fallback other (shape stack)).shape := by
  cases stack with
  | nil => rfl
  | cons top below =>
      obtain ⟨term, place⟩ := top
      cases term with
      | value _ => simp [reduceValue, Reduction.shape, Term.shape]
      | opening => simp [reduceValue, Reduction.shape, Term.shape]
      | operator operator =>
          cases operator with
          | not => simp [reduceValue, Reduction.shape, Term.shape]
          | and => exact joinLeft_shape ..
          | or => exact joinLeft_shape ..

theorem reduce_shape (fallback : Nat) (stack : Stack) :
    (reduce fallback stack).shape = (reduce fallback (shape stack)).shape := by
  cases stack with
  | nil => rfl
  | cons top below =>
      obtain ⟨term, place⟩ := top
      cases term with
      | value right => exact reduceValue_shape ..
      | opening => simp [reduce, Reduction.shape, Term.shape]
      | operator operator => simp [reduce, Reduction.shape, Term.shape]

section Parallel

variable {first second : Stack} (same : shape first = shape second)
include same

theorem reduce_congr (fallback : Nat) :
    (reduce fallback first).shape = (reduce fallback second).shape := by
  rw [reduce_shape, same, ← reduce_shape]

theorem reduce_applied_congr {fallback : Nat} {operator : Operator} {result : Bool} {rest : Stack}
    (applied : reduce fallback first = .applied operator result rest) :
    ∃ other lower, reduce fallback second = .applied operator other lower ∧
      shape rest = shape lower := by
  have shapes := reduce_congr same fallback
  rw [applied] at shapes
  cases parallel : reduce fallback second with
  | applied found other lower =>
      rw [parallel] at shapes
      obtain ⟨rfl, -, entries⟩ := Reduction.applied.inj shapes
      exact ⟨other, lower, rfl, entries⟩
  | closed => simp [parallel, Reduction.shape] at shapes
  | failed => simp [parallel, Reduction.shape] at shapes

theorem reduce_closed_congr {fallback opened : Nat} {value : Bool} {rest : Stack}
    (closed : reduce fallback first = .closed value opened rest) :
    ∃ other lower, reduce fallback second = .closed other opened lower ∧
      shape rest = shape lower := by
  have shapes := reduce_congr same fallback
  rw [closed] at shapes
  cases parallel : reduce fallback second with
  | closed other column lower =>
      rw [parallel] at shapes
      obtain ⟨-, rfl, entries⟩ := Reduction.closed.inj shapes
      exact ⟨other, lower, rfl, entries⟩
  | applied => simp [parallel, Reduction.shape] at shapes
  | failed => simp [parallel, Reduction.shape] at shapes

theorem reduce_failed_congr {fallback : Nat} {fault : Fault} {rest : Stack}
    (failed : reduce fallback first = .failed fault rest) :
    ∃ lower, reduce fallback second = .failed fault lower ∧ shape rest = shape lower := by
  have shapes := reduce_congr same fallback
  rw [failed] at shapes
  cases parallel : reduce fallback second with
  | failed found lower =>
      rw [parallel] at shapes
      obtain ⟨rfl, entries⟩ := Reduction.failed.inj shapes
      exact ⟨lower, rfl, entries⟩
  | applied => simp [parallel, Reduction.shape] at shapes
  | closed => simp [parallel, Reduction.shape] at shapes

theorem closeInnermost_congr (column : Nat) :
    (closeInnermost column first).shape = (closeInnermost column second).shape := by
  fun_induction closeInnermost column first generalizing second with
  | case1 first operator result rest applied ih =>
      obtain ⟨other, lower, parallel, shapes⟩ := reduce_applied_congr same applied
      rw [closeInnermost_of_applied parallel, Outcome.shape_after, Outcome.shape_after, ih shapes]
      rfl
  | case2 first value opened rest closed =>
      obtain ⟨other, lower, parallel, shapes⟩ := reduce_closed_congr same closed
      rw [closeInnermost_of_closed parallel]
      simp [Outcome.shape, Event.shape, shapes]
  | case3 first fault rest failed =>
      obtain ⟨lower, parallel, shapes⟩ := reduce_failed_congr same failed
      rw [closeInnermost_of_failed parallel]
      simp [Outcome.shape, shapes]

end Parallel

theorem settle_congr {first second : Stack} (same : shape first = shape second) (endColumn : Nat) :
    (settle endColumn first).shape = (settle endColumn second).shape := by
  fun_induction settle endColumn first generalizing second with
  | case1 =>
      obtain rfl : second = [] := by simpa [shape] using same.symm
      rw [settle]
  | case2 entry =>
      obtain ⟨other, lower, rfl, like, rest⟩ := shape_eq_cons same
      obtain rfl : lower = [] := by simpa [shape] using rest.symm
      rw [settle]
      simpa [Evaluation.shape] using Entry.verdict_congr like entry.column
  | case3 top next below opening =>
      obtain ⟨other, _, rfl, like, rest⟩ := shape_eq_cons same
      obtain ⟨_, lower, rfl, -, -⟩ := shape_eq_cons rest
      rw [opening] at like
      rw [settle, if_pos (Term.shape_eq_opening.mp like.symm)]
  | case4 top next below closed operator result rest applied ih =>
      obtain ⟨other, lower, parallel, shapes⟩ := reduce_applied_congr same applied
      rw [settle_of_applied parallel, Evaluation.shape_after, Evaluation.shape_after, ih shapes]
      rfl
  | case5 top next below closed value opened rest reduced =>
      obtain ⟨other, lower, parallel, -⟩ := reduce_closed_congr same reduced
      rw [settle_of_closed parallel]
      simp [Evaluation.shape, Event.shape]
  | case6 top next below closed fault rest failed =>
      obtain ⟨_, parallel, -⟩ := reduce_failed_congr same failed
      obtain ⟨other, _, rfl, like, lower⟩ := shape_eq_cons same
      obtain ⟨_, _, rfl, -, -⟩ := shape_eq_cons lower
      have filled : other ≠ .opening := by
        rintro rfl
        exact closed (Term.shape_eq_opening.mp like)
      rw [settle_of_failed filled parallel]

theorem push_congr {first second : Stack} (same : shape first = shape second) {left right : Term}
    (like : left.shape = right.shape) (column : Nat) :
    (push left column first).shape = (push right column second).shape := by
  have depth : first.length = second.length := by
    rw [← length_shape first, same, length_shape]
  simp [push, Outcome.shape, Event.shape, like, same, depth]

theorem hasOpening_shape (stack : Stack) : hasOpening (shape stack) = hasOpening stack := by
  induction stack with
  | nil => rfl
  | cons top below ih =>
      obtain ⟨term, column⟩ := top
      simp only [hasOpening, shape_cons, List.any_cons, Term.shape_eq_opening] at ih ⊢
      rw [ih]

theorem accept_congr {first second : Stack} (same : shape first = shape second)
    (text other : Text) (symbol : Symbol) :
    (accept text symbol first).shape = (accept other symbol second).shape := by
  unfold accept
  split
  · rw [Outcome.shape_after, Outcome.shape_after]
    exact congrArg _ (push_congr same rfl symbol.column)
  · exact push_congr same rfl symbol.column
  · exact push_congr same rfl symbol.column
  · rw [← hasOpening_shape first, same, hasOpening_shape]
    split
    · exact closeInnermost_congr same symbol.column
    · simp [Outcome.shape, same]

theorem read_congr {first second : Stack} (same : shape first = shape second) (text other : Text)
    (symbols : List Symbol) :
    (read text first symbols).shape = (read other second symbols).shape := by
  induction symbols generalizing first second with
  | nil => simp [read, Outcome.shape, same]
  | cons symbol symbols ih =>
      have accepted := accept_congr same text other symbol
      obtain ⟨events, entries, faults⟩ := Outcome.mk.injEq .. ▸ accepted
      simp only [read, faults]
      split
      · exact accepted
      · rw [Outcome.shape_after, Outcome.shape_after, ih entries, events]

theorem evaluate_congr (text other : Text) (endColumn : Nat) (symbols : List Symbol)
    (stack : Stack) :
    (evaluate text endColumn symbols stack).shape =
      (evaluate other endColumn symbols stack).shape := by
  have read := read_congr (Eq.refl (shape stack)) text other symbols
  obtain ⟨events, entries, faults⟩ := Outcome.mk.injEq .. ▸ read
  simp only [evaluate, faults]
  split
  · simp [Evaluation.shape, events]
  · rw [Evaluation.shape_after, Evaluation.shape_after, settle_congr entries, events]

end Stack

namespace Query

theorem evaluate_congr (query text other : Text) :
    (evaluate query text).shape = (evaluate query other).shape := by
  unfold evaluate
  split
  · rfl
  · exact Stack.evaluate_congr ..

theorem verdict_congr (query text other : Text) :
    (verdict query text).shape = (verdict query other).shape :=
  congrArg Evaluation.verdict (evaluate_congr query text other)

theorem malformed_everywhere {query text : Text} {fault : Fault}
    (malformed : verdict query text = .malformed fault) (other : Text) :
    verdict query other = .malformed fault := by
  rcases Verdict.shape_congr (verdict_congr query text other) with
    ⟨value, _, found, -⟩ | ⟨shared, found, same⟩
  · rw [malformed] at found
    cases found
  · rw [malformed] at found
    cases found
    exact same

theorem value_everywhere {query text : Text} {value : Bool}
    (formed : verdict query text = .value value) (other : Text) :
    ∃ value, verdict query other = .value value := by
  rcases Verdict.shape_congr (verdict_congr query text other) with
    ⟨_, whole, -, found⟩ | ⟨fault, found, -⟩
  · exact ⟨whole, found⟩
  · rw [formed] at found
    cases found

theorem events_congr (query text other : Text) :
    (events query text).map Event.shape = (events query other).map Event.shape := by
  obtain ⟨recorded, verdicts⟩ := Evaluation.mk.injEq .. ▸ evaluate_congr query text other
  unfold events
  cases left : (evaluate query text).verdict <;> cases right : (evaluate query other).verdict <;>
    simp_all [Verdict.shape]

end Query
end TagQuery

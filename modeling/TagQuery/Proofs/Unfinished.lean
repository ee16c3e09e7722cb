import TagQuery.Proofs.Fallback
import TagQuery.Proofs.Words

namespace TagQuery

namespace Text

/-- The `{` at the position starts a literal that is never ended: it stands outside captures, and no
`}` follows. -/
structure LeftOpen (text : Text) (position : Nat) : Prop where
  opens : StandsAt text '{' position
  outside : ¬ InCapture text position
  unclosed : ∀ later, position < later → ¬ StandsAt text '}' later

theorem OpenFrom.leftOpen {text : Text} {start : Nat} (opened : OpenFrom text start) :
    LeftOpen text start := by
  obtain ⟨closing, last, after, opens, clear⟩ := opened
  refine ⟨opens, ?_, fun later behind => last.2 later (by omega)⟩
  rintro ⟨first, before, opens', kept⟩
  by_cases behind : closing < first
  · exact clear first behind before opens'
  · -- The last `}` stands between the two braces, where the capture would have ended.
    have positive : 0 < first := opens'.1
    rcases last.1 with rfl | closes
    · omega
    · exact kept closing (by omega) after closes

end Text

namespace Query

open Scanner Text

variable {query front inner : Text} {column : Nat}

theorem split_of_leftOpen (opened : LeftOpen query column) :
    ∃ front inner, query = front ++ '{' :: inner ∧ column = front.length + 1 ∧ '}' ∉ inner ∧
      pending? front = none := by
  obtain ⟨opens, outside, unclosed⟩ := opened
  obtain ⟨front, inner, rfl, rfl⟩ := standsAt_iff_split.mp opens
  refine ⟨front, inner, rfl, rfl, ?_, ?_⟩
  · intro member
    obtain ⟨between, rest, rfl⟩ := List.append_of_mem member
    apply unclosed (front.length + 1 + between.length + 1) (by omega)
    apply standsAt_iff_split.mpr
    refine ⟨front ++ '{' :: between, rest, by simp, ?_⟩
    rw [List.length_append, List.length_cons]
    omega
  · have released : captureAfter none 1 front = none := by
      by_contra capturing
      exact outside (inCapture_iff.mpr capturing)
    rw [pending?, released]
    rfl

theorem pending?_of_split (released : pending? front = none) (unclosed : '}' ∉ inner) :
    pending? (front ++ '{' :: inner) = some (front.length + 1) := by
  have opens : (read none (1 + front.length) '{' inner).2 =
      some (Capture.start (1 + front.length)) := rfl
  rw [pending?, captureAfter_append, captureAfter_of_released released, captureAfter, opens,
    captureAfter_unclosed unclosed, Nat.add_comm]
  rfl

theorem pending?_eq_some_iff_leftOpen : pending? query = some column ↔ LeftOpen query column := by
  constructor
  · intro pending
    exact (pending?_eq_some_iff.mp pending).leftOpen
  · intro opened
    obtain ⟨front, inner, rfl, rfl, unclosed, released⟩ := split_of_leftOpen opened
    exact pending?_of_split released unclosed

theorem symbols_of_unfinished (released : pending? front = none) (unclosed : '}' ∉ inner) :
    symbols (front ++ '{' :: inner) = symbols front := by
  have opens (column : Nat) : symbolsFrom none column ('{' :: inner) =
      symbolsFrom (some (Capture.start column)) (column + 1) inner := rfl
  rw [symbols, symbolsFrom_behind released (breaks_of_sign (by simp)), opens,
    symbolsFrom_unclosed unclosed, List.append_nil]
  rfl

/-- A query that leaves a literal open has the symbols of what stands before that literal, which
leaves none open, and is evaluated about every text as this is, event by event. There is one
exception: behind the query that selects everything a literal left open makes it an ordinary query,
which looks for that text without its last brace. -/
theorem evaluate_of_unfinished (pending : pending? query = some column) :
    let finished := query.take (column - 1)
    symbols query = symbols finished ∧ pending? finished = none ∧
      (finished ≠ everything → ∀ text, evaluate query text = evaluate finished text) ∧
      (finished = everything → ∀ text,
        verdict query text = .value (Text.occurs everything.dropLast text)) := by
  intro finished
  have scanned : query ≠ everything := by
    rintro rfl
    cases pending
  obtain ⟨front, inner, rfl, rfl, unclosed, released⟩ :=
    split_of_leftOpen (pending?_eq_some_iff_leftOpen.mp pending)
  have cut : finished = front := List.take_left' rfl
  have same := symbols_of_unfinished released unclosed
  rw [cut]
  refine ⟨same, released, ?_, ?_⟩
  · intro ordinary text
    calc
      evaluate (front ++ '{' :: inner) text =
          Stack.evaluate text (endColumn (front ++ '{' :: inner)) (symbols front) [] := by
        rw [evaluate_of_scanned scanned, same]
      _ = Stack.evaluate text (endColumn front) (symbols front) [] :=
        Stack.evaluate_anywhere text _ _ _ _
      _ = evaluate front text := (evaluate_of_scanned ordinary text).symm
  · rintro rfl text
    have literal : kinds (everything ++ '{' :: inner) = [.literal everything.dropLast] := by
      rw [kinds, same]
      decide
    rw [verdict_value_iff scanned, literal]
    exact .single (.literal Text.occurs_iff)

theorem evaluate_of_unfinished_at_seams :
    let query := "{a} | no\x7bt) and !\x7bé(".toList
    let beyond := everything ++ "\x7b or".toList
    pending? query = some 9 ∧ query.take (9 - 1) = "{a} | no".toList ∧
      (∀ text, evaluate query text = evaluate "{a} | no".toList text) ∧
      verdict query [] = .malformed (.danglingOperator 5) ∧
      pending? beyond = some 14 ∧ verdict beyond [] = .value false ∧
      verdict everything [] = .value true := by
  intro query beyond
  have pending : pending? query = some 9 := by decide
  have pending' : pending? beyond = some 14 := by decide
  obtain ⟨-, -, alike, -⟩ := evaluate_of_unfinished pending
  obtain ⟨-, -, -, exception⟩ := evaluate_of_unfinished pending'
  have ordinary : query.take (9 - 1) ≠ everything := by decide
  have fault : verdict "{a} | no".toList [] = .malformed (.danglingOperator 5) := by
    decide +kernel
  refine ⟨pending, by decide, alike ordinary, ?_, pending', ?_, by decide +kernel⟩
  · rw [verdict, alike ordinary []]
    exact fault
  · rw [exception (by decide) []]
    decide

end Query
end TagQuery

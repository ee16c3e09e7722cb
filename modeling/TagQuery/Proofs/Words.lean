import TagQuery.Proofs.Joining
import TagQuery.Proofs.Placement
import TagQuery.Proofs.Printing

namespace TagQuery

namespace Query

open Scanner

theorem symbols_behind (offset : Nat) (query : Text) :
    symbolsFrom none (1 + offset) query = (symbols query).map (Symbol.shift offset) :=
  symbolsFrom_shift offset none 1 query

theorem pending_behind (offset : Nat) (query : Text) :
    (captureAfter none (1 + offset) query).map Capture.column =
      (pending? query).map (· + offset) := by
  have moved := captureAfter_shift offset none 1 query
  rw [Option.map_none] at moved
  rw [moved, pending?, Option.map_map, Option.map_map]
  rfl

theorem captured_of_pending {query : Text} {column : Nat} (pending : pending? query = some column) :
    captureAfter none 1 query = some ⟨column, (query.drop (column - 1)).reverse⟩ := by
  have tracks := tracks_captureAfter query
  rw [pending?] at pending
  generalize captureAfter none 1 query = capture at tracks pending
  cases tracks with
  | outside => cases pending
  | @inside capture opened content =>
      cases pending
      rw [← content, List.reverse_reverse]

section Words

variable {before : Text}

theorem symbols_of_separate_words (released : pending? before = none) (after : Text) :
    symbols (before ++ ' ' :: after) =
        symbols before ++ (symbols after).map (Symbol.shift (before.length + 1)) ∧
      pending? (before ++ ' ' :: after) = (pending? after).map (· + (before.length + 1)) := by
  have columns : 1 + before.length + 1 = 1 + (before.length + 1) := by omega
  have space : (read none (1 + before.length) ' ' after).2 = none := rfl
  constructor
  · rw [symbols, symbolsFrom_behind released (breaks_of_sign (by simp)), symbolsFrom_space, columns,
      symbols_behind]
    rfl
  · rw [pending?, captureAfter_append, captureAfter_of_released released, captureAfter, space,
      columns, pending_behind]

variable {column : Nat}

theorem symbols_of_unclosed_words (pending : pending? before = some column) {after : Text}
    (unclosed : '}' ∉ after) :
    symbols (before ++ ' ' :: after) = symbols before ∧
      pending? (before ++ ' ' :: after) = some column := by
  have captured := captured_of_pending pending
  have whole : '}' ∉ ' ' :: after := by simp [unclosed]
  constructor
  · rw [symbols, symbolsFrom_cut (breaks_of_sign (by simp)), captured, symbolsFrom_unclosed whole,
      List.append_nil]
    rfl
  · rw [pending?, captureAfter_append, captured, captureAfter_unclosed whole]
    rfl

theorem symbols_of_closed_words (pending : pending? before = some column) {inner : Text}
    (first : '}' ∉ inner) (rest : Text) :
    let literal := (before ++ ' ' :: (inner ++ ['}'])).drop (column - 1)
    let offset := before.length + 1 + (inner.length + 1)
    symbols (before ++ ' ' :: (inner ++ '}' :: rest)) =
        symbols before ++ ⟨.literal literal, column, literal.length⟩ ::
          (symbols rest).map (Symbol.shift offset) ∧
      pending? (before ++ ' ' :: (inner ++ '}' :: rest)) = (pending? rest).map (· + offset) := by
  intro literal offset
  have captured := captured_of_pending pending
  have whole : '}' ∉ ' ' :: inner := by simp [first]
  have bound : column ≤ before.length := (pending?_eq_some_iff.mp pending).le
  have columns : 1 + before.length + (' ' :: inner).length + 1 = 1 + offset := by
    simp only [offset, List.length_cons]
    omega
  have split : literal = before.drop (column - 1) ++ ' ' :: (inner ++ ['}']) :=
    List.drop_append_of_le_length (by omega)
  constructor
  · have width : 1 + offset - column = literal.length := by
      obtain ⟨-, -, -, opens, -⟩ := pending?_eq_some_iff.mp pending
      have positive := opens.1
      rw [split]
      simp only [offset, List.length_append, List.length_drop, List.length_cons, List.length_nil]
      omega
    rw [symbols, symbolsFrom_cut (breaks_of_sign (by simp)), captured, ← List.cons_append,
      symbolsFrom_captured whole, columns, symbols_behind, width, split]
    simp [symbols]
  · have closing : ' ' :: (inner ++ '}' :: rest) = (' ' :: inner ++ ['}']) ++ rest := by simp
    have end_column : 1 + before.length + (' ' :: inner ++ ['}']).length = 1 + offset := by
      rw [← columns]
      simp
      omega
    rw [pending?, captureAfter_append, captured, closing, captureAfter_append,
      captureAfter_captured whole, end_column, pending_behind]

end Words

/-- Two words with a space between them. Where the first leaves no literal open, its symbols are
followed by those of the second, each as far to the right as the second has been moved. Where it
leaves one open and the second has no `}`, the literal stays open and no symbol is added. Where the
second has a `}`, the first one ends the literal, and the symbols of what stands behind it follow.
-/
theorem symbols_of_words (before after : Text) :
    (pending? before = none →
      symbols (before ++ ' ' :: after) =
          symbols before ++ (symbols after).map (Symbol.shift (before.length + 1)) ∧
        pending? (before ++ ' ' :: after) = (pending? after).map (· + (before.length + 1))) ∧
    ∀ column, pending? before = some column →
      ('}' ∉ after →
        symbols (before ++ ' ' :: after) = symbols before ∧
          pending? (before ++ ' ' :: after) = some column) ∧
      ∀ inner rest, after = inner ++ '}' :: rest → '}' ∉ inner →
        let literal := (before ++ ' ' :: (inner ++ ['}'])).drop (column - 1)
        let offset := before.length + 1 + (inner.length + 1)
        symbols (before ++ ' ' :: after) =
            symbols before ++ ⟨.literal literal, column, literal.length⟩ ::
              (symbols rest).map (Symbol.shift offset) ∧
          pending? (before ++ ' ' :: after) = (pending? rest).map (· + offset) := by
  constructor
  · intro released
    exact symbols_of_separate_words released after
  · intro column pending
    constructor
    · intro unclosed
      exact symbols_of_unclosed_words pending unclosed
    · intro inner rest same first
      subst same
      exact symbols_of_closed_words pending first rest

theorem symbols_of_words_at_seams :
    let free := "{a} n".toList
    let opened := "not \x7bé".toList
    pending? free = none ∧ pending? opened = some 5 ∧ '}' ∉ "or b".toList ∧ '}' ∉ "or".toList ∧
      symbols (free ++ ' ' :: "ot {b}".toList) =
        [⟨.literal "{a}".toList, 1, 3⟩, ⟨.literal "{b}".toList, 10, 3⟩] ∧
      symbols (opened ++ ' ' :: "or b".toList) = [⟨.operator .not, 1, 3⟩] ∧
      symbols (opened ++ ' ' :: "or\x7d and {b}".toList) =
        [⟨.operator .not, 1, 3⟩, ⟨.literal "{é or}".toList, 5, 6⟩, ⟨.operator .and, 12, 3⟩,
          ⟨.literal "{b}".toList, 16, 3⟩] := by
  intro free opened
  have released : pending? free = none := by decide
  have pending : pending? opened = some 5 := by decide
  have unclosed : '}' ∉ "or b".toList := by decide
  have first : '}' ∉ "or".toList := by decide
  obtain ⟨separate, -⟩ := symbols_of_words free "ot {b}".toList
  obtain ⟨-, dangling⟩ := symbols_of_words opened "or b".toList
  obtain ⟨-, closed⟩ := symbols_of_words opened "or\x7d and {b}".toList
  refine ⟨released, pending, unclosed, first, ?_, ?_, ?_⟩
  · rw [(separate released).1]
    decide
  · rw [((dangling 5 pending).1 unclosed).1]
    decide
  · rw [((closed 5 pending).2 "or".toList " and {b}".toList rfl first).1]
    decide

end Query
end TagQuery

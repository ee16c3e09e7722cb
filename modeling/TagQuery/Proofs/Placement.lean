import Mathlib.Data.List.Nodup
import TagQuery.Proofs.Capture

namespace TagQuery

open Text

inductive Symbol.PlacedIn (query : Text) : Symbol → Prop where
  /-- A `}` inside a capture ends a literal. It runs from the first `{` after the previous `}`. -/
  | literal {start finish : Nat} (closes : StandsAt query '}' finish)
      (inside : InCapture query finish) (opened : OpenFrom (query.take (finish - 1)) start) :
      PlacedIn query
        ⟨.literal ((query.drop (start - 1)).take (finish - start + 1)), start, finish - start + 1⟩
  /-- Outside captures a symbol stands wherever one of its spellings does. -/
  | bare {position : Nat} {kind : Kind} {spelling rest : Text} (positive : 0 < position)
      (outside : ¬ InCapture query position)
      (written : query.drop (position - 1) = spelling ++ rest) (bare : Kind.Bare kind spelling) :
      PlacedIn query ⟨kind, position, spelling.length⟩

theorem Capture.complete_eq {before : Text} {capture : Capture}
    (opened : OpenFrom before capture.column)
    (content : capture.reversed.reverse = before.drop (capture.column - 1)) (rest : Text) :
    capture.complete (before.length + 1) =
      ⟨.literal (((before ++ '}' :: rest).drop (capture.column - 1)).take
          (before.length + 1 - capture.column + 1)),
        capture.column, before.length + 1 - capture.column + 1⟩ := by
  have bound := opened.le
  obtain ⟨closing, -, after, -⟩ := opened
  have width : (before.drop (capture.column - 1)).length = before.length + 1 - capture.column := by
    rw [List.length_drop]
    omega
  rw [List.drop_append_of_le_length (by omega), ← width, List.take_length_add_append]
  simp only [complete, extend, List.reverse_cons, content, width, List.take_succ_cons,
    List.take_zero]
  rw [show before.length + 1 + 1 - capture.column = before.length + 1 - capture.column + 1 by omega]

theorem Symbol.eq_of_column {symbols : List Symbol}
    (increasing : symbols.Pairwise (·.column < ·.column)) {first second : Symbol}
    (left : first ∈ symbols) (right : second ∈ symbols) (same : first.column = second.column) :
    first = second := by
  have distinct : (symbols.map Symbol.column).Nodup := by
    apply List.pairwise_map.mpr
    exact increasing.imp Nat.ne_of_lt
  exact List.inj_on_of_nodup_map distinct left right same

namespace Query

open Scanner (mem_symbolsFrom_iff tracks_captureAfter inCapture_iff captureAfter)

theorem placedIn_of_mem {query : Text} {symbol : Symbol} (member : symbol ∈ symbols query) :
    symbol.PlacedIn query := by
  obtain ⟨before, head, tail, rfl, found⟩ := mem_symbolsFrom_iff.mp member
  have tracks := tracks_captureAfter before
  have capturing : InCapture (before ++ head :: tail) (before.length + 1) ↔
      captureAfter none 1 before ≠ none := inCapture_iff
  rw [Nat.add_comm] at found
  generalize captureAfter none 1 before = capture at tracks capturing found
  cases tracks with
  | outside =>
      simp only [Scanner.read] at found
      split at found
      · cases found
      · obtain ⟨kind, spelling, rest, split, bare, rfl⟩ := Symbol.bare?_eq_some_iff.mp found
        have written :
            (before ++ head :: tail).drop (before.length + 1 - 1) = spelling ++ rest := by
          simpa using split
        refine .bare (Nat.succ_pos _) ?_ written bare
        simp [capturing]
  | @inside capture opened content =>
      simp only [Scanner.read] at found
      split at found
      · rename_i closes
        subst closes
        cases found
        rw [Capture.complete_eq opened content tail]
        refine .literal (standsAt_iff_split.mpr ⟨before, tail, rfl, rfl⟩) ?_ ?_
        · simp [capturing]
        · simpa using opened
      · cases found

theorem mem_of_placedIn {query : Text} {symbol : Symbol} (placed : symbol.PlacedIn query) :
    symbol ∈ symbols query := by
  apply mem_symbolsFrom_iff.mpr
  cases placed with
  | @literal start finish closes inside opened =>
      obtain ⟨before, rest, rfl, rfl⟩ := standsAt_iff_split.mp closes
      refine ⟨before, '}', rest, rfl, ?_⟩
      have capturing := inCapture_iff.mp inside
      have tracks := tracks_captureAfter before
      have opened' : OpenFrom before start := by simpa using opened
      have started := tracks.column_eq opened'
      rw [Nat.add_comm]
      generalize captureAfter none 1 before = capture at tracks capturing started ⊢
      cases tracks with
      | outside => exact absurd rfl capturing
      | inside first content =>
          cases started
          rw [← Capture.complete_eq first content rest]
          rfl
  | @bare position kind spelling rest positive outside written bare =>
      obtain ⟨first, more, rfl, plain⟩ := bare.begins
      obtain ⟨before, rfl, rfl⟩ : ∃ before, query = before ++ first :: (more ++ rest) ∧
          position = before.length + 1 := by
        refine ⟨query.take (position - 1), ?_, ?_⟩
        · rw [← List.cons_append, ← written, List.take_append_drop]
        · have filled := congrArg List.length written
          simp only [List.length_drop, List.length_append, List.length_cons] at filled
          rw [List.length_take]
          omega
      refine ⟨before, first, more ++ rest, rfl, ?_⟩
      have released : captureAfter none 1 before = none := by
        simpa using mt inCapture_iff.mpr outside
      rw [released, Scanner.read, if_neg plain, Nat.add_comm]
      exact Symbol.bare?_eq_some_iff.mpr ⟨kind, first :: more, rest, rfl, bare, rfl⟩

theorem symbols_increasing (query : Text) : (symbols query).Pairwise (·.column < ·.column) :=
  (Scanner.symbolsFrom_increasing (by simp [Scanner.edge]) query).1

theorem eq_of_column {query : Text} {first second : Symbol} (left : first ∈ symbols query)
    (right : second ∈ symbols query) (same : first.column = second.column) : first = second :=
  Symbol.eq_of_column (symbols_increasing query) left right same

theorem span_of_mem {query : Text} {symbol : Symbol} (member : symbol ∈ symbols query) :
    0 < symbol.column ∧ 0 < symbol.length ∧ symbol.column + symbol.length ≤ endColumn query := by
  unfold endColumn
  cases placedIn_of_mem member with
  | @literal start finish closes inside opened =>
      have bound := opened.le
      rw [List.length_take] at bound
      have last := closes.le
      obtain ⟨closing, -, after, -⟩ := opened
      change 0 < start ∧ 0 < finish - start + 1 ∧ start + (finish - start + 1) ≤ query.length + 1
      omega
  | @bare position kind spelling rest positive outside written bare =>
      obtain ⟨first, more, rfl, -⟩ := bare.begins
      have filled := congrArg List.length written
      simp only [List.length_drop, List.length_append, List.length_cons] at filled
      change 0 < position ∧ 0 < more.length + 1 ∧ position + (more.length + 1) ≤ query.length + 1
      omega

theorem column_lt_endColumn {query : Text} {symbol : Symbol} (member : symbol ∈ symbols query) :
    symbol.column < endColumn query := by
  have span := span_of_mem member
  omega

theorem pending?_eq_some_iff {query : Text} {column : Nat} :
    pending? query = some column ↔ OpenFrom query column := by
  have tracks := tracks_captureAfter query
  constructor
  · intro pending
    rw [pending?] at pending
    generalize captureAfter none 1 query = capture at tracks pending
    cases tracks with
    | outside => cases pending
    | inside opened =>
        cases pending
        exact opened
  · exact tracks.column_eq

theorem span_before_pending {query : Text} {symbol : Symbol} {column : Nat}
    (member : symbol ∈ symbols query) (pending : pending? query = some column) :
    symbol.column + symbol.length ≤ column := by
  obtain ⟨closing, last, after, opens, -⟩ := pending?_eq_some_iff.mp pending
  cases placedIn_of_mem member with
  | @literal start finish closes inside opened =>
      have bound := opened.le
      rw [List.length_take] at bound
      have ended : finish ≤ closing := by
        by_contra later
        exact last.2 finish (by omega) closes
      change start + (finish - start + 1) ≤ column
      omega
  | @bare position kind spelling rest positive outside written bare =>
      change position + spelling.length ≤ column
      by_contra beyond
      by_cases before : position ≤ column
      · -- The spelling would have to run over the brace.
        have reached : spelling[column - position]? = some '{' := by
          calc
            spelling[column - position]? = (spelling ++ rest)[column - position]? :=
              (List.getElem?_append_left (by omega)).symm
            _ = query[column - 1]? := by
              rw [← written, List.getElem?_drop]
              congr 1
              omega
            _ = some '{' := opens.2
        exact bare.plain (List.mem_of_getElem? reached)
      · apply outside
        refine ⟨column, by omega, opens, ?_⟩
        intro between lower upper closes
        exact last.2 between (by omega) closes

/-- The scanning rule places exactly the symbols of a query, which come in the order of their
columns, and the literal that is left open starts at the first `{` after the last `}`. -/
theorem symbols_follow_rule (query : Text) :
    (symbols query).Pairwise (·.column < ·.column) ∧
      (∀ symbol, symbol ∈ symbols query ↔ symbol.PlacedIn query) ∧
      ∀ column, pending? query = some column ↔ OpenFrom query column := by
  refine ⟨symbols_increasing query, ?_, ?_⟩
  · exact fun symbol => ⟨placedIn_of_mem, mem_of_placedIn⟩
  · exact fun column => pending?_eq_some_iff

end Query
end TagQuery

import TagQuery.Proofs.Unfinished

namespace TagQuery
namespace Scanner

def left (scanner : Scanner) : List Symbol :=
  symbolsFrom scanner.capture scanner.column scanner.rest

def unfinished? (scanner : Scanner) : Option Capture :=
  captureAfter scanner.capture scanner.column scanner.rest

def calls : Nat → Scanner → List (Option Symbol × Scanner)
  | 0, _ => []
  | count + 1, scanner => scanner.next :: calls count scanner.next.2

/-- All that a call can do: it gives the first symbol that is left, and no literal is being captured
then, or none is left and it reads to the end. -/
inductive Gives (scanner : Scanner) : Option Symbol × Scanner → Prop where
  | symbol {symbol : Symbol} {after : Scanner} (first : scanner.left = symbol :: after.left)
      (released : after.capture = none) (same : after.unfinished? = scanner.unfinished?) :
      Gives scanner (some symbol, after)
  | nothing {after : Scanner} (silent : scanner.left = []) (ended : after.rest = [])
      (same : after.unfinished? = scanner.unfinished?) : Gives scanner (none, after)

namespace Gives

variable {scanner other : Scanner} {call : Option Symbol × Scanner}

theorem of_same (gives : Gives other call) (left : scanner.left = other.left)
    (unfinished : scanner.unfinished? = other.unfinished?) : Gives scanner call := by
  cases gives with
  | symbol first released same =>
      exact .symbol (left.trans first) released (same.trans unfinished.symm)
  | nothing silent ended same =>
      exact .nothing (left.trans silent) ended (same.trans unfinished.symm)

theorem unfinished (gives : Gives scanner call) : call.2.unfinished? = scanner.unfinished? := by
  cases gives with
  | symbol first released same => exact same
  | nothing silent ended same => exact same

theorem found (gives : Gives scanner call) :
    call.1 = scanner.left[0]? ∧ ∀ index, call.2.left[index]? = scanner.left[index + 1]? := by
  cases gives with
  | symbol first released same => simp [first]
  | @nothing after silent ended same =>
      have exhausted : after.left = [] := by rw [left, ended, symbolsFrom]
      simp [silent, exhausted]

theorem pending (gives : Gives scanner call) :
    call.2.pending? = if call.1.isSome then none else scanner.unfinished?.map Capture.column := by
  cases gives with
  | symbol first released same =>
      rw [pending?, released]
      rfl
  | @nothing after silent ended same =>
      have held : after.capture = scanner.unfinished? := by
        rw [← same, unfinished?, ended, captureAfter]
      rw [pending?, held]
      rfl

end Gives

theorem gives_nextFrom (capture : Option Capture) (column : Nat) (text : Text) :
    Gives ⟨text, column, capture⟩ (nextFrom capture column text) := by
  induction text generalizing capture column with
  | nil => exact .nothing rfl rfl rfl
  | cons head tail ih =>
      have left := symbolsFrom_cons capture column head tail
      have unfinished : captureAfter capture column (head :: tail) =
          captureAfter (read capture column head tail).2 (column + 1) tail := by rw [captureAfter]
      cases reading : read capture column head tail with
      | mk found later =>
          rw [reading] at left unfinished
          rw [nextFrom, reading]
          cases found with
          | none => exact (ih later (column + 1)).of_same left unfinished
          | some symbol =>
              have released : later = none := by
                have stopped := (read_symbol (congrArg Prod.fst reading)).2
                rwa [reading] at stopped
              exact .symbol left released unfinished.symm

theorem gives_next (scanner : Scanner) : scanner.Gives scanner.next :=
  gives_nextFrom scanner.capture scanner.column scanner.rest

theorem found_of_calls (count : Nat) (scanner : Scanner) :
    (calls count scanner).map Prod.fst =
      (List.range count).map fun index => scanner.left[index]? := by
  induction count generalizing scanner with
  | zero => rfl
  | succ count ih =>
      obtain ⟨first, later⟩ := (gives_next scanner).found
      rw [calls, List.map_cons, ih, List.range_succ_eq_map, List.map_cons, List.map_map, first]
      congr 1
      exact List.map_congr_left fun index _ => later index

theorem silent_of_calls (count : Nat) (scanner : Scanner) :
    (calls count scanner).Pairwise fun earlier later => earlier.1 = none → later.1 = none := by
  have results : ((calls count scanner).map Prod.fst).Pairwise fun earlier later =>
      earlier = none → later = none := by
    rw [found_of_calls, List.pairwise_map]
    refine List.pairwise_lt_range.imp ?_
    intro earlier later before silent
    rw [List.getElem?_eq_none_iff] at silent ⊢
    omega
  exact List.pairwise_map.mp results

theorem pending_of_mem_calls {count : Nat} {scanner : Scanner} {call : Option Symbol × Scanner}
    (member : call ∈ calls count scanner) :
    call.2.pending? = if call.1.isSome then none else scanner.unfinished?.map Capture.column := by
  induction count generalizing scanner with
  | zero => cases member
  | succ count ih =>
      rcases List.mem_cons.mp member with rfl | later
      · exact (gives_next scanner).pending
      · rw [ih later, (gives_next scanner).unfinished]

end Scanner

namespace Query

open Scanner Text

/-- Calling for the symbols of a query one by one gives them in order, and nothing from then on. No
literal is pending after a call that gives a symbol. After one that gives nothing the pending
literal is always the same: the one that the query starts, outside captures, with no end behind it.
-/
theorem calls_follow_symbols (query : Text) (count : Nat) :
    (calls count (Scanner.start query)).map Prod.fst =
        ((List.range count).map fun index => (symbols query)[index]?) ∧
      (calls count (Scanner.start query)).Pairwise
        (fun earlier later => earlier.1 = none → later.1 = none) ∧
      ∀ call ∈ calls count (Scanner.start query),
        (call.1 ≠ none → call.2.pending? = none) ∧
          (call.1 = none → call.2.pending? = pending? query ∧
            ∀ column, call.2.pending? = some column ↔ LeftOpen query column) := by
  refine ⟨found_of_calls count _, silent_of_calls count _, ?_⟩
  intro call member
  have pending := pending_of_mem_calls member
  constructor
  · intro given
    rw [pending, if_pos (Option.isSome_iff_ne_none.mpr given)]
  · intro silent
    have same : call.2.pending? = pending? query := by
      rw [pending, silent]
      rfl
    refine ⟨same, fun column => ?_⟩
    rw [same]
    exact pending?_eq_some_iff_leftOpen

theorem calls_beyond_symbols :
    let query := "\x7d{a}or \x7b(\x7b".toList
    let called := calls 4 (Scanner.start query)
    let second : Option Symbol × Scanner :=
      (some ⟨.operator .or, 5, 2⟩, ⟨"r \x7b(\x7b".toList, 6, none⟩)
    let last : Option Symbol × Scanner := (none, ⟨[], 11, some ⟨8, "\x7b(\x7b".toList⟩⟩)
    called.map Prod.fst =
        [some ⟨.literal "{a}".toList, 2, 3⟩, some ⟨.operator .or, 5, 2⟩, none, none] ∧
      second ∈ called ∧ second.1 ≠ none ∧ second.2.pending? = none ∧
      last ∈ called ∧ last.1 = none ∧ last.2.pending? = pending? query ∧ LeftOpen query 8 := by
  intro query called second last
  obtain ⟨results, -, each⟩ := calls_follow_symbols query 4
  have member : second ∈ called := by decide
  have member' : last ∈ called := by decide
  have given : second.1 ≠ none := by decide
  obtain ⟨same, place⟩ := (each last member').2 rfl
  refine ⟨?_, member, given, (each second member).1 given, member', rfl, same, (place 8).mp rfl⟩
  rw [results]
  decide

end Query
end TagQuery

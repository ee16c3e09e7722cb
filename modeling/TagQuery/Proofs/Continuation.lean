import TagQuery.Proofs.Grouping

/-!
Queries that are typed on. What follows a query may complete a spelling that it breaks off, and this
spelling begins inside the query. But behind its first character the query has found nothing, so the
symbols of the longer query are those of the shorter one and then the new ones. A fault that has
come up while they are read therefore stays, whatever is typed behind it.
-/
namespace TagQuery

open TagQuery.Symbol (Kind)

namespace Symbol

theorem bare?_append {column : Nat} {text : Text} {symbol : Symbol}
    (found : bare? column text = some symbol) (more : Text) :
    bare? column (text ++ more) = some symbol := by
  obtain ⟨kind, spelling, rest, rfl, bare, rfl⟩ := bare?_eq_some_iff.mp found
  apply bare?_eq_some_iff.mpr
  exact ⟨kind, spelling, rest ++ more, List.append_assoc .., bare, rfl⟩

/-- A symbol that begins only with more text behind has a spelling that takes in all the text. -/
theorem straddles_of_bare? {column : Nat} {head : Char} {tail more : Text} {symbol : Symbol}
    (silent : bare? column (head :: tail) = none)
    (found : bare? column (head :: (tail ++ more)) = some symbol) :
    ∃ kind beyond, Kind.Bare kind (head :: (tail ++ beyond)) := by
  obtain ⟨kind, spelling, rest, written, bare, -⟩ := bare?_eq_some_iff.mp found
  obtain ⟨first, letters, rfl, -⟩ := bare.begins
  obtain ⟨rfl, split⟩ := List.cons.inj written
  rcases List.append_eq_append_iff.mp split with ⟨beyond, rfl, -⟩ | ⟨between, rfl, -⟩
  · exact ⟨kind, beyond, bare⟩
  · have complete : bare? column (head :: (letters ++ between)) =
        some ⟨kind, column, (head :: letters).length⟩ :=
      bare?_eq_some_iff.mpr ⟨kind, head :: letters, between, rfl, bare, rfl⟩
    rw [silent] at complete
    cases complete

end Symbol

namespace Scanner

theorem read_append {capture : Option Capture} {column : Nat} {head : Char} {tail : Text}
    {symbol : Symbol} (found : (read capture column head tail).1 = some symbol) (more : Text) :
    (read capture column head (tail ++ more)).1 = some symbol := by
  cases capture with
  | some started => exact found
  | none =>
      by_cases opens : head = '{'
      · simp [read, opens] at found
      · simp only [read, if_neg opens] at found ⊢
        exact Symbol.bare?_append found more

theorem nothing_behind_straddle {capture : Option Capture} {column : Nat} {head : Char}
    {tail more : Text} {symbol : Symbol} (silent : (read capture column head tail).1 = none)
    (found : (read capture column head (tail ++ more)).1 = some symbol) :
    ∃ beyond, symbolsFrom (read capture column head tail).2 (column + 1) (tail ++ beyond) = [] := by
  cases capture with
  | some started =>
      have same : (read (some started) column head tail).1 = some symbol := found
      rw [silent] at same
      cases same
  | none =>
      by_cases opens : head = '{'
      · simp [read, opens] at found
      · simp only [read, if_neg opens] at silent found ⊢
        obtain ⟨kind, beyond, bare⟩ := Symbol.straddles_of_bare? silent found
        have rest := symbolsFrom_rest_of_bare bare (column + 1) []
        rw [List.append_nil] at rest
        exact ⟨beyond, rest⟩

theorem symbolsFrom_prefix_append (capture : Option Capture) (column : Nat) (front back : Text) :
    symbolsFrom capture column front <+: symbolsFrom capture column (front ++ back) := by
  induction front generalizing capture column back with
  | nil => exact List.nil_prefix
  | cons head tail ih =>
      rw [List.cons_append, symbolsFrom_cons, symbolsFrom_cons,
        read_capture capture column head (tail ++ back) tail]
      have later := ih (read capture column head tail).2 (column + 1)
      cases known : (read capture column head tail).1 with
      | some symbol =>
          rw [read_append known back]
          exact List.cons_prefix_cons.mpr ⟨rfl, later back⟩
      | none =>
          cases found : (read capture column head (tail ++ back)).1 with
          | none => exact later back
          | some symbol =>
              -- The new symbol runs over the seam, so up to the seam nothing comes after it.
              obtain ⟨beyond, nothing⟩ := nothing_behind_straddle known found
              have within := later beyond
              rw [nothing, List.prefix_nil] at within
              rw [within]
              exact List.nil_prefix

end Scanner

namespace Stack

theorem closing_of_refused {text : Text} {stack : Stack} {symbols : List Symbol} {fault : Fault}
    (refused : (stack.read text symbols).fault? = some fault) :
    ∃ symbol ∈ symbols, symbol.kind = .closing := by
  obtain ⟨before, symbol, after, rfl, -, stopped⟩ := read_fault_iff.mp refused
  exact ⟨symbol, by simp, (fault_of_accept stopped).1⟩

end Stack

namespace Query

theorem symbols_prefix_append (query more : Text) : symbols query <+: symbols (query ++ more) :=
  Scanner.symbolsFrom_prefix_append none 1 query more

theorem scanned_of_refused {query text : Text} {fault : Fault}
    (refused : (Stack.read text [] (symbols query)).fault? = some fault) (more : Text) :
    query ++ more ≠ everything := by
  intro same
  obtain ⟨symbol, member, closes⟩ := Stack.closing_of_refused refused
  have kept : symbol.kind ∈ kinds everything := by
    rw [← same]
    exact List.mem_map_of_mem ((symbols_prefix_append query more).subset member)
  rw [closes] at kept
  exact absurd kept (by decide)

/-- Typing on keeps every symbol that has been scanned, with its column, length and text, and adds
others behind them only. So a query whose symbols cannot be read without a fault is malformed with
this fault, and so is every query that begins with it. -/
theorem symbols_of_continued (query more : Text) :
    symbols query <+: symbols (query ++ more) ∧
      ∀ text fault, (Stack.read text [] (symbols query)).fault? = some fault →
        verdict (query ++ more) text = .malformed fault := by
  apply And.intro (symbols_prefix_append query more)
  intro text fault refused
  obtain ⟨others, whole⟩ := symbols_prefix_append query more
  calc
    verdict (query ++ more) text =
        (Stack.evaluate text (endColumn (query ++ more)) (symbols query ++ others) []).verdict := by
      rw [verdict_of_scanned (scanned_of_refused refused more), whole]
    _ = .malformed fault := Stack.verdict_of_refused refused others

theorem symbols_of_completed_keyword :
    let query := "({a} &) aN".toList
    let more := "d \x7bb\x7d".toList
    (Stack.read "x : {b}".toList [] (symbols query)).fault? = some (.danglingOperator 6) ∧
      symbols query <+: symbols (query ++ more) ∧
      ⟨.operator .and, 9, 3⟩ ∉ symbols query ∧ ⟨.operator .and, 9, 3⟩ ∈ symbols (query ++ more) ∧
      verdict (query ++ more) "x : {b}".toList = .malformed (.danglingOperator 6) := by
  intro query more
  have refused :
      (Stack.read "x : {b}".toList [] (symbols query)).fault? = some (.danglingOperator 6) := by
    decide +kernel
  obtain ⟨kept, stays⟩ := symbols_of_continued query more
  exact ⟨refused, kept, by decide, by decide, stays _ _ refused⟩

end Query
end TagQuery

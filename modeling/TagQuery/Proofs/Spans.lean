import TagQuery.Proofs.Placement
import TagQuery.Proofs.Writing

namespace TagQuery

def Symbol.Spans (symbol : Symbol) (position : Nat) : Prop :=
  symbol.column ≤ position ∧ position < symbol.column + symbol.length

instance (symbol : Symbol) (position : Nat) : Decidable (symbol.Spans position) :=
  inferInstanceAs (Decidable (_ ∧ _))

namespace Scanner

theorem behind_of_read {capture : Option Capture} {column : Nat}
    (started : edge capture column ≤ column) {head : Char} {tail : Text} {first : Symbol}
    (found : (read capture column head tail).1 = some first) :
    ∀ later ∈ symbolsFrom none (column + 1) tail, first.column + first.length ≤ later.column := by
  intro later member
  cases capture with
  | none =>
      simp only [read] at found
      split at found
      · cases found
      · obtain ⟨kind, spelling, rest, written, bare, rfl⟩ := Symbol.bare?_eq_some_iff.mp found
        obtain ⟨character, more, rfl, -⟩ := bare.begins
        obtain ⟨rfl, behind⟩ := List.cons.inj written
        have member : later ∈ symbolsFrom none (column + 1) (more ++ rest) := by
          rwa [behind] at member
        rw [symbolsFrom_rest_of_bare bare] at member
        have least := (symbolsFrom_increasing (Nat.le_refl _) rest).2 later member
        calc
          column + (head :: more).length = column + 1 + more.length := by
            rw [List.length_cons]
            omega
          _ ≤ later.column := least
  | some pending =>
      simp only [read] at found
      split at found
      · cases found
        have before : pending.column ≤ column := started
        have least := (symbolsFrom_increasing (Nat.le_refl _) tail).2 later member
        calc
          pending.column + (column + 1 - pending.column) = column + 1 := by omega
          _ ≤ later.column := least
      · cases found

theorem symbolsFrom_apart {capture : Option Capture} {column : Nat}
    (started : edge capture column ≤ column) (text : Text) :
    (symbolsFrom capture column text).Pairwise fun first second =>
      first.column + first.length ≤ second.column := by
  induction text generalizing capture column with
  | nil => exact .nil
  | cons head tail ih =>
      have rest := ih (read_edge started head tail).2
      rw [symbolsFrom_cons]
      cases found : (read capture column head tail).1 with
      | none => exact rest
      | some first =>
          have released := (read_symbol found).2
          rw [released] at rest ⊢
          exact .cons (behind_of_read started found) rest

end Scanner

namespace Query

theorem symbols_apart (query : Text) :
    (symbols query).Pairwise fun first second =>
      first.column + first.length ≤ second.column :=
  Scanner.symbolsFrom_apart (Nat.le_refl 1) query

theorem length_spanning_le {symbols : List Symbol}
    (apart : symbols.Pairwise fun first second => first.column + first.length ≤ second.column)
    (position : Nat) : (symbols.filter fun symbol => symbol.Spans position).length ≤ 1 := by
  have ordered := apart.filter fun symbol => symbol.Spans position
  cases spanning : symbols.filter (fun symbol => symbol.Spans position) with
  | nil => exact Nat.zero_le 1
  | cons first others =>
      cases others with
      | nil => exact Nat.le_refl 1
      | cons second rest =>
          rw [spanning] at ordered
          have spans : ∀ symbol ∈ first :: second :: rest, symbol.Spans position := by
            intro symbol member
            rw [← spanning] at member
            exact of_decide_eq_true (List.mem_filter.mp member).2
          have behind := (List.pairwise_cons.mp ordered).1 second (List.mem_cons_self ..)
          have ends := (spans first (List.mem_cons_self ..)).2
          have begins := (spans second (by simp)).1
          omega

/-- The symbols of a query cover stretches of it that lie behind one another and before a literal
that is left open. No character belongs to two of them, although a spelling is looked for at every
character. -/
theorem spans_lie_apart (query : Text) :
    (∀ symbol ∈ symbols query,
      1 ≤ symbol.column ∧ 1 ≤ symbol.length ∧ symbol.column + symbol.length ≤ query.length + 1) ∧
      ((symbols query).Pairwise fun first second =>
        first.column + first.length ≤ second.column) ∧
      (∀ column, pending? query = some column → ∀ symbol ∈ symbols query,
        symbol.column + symbol.length ≤ column) ∧
      ∀ position, ((symbols query).filter fun symbol => symbol.Spans position).length ≤ 1 := by
  have apart := symbols_apart query
  refine ⟨fun symbol member => span_of_mem member, apart, ?_, length_spanning_le apart⟩
  intro column pending symbol member
  exact span_before_pending member pending

theorem spans_of_touching_words :
    let query := "aNdnot{é}oror\x7bu)".toList
    pending? query = some 14 ∧ ⟨.operator .or, 12, 2⟩ ∈ symbols query ∧ 12 + 2 ≤ 14 ∧
      ((symbols query).filter fun symbol => symbol.Spans 5) = [⟨.operator .not, 4, 3⟩] := by
  intro query
  have pending : pending? query = some 14 := by decide
  have member : ⟨.operator .or, 12, 2⟩ ∈ symbols query := by decide
  obtain ⟨-, -, before, -⟩ := spans_lie_apart query
  exact ⟨pending, member, before 14 pending _ member, by decide⟩

end Query
end TagQuery

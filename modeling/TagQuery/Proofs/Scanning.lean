import TagQuery.Proofs.Spelling
import TagQuery.Query

namespace TagQuery
namespace Scanner

theorem read_capture (capture : Option Capture) (column : Nat) (head : Char) (tail other : Text) :
    (read capture column head tail).2 = (read capture column head other).2 := by
  cases capture with
  | none => simp only [read]; split <;> rfl
  | some started => simp only [read]

theorem captureAfter_append (capture : Option Capture) (column : Nat) (front back : Text) :
    captureAfter capture column (front ++ back) =
      captureAfter (captureAfter capture column front) (column + front.length) back := by
  induction front generalizing capture column with
  | nil => rfl
  | cons head tail ih =>
      simp only [List.cons_append, captureAfter, List.length_cons]
      rw [ih, read_capture capture column head (tail ++ back) tail]
      congr 1
      omega

theorem captureAfter_concat (capture : Option Capture) (column : Nat) (front : Text) (last : Char) :
    captureAfter capture column (front ++ [last]) =
      (read (captureAfter capture column front) (column + front.length) last []).2 := by
  rw [captureAfter_append]
  rfl

theorem symbolsFrom_cons (capture : Option Capture) (column : Nat) (head : Char) (tail : Text) :
    symbolsFrom capture column (head :: tail) =
      (read capture column head tail).1.toList ++
        symbolsFrom (read capture column head tail).2 (column + 1) tail := by
  rw [symbolsFrom]
  split <;> simp_all

theorem captureAfter_plain {text : Text} (plain : '{' ∉ text) (column : Nat) :
    captureAfter none column text = none := by
  induction text generalizing column with
  | nil => rfl
  | cons head tail ih =>
      rw [List.mem_cons, not_or] at plain
      rw [captureAfter, read, if_neg (Ne.symm plain.1)]
      exact ih plain.2 (column + 1)

theorem read_inside {character : Char} (other : character ≠ '}') (capture : Capture) (column : Nat)
    (tail : Text) :
    read (some capture) column character tail = (none, some (capture.extend character)) := by
  simp only [read, if_neg other]

theorem captureAfter_unclosed {text : Text} (unclosed : '}' ∉ text) (capture : Capture)
    (column : Nat) :
    captureAfter (some capture) column text =
      some ⟨capture.column, text.reverse ++ capture.reversed⟩ := by
  induction text generalizing capture column with
  | nil => rfl
  | cons head tail ih =>
      rw [List.mem_cons, not_or] at unclosed
      rw [captureAfter, read_inside (Ne.symm unclosed.1), ih unclosed.2]
      simp [Capture.extend]

theorem symbolsFrom_unclosed {text : Text} (unclosed : '}' ∉ text) (capture : Capture)
    (column : Nat) : symbolsFrom (some capture) column text = [] := by
  induction text generalizing capture column with
  | nil => rfl
  | cons head tail ih =>
      rw [List.mem_cons, not_or] at unclosed
      rw [symbolsFrom_cons, read_inside (Ne.symm unclosed.1)]
      exact ih unclosed.2 _ _

theorem mem_symbolsFrom_iff {capture : Option Capture} {column : Nat} {text : Text}
    {symbol : Symbol} :
    symbol ∈ symbolsFrom capture column text ↔
      ∃ before head tail, text = before ++ head :: tail ∧
        (read (captureAfter capture column before) (column + before.length) head tail).1 =
          some symbol := by
  induction text generalizing capture column with
  | nil => simp [symbolsFrom]
  | cons first more ih =>
      rw [symbolsFrom_cons, List.mem_append, Option.mem_toList, ih]
      constructor
      · rintro (now | ⟨before, head, tail, rfl, later⟩)
        · exact ⟨[], first, more, rfl, now⟩
        · refine ⟨first :: before, head, tail, rfl, ?_⟩
          rw [captureAfter, read_capture _ _ _ before (before ++ head :: tail), List.length_cons]
          rwa [show column + (before.length + 1) = column + 1 + before.length by omega]
      · rintro ⟨before, head, tail, same, found⟩
        cases before with
        | nil =>
            cases same
            exact .inl found
        | cons _ before =>
            cases same
            refine .inr ⟨before, head, tail, rfl, ?_⟩
            rw [captureAfter, read_capture _ _ _ before (before ++ head :: tail),
              List.length_cons] at found
            rwa [show column + (before.length + 1) = column + 1 + before.length by omega] at found

/-- The least column that the next symbol can have: a literal that is being captured has its own. -/
def edge (capture : Option Capture) (column : Nat) : Nat := (capture.map Capture.column).getD column

theorem read_symbol {capture : Option Capture} {column : Nat} {head : Char} {tail : Text}
    {symbol : Symbol} (found : (read capture column head tail).1 = some symbol) :
    symbol.column = edge capture column ∧ (read capture column head tail).2 = none := by
  cases capture with
  | none =>
      simp only [read] at found ⊢
      split at found
      · cases found
      · obtain ⟨kind, spelling, rest, -, -, rfl⟩ := Symbol.bare?_eq_some_iff.mp found
        simp [edge, *]
  | some started =>
      simp only [read] at found ⊢
      split at found
      · cases found
        simp [edge, Capture.complete, *]
      · cases found

theorem read_edge {capture : Option Capture} {column : Nat}
    (started : edge capture column ≤ column) (head : Char) (tail : Text) :
    edge capture column ≤ edge (read capture column head tail).2 (column + 1) ∧
      edge (read capture column head tail).2 (column + 1) ≤ column + 1 := by
  cases capture with
  | none =>
      simp only [read]
      split <;> simp [edge, Capture.start]
  | some pending =>
      simp only [edge, Option.map_some, Option.getD_some] at started
      simp only [read]
      split
      · simp only [edge, Option.map_some, Option.getD_some, Option.map_none, Option.getD_none]
        omega
      · simp only [edge, Option.map_some, Option.getD_some, Capture.extend]
        omega

theorem symbolsFrom_increasing {capture : Option Capture} {column : Nat}
    (started : edge capture column ≤ column) (text : Text) :
    (symbolsFrom capture column text).Pairwise (·.column < ·.column) ∧
      ∀ symbol ∈ symbolsFrom capture column text, edge capture column ≤ symbol.column := by
  induction text generalizing capture column with
  | nil => simp [symbolsFrom]
  | cons head tail ih =>
      obtain ⟨rises, bounded⟩ := read_edge started head tail
      obtain ⟨increasing, least⟩ := ih bounded
      rw [symbolsFrom_cons]
      cases found : (read capture column head tail).1 with
      | none =>
          refine ⟨increasing, ?_⟩
          intro symbol member
          exact Nat.le_trans rises (least symbol member)
      | some first =>
          obtain ⟨placed, released⟩ := read_symbol found
          have later : ∀ symbol ∈ symbolsFrom (read capture column head tail).2 (column + 1) tail,
              first.column < symbol.column := by
            intro symbol member
            have after := least symbol member
            rw [released] at after
            simp only [edge, Option.map_none, Option.getD_none] at after
            omega
          refine ⟨List.pairwise_cons.mpr ⟨later, increasing⟩, ?_⟩
          intro symbol member
          rcases List.mem_cons.mp member with rfl | member
          · exact Nat.le_of_eq placed.symm
          · have := later symbol member
            omega

end Scanner
end TagQuery

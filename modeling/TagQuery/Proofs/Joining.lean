import TagQuery.Proofs.Writing

namespace TagQuery

open TagQuery.Symbol (Kind)

def Capture.shift (offset : Nat) (capture : Capture) : Capture :=
  { capture with column := capture.column + offset }

def Symbol.shift (offset : Nat) (symbol : Symbol) : Symbol :=
  { symbol with column := symbol.column + offset }

/-- No word of an operator has the character in it, so a word that begins before it ends there. -/
def Breaks (character : Char) : Prop := ∀ operator : Operator, character.toLower ∉ operator.word

theorem breaks_of_sign {character : Char} (sign : character ∈ ['(', ')', '{', ' ']) :
    Breaks character := by
  intro operator
  simp only [List.mem_cons, List.not_mem_nil, or_false] at sign
  rcases sign with rfl | rfl | rfl | rfl <;> cases operator <;> decide

namespace Symbol

theorem bare?_shift (offset column : Nat) (text : Text) :
    bare? (column + offset) text = (bare? column text).map (shift offset) := by
  unfold bare?
  split
  · rfl
  · rfl
  · cases Operator.leading? text <;> rfl

theorem bare?_cut {separator : Char} (breaks : Breaks separator) (column : Nat) (head : Char)
    (tail back : Text) :
    bare? column (head :: (tail ++ separator :: back)) = bare? column (head :: tail) := by
  apply Option.ext
  intro symbol
  rw [bare?_eq_some_iff, bare?_eq_some_iff]
  constructor
  · rintro ⟨kind, spelling, rest, same, bare, rfl⟩
    obtain ⟨first, more, rfl, -⟩ := bare.begins
    obtain ⟨rfl, split⟩ := List.cons.inj same
    rcases List.append_eq_append_iff.mp split with ⟨beyond, rfl, behind⟩ | ⟨between, rfl, -⟩
    · cases beyond with
      | nil => exact ⟨kind, head :: tail, [], by simp, by simpa using bare, by simp⟩
      | cons next beyond =>
          -- The spelling would have to run over the separator.
          obtain ⟨rfl, -⟩ := List.cons.inj behind
          have inside : separator ∈ tail ++ separator :: beyond := by simp
          obtain ⟨operator, letter⟩ := bare.tail_worded inside
          exact absurd letter (breaks operator)
    · exact ⟨kind, head :: more, between, by simp, bare, rfl⟩
  · rintro ⟨kind, spelling, rest, same, bare, rfl⟩
    refine ⟨kind, spelling, rest ++ separator :: back, ?_, bare, rfl⟩
    rw [← List.append_assoc, ← same]
    rfl

end Symbol

namespace Scanner

theorem read_shift (offset : Nat) (capture : Option Capture) (column : Nat) (head : Char)
    (tail : Text) :
    read (capture.map (Capture.shift offset)) (column + offset) head tail =
      ((read capture column head tail).1.map (Symbol.shift offset),
        (read capture column head tail).2.map (Capture.shift offset)) := by
  cases capture with
  | none =>
      simp only [read, Option.map_none, Symbol.bare?_shift]
      split <;> rfl
  | some started =>
      simp only [read, Option.map_some]
      split
      · have width : column + offset + 1 - (started.column + offset) =
            column + 1 - started.column := by omega
        simp [Capture.complete, Capture.shift, Capture.extend, Symbol.shift, width]
      · rfl

theorem symbolsFrom_shift (offset : Nat) (capture : Option Capture) (column : Nat) (text : Text) :
    symbolsFrom (capture.map (Capture.shift offset)) (column + offset) text =
      (symbolsFrom capture column text).map (Symbol.shift offset) := by
  induction text generalizing capture column with
  | nil => rfl
  | cons head tail ih =>
      have columns : column + offset + 1 = column + 1 + offset := by omega
      rw [symbolsFrom_cons, symbolsFrom_cons, read_shift, columns, ih, List.map_append]
      cases (read capture column head tail).1 <;> rfl

theorem captureAfter_shift (offset : Nat) (capture : Option Capture) (column : Nat) (text : Text) :
    captureAfter (capture.map (Capture.shift offset)) (column + offset) text =
      (captureAfter capture column text).map (Capture.shift offset) := by
  induction text generalizing capture column with
  | nil => rfl
  | cons head tail ih =>
      have columns : column + offset + 1 = column + 1 + offset := by omega
      rw [captureAfter, captureAfter, read_shift, columns, ih]

theorem symbolsFrom_at (column : Nat) (text : Text) :
    symbolsFrom none column text = (symbolsFrom none 0 text).map (Symbol.shift column) := by
  have moved := symbolsFrom_shift column none 0 text
  rwa [Option.map_none, Nat.zero_add] at moved

theorem captureAfter_at (column : Nat) (text : Text) :
    captureAfter none column text = (captureAfter none 0 text).map (Capture.shift column) := by
  have moved := captureAfter_shift column none 0 text
  rwa [Option.map_none, Nat.zero_add] at moved

theorem read_cut {separator : Char} (breaks : Breaks separator) (capture : Option Capture)
    (column : Nat) (head : Char) (tail back : Text) :
    read capture column head (tail ++ separator :: back) = read capture column head tail := by
  cases capture with
  | none => rw [read, read, Symbol.bare?_cut breaks]
  | some started => rfl

theorem symbolsFrom_cut {separator : Char} (breaks : Breaks separator) (capture : Option Capture)
    (column : Nat) (front back : Text) :
    symbolsFrom capture column (front ++ separator :: back) =
      symbolsFrom capture column front ++
        symbolsFrom (captureAfter capture column front) (column + front.length)
          (separator :: back) := by
  induction front generalizing capture column with
  | nil => rfl
  | cons head tail ih =>
      have columns : column + (tail.length + 1) = column + 1 + tail.length := by omega
      rw [List.cons_append, symbolsFrom_cons, symbolsFrom_cons, read_cut breaks, ih, captureAfter,
        List.length_cons, columns, List.append_assoc]

theorem symbolsFrom_space (column : Nat) (rest : Text) :
    symbolsFrom none column (' ' :: rest) = symbolsFrom none (column + 1) rest :=
  symbolsFrom_skip quiet_space.1 (quiet_space.2 ..)

theorem symbolsFrom_opening (column : Nat) (rest : Text) :
    symbolsFrom none column ('(' :: rest) =
      ⟨.opening, column, 1⟩ :: symbolsFrom none (column + 1) rest :=
  symbolsFrom_bare .opening column rest

theorem symbolsFrom_closing (column : Nat) (rest : Text) :
    symbolsFrom none column (')' :: rest) =
      ⟨.closing, column, 1⟩ :: symbolsFrom none (column + 1) rest :=
  symbolsFrom_bare .closing column rest

end Scanner

namespace Query

open Scanner

theorem captureAfter_of_released {query : Text} (released : pending? query = none)
    (column : Nat) : captureAfter none column query = none := by
  have start : captureAfter none 1 query = none := Option.map_eq_none_iff.mp released
  rw [captureAfter_at, Option.map_eq_none_iff] at start ⊢
  exact start

theorem kinds_from (column : Nat) (query : Text) :
    (symbolsFrom none column query).map Symbol.kind = kinds query := by
  rw [kinds, symbols, symbolsFrom_at column, symbolsFrom_at 1, List.map_map, List.map_map]
  rfl

/-- Behind a query that leaves no literal open, and before a character that breaks words, the scan
goes on as if it began there. -/
theorem symbolsFrom_behind {query : Text} (released : pending? query = none) {separator : Char}
    (breaks : Breaks separator) (column : Nat) (back : Text) :
    symbolsFrom none column (query ++ separator :: back) =
      symbolsFrom none column query ++
        symbolsFrom none (column + query.length) (separator :: back) := by
  rw [symbolsFrom_cut breaks, captureAfter_of_released released]

end Query
end TagQuery

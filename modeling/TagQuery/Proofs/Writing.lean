import TagQuery.Proofs.Grammar
import TagQuery.Proofs.Scanning

namespace TagQuery

open TagQuery.Symbol (Kind)

/-- A spelling of a kind. A literal is spelled as it is, and only its last character is a `}`. -/
inductive Symbol.Kind.Spelled : Kind → Text → Prop where
  | literal {tag : Text} (whole : '}' ∉ tag) :
      Spelled (.literal (Text.braced tag)) (Text.braced tag)
  | bare {kind : Kind} {spelling : Text} (bare : Kind.Bare kind spelling) : Spelled kind spelling

/-- The text writes the kinds, in order, and every character in its gaps is of one sort. -/
inductive Written (Gap : Char → Prop) : List Kind → Text → Prop where
  | done {gap : Text} (blank : ∀ character ∈ gap, Gap character) : Written Gap [] gap
  | symbol {gap spelling rest : Text} {kind : Kind} {kinds : List Kind}
      (blank : ∀ character ∈ gap, Gap character) (spelled : kind.Spelled spelling)
      (more : Written Gap kinds rest) : Written Gap (kind :: kinds) (gap ++ (spelling ++ rest))

def Quiet (character : Char) : Prop :=
  character ≠ '{' ∧ ∀ column tail, Symbol.bare? column (character :: tail) = none

theorem quiet_space : Quiet ' ' := by
  refine ⟨by decide, ?_⟩
  intro column tail
  cases found : Symbol.bare? column (' ' :: tail) with
  | none => rfl
  | some symbol =>
      obtain ⟨kind, spelling, rest, same, bare, -⟩ := Symbol.bare?_eq_some_iff.mp found
      cases bare with
      | opening => cases same
      | closing => cases same
      | @operator operator _ spells =>
          obtain ⟨first, more, rfl, initial⟩ := spells.begins
          cases same
          exact absurd initial (operator.initials_plain ' ' (by simp))

namespace Scanner

theorem symbolsFrom_skip {column : Nat} {head : Char} {tail : Text} (other : head ≠ '{')
    (silent : Symbol.bare? column (head :: tail) = none) :
    symbolsFrom none column (head :: tail) = symbolsFrom none (column + 1) tail := by
  simp only [symbolsFrom_cons, read, if_neg other, silent, Option.toList_none, List.nil_append]

theorem symbolsFrom_gap {gap : Text} (quiet : ∀ character ∈ gap, Quiet character) (column : Nat)
    (rest : Text) :
    symbolsFrom none column (gap ++ rest) = symbolsFrom none (column + gap.length) rest := by
  induction gap generalizing column with
  | nil => rfl
  | cons head tail ih =>
      obtain ⟨other, silent⟩ := quiet head (List.mem_cons_self ..)
      rw [List.cons_append, symbolsFrom_skip other (silent ..),
        ih fun character member => quiet character (List.mem_cons_of_mem _ member)]
      simp only [List.length_cons]
      congr 1
      omega

theorem symbolsFrom_inside {operator : Operator} {first : Char} (front : Text) {tail : Text}
    (spells : operator.Spells (first :: (front ++ tail))) (column : Nat) (rest : Text) :
    symbolsFrom none column (tail ++ rest) = symbolsFrom none (column + tail.length) rest := by
  induction tail generalizing front column with
  | nil => rfl
  | cons next tail ih =>
      obtain ⟨other, silent⟩ := Symbol.bare?_inside spells column rest
      rw [List.cons_append, symbolsFrom_skip other silent, ih (front ++ [next]) (by simpa)]
      simp only [List.length_cons]
      congr 1
      omega

theorem symbolsFrom_rest_of_bare {kind : Kind} {first : Char} {more : Text}
    (bare : Kind.Bare kind (first :: more)) (column : Nat) (rest : Text) :
    symbolsFrom none column (more ++ rest) = symbolsFrom none (column + more.length) rest := by
  cases bare with
  | opening => rfl
  | closing => rfl
  | operator spells => exact symbolsFrom_inside [] spells column rest

theorem symbolsFrom_bare {kind : Kind} {spelling : Text} (bare : Kind.Bare kind spelling)
    (column : Nat) (rest : Text) :
    symbolsFrom none column (spelling ++ rest) =
      ⟨kind, column, spelling.length⟩ :: symbolsFrom none (column + spelling.length) rest := by
  have found : Symbol.bare? column (spelling ++ rest) = some ⟨kind, column, spelling.length⟩ :=
    Symbol.bare?_eq_some_iff.mpr ⟨kind, spelling, rest, rfl, bare, rfl⟩
  obtain ⟨first, more, rfl, plain⟩ := bare.begins
  have later := symbolsFrom_rest_of_bare bare (column + 1) rest
  rw [List.cons_append] at found ⊢
  rw [symbolsFrom_cons, read, if_neg plain]
  simp only [found, later, Option.toList_some, List.singleton_append, List.length_cons]
  congr 2
  omega

theorem symbolsFrom_captured {tag : Text} (whole : '}' ∉ tag) (capture : Capture) (column : Nat)
    (rest : Text) :
    symbolsFrom (some capture) column (tag ++ '}' :: rest) =
      ⟨.literal (capture.reversed.reverse ++ tag ++ ['}']), capture.column,
          column + tag.length + 1 - capture.column⟩ ::
        symbolsFrom none (column + tag.length + 1) rest := by
  induction tag generalizing capture column with
  | nil => simp [symbolsFrom, read, Capture.complete, Capture.extend]
  | cons head tail ih =>
      rw [List.mem_cons, not_or] at whole
      rw [List.cons_append, symbolsFrom_cons, read_inside (Ne.symm whole.1)]
      simp only [Option.toList_none, List.nil_append]
      rw [ih whole.2]
      simp only [Capture.extend, List.reverse_cons, List.append_assoc, List.nil_append,
        List.cons_append, List.length_cons]
      have columns : column + 1 + tail.length + 1 = column + (tail.length + 1) + 1 := by omega
      rw [columns]

theorem symbolsFrom_spelled {kind : Kind} {spelling : Text} (spelled : kind.Spelled spelling)
    (column : Nat) (rest : Text) :
    symbolsFrom none column (spelling ++ rest) =
      ⟨kind, column, spelling.length⟩ :: symbolsFrom none (column + spelling.length) rest := by
  cases spelled with
  | bare bare => exact symbolsFrom_bare bare column rest
  | @literal tag whole =>
      have split : Text.braced tag ++ rest = '{' :: (tag ++ '}' :: rest) := by simp [Text.braced]
      have columns : column + 1 + tag.length + 1 = column + (Text.braced tag).length := by
        simp [Text.braced]
        omega
      rw [split, symbolsFrom_cons, read, if_pos rfl, symbolsFrom_captured whole, columns]
      simp [Capture.start, Text.braced]

end Scanner

namespace Query

theorem kinds_of_written {Gap : Char → Prop} (quiet : ∀ character, Gap character → Quiet character)
    {kinds : List Kind} {text : Text} (written : Written Gap kinds text) (column : Nat) :
    (Scanner.symbolsFrom none column text).map Symbol.kind = kinds := by
  induction written generalizing column with
  | @done gap blank =>
      have gone := Scanner.symbolsFrom_gap (fun _ member => quiet _ (blank _ member)) column []
      rw [List.append_nil] at gone
      rw [gone]
      rfl
  | symbol blank spelled more ih =>
      rw [Scanner.symbolsFrom_gap fun _ member => quiet _ (blank _ member),
        Scanner.symbolsFrom_spelled spelled, List.map_cons, ih]

end Query
end TagQuery

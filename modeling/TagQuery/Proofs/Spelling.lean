import Mathlib.Tactic.ByContra
import TagQuery.Symbol

namespace TagQuery
namespace Operator

/-- The rule of spelling. A word may be written in any mix of upper and lower case. -/
def Spells (operator : Operator) (spelling : Text) : Prop :=
  match operator with
  | .not => spelling = ['!'] ∨ spelling.map Char.toLower = ['n', 'o', 't']
  | .and => spelling = ['&'] ∨ spelling.map Char.toLower = ['a', 'n', 'd']
  | .or => spelling = ['|'] ∨ spelling.map Char.toLower = ['o', 'r']

theorem spells_iff {operator : Operator} {spelling : Text} :
    operator.Spells spelling ↔
      spelling = [operator.sign] ∨ spelling.map Char.toLower = operator.word := by
  cases operator <;> rfl

def initials (operator : Operator) : List Char := operator.sign :: operator.word.take 1

theorem initials_disjoint {operator other : Operator} (different : operator ≠ other) :
    ∀ character ∈ operator.initials, character ∉ other.initials := by
  cases operator <;> cases other <;> simp [initials, sign, word] at different ⊢

theorem initials_plain (operator : Operator) :
    ∀ character ∈ ['(', ')', '{', '}', ' '], character.toLower ∉ operator.initials := by
  cases operator <;> simp [initials, sign, word]

theorem word_ne_nil (operator : Operator) : operator.word ≠ [] := by
  cases operator <;> decide

theorem word_head (operator : Operator) : operator.word.head? ≠ some operator.sign.toLower := by
  cases operator <;> decide

theorem Spells.begins {operator : Operator} {spelling : Text} (spells : operator.Spells spelling) :
    ∃ first more, spelling = first :: more ∧ first.toLower ∈ operator.initials := by
  rcases spells_iff.mp spells with rfl | word
  · exact ⟨operator.sign, [], rfl, by cases operator <;> decide⟩
  · cases spelling with
    | nil => cases operator <;> cases word
    | cons first more =>
        refine ⟨first, more, rfl, ?_⟩
        rw [initials, ← word]
        simp

theorem spelling?_eq_some_iff {operator : Operator} {text : Text} {length : Nat} :
    operator.spelling? text = some length ↔
      ∃ spelling rest, text = spelling ++ rest ∧ operator.Spells spelling ∧
        length = spelling.length := by
  constructor
  · intro found
    unfold spelling? at found
    split at found
    · rename_i signed
      obtain ⟨rest, rfl⟩ := List.head?_eq_some_iff.mp signed
      cases found
      exact ⟨[operator.sign], rest, rfl, spells_iff.mpr (.inl rfl), rfl⟩
    · split at found
      · rename_i worded
        cases found
        refine ⟨text.take operator.word.length, text.drop operator.word.length,
          (List.take_append_drop ..).symm, spells_iff.mpr (.inr worded), ?_⟩
        simpa using congrArg List.length worded.symm
      · cases found
  · rintro ⟨spelling, rest, rfl, spells, rfl⟩
    rcases spells_iff.mp spells with rfl | word
    · simp [spelling?]
    · have unsigned : (spelling ++ rest).head? ≠ some operator.sign := by
        intro signed
        obtain ⟨rest', same⟩ := List.head?_eq_some_iff.mp signed
        cases spelling with
        | nil => exact operator.word_ne_nil word.symm
        | cons first more =>
            cases same
            exact operator.word_head (by rw [← word]; rfl)
      have worded : operator.WordBegins (spelling ++ rest) := by
        have length : operator.word.length = spelling.length := by simp [← word]
        simp [WordBegins, length, word]
      rw [spelling?, if_neg unsigned, if_pos worded, ← word, List.length_map]

theorem spelling?_unique {operator other : Operator} {text : Text} {length width : Nat}
    (first : operator.spelling? text = some length) (second : other.spelling? text = some width) :
    operator = other := by
  obtain ⟨spelling, rest, rfl, spells, -⟩ := spelling?_eq_some_iff.mp first
  obtain ⟨spelling', rest', same, spells', -⟩ := spelling?_eq_some_iff.mp second
  obtain ⟨head, more, rfl, initial⟩ := spells.begins
  obtain ⟨head', more', rfl, initial'⟩ := spells'.begins
  obtain ⟨rfl, -⟩ := List.cons.inj same
  by_contra different
  exact initials_disjoint different _ initial initial'

theorem leading?_eq_some_iff {text : Text} {operator : Operator} {length : Nat} :
    leading? text = some (operator, length) ↔
      ∃ spelling rest, text = spelling ++ rest ∧ operator.Spells spelling ∧
        length = spelling.length := by
  rw [← spelling?_eq_some_iff]
  constructor
  · intro found
    obtain ⟨tried, -, found⟩ := List.exists_of_findSome?_eq_some found
    obtain ⟨length, spelled, same⟩ := Option.map_eq_some_iff.mp found
    cases same
    exact spelled
  · intro spelled
    have others : ∀ other, other ≠ operator → other.spelling? text = none := by
      intro other different
      cases found : other.spelling? text with
      | none => rfl
      | some length => exact absurd (spelling?_unique found spelled) different
    cases operator <;> simp [leading?, all, others, spelled]

end Operator

namespace Symbol

inductive Kind.Bare : Kind → Text → Prop where
  | opening : Bare .opening ['(']
  | closing : Bare .closing [')']
  | operator {operator : Operator} {spelling : Text} (spells : operator.Spells spelling) :
      Bare (.operator operator) spelling

theorem Kind.Bare.begins {kind : Kind} {spelling : Text} (bare : Kind.Bare kind spelling) :
    ∃ first more, spelling = first :: more ∧ first ≠ '{' := by
  cases bare with
  | opening => exact ⟨'(', [], rfl, by decide⟩
  | closing => exact ⟨')', [], rfl, by decide⟩
  | @operator operator _ spells =>
      obtain ⟨first, more, rfl, initial⟩ := spells.begins
      refine ⟨first, more, rfl, ?_⟩
      rintro rfl
      exact operator.initials_plain '{' (by simp) initial

theorem bare?_eq_some_iff {column : Nat} {text : Text} {symbol : Symbol} :
    bare? column text = some symbol ↔
      ∃ kind spelling rest, text = spelling ++ rest ∧ Kind.Bare kind spelling ∧
        symbol = ⟨kind, column, spelling.length⟩ := by
  constructor
  · intro found
    unfold bare? at found
    split at found
    · rename_i begins
      obtain ⟨rest, rfl⟩ := List.head?_eq_some_iff.mp begins
      cases found
      exact ⟨.opening, ['('], rest, rfl, .opening, rfl⟩
    · rename_i begins
      obtain ⟨rest, rfl⟩ := List.head?_eq_some_iff.mp begins
      cases found
      exact ⟨.closing, [')'], rest, rfl, .closing, rfl⟩
    · obtain ⟨⟨operator, length⟩, leading, rfl⟩ := Option.map_eq_some_iff.mp found
      obtain ⟨spelling, rest, rfl, spells, rfl⟩ := Operator.leading?_eq_some_iff.mp leading
      exact ⟨.operator operator, spelling, rest, rfl, .operator spells, rfl⟩
  · rintro ⟨kind, spelling, rest, rfl, bare, rfl⟩
    cases bare with
    | opening => rfl
    | closing => rfl
    | @operator operator _ spells =>
        have leading := Operator.leading?_eq_some_iff.mpr ⟨spelling, rest, rfl, spells, rfl⟩
        obtain ⟨first, more, rfl, initial⟩ := spells.begins
        unfold bare?
        split
        · rename_i begins
          cases begins
          exact absurd initial (operator.initials_plain '(' (by simp))
        · rename_i begins
          cases begins
          exact absurd initial (operator.initials_plain ')' (by simp))
        · rw [leading]
          rfl

def signs : List Char := '(' :: ')' :: Operator.all.map Operator.sign

theorem begins_of_bare? {column : Nat} {text : Text} {symbol : Symbol}
    (found : bare? column text = some symbol) :
    (∃ first ∈ signs, text.head? = some first) ∨
      ∃ operator : Operator, operator.word <+: text.map Char.toLower := by
  obtain ⟨kind, spelling, rest, rfl, bare, -⟩ := bare?_eq_some_iff.mp found
  cases bare with
  | opening => exact .inl ⟨'(', by decide, rfl⟩
  | closing => exact .inl ⟨')', by decide, rfl⟩
  | @operator operator _ spells =>
      rcases Operator.spells_iff.mp spells with rfl | word
      · exact .inl ⟨operator.sign, by cases operator <;> decide, rfl⟩
      · exact .inr ⟨operator, rest.map Char.toLower, by rw [List.map_append, word]⟩

theorem word_plain (operator : Operator) :
    ∀ character ∈ operator.word, character ∉ '{' :: signs.map Char.toLower := by
  cases operator <;> simp [Operator.word, signs, Operator.all, Operator.sign]

theorem Kind.Bare.tail_worded {kind : Kind} {first : Char} {more : Text}
    (bare : Kind.Bare kind (first :: more)) {character : Char} (member : character ∈ more) :
    ∃ operator : Operator, character.toLower ∈ operator.word := by
  cases bare with
  | opening => cases member
  | closing => cases member
  | @operator operator _ spells =>
      refine ⟨operator, ?_⟩
      rcases Operator.spells_iff.mp spells with sign | word
      · obtain ⟨-, rfl⟩ := List.cons.inj sign
        cases member
      · rw [← word]
        exact List.mem_map_of_mem (List.mem_cons_of_mem first member)

theorem Kind.Bare.plain {kind : Kind} {spelling : Text} (bare : Kind.Bare kind spelling) :
    '{' ∉ spelling := by
  obtain ⟨first, more, rfl, other⟩ := bare.begins
  intro member
  rcases List.mem_cons.mp member with rfl | member
  · exact other rfl
  · obtain ⟨operator, letter⟩ := bare.tail_worded member
    exact word_plain operator '{' letter (List.mem_cons_self ..)

/-- No word begins inside another word, whatever stands behind it. -/
theorem no_word_inside (operator : Operator) {other : Operator} {tail : Text}
    (inside : tail <:+ operator.word.tail) (proper : tail ≠ []) (more : Text) :
    ¬ other.word <+: tail ++ more := by
  cases operator <;>
    simp only [Operator.word, List.tail_cons, List.suffix_cons_iff, List.suffix_nil] at inside
  · rcases inside with rfl | rfl | rfl
    · cases other <;> simp [Operator.word]
    · cases other <;> simp [Operator.word]
    · exact absurd rfl proper
  · rcases inside with rfl | rfl | rfl
    · cases other <;> simp [Operator.word]
    · cases other <;> simp [Operator.word]
    · exact absurd rfl proper
  · rcases inside with rfl | rfl
    · cases other <;> simp [Operator.word]
    · exact absurd rfl proper

theorem bare?_inside {operator : Operator} {first next : Char} {front tail : Text}
    (spells : operator.Spells (first :: (front ++ next :: tail))) (column : Nat) (rest : Text) :
    next ≠ '{' ∧ bare? column (next :: (tail ++ rest)) = none := by
  rcases Operator.spells_iff.mp spells with sign | word
  · simp at sign
  · have letter : next.toLower ∈ operator.word := by
      rw [← word]
      simp
    have plain := word_plain operator next.toLower letter
    constructor
    · rintro rfl
      exact plain (by decide)
    · cases found : bare? column (next :: (tail ++ rest)) with
      | none => rfl
      | some symbol =>
          rcases begins_of_bare? found with ⟨first, member, begins⟩ | ⟨other, begins⟩
          · cases begins
            exact absurd (List.mem_cons_of_mem _ (List.mem_map_of_mem member)) plain
          · rw [← List.cons_append, List.map_append] at begins
            refine absurd begins (no_word_inside operator ?_ (by simp) _)
            rw [← word]
            exact ⟨front.map Char.toLower, by simp⟩

end Symbol
end TagQuery

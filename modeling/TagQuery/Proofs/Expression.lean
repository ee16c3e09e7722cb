import TagQuery.Proofs.Recognition
import TagQuery.Proofs.Tags
import TagQuery.Proofs.Writing

namespace TagQuery

open TagQuery.Symbol (Kind)
open Grammar

/-- A boolean expression over tags. The name of a tag has no `}`, which would end its literal. -/
inductive Expression where
  | tag (name : Text) (whole : '}' ∉ name)
  | negation (inner : Expression)
  | conjunction (left right : Expression)
  | disjunction (left right : Expression)
  deriving DecidableEq, Repr

namespace Expression

def holds (item : Item) : Expression → Bool
  | tag name _ => item.Carries name
  | negation inner => !inner.holds item
  | conjunction left right => left.holds item && right.holds item
  | disjunction left right => left.holds item || right.holds item

/-- The kinds of an expression as the left operand of an operator: in a group unless it is a tag. -/
def grouped (kinds : List Kind) : Expression → List Kind
  | tag _ _ => kinds
  | _ => .opening :: (kinds ++ [.closing])

def kinds : Expression → List Kind
  | tag name _ => [.literal (Text.braced name)]
  | negation inner => .operator .not :: inner.kinds
  | conjunction left right => left.grouped left.kinds ++ .operator .and :: right.kinds
  | disjunction left right => left.grouped left.kinds ++ .operator .or :: right.kinds

/-- The query writes the expression, with any number of spaces at each side of a symbol. -/
def Printed (expression : Expression) (query : Text) : Prop :=
  Written (· = ' ') expression.kinds query

theorem operand_tag {item : Item} (plain : item.BraceFree) {name : Text} (whole : '}' ∉ name) :
    Operand item.searchedText (tag name whole).kinds ((tag name whole).holds item) := by
  refine .literal ?_
  rw [Item.braced_infix_searchedText_iff plain whole, holds, decide_eq_true_iff]

theorem operand_grouped {item : Item} (plain : item.BraceFree) {expression : Expression}
    (phrase : Phrase item.searchedText expression.kinds (expression.holds item)) :
    Operand item.searchedText (expression.grouped expression.kinds) (expression.holds item) := by
  cases expression with
  | tag name whole => exact operand_tag plain whole
  | negation => exact .group phrase
  | conjunction => exact .group phrase
  | disjunction => exact .group phrase

theorem phrase_kinds {item : Item} (plain : item.BraceFree) (expression : Expression) :
    Phrase item.searchedText expression.kinds (expression.holds item) := by
  induction expression with
  | tag name whole => exact .single (operand_tag plain whole)
  | negation inner phrase => exact .negated phrase
  | conjunction left right operand phrase =>
      exact .joined .and (operand_grouped plain operand) phrase
  | disjunction left right operand phrase =>
      exact .joined .or (operand_grouped plain operand) phrase

theorem quiet_of_eq (character : Char) (space : character = ' ') : Quiet character := by
  rw [space]
  exact quiet_space

theorem Printed.kinds_eq {expression : Expression} {query : Text}
    (printed : expression.Printed query) : Query.kinds query = expression.kinds :=
  Query.kinds_of_written quiet_of_eq printed 1

theorem count_of_written {literal query : Text}
    (written : Written (· = ' ') [.literal literal] query) : query.count '}' = 1 := by
  have closed {gap : Text} (spaces : ∀ character ∈ gap, character = ' ') : gap.count '}' = 0 := by
    rw [List.count_eq_zero]
    intro member
    exact absurd (spaces '}' member) (by decide)
  cases written with
  | symbol spaces spelled more =>
      cases more with
      | done spaces' =>
          cases spelled with
          | bare bare => cases bare
          | literal whole =>
              rw [List.count_append, List.count_append, closed spaces, closed spaces']
              simp [Text.braced, List.count_eq_zero.mpr whole]

theorem Printed.ne_everything {expression : Expression} {query : Text}
    (printed : expression.Printed query) : query ≠ Query.everything := by
  rintro rfl
  have found := printed.kinds_eq
  have only : Query.kinds Query.everything = [.literal Query.everything.dropLast] := by decide
  rw [Printed, ← found, only] at printed
  have one := count_of_written printed
  exact absurd one (by decide)

theorem Printed.verdict {expression : Expression} {query : Text}
    (printed : expression.Printed query) {item : Item} (plain : item.BraceFree) :
    Query.verdict query item.searchedText = .value (expression.holds item) := by
  rw [Query.verdict_value_iff printed.ne_everything, printed.kinds_eq]
  exact phrase_kinds plain expression

end Expression

namespace Catalog

/-- A query that writes an expression selects the items of which the expression is true, each as
often as it is there and in their order. -/
theorem select_of_printed {expression : Expression} {query : Text}
    (printed : expression.Printed query) {items : List Item}
    (plain : ∀ item ∈ items, item.BraceFree) :
    select query items = items.filter (expression.holds ·) := by
  apply List.filter_congr
  intro item member
  rw [Item.satisfies, Query.selects, printed.verdict (plain item member)]
  simp

theorem select_negated_tag :
    let expression : Expression :=
      .conjunction (.negation (.tag "sans".toList (by decide))) (.tag "ui".toList (by decide))
    let items : List Item := [⟨"Fira".toList, ["sans".toList, "ui".toList]⟩,
      ⟨"Iosevka".toList, ["mono".toList, "ui".toList]⟩, ⟨"Neue".toList, []⟩]
    expression.Printed "(not {sans})  And{ui}".toList ∧ (∀ item ∈ items, item.BraceFree) ∧
      select "(not {sans})  And{ui}".toList items =
        [⟨"Iosevka".toList, ["mono".toList, "ui".toList]⟩] := by
  intro expression items
  have plain : ∀ item ∈ items, item.BraceFree := by decide
  have printed : expression.Printed "(not {sans})  And{ui}".toList := by
    refine @Written.symbol _ [] ['('] _ _ _ (by simp) (.bare .opening) ?_
    refine @Written.symbol _ [] "not".toList _ _ _ (by simp) (.bare (.operator (.inr rfl))) ?_
    refine @Written.symbol _ [' '] _ _ _ _ (by simp) (.literal (by decide)) ?_
    refine @Written.symbol _ [] [')'] _ _ _ (by simp) (.bare .closing) ?_
    refine @Written.symbol _ "  ".toList "And".toList _ _ _ (by simp)
      (.bare (.operator (.inr rfl))) ?_
    exact @Written.symbol _ [] _ _ _ _ (by simp) (.literal (by decide)) (.done (by simp))
  refine ⟨printed, plain, ?_⟩
  rw [select_of_printed printed plain]
  decide

end Catalog
end TagQuery

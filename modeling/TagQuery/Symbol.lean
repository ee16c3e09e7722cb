import TagQuery.Text

namespace TagQuery

inductive Operator where
  | not
  | and
  | or
  deriving DecidableEq, Repr

namespace Operator

/-- Every operator, in the order in which their spellings are tried. -/
def all : List Operator := [.not, .or, .and]

def sign : Operator → Char
  | .not => '!'
  | .and => '&'
  | .or => '|'

def word : Operator → Text
  | .not => ['n', 'o', 't']
  | .and => ['a', 'n', 'd']
  | .or => ['o', 'r']

/-- The text begins with the word of the operator, whatever the case of its ASCII letters.
What follows the word does not matter, so a word is also found inside a longer one. -/
def WordBegins (operator : Operator) (text : Text) : Prop :=
  (text.take operator.word.length).map Char.toLower = operator.word

instance (operator : Operator) (text : Text) : Decidable (operator.WordBegins text) :=
  inferInstanceAs (Decidable (_ = _))

def spelling? (operator : Operator) (text : Text) : Option Nat :=
  if text.head? = some operator.sign then some 1
  else if operator.WordBegins text then some operator.word.length
  else none

def leading? (text : Text) : Option (Operator × Nat) :=
  all.findSome? fun operator => (operator.spelling? text).map fun length => (operator, length)

end Operator

/-- What a symbol stands for. A literal keeps its braces, because they are searched for too. -/
inductive Symbol.Kind where
  | literal (text : Text)
  | opening
  | closing
  | operator (operator : Operator)
  deriving DecidableEq, Repr

/-- A symbol covers `length` characters of the query from `column` on, the first column being 1. -/
structure Symbol where
  kind : Symbol.Kind
  column : Nat
  length : Nat
  deriving DecidableEq, Repr

def Symbol.bare? (column : Nat) (text : Text) : Option Symbol :=
  match text.head? with
  | some '(' => some ⟨.opening, column, 1⟩
  | some ')' => some ⟨.closing, column, 1⟩
  | _ => (Operator.leading? text).map fun (operator, length) => ⟨.operator operator, column, length⟩

end TagQuery

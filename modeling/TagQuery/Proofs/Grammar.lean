import TagQuery.Query

namespace TagQuery

inductive Operator.Joins : Operator → (Bool → Bool → Bool) → Prop where
  | and : Joins .and Bool.and
  | or : Joins .or Bool.or

namespace Grammar

inductive Category where
  | operand
  | phrase
  deriving DecidableEq, Repr

/-- The kinds form an operand or a phrase, with its value about the text. -/
inductive Derives (text : Text) : Category → List Symbol.Kind → Bool → Prop where
  | literal {literal : Text} {value : Bool} (found : value = true ↔ literal <:+: text) :
      Derives text .operand [.literal literal] value
  | group {kinds : List Symbol.Kind} {value : Bool} (inner : Derives text .phrase kinds value) :
      Derives text .operand (.opening :: (kinds ++ [.closing])) value
  | single {kinds : List Symbol.Kind} {value : Bool} (operand : Derives text .operand kinds value) :
      Derives text .phrase kinds value
  | joined {operator : Operator} {join : Bool → Bool → Bool} {before after : List Symbol.Kind}
      {left right : Bool} (joins : operator.Joins join)
      (operand : Derives text .operand before left) (phrase : Derives text .phrase after right) :
      Derives text .phrase (before ++ .operator operator :: after) (join left right)
  | negated {kinds : List Symbol.Kind} {value : Bool} (phrase : Derives text .phrase kinds value) :
      Derives text .phrase (.operator .not :: kinds) (!value)

abbrev Operand (text : Text) : List Symbol.Kind → Bool → Prop := Derives text .operand

abbrev Phrase (text : Text) : List Symbol.Kind → Bool → Prop := Derives text .phrase

end Grammar

namespace Query

def kinds (query : Text) : List Symbol.Kind := (symbols query).map Symbol.kind

end Query
end TagQuery

import TagQuery.Stack
import TagQuery.Text.Quoted

/-!
The log of a debugging run: the symbols of the query, and the events of its evaluations. How a
record of the log is written, with the time of the event in front of it and with codes for a
terminal, is not settled here but left to the layout of the log.
-/
namespace TagQuery
namespace Log

def truth : Bool → Text
  | true => "true".toList
  | false => "false".toList

def operatorName : Operator → Text
  | .not => "Op(Not)".toList
  | .and => "Op(And)".toList
  | .or => "Op(Or)".toList

def termName : Term → Text
  | .value value => "Bool(".toList ++ truth value ++ [')']
  | .operator operator => operatorName operator
  | .opening => "GroupOpen".toList

def kindName : Symbol.Kind → Text
  | .literal text => "Literal(".toList ++ text.quoted ++ [')']
  | .opening => "GroupOpen".toList
  | .closing => "GroupClose".toList
  | .operator operator => operatorName operator

def symbolLine (symbol : Symbol) : Text :=
  "Symbol \x7b kind: ".toList ++ kindName symbol.kind ++ ", column: ".toList ++
    Text.decimal symbol.column ++ ", len: ".toList ++ Text.decimal symbol.length ++
    " \x7d\n".toList

structure Record where
  level : Text
  place : Text
  message : Text
  parts : List (Text × Text)
  deriving DecidableEq, Repr

def evaluating (message : String) (parts : List (String × Text)) : Record :=
  ⟨"TRACE".toList, "fontcat::query::evaluator".toList, message.toList,
    parts.map fun (name, value) => (name.toList, value)⟩

def record : Event → Record
  | .literal text found =>
    evaluating "literal" [("literal", text.quoted), ("found", truth found)]
  | .pushed term column depth =>
    evaluating "push" [("item", termName term), ("column", Text.decimal column),
      ("depth", Text.decimal depth)]
  | .reduced operator result =>
    evaluating "reduced" [("op", operatorName operator), ("result", truth result)]
  | .closed value column =>
    evaluating "group closed" [("value", truth value), ("column", Text.decimal column)]
  | .malformed query fault =>
    ⟨"DEBUG".toList, "fontcat::query".toList, "malformed query treated as no match".toList,
      [("query".toList, query.quoted), ("error".toList, fault.message)]⟩

/-- How the records of a log are written. They are numbered from 0 on through the whole run, so each
may bear a time of its own. -/
abbrev Layout := Nat → Record → Text

namespace Layout

def plain : Layout := fun _ record =>
  record.level ++ [' '] ++ record.place ++ ": ".toList ++ record.message ++
    record.parts.flatMap (fun (name, value) => [' '] ++ name ++ ['='] ++ value) ++ ['\n']

end Layout
end Log
end TagQuery

import TagQuery.Query
import TagQuery.Text.Style

namespace TagQuery

inductive Severity where
  | error
  | warning
  deriving DecidableEq, Repr

namespace Severity

def label : Severity → Text
  | error => "error: ".toList
  | warning => "warning: ".toList

def color : Severity → Color
  | error => .red
  | warning => .yellow

end Severity

structure Span where
  column : Nat
  width : Nat
  deriving DecidableEq, Repr

structure Diagnostic where
  severity : Severity
  message : Text
  span? : Option Span
  deriving DecidableEq, Repr

namespace Diagnostic

def widthAt (symbols : List Symbol) (column : Nat) : Nat :=
  ((symbols.find? fun symbol => symbol.column = column).map Symbol.length).getD 1

def ofFault (query : Text) (fault : Fault) : Diagnostic where
  severity := .error
  message := fault.message
  span? := fault.column?.map fun column => ⟨column, widthAt (Query.symbols query) column⟩

def pending? (query : Text) : Option Diagnostic :=
  (Query.pending? query).map fun column =>
    ⟨.warning, "tag literal is never closed and will be ignored".toList,
      some ⟨column, query.length + 1 - column⟩⟩

def ofMessage (message : Text) : Diagnostic := ⟨.error, message, none⟩

def queryLabel : Text := "query:  ".toList

def caretLine (colored : Bool) (span : Span) : Text :=
  List.replicate (queryLabel.length + span.column - 1) ' ' ++
    (Style.tinted .yellow).paint colored (List.replicate (max span.width 1) '^') ++ ['\n']

def picture (colored : Bool) (query : Text) (span : Span) : Text :=
  (⟨true, true, none⟩ : Style).paint colored queryLabel ++ query ++ ['\n'] ++ caretLine colored span

def sentence (colored : Bool) (diagnostic : Diagnostic) : Text :=
  (Style.strongTinted diagnostic.severity.color).paint colored diagnostic.severity.label ++
    Style.strong.paint colored diagnostic.message ++ ['\n']

/-- A diagnostic as it is printed. One with a picture keeps an empty line between itself and a
diagnostic printed before it. -/
def rendered (colored : Bool) (query : Text) (first : Bool) (diagnostic : Diagnostic) : Text :=
  match diagnostic.span? with
  | none => diagnostic.sentence colored
  | some span =>
    (if first then [] else ['\n']) ++ picture colored query span ++ diagnostic.sentence colored

end Diagnostic
end TagQuery

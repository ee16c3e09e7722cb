import TagQuery.Scanner
import TagQuery.Stack

namespace TagQuery
namespace Query

/-- The query that selects every text. It is recognised as a whole and never scanned. -/
def everything : Text := Text.braced (Text.braced "All Fonts".toList)

def symbols (query : Text) : List Symbol := Scanner.symbolsFrom none 1 query

def pending? (query : Text) : Option Nat := (Scanner.captureAfter none 1 query).map Capture.column

def endColumn (query : Text) : Nat := query.length + 1

def evaluate (query text : Text) : Evaluation :=
  if query = everything then ⟨[], .value true⟩
  else Stack.evaluate text (endColumn query) (symbols query) []

def verdict (query text : Text) : Verdict := (evaluate query text).verdict

/-- The query selects the text. A malformed query selects none, so that a query which is still being
typed hides everything until it is well-formed. -/
def selects (query text : Text) : Bool := verdict query text = .value true

/-- All that is recorded when a query is tried on a text: its evaluation, and then its fault. -/
def events (query text : Text) : List Event :=
  let evaluation := evaluate query text
  match evaluation.verdict with
  | .value _ => evaluation.events
  | .malformed fault => evaluation.events ++ [.malformed query fault]

end Query
end TagQuery

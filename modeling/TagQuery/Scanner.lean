import TagQuery.Symbol

/-!
Scanning a query. A `{` starts a literal, which ends at the next `}` whatever stands between
them. Outside literals a symbol is recognised at every character, and a character that begins none
is passed over. The scan goes on at the next character and not behind the symbol, which is harmless
because no spelling has another one inside.
-/
namespace TagQuery

/-- A literal that has been started at `column`, with its characters so far, the latest first. -/
structure Capture where
  column : Nat
  reversed : Text
  deriving DecidableEq, Repr

namespace Capture

def start (column : Nat) : Capture := ⟨column, ['{']⟩

def extend (capture : Capture) (character : Char) : Capture :=
  { capture with reversed := character :: capture.reversed }

def complete (capture : Capture) (column : Nat) : Symbol :=
  ⟨.literal (capture.extend '}').reversed.reverse, capture.column, column + 1 - capture.column⟩

end Capture

/-- A scan of a query that has come to the text `rest`, which starts at `column`. -/
structure Scanner where
  rest : Text
  column : Nat
  capture : Option Capture
  deriving DecidableEq, Repr

namespace Scanner

def start (query : Text) : Scanner := ⟨query, 1, none⟩

def pending? (scanner : Scanner) : Option Nat := scanner.capture.map Capture.column

/-- Reads the character `head` at `column`, with `tail` after it: the symbol that it begins or ends,
and the literal that is being captured afterwards. -/
def read (capture : Option Capture) (column : Nat) (head : Char) (tail : Text) :
    Option Symbol × Option Capture :=
  match capture with
  | some started =>
    if head = '}' then (some (started.complete column), none)
    else (none, some (started.extend head))
  | none =>
    if head = '{' then (none, some (Capture.start column))
    else (Symbol.bare? column (head :: tail), none)

def nextFrom (capture : Option Capture) (column : Nat) : Text → Option Symbol × Scanner
  | [] => (none, ⟨[], column, capture⟩)
  | head :: tail =>
    match read capture column head tail with
    | (some symbol, capture) => (some symbol, ⟨tail, column + 1, capture⟩)
    | (none, capture) => nextFrom capture (column + 1) tail

def next (scanner : Scanner) : Option Symbol × Scanner :=
  nextFrom scanner.capture scanner.column scanner.rest

def symbolsFrom (capture : Option Capture) (column : Nat) : Text → List Symbol
  | [] => []
  | head :: tail =>
    match read capture column head tail with
    | (some symbol, capture) => symbol :: symbolsFrom capture (column + 1) tail
    | (none, capture) => symbolsFrom capture (column + 1) tail

def captureAfter (capture : Option Capture) (column : Nat) : Text → Option Capture
  | [] => capture
  | head :: tail => captureAfter (read capture column head tail).2 (column + 1) tail

end Scanner
end TagQuery

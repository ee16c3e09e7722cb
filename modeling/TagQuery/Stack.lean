import TagQuery.Symbol

/-!
The evaluation of symbols on a stack. A reduction combines the value on top with what lies below it,
so `a & b | c` means `a & (b | c)` and a negation takes in everything to its right. A closing
parenthesis reduces the innermost group at once; everything else waits on the stack until its group
is closed or the query ends.
-/
namespace TagQuery

inductive Term where
  | value (value : Bool)
  | operator (operator : Operator)
  | opening
  deriving DecidableEq, Repr

structure Entry where
  term : Term
  column : Nat
  deriving DecidableEq, Repr

/-- The entries of an evaluation, the latest first. -/
abbrev Stack := List Entry

/-- Why a query is malformed. Columns are those of the symbol to blame. -/
inductive Fault where
  | missingOperand (column : Nat)
  | unopenedGroup (column : Nat)
  | danglingOperator (column : Nat)
  | unclosedGroup (column : Nat)
  | emptyQuery
  deriving DecidableEq, Repr

namespace Fault

def column? : Fault → Option Nat
  | missingOperand column => some column
  | unopenedGroup column => some column
  | danglingOperator column => some column
  | unclosedGroup column => some column
  | emptyQuery => none

def message : Fault → Text
  | missingOperand column => "missing operand near column ".toList ++ Text.decimal column
  | unopenedGroup column =>
    "`)` at column ".toList ++ Text.decimal column ++ " does not close any group".toList
  | danglingOperator column =>
    "operator at column ".toList ++ Text.decimal column ++ " has no operand".toList
  | unclosedGroup column =>
    "group opened at column ".toList ++ Text.decimal column ++ " is never closed".toList
  | emptyQuery => "query contains no tag literal".toList

end Fault

inductive Event where
  | literal (text : Text) (found : Bool)
  /-- A term has been put on the stack, which then has `depth` entries. -/
  | pushed (term : Term) (column depth : Nat)
  | reduced (operator : Operator) (result : Bool)
  /-- The group opened at `column` has been replaced by its value. -/
  | closed (value : Bool) (column : Nat)
  | malformed (query : Text) (fault : Fault)
  deriving DecidableEq, Repr

inductive Verdict where
  | value (value : Bool)
  | malformed (fault : Fault)
  deriving DecidableEq, Repr

structure Evaluation where
  events : List Event
  verdict : Verdict
  deriving DecidableEq, Repr

def Evaluation.after (events : List Event) (evaluation : Evaluation) : Evaluation :=
  { evaluation with events := events ++ evaluation.events }

def Entry.verdict : Entry → Verdict
  | ⟨.value value, _⟩ => .value value
  | ⟨.operator _, column⟩ => .malformed (.danglingOperator column)
  | ⟨.opening, column⟩ => .malformed (.unclosedGroup column)

namespace Stack

def hasOpening (stack : Stack) : Bool := stack.any fun entry => entry.term = .opening

/-- What one reduction does to a stack. A failed one keeps nothing of what it has taken off. -/
inductive Reduction where
  | applied (operator : Operator) (result : Bool) (stack : Stack)
  | closed (value : Bool) (column : Nat) (stack : Stack)
  | failed (fault : Fault) (stack : Stack)
  deriving DecidableEq, Repr

def joinLeft (operator : Operator) (join : Bool → Bool → Bool) (column : Nat) (right : Bool) :
    Stack → Reduction
  | ⟨.value left, _⟩ :: below =>
    .applied operator (join left right) (⟨.value (join left right), column⟩ :: below)
  | stack => .failed (.missingOperand column) stack.tail

def reduceValue (fallback : Nat) (right : Bool) : Stack → Reduction
  | [] => .failed (.missingOperand fallback) []
  | ⟨.value _, column⟩ :: below => .failed (.missingOperand column) below
  | ⟨.opening, column⟩ :: below => .closed right column (⟨.value right, column⟩ :: below)
  | ⟨.operator .not, column⟩ :: below =>
    .applied .not (!right) (⟨.value (!right), column⟩ :: below)
  | ⟨.operator .and, column⟩ :: below => joinLeft .and and column right below
  | ⟨.operator .or, column⟩ :: below => joinLeft .or or column right below

/-- One reduction. A fault for which no entry is to blame is placed at the column `fallback`. -/
def reduce (fallback : Nat) : Stack → Reduction
  | [] => .failed (.missingOperand fallback) []
  | ⟨.operator _, column⟩ :: below => .failed (.danglingOperator column) below
  | ⟨.opening, column⟩ :: below => .failed (.missingOperand column) below
  | ⟨.value right, _⟩ :: below => reduceValue fallback right below

theorem length_lt_of_applied {fallback : Nat} {stack rest : Stack} {operator : Operator}
    {result : Bool} (applied : stack.reduce fallback = .applied operator result rest) :
    rest.length < stack.length := by
  unfold reduce reduceValue joinLeft at applied
  split at applied <;> (try split at applied) <;> (try split at applied) <;> simp_all <;>
    simp [← applied.2.2]

structure Outcome where
  events : List Event
  stack : Stack
  fault? : Option Fault
  deriving DecidableEq, Repr

def Outcome.after (events : List Event) (outcome : Outcome) : Outcome :=
  { outcome with events := events ++ outcome.events }

def closeInnermost (column : Nat) (stack : Stack) : Outcome :=
  match _reduced : stack.reduce column with
  | .applied operator result rest =>
    (closeInnermost column rest).after [.reduced operator result]
  | .closed value opened rest => ⟨[.closed value opened], rest, none⟩
  | .failed fault rest => ⟨[], rest, some fault⟩
termination_by stack.length
decreasing_by exact length_lt_of_applied (by assumption)

/-- Reduces what is left at the end of a query to one value. A group that is met here has never been
closed, even if all that it holds has a value. -/
def settle (endColumn : Nat) : Stack → Evaluation
  | [] => ⟨[], .malformed .emptyQuery⟩
  | [entry] => ⟨[], entry.verdict⟩
  | top :: next :: below =>
    if top.term = .opening then ⟨[], .malformed (.unclosedGroup top.column)⟩
    else
      match _reduced : reduce endColumn (top :: next :: below) with
      | .applied operator result rest => (settle endColumn rest).after [.reduced operator result]
      | .closed value column _ => ⟨[.closed value column], .malformed (.unclosedGroup column)⟩
      | .failed fault _ => ⟨[], .malformed fault⟩
termination_by stack => stack.length
decreasing_by exact length_lt_of_applied (by assumption)

def push (term : Term) (column : Nat) (stack : Stack) : Outcome :=
  ⟨[.pushed term column (stack.length + 1)], ⟨term, column⟩ :: stack, none⟩

/-- Reads one symbol of a query about `text`. A closing parenthesis with no group to close leaves
the stack as it is. -/
def accept (text : Text) (symbol : Symbol) (stack : Stack) : Outcome :=
  match symbol.kind with
  | .literal literal =>
    let found := literal.occurs text
    (stack.push (.value found) symbol.column).after [.literal literal found]
  | .opening => stack.push .opening symbol.column
  | .operator operator => stack.push (.operator operator) symbol.column
  | .closing =>
    if stack.hasOpening then stack.closeInnermost symbol.column
    else ⟨[], stack, some (.unopenedGroup symbol.column)⟩

def read (text : Text) (stack : Stack) : List Symbol → Outcome
  | [] => ⟨[], stack, none⟩
  | symbol :: symbols =>
    let outcome := stack.accept text symbol
    match outcome.fault? with
    | some _ => outcome
    | none => (read text outcome.stack symbols).after outcome.events

/-- Reads symbols to the last one, going on after faults with what they leave. -/
def readOn (text : Text) (stack : Stack) (symbols : List Symbol) : Stack :=
  symbols.foldl (fun stack symbol => (stack.accept text symbol).stack) stack

def evaluate (text : Text) (endColumn : Nat) (symbols : List Symbol) (stack : Stack) :
    Evaluation :=
  let outcome := stack.read text symbols
  match outcome.fault? with
  | some fault => ⟨outcome.events, .malformed fault⟩
  | none => (outcome.stack.settle endColumn).after outcome.events

end Stack
end TagQuery

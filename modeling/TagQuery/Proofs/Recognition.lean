import TagQuery.Proofs.Chain

/-!
A query has a value exactly when the kinds of its symbols form a phrase, and the value is the
phrase's. In one direction a derivation says what reading its symbols puts on the stack; in the
other every stack that is reached without a fault stands for the kinds that have been read.
-/
namespace TagQuery
namespace Stack

open Grammar

theorem read_cons {text : Text} {stack : Stack} {symbol : Symbol}
    (accepted : (stack.accept text symbol).fault? = none) (symbols : List Symbol) :
    stack.read text (symbol :: symbols) =
      ((stack.accept text symbol).stack.read text symbols).after
        (stack.accept text symbol).events := by
  simp only [read, accepted]

theorem accepted_of_read {text : Text} {stack : Stack} {symbol : Symbol} {symbols : List Symbol}
    (accepted : (stack.read text (symbol :: symbols)).fault? = none) :
    (stack.accept text symbol).fault? = none ∧
      ((stack.accept text symbol).stack.read text symbols).fault? = none := by
  cases first : (stack.accept text symbol).fault? with
  | some fault => simp [read, first] at accepted
  | none =>
      rw [read_cons first] at accepted
      exact ⟨rfl, accepted⟩

theorem read_append {text : Text} {stack : Stack} {front : List Symbol}
    (accepted : (stack.read text front).fault? = none) (back : List Symbol) :
    stack.read text (front ++ back) =
      ((stack.read text front).stack.read text back).after (stack.read text front).events := by
  induction front generalizing stack with
  | nil => simp [read, Outcome.after]
  | cons symbol front ih =>
      obtain ⟨first, rest⟩ := accepted_of_read accepted
      rw [List.cons_append, read_cons first, read_cons first, ih rest]
      simp only [Outcome.after, List.append_assoc]

/-- The terms stand for the kinds: a value for those of an operand that has it, any other term for
its own kind. -/
inductive Represents (text : Text) : List Symbol.Kind → List Term → Prop where
  | nil : Represents text [] []
  | value {front kinds : List Symbol.Kind} {terms : List Term} {value : Bool}
      (operand : Operand text front value) (rest : Represents text kinds terms) :
      Represents text (front ++ kinds) (.value value :: terms)
  | operator {kinds : List Symbol.Kind} {terms : List Term} (operator : Operator)
      (rest : Represents text kinds terms) :
      Represents text (.operator operator :: kinds) (.operator operator :: terms)
  | opening {kinds : List Symbol.Kind} {terms : List Term} (rest : Represents text kinds terms) :
      Represents text (.opening :: kinds) (.opening :: terms)

namespace Represents

variable {text : Text}

theorem append {first second : List Symbol.Kind} {front back : List Term}
    (left : Represents text first front) (right : Represents text second back) :
    Represents text (first ++ second) (front ++ back) := by
  induction left with
  | nil => exact right
  | value operand _ ih =>
      rw [List.append_assoc]
      exact .value operand ih
  | operator operator _ ih => exact .operator operator ih
  | opening _ ih => exact .opening ih

theorem split {kinds : List Symbol.Kind} {front back : List Term}
    (whole : Represents text kinds (front ++ back)) :
    ∃ first second, kinds = first ++ second ∧ Represents text first front ∧
      Represents text second back := by
  induction front generalizing kinds with
  | nil => exact ⟨[], kinds, rfl, .nil, whole⟩
  | cons term front ih =>
      cases whole with
      | value operand rest =>
          obtain ⟨first, second, rfl, left, right⟩ := ih rest
          exact ⟨_ ++ first, second, by simp, .value operand left, right⟩
      | operator operator rest =>
          obtain ⟨first, second, rfl, left, right⟩ := ih rest
          exact ⟨_ :: first, second, rfl, .operator operator left, right⟩
      | opening rest =>
          obtain ⟨first, second, rfl, left, right⟩ := ih rest
          exact ⟨_ :: first, second, rfl, .opening left, right⟩

theorem value_alone {kinds : List Symbol.Kind} {value : Bool}
    (operand : Operand text kinds value) : Represents text kinds [.value value] := by
  simpa using Represents.value operand .nil

theorem phrase_of_chain {kinds : List Symbol.Kind} {terms : List Term} {value : Bool}
    (represents : Represents text kinds terms) (chain : Chain terms value) :
    Phrase text kinds value := by
  induction chain generalizing kinds with
  | value value =>
      cases represents with
      | value operand rest =>
          cases rest
          rw [List.append_nil]
          exact .single operand
  | joined joins left rest ih =>
      cases represents with
      | value operand rest =>
          cases rest with
          | operator _ rest => exact .joined joins operand (ih rest)
  | negated rest ih =>
      cases represents with
      | operator _ rest => exact .negated (ih rest)

theorem accept {kinds : List Symbol.Kind} {stack : Stack} {symbol : Symbol}
    (represents : Represents text kinds (terms stack))
    (accepted : (stack.accept text symbol).fault? = none) :
    Represents text (kinds ++ [symbol.kind]) (terms (stack.accept text symbol).stack) := by
  unfold Stack.accept at accepted ⊢
  split at accepted
  · rename_i literal kind
    simp only [kind, push, Outcome.after, terms_cons]
    exact represents.append (value_alone (.literal Text.occurs_iff))
  · rename_i kind
    simp only [kind, push, terms_cons]
    exact represents.append (.opening .nil)
  · rename_i operator kind
    simp only [kind, push, terms_cons]
    exact represents.append (.operator operator .nil)
  · rename_i kind
    split at accepted
    · rename_i present
      obtain ⟨group, opened, lower, value, rfl, chain, closed⟩ := chain_of_closeInnermost accepted
      simp only [kind, present, if_true, closed, terms_cons]
      simp only [terms_append, terms_cons, List.append_assoc] at represents
      obtain ⟨outer, inner, rfl, below, inside⟩ := represents.split
      cases inside with
      | opening inside =>
          rw [List.append_assoc]
          exact below.append (value_alone (.group (inside.phrase_of_chain chain)))
    · cases accepted

theorem read {kinds : List Symbol.Kind} {stack : Stack} {symbols : List Symbol}
    (represents : Represents text kinds (terms stack))
    (accepted : (stack.read text symbols).fault? = none) :
    Represents text (kinds ++ symbols.map Symbol.kind) (terms (stack.read text symbols).stack) := by
  induction symbols generalizing kinds stack with
  | nil => simpa [Stack.read] using represents
  | cons symbol symbols ih =>
      obtain ⟨first, rest⟩ := accepted_of_read accepted
      rw [read_cons first]
      simpa [Outcome.after] using ih (represents.accept first) rest

end Represents

/-- Reading puts on top of the stack what a category stands for there: the value of an operand, or a
chain with the value of a phrase. -/
def Yields (value : Bool) (stack : Stack) (outcome : Outcome) : Category → Prop
  | .operand => outcome.fault? = none ∧ ∃ column, outcome.stack = ⟨.value value, column⟩ :: stack
  | .phrase =>
    outcome.fault? = none ∧ ∃ upper, outcome.stack = upper ++ stack ∧ Chain (terms upper) value

theorem read_opening (text : Text) (stack : Stack) (column length : Nat) (symbols : List Symbol) :
    stack.read text (⟨.opening, column, length⟩ :: symbols) =
      (read text (⟨.opening, column⟩ :: stack) symbols).after
        [.pushed .opening column (stack.length + 1)] := rfl

theorem read_operator (text : Text) (stack : Stack) (operator : Operator) (column length : Nat)
    (symbols : List Symbol) :
    stack.read text (⟨.operator operator, column, length⟩ :: symbols) =
      (read text (⟨.operator operator, column⟩ :: stack) symbols).after
        [.pushed (.operator operator) column (stack.length + 1)] := rfl

theorem accept_closing (text : Text) (group lower : Stack) (column length opened : Nat) :
    accept text ⟨.closing, column, length⟩ (group ++ ⟨.opening, opened⟩ :: lower) =
      closeInnermost column (group ++ ⟨.opening, opened⟩ :: lower) := by
  have present : hasOpening (group ++ ⟨.opening, opened⟩ :: lower) = true := by
    simp [hasOpening]
  simp only [accept, present, if_true]

theorem read_of_derives {text : Text} {category : Category} {kinds : List Symbol.Kind}
    {value : Bool} (derivation : Derives text category kinds value) (stack : Stack)
    (symbols : List Symbol) (shown : symbols.map Symbol.kind = kinds) :
    Yields value stack (stack.read text symbols) category := by
  induction derivation generalizing stack symbols with
  | @literal literal value found =>
      obtain ⟨⟨kind, column, length⟩, rfl, rfl⟩ := List.map_eq_singleton_iff.mp shown
      have same : literal.occurs text = value := by
        rw [Bool.eq_iff_iff, Text.occurs_iff, found]
      subst same
      exact ⟨rfl, column, rfl⟩
  | group inner ih =>
      obtain ⟨⟨kind, opened, length⟩, rest, rfl, rfl, remaining⟩ := List.map_eq_cons_iff.mp shown
      obtain ⟨middle, last, rfl, inside, ending⟩ := List.map_eq_append_iff.mp remaining
      obtain ⟨⟨kind, column, width⟩, rfl, rfl⟩ := List.map_eq_singleton_iff.mp ending
      obtain ⟨accepted, upper, left, chain⟩ := ih (⟨.opening, opened⟩ :: stack) middle inside
      have closes := accept_closing text upper stack column width opened
      obtain ⟨closed, clean⟩ := closeInnermost_of_chain chain column opened stack
      rw [← closes] at closed clean
      rw [read_opening, read_append accepted, left, read_cons clean]
      exact ⟨rfl, opened, closed⟩
  | single operand ih =>
      obtain ⟨accepted, column, left⟩ := ih stack symbols shown
      exact ⟨accepted, [⟨.value _, column⟩], left, .value _⟩
  | @joined operator _ _ _ value _ joins operand phrase first second =>
      obtain ⟨front, rest, rfl, before, remaining⟩ := List.map_eq_append_iff.mp shown
      obtain ⟨⟨kind, column, length⟩, back, rfl, rfl, after⟩ := List.map_eq_cons_iff.mp remaining
      obtain ⟨accepted, place, below⟩ := first stack front before
      obtain ⟨clean, upper, left, chain⟩ :=
        second (⟨.operator operator, column⟩ :: (stack.read text front).stack) back after
      rw [read_append accepted, read_operator]
      refine ⟨clean, upper ++ [⟨.operator operator, column⟩, ⟨.value value, place⟩], ?_, ?_⟩
      · simpa [below, Outcome.after] using left
      · simpa using Chain.joined joins _ chain
  | negated phrase ih =>
      obtain ⟨⟨kind, column, length⟩, rest, rfl, rfl, after⟩ := List.map_eq_cons_iff.mp shown
      obtain ⟨clean, upper, left, chain⟩ := ih (⟨.operator .not, column⟩ :: stack) rest after
      rw [read_operator]
      refine ⟨clean, upper ++ [⟨.operator .not, column⟩], ?_, ?_⟩
      · simpa [Outcome.after] using left
      · simpa using Chain.negated chain

theorem evaluate_value_iff (text : Text) (endColumn : Nat) (symbols : List Symbol) (value : Bool) :
    (evaluate text endColumn symbols []).verdict = .value value ↔
      Phrase text (symbols.map Symbol.kind) value := by
  constructor
  · intro evaluated
    cases accepted : (read text [] symbols).fault? with
    | some fault => simp [evaluate, accepted] at evaluated
    | none =>
        simp only [evaluate, accepted, Evaluation.after] at evaluated
        have empty : Represents text [] (terms []) := .nil
        have represents := empty.read accepted
        exact represents.phrase_of_chain (chain_of_settle evaluated)
  · intro phrase
    obtain ⟨accepted, upper, left, chain⟩ := read_of_derives phrase [] symbols rfl
    simp only [evaluate, accepted, left, List.append_nil, Evaluation.after]
    exact settle_of_chain chain

end Stack

namespace Query

open Grammar

theorem verdict_value_iff {query : Text} (scanned : query ≠ everything) (text : Text)
    (value : Bool) :
    verdict query text = .value value ↔ Phrase text (kinds query) value := by
  rw [verdict, evaluate, if_neg scanned]
  exact Stack.evaluate_value_iff ..

/-- A query that is scanned has the value of the phrase that its symbols form. When they form none
it is malformed, and it selects a text only with a phrase that is true of it. -/
theorem verdict_follows_grammar (query text : Text) (scanned : query ≠ everything) :
    (∀ value, verdict query text = .value value ↔ Phrase text (kinds query) value) ∧
      ((∃ fault, verdict query text = .malformed fault) ↔
        ¬ ∃ value, Phrase text (kinds query) value) ∧
      (selects query text = true ↔ Phrase text (kinds query) true) := by
  have exact_value := verdict_value_iff scanned text
  refine ⟨exact_value, ?_, ?_⟩
  · cases found : verdict query text with
    | value value =>
        have phrase := (exact_value value).mp found
        simp only [reduceCtorEq, exists_false, false_iff]
        exact fun absent => absent ⟨value, phrase⟩
    | malformed fault =>
        simp only [Verdict.malformed.injEq, exists_eq', true_iff, not_exists]
        intro value phrase
        rw [(exact_value value).mpr phrase] at found
        cases found
  · rw [selects, decide_eq_true_iff]
    exact exact_value true

theorem nested_query_follows_grammar :
    "!({a} | {b}) & {c}".toList ≠ everything ∧
      verdict "!({a} | {b}) & {c}".toList "x : {b}".toList = .value true ∧
        Phrase "x : {b}".toList (kinds "!({a} | {b}) & {c}".toList) true := by
  have scanned : "!({a} | {b}) & {c}".toList ≠ everything := by decide
  have selected : verdict "!({a} | {b}) & {c}".toList "x : {b}".toList = .value true := by
    decide +kernel
  exact ⟨scanned, selected, ((verdict_follows_grammar _ _ scanned).1 true).mp selected⟩

end Query
end TagQuery

import TagQuery.Proofs.Recognition

/-!
How a stack covers the symbols that have been read. Each entry stands for a stretch of them and has
the column of the first, so an entry leads back to its symbol, and the groups that are open on the
stack are those that the symbols open and do not close.
-/
namespace TagQuery

open Grammar
open TagQuery.Symbol (Kind)

namespace Symbol

def openings (symbols : List Symbol) : Nat := (symbols.map kind).count .opening

def closings (symbols : List Symbol) : Nat := (symbols.map kind).count .closing

/-- A kind whose symbol can be where an operand is missing: next to it, or at its left. -/
inductive Kind.Blamable : Kind → Prop where
  | literal (text : Text) : Blamable (.literal text)
  | opening : Blamable .opening
  | and : Blamable (.operator .and)
  | or : Blamable (.operator .or)

end Symbol

namespace Grammar

theorem Derives.balanced {text : Text} {category : Category} {kinds : List Kind} {value : Bool}
    (derivation : Derives text category kinds value) :
    kinds.count .opening = kinds.count .closing := by
  induction derivation with
  | literal found => rfl
  | group inner ih => simp [ih]
  | single operand ih => exact ih
  | joined joins operand phrase first second => simp [first, second]
  | negated phrase ih => simp [ih]

end Grammar

namespace Stack

namespace Represents

variable {text : Text}

theorem count {kinds : List Kind} {row : List Term} (represents : Represents text kinds row) :
    kinds.count .opening = kinds.count .closing + row.count .opening := by
  induction represents with
  | nil => rfl
  | value operand rest ih =>
      have level := operand.balanced
      simp only [List.count_append, List.count_cons]
      simp only [beq_iff_eq, reduceCtorEq, if_false]
      omega
  | operator operator rest ih => simpa using ih
  | opening rest ih =>
      simp only [List.count_cons]
      simp only [beq_iff_eq, reduceCtorEq, if_true, if_false]
      omega

theorem operator_alone {kinds : List Kind} {operator : Operator}
    (represents : Represents text kinds [.operator operator]) : kinds = [.operator operator] := by
  cases represents with
  | operator operator nothing =>
      cases nothing
      rfl

theorem opening_alone {kinds : List Kind} (represents : Represents text kinds [.opening]) :
    kinds = [.opening] := by
  cases represents with
  | opening nothing =>
      cases nothing
      rfl

theorem value_begins {kind : Kind} {more : List Kind} {value : Bool}
    (represents : Represents text (kind :: more) [.value value]) : kind.Blamable := by
  generalize shown : kind :: more = kinds at represents
  cases represents with
  | value operand nothing =>
      cases nothing
      rw [List.append_nil] at shown
      cases operand with
      | @literal literal _ found =>
          obtain ⟨rfl, -⟩ := List.cons.inj shown
          exact .literal literal
      | group inner =>
          obtain ⟨rfl, -⟩ := List.cons.inj shown
          exact .opening

theorem blamable {kind : Kind} {more : List Kind} {term : Term}
    (represents : Represents text (kind :: more) [term]) (other : term ≠ .operator .not) :
    kind.Blamable := by
  cases term with
  | value value => exact represents.value_begins
  | opening =>
      obtain ⟨rfl, -⟩ := List.cons.inj represents.opening_alone
      exact .opening
  | operator operator =>
      obtain ⟨rfl, -⟩ := List.cons.inj represents.operator_alone
      cases operator with
      | not => exact absurd rfl other
      | and => exact .and
      | or => exact .or

end Represents

theorem hasOpening_iff {stack : Stack} : stack.hasOpening = true ↔ .opening ∈ terms stack := by
  simp [hasOpening, terms]

theorem not_hasOpening_iff {stack : Stack} : stack.hasOpening = false ↔ .opening ∉ terms stack := by
  rw [← hasOpening_iff, Bool.not_eq_true]

theorem exists_innermost {stack : Stack} (present : .opening ∈ terms stack) :
    ∃ group opened lower,
      stack = group ++ ⟨.opening, opened⟩ :: lower ∧ .opening ∉ terms group := by
  induction stack with
  | nil => simp at present
  | cons top below ih =>
      obtain ⟨term, column⟩ := top
      by_cases here : term = .opening
      · subst here
        exact ⟨[], column, below, rfl, by simp⟩
      · have later : .opening ∈ terms below := by simpa [Ne.symm here] using present
        obtain ⟨group, opened, lower, rfl, plain⟩ := ih later
        exact ⟨⟨term, column⟩ :: group, opened, lower, rfl, by simp [plain, Ne.symm here]⟩

/-- Each entry stands for a stretch of the symbols, the latest for the last, and has the column of
the first symbol of its stretch. -/
inductive Covers (text : Text) : List Symbol → Stack → Prop where
  | nil : Covers text [] []
  | entry {symbols more : List Symbol} {first : Symbol} {below : Stack} {term : Term}
      (rest : Covers text symbols below)
      (part : Represents text ((first :: more).map Symbol.kind) [term]) :
      Covers text (symbols ++ first :: more) (⟨term, first.column⟩ :: below)

namespace Covers

variable {text : Text}

theorem represents {symbols : List Symbol} {stack : Stack} (covers : Covers text symbols stack) :
    Represents text (symbols.map Symbol.kind) (terms stack) := by
  induction covers with
  | nil => exact .nil
  | entry rest part ih =>
      rw [List.map_append, terms_cons]
      exact ih.append part

theorem split {symbols : List Symbol} {upper lower : Stack}
    (covers : Covers text symbols (upper ++ lower)) :
    ∃ before after, symbols = before ++ after ∧ Covers text before lower ∧
      Covers text after upper := by
  induction upper generalizing symbols with
  | nil => exact ⟨symbols, [], by simp, covers, .nil⟩
  | cons top upper ih =>
      cases covers with
      | entry rest part =>
          obtain ⟨before, after, rfl, below, above⟩ := ih rest
          exact ⟨before, after ++ _ :: _, by simp, below, .entry above part⟩

theorem top {symbols : List Symbol} {term : Term} {column : Nat} {below : Stack}
    (covers : Covers text symbols (⟨term, column⟩ :: below)) :
    ∃ before first more, symbols = before ++ first :: more ∧ first.column = column ∧
      Covers text before below ∧ Represents text (first.kind :: more.map Symbol.kind) [term] := by
  generalize whole : (⟨term, column⟩ :: below : Stack) = stack at covers
  cases covers with
  | nil => cases whole
  | @entry before more first _ _ rest part =>
      obtain ⟨same, rfl⟩ := List.cons.inj whole
      obtain ⟨rfl, rfl⟩ := Entry.mk.inj same
      exact ⟨before, first, more, rfl, rfl, rest, part⟩

theorem operator_last {symbols : List Symbol} {operator : Operator} {column : Nat} {below : Stack}
    (covers : Covers text symbols (⟨.operator operator, column⟩ :: below)) :
    ∃ before symbol, symbols = before ++ [symbol] ∧ symbol.kind = .operator operator ∧
      symbol.column = column := by
  obtain ⟨before, first, more, rfl, rfl, rest, part⟩ := covers.top
  obtain ⟨kind, empty⟩ := List.cons.inj part.operator_alone
  obtain rfl := List.map_eq_nil_iff.mp empty
  exact ⟨before, first, rfl, kind, rfl⟩

theorem opening_split {symbols : List Symbol} {group lower : Stack} {opened : Nat}
    (covers : Covers text symbols (group ++ ⟨.opening, opened⟩ :: lower)) :
    ∃ before symbol after, symbols = before ++ symbol :: after ∧ symbol.kind = .opening ∧
      symbol.column = opened ∧ Covers text before lower ∧ Covers text after group := by
  obtain ⟨outer, after, rfl, opening, inner⟩ := covers.split
  obtain ⟨before, first, more, rfl, rfl, rest, part⟩ := opening.top
  obtain ⟨kind, empty⟩ := List.cons.inj part.opening_alone
  obtain rfl := List.map_eq_nil_iff.mp empty
  exact ⟨before, first, after, by simp, kind, rfl, rest, inner⟩

theorem blamable {symbols : List Symbol} {stack : Stack} (covers : Covers text symbols stack)
    {entry : Entry} (member : entry ∈ stack) (other : entry.term ≠ .operator .not) :
    ∃ symbol ∈ symbols, symbol.column = entry.column ∧ symbol.kind.Blamable := by
  induction covers with
  | nil => cases member
  | @entry symbols more first below term rest part ih =>
      rcases List.mem_cons.mp member with rfl | member
      · have here : first ∈ symbols ++ first :: more := by simp
        rw [List.map_cons] at part
        exact ⟨first, here, rfl, part.blamable other⟩
      · obtain ⟨symbol, present, found⟩ := ih member
        exact ⟨symbol, List.mem_append_left _ present, found⟩

theorem accept {symbols : List Symbol} {stack : Stack} {symbol : Symbol}
    (covers : Covers text symbols stack) (accepted : (stack.accept text symbol).fault? = none) :
    Covers text (symbols ++ [symbol]) (stack.accept text symbol).stack := by
  obtain ⟨kind, column, length⟩ := symbol
  have alone {term : Term} (part : Represents text [kind] [term]) :
      Covers text (symbols ++ [⟨kind, column, length⟩]) (⟨term, column⟩ :: stack) :=
    @entry text symbols [] ⟨kind, column, length⟩ stack term covers part
  cases kind with
  | literal literal => exact alone (.value_alone (.literal Text.occurs_iff))
  | opening => exact alone (.opening .nil)
  | operator operator => exact alone (.operator operator .nil)
  | closing =>
      cases present : stack.hasOpening with
      | false => simp [Stack.accept, present] at accepted
      | true =>
          simp only [Stack.accept, present, if_true] at accepted ⊢
          obtain ⟨group, opened, lower, value, rfl, chain, closed⟩ :=
            chain_of_closeInnermost accepted
          obtain ⟨before, ⟨kind, place, width⟩, after, rfl, rfl, rfl, below, inner⟩ :=
            covers.opening_split
          have phrase := inner.represents.phrase_of_chain chain
          have part : Represents text ((⟨.opening, place, width⟩ ::
              (after ++ [⟨.closing, column, length⟩]) : List Symbol).map Symbol.kind)
              [.value value] := by
            rw [List.map_cons, List.map_append]
            exact .value_alone (.group phrase)
          rw [closed, List.append_assoc]
          exact .entry below part

theorem read {symbols more : List Symbol} {stack : Stack} (covers : Covers text symbols stack)
    (accepted : (stack.read text more).fault? = none) :
    Covers text (symbols ++ more) (stack.read text more).stack := by
  induction more generalizing symbols stack with
  | nil => simpa [Stack.read] using covers
  | cons symbol more ih =>
      obtain ⟨first, rest⟩ := accepted_of_read accepted
      rw [read_cons first]
      simpa [Outcome.after] using ih (covers.accept first) rest

end Covers
end Stack
end TagQuery

import TagQuery.Proofs.Diagnosis

namespace TagQuery

open TagQuery.Symbol (openings closings)

namespace Stack

theorem readOn_concat (text : Text) (stack : Stack) (front : List Symbol) (last : Symbol) :
    readOn text stack (front ++ [last]) = (accept text last (readOn text stack front)).stack := by
  simp [readOn]

theorem readOn_of_accepted {text : Text} {stack : Stack} {symbols : List Symbol}
    (accepted : (stack.read text symbols).fault? = none) :
    readOn text stack symbols = (stack.read text symbols).stack := by
  induction symbols generalizing stack with
  | nil => rfl
  | cons symbol symbols ih =>
      obtain ⟨first, rest⟩ := accepted_of_read accepted
      rw [read_cons first]
      exact ih rest

/-- One of the symbols is a closing parenthesis that has found a chain on the innermost opening and
has put the value of the chain in the place of the group. -/
def GroupClosed (text : Text) (symbols : List Symbol) (opened : Nat) (value : Bool) : Prop :=
  ∃ before closing after group lower, symbols = before ++ closing :: after ∧
    closing.kind = .closing ∧ readOn text [] before = group ++ ⟨.opening, opened⟩ :: lower ∧
    Chain (terms group) value ∧
    readOn text [] (before ++ [closing]) = ⟨.value value, opened⟩ :: lower

inductive Origin (text : Text) (symbols : List Symbol) (symbol : Symbol) : Term → Prop where
  | literal {literal : Text} {value : Bool} (kind : symbol.kind = .literal literal)
      (found : value = true ↔ literal <:+: text) : Origin text symbols symbol (.value value)
  | group {value : Bool} (kind : symbol.kind = .opening)
      (closed : GroupClosed text symbols symbol.column value) :
      Origin text symbols symbol (.value value)
  | operator {operator : Operator} (kind : symbol.kind = .operator operator) :
      Origin text symbols symbol (.operator operator)
  | opening (kind : symbol.kind = .opening) : Origin text symbols symbol .opening

theorem Origin.concat {text : Text} {symbols : List Symbol} {symbol : Symbol} {term : Term}
    (origin : Origin text symbols symbol term) (last : Symbol) :
    Origin text (symbols ++ [last]) symbol term := by
  cases origin with
  | literal kind found => exact .literal kind found
  | operator kind => exact .operator kind
  | opening kind => exact .opening kind
  | group kind closed =>
      obtain ⟨before, closing, after, group, lower, rfl, rest⟩ := closed
      exact .group kind ⟨before, closing, after ++ [last], group, lower, by simp, rest⟩

theorem Origin.kind_of_opening {text : Text} {symbols : List Symbol} {symbol : Symbol}
    (origin : Origin text symbols symbol .opening) : symbol.kind = .opening := by
  cases origin with
  | opening kind => exact kind

/-- The columns rise from the bottom of the stack to its top, and every entry comes from the symbol
of its column. -/
structure Traced (text : Text) (symbols : List Symbol) (stack : Stack) : Prop where
  rising : stack.Pairwise fun upper lower => lower.column < upper.column
  origin : ∀ entry ∈ stack, ∃ symbol ∈ symbols, symbol.column = entry.column ∧
    Origin text symbols symbol entry.term

namespace Traced

variable {text : Text} {symbols : List Symbol} {stack : Stack}

theorem suffix (traced : Traced text symbols stack) {rest : Stack} (left : rest <:+ stack) :
    Traced text symbols rest where
  rising := traced.rising.sublist left.sublist
  origin := by
    intro entry member
    exact traced.origin entry (left.mem member)

theorem concat (traced : Traced text symbols stack) (last : Symbol) :
    Traced text (symbols ++ [last]) stack where
  rising := traced.rising
  origin := by
    intro entry member
    obtain ⟨symbol, present, same, origin⟩ := traced.origin entry member
    exact ⟨symbol, List.mem_append_left _ present, same, origin.concat last⟩

theorem cons {below : Stack} {term : Term} {symbol : Symbol} (traced : Traced text symbols below)
    (above : ∀ entry ∈ below, entry.column < symbol.column) (present : symbol ∈ symbols)
    (origin : Origin text symbols symbol term) :
    Traced text symbols (⟨term, symbol.column⟩ :: below) where
  rising := List.pairwise_cons.mpr ⟨above, traced.rising⟩
  origin := by
    intro entry member
    rcases List.mem_cons.mp member with rfl | member
    · exact ⟨symbol, present, rfl, origin⟩
    · exact traced.origin entry member

theorem push (traced : Traced text symbols stack) {last : Symbol} {term : Term}
    (later : ∀ symbol ∈ symbols, symbol.column < last.column)
    (origin : Origin text (symbols ++ [last]) last term) :
    Traced text (symbols ++ [last]) (⟨term, last.column⟩ :: stack) := by
  apply (traced.concat last).cons
  · intro entry member
    obtain ⟨symbol, present, same, -⟩ := traced.origin entry member
    rw [← same]
    exact later symbol present
  · exact List.mem_append_right _ (List.mem_singleton_self last)
  · exact origin

theorem close {group lower : Stack} {opened : Nat} {value : Bool} {last : Symbol}
    (traced : Traced text symbols (group ++ ⟨.opening, opened⟩ :: lower))
    (closed : GroupClosed text (symbols ++ [last]) opened value) :
    Traced text (symbols ++ [last]) (⟨.value value, opened⟩ :: lower) := by
  have inner : Traced text symbols (⟨.opening, opened⟩ :: lower) :=
    traced.suffix (List.suffix_append group _)
  have here : (⟨.opening, opened⟩ : Entry) ∈ ⟨.opening, opened⟩ :: lower := List.mem_cons_self ..
  obtain ⟨symbol, present, rfl, origin⟩ := inner.origin _ here
  apply ((inner.suffix (List.suffix_cons ..)).concat last).cons
  · exact (List.pairwise_cons.mp inner.rising).1
  · exact List.mem_append_left _ present
  · exact .group origin.kind_of_opening closed

theorem readOn_concat {last : Symbol} (traced : Traced text symbols (readOn text [] symbols))
    (later : ∀ symbol ∈ symbols, symbol.column < last.column) :
    Traced text (symbols ++ [last]) (readOn text [] (symbols ++ [last])) := by
  have step := Stack.readOn_concat text [] symbols last
  cases kind : last.kind with
  | literal literal =>
      rw [step]
      simp only [accept, kind, Stack.push, Outcome.after]
      exact traced.push later (.literal kind Text.occurs_iff)
  | opening =>
      rw [step]
      simp only [accept, kind, Stack.push]
      exact traced.push later (.opening kind)
  | operator operator =>
      rw [step]
      simp only [accept, kind, Stack.push]
      exact traced.push later (.operator kind)
  | closing =>
      cases present : (readOn text [] symbols).hasOpening with
      | false =>
          simp only [accept, kind, present, Bool.false_eq_true, if_false] at step
          rw [step]
          exact traced.concat last
      | true =>
          simp only [accept, kind, present, if_true] at step
          cases outcome : (closeInnermost last.column (readOn text [] symbols)).fault? with
          | some fault =>
              have left := closeInnermost_failed_leaves outcome
              rw [step]
              exact (traced.suffix (left.trans (List.tail_suffix _))).concat last
          | none =>
              obtain ⟨group, opened, lower, value, whole, chain, closed⟩ :=
                chain_of_closeInnermost outcome
              rw [closed] at step
              have group_closed : GroupClosed text (symbols ++ [last]) opened value :=
                ⟨symbols, last, [], group, lower, rfl, kind, whole, chain, step⟩
              rw [step]
              rw [whole] at traced
              exact traced.close group_closed

theorem readOn {fed : List Symbol} (increasing : fed.Pairwise (·.column < ·.column)) :
    Traced text fed (readOn text [] fed) := by
  induction fed using List.reverseRecOn with
  | nil => exact ⟨.nil, by simp [Stack.readOn]⟩
  | append_singleton front last ih =>
      obtain ⟨earlier, -, later⟩ := List.pairwise_append.mp increasing
      apply (ih earlier).readOn_concat
      intro symbol member
      exact later symbol member last (List.mem_singleton_self last)

end Traced

/-- After every symbol of a sequence in the order of its columns, and whatever has been refused, the
stack rises in columns, and each entry comes from the one symbol of its column. As long as nothing
has been refused, the openings on the stack are the groups that are opened and not closed. -/
theorem entries_follow_symbols (text : Text) {symbols : List Symbol}
    (increasing : symbols.Pairwise (·.column < ·.column)) {fed : List Symbol}
    (part : fed <+: symbols) :
    ((readOn text [] fed).Pairwise fun upper lower => lower.column < upper.column) ∧
      (∀ entry ∈ readOn text [] fed, ∃ symbol ∈ fed, symbol.column = entry.column ∧
        Origin text fed symbol entry.term ∧
        ∀ other ∈ fed, other.column = entry.column → other = symbol) ∧
      (Readable text fed →
        openings fed = closings fed + (terms (readOn text [] fed)).count .opening) := by
  have ordered : fed.Pairwise (·.column < ·.column) := increasing.sublist part.sublist
  have traced : Traced text fed (readOn text [] fed) := .readOn ordered
  refine ⟨traced.rising, ?_, ?_⟩
  · intro entry member
    obtain ⟨symbol, present, same, origin⟩ := traced.origin entry member
    refine ⟨symbol, present, same, origin, ?_⟩
    intro other found column
    exact Symbol.eq_of_column ordered found present (column.trans same.symm)
  · intro readable
    rw [readOn_of_accepted readable]
    exact (Covers.of_readable readable).represents.count

/-- A group that is closed, one that is refused with its last operator taken off, and a group inside
it that is closed afterwards. -/
theorem entries_after_refused_group :
    let fed := Query.symbols "(({a}|{b}) & ) or !({c})".toList
    fed.Pairwise (·.column < ·.column) ∧ fed <+: fed ∧ ¬ Readable "x : {b}".toList fed ∧
      readOn "x : {b}".toList [] fed =
        [⟨.value false, 20⟩, ⟨.operator .not, 19⟩, ⟨.operator .or, 16⟩, ⟨.value true, 2⟩,
          ⟨.opening, 1⟩] ∧
      ∃ symbol ∈ fed, symbol.column = 2 ∧ Origin "x : {b}".toList fed symbol (.value true) := by
  intro fed
  have increasing : fed.Pairwise (·.column < ·.column) := by decide
  have refused : ¬ Readable "x : {b}".toList fed := by
    unfold Readable
    decide +kernel
  have left : readOn "x : {b}".toList [] fed =
      [⟨.value false, 20⟩, ⟨.operator .not, 19⟩, ⟨.operator .or, 16⟩, ⟨.value true, 2⟩,
        ⟨.opening, 1⟩] := by
    decide +kernel
  obtain ⟨-, origins, -⟩ :=
    entries_follow_symbols "x : {b}".toList increasing (List.prefix_refl fed)
  rw [left] at origins
  obtain ⟨symbol, member, same, origin, -⟩ := origins ⟨.value true, 2⟩ (by simp)
  exact ⟨increasing, List.prefix_refl fed, refused, left, symbol, member, same, origin⟩

end Stack
end TagQuery

import TagQuery.Item
import TagQuery.Proofs.Enclosure
import TagQuery.Proofs.Grouping
import TagQuery.Proofs.Shape

namespace TagQuery

open Grammar

namespace Stack

section Operands

variable {text : Text} {symbols : List Symbol} {value : Bool}

theorem evaluate_above_iff {lower : Stack} (plain : .opening ∉ terms lower) (endColumn : Nat) :
    (evaluate text endColumn symbols lower).verdict = .value value ↔
      (read text [] symbols).fault? = none ∧
        Chain (terms lower ++ terms (read text [] symbols).stack) value := by
  constructor
  · intro evaluated
    cases whole : (read text lower symbols).fault? with
    | some fault => simp [evaluate, whole] at evaluated
    | none =>
        have alone : (read text [] symbols).fault? = none := read_alone plain whole
        have left := (read_above alone lower).2
        rw [List.nil_append] at left
        simp only [evaluate, whole, left, Evaluation.after] at evaluated
        have chain := chain_of_settle evaluated
        rw [terms_append] at chain
        exact ⟨alone, chain⟩
  · rintro ⟨alone, chain⟩
    obtain ⟨whole, left⟩ := read_above alone lower
    rw [List.nil_append] at whole left
    rw [← terms_append] at chain
    simp only [evaluate, whole, left, Evaluation.after]
    exact settle_of_chain chain

theorem phrase_iff_chain :
    Phrase text (symbols.map Symbol.kind) value ↔
      (read text [] symbols).fault? = none ∧ Chain (terms (read text [] symbols).stack) value := by
  rw [← evaluate_value_iff text 0, evaluate_above_iff (by simp), terms_nil, List.nil_append]

theorem evaluate_joined_iff {operator : Operator} {join : Bool → Bool → Bool}
    (joins : operator.Joins join) (left : Bool) (column place endColumn : Nat) :
    (evaluate text endColumn symbols
        [⟨.operator operator, column⟩, ⟨.value left, place⟩]).verdict = .value value ↔
      ∃ right, Phrase text (symbols.map Symbol.kind) right ∧ value = join left right := by
  rw [evaluate_above_iff (by simp)]
  simp only [phrase_iff_chain, terms_cons, terms_nil, List.nil_append, List.cons_append,
    Chain.joined_iff joins, and_assoc, exists_and_left]

theorem evaluate_negated_iff (column endColumn : Nat) :
    (evaluate text endColumn symbols [⟨.operator .not, column⟩]).verdict = .value value ↔
      ∃ inner, Phrase text (symbols.map Symbol.kind) inner ∧ value = !inner := by
  rw [evaluate_above_iff (by simp)]
  simp only [phrase_iff_chain, terms_cons, terms_nil, List.nil_append, List.cons_append,
    Chain.negated_iff, and_assoc, exists_and_left]

end Operands

end Stack

namespace Query

open Scanner

theorem ne_everything_of_head {head : Char} (other : head ≠ '{') (tail : Text) :
    head :: tail ≠ everything := by
  intro same
  exact other (Option.some.inj (congrArg List.head? same))

theorem symbolsFrom_sign (operator : Operator) (column : Nat) (rest : Text) :
    symbolsFrom none column (operator.sign :: rest) =
      ⟨.operator operator, column, 1⟩ :: symbolsFrom none (column + 1) rest :=
  symbolsFrom_bare (.operator (Operator.spells_iff.mpr (.inl rfl))) column rest

section Combined

variable {first second text : Text} {value : Bool}

theorem verdict_joined_iff (scanned : first ≠ everything) (scanned' : second ≠ everything)
    (released : pending? first = none) {left : Bool} (formed : verdict first text = .value left)
    {operator : Operator} {join : Bool → Bool → Bool} (joins : operator.Joins join) :
    verdict ('(' :: (first ++ ')' :: operator.sign :: second)) text = .value value ↔
      ∃ right, verdict second text = .value right ∧ value = join left right := by
  have empty : symbols [] = [] := rfl
  have layout := @symbols_of_group [] first rfl released (operator.sign :: second)
  rw [empty, List.nil_append, List.nil_append, symbolsFrom_sign] at layout
  have phrase := (verdict_value_iff scanned text left).mp formed
  rw [← kinds_from (1 + ([] : Text).length + 1)] at phrase
  rw [verdict_of_scanned (ne_everything_of_head (by decide) _), layout,
    Stack.verdict_behind_group phrase, Stack.verdict_cons_of_accepted rfl]
  refine (Stack.evaluate_joined_iff joins ..).trans ?_
  simp only [kinds_from, verdict_value_iff scanned']

theorem verdict_negated_iff (scanned : second ≠ everything) :
    verdict ('!' :: second) text = .value value ↔
      ∃ inner, verdict second text = .value inner ∧ value = !inner := by
  have layout : symbols ('!' :: second) = ⟨.operator .not, 1, 1⟩ :: symbolsFrom none 2 second :=
    symbolsFrom_sign .not 1 second
  rw [verdict_of_scanned (ne_everything_of_head (by decide) _), layout,
    Stack.verdict_cons_of_accepted rfl]
  refine (Stack.evaluate_negated_iff ..).trans ?_
  simp only [kinds_from, verdict_value_iff scanned]

theorem selects_of_value {query : Text} (evaluated : verdict query text = .value value) :
    selects query text = value := by
  cases value <;> simp [selects, evaluated]

theorem selects_of_malformed {query : Text} {fault : Fault}
    (malformed : verdict query text = .malformed fault) : selects query text = false := by
  simp [selects, malformed]

end Combined

section Selection

variable {first second text : Text} (scanned : first ≠ everything)
  (scanned' : second ≠ everything)

section Joined

variable (released : pending? first = none) (formed : ∃ value, verdict first text = .value value)
include scanned scanned' released formed

theorem selects_joined_of_malformed {fault : Fault}
    (malformed : verdict second text = .malformed fault) {operator : Operator}
    {join : Bool → Bool → Bool} (joins : operator.Joins join) :
    selects ('(' :: (first ++ ')' :: operator.sign :: second)) text = false := by
  obtain ⟨left, formed⟩ := formed
  cases joined : verdict ('(' :: (first ++ ')' :: operator.sign :: second)) text with
  | malformed other => exact selects_of_malformed joined
  | value value =>
      obtain ⟨right, found, -⟩ :=
        (verdict_joined_iff scanned scanned' released formed joins).mp joined
      rw [malformed] at found
      cases found

theorem selects_joined {right : Bool} (formed' : verdict second text = .value right)
    {operator : Operator} {join : Bool → Bool → Bool} (joins : operator.Joins join) :
    selects ('(' :: (first ++ ')' :: operator.sign :: second)) text =
      join (selects first text) (selects second text) := by
  obtain ⟨left, formed⟩ := formed
  have joined : verdict ('(' :: (first ++ ')' :: operator.sign :: second)) text =
      .value (join left right) :=
    (verdict_joined_iff scanned scanned' released formed joins).mpr ⟨right, formed', rfl⟩
  rw [selects_of_value joined, selects_of_value formed, selects_of_value formed']

theorem selects_conjunction :
    selects ('(' :: (first ++ ')' :: '&' :: second)) text =
      (selects first text && selects second text) := by
  cases found : verdict second text with
  | value right =>
      have joined := selects_joined scanned scanned' released formed found .and
      exact joined
  | malformed fault =>
      have hidden := selects_joined_of_malformed scanned scanned' released formed found .and
      rw [selects_of_malformed found, Bool.and_false]
      exact hidden

end Joined

include scanned'

theorem selects_negation {value : Bool} (formed : verdict second text = .value value) :
    selects ('!' :: second) text = !selects second text := by
  have negated : verdict ('!' :: second) text = .value (!value) :=
    (verdict_negated_iff scanned').mpr ⟨value, formed, rfl⟩
  rw [selects_of_value negated, selects_of_value formed]

theorem selects_negation_of_malformed {fault : Fault}
    (malformed : verdict second text = .malformed fault) :
    selects ('!' :: second) text = false := by
  cases negated : verdict ('!' :: second) text with
  | malformed other => exact selects_of_malformed negated
  | value value =>
      obtain ⟨inner, found, -⟩ := (verdict_negated_iff scanned').mp negated
      rw [malformed] at found
      cases found

end Selection

end Query

namespace Catalog

open Query

/-- Behind a well-formed query in parentheses, `&` selects from what that query selects, also when
what follows is malformed. With a well-formed query behind them, `|` and `!` select the union and
the complement, and with a malformed one nothing. -/
theorem select_of_combined {first second : Text} (scanned : first ≠ everything)
    (scanned' : second ≠ everything) (formed : ∃ text value, verdict first text = .value value)
    (released : pending? first = none) (items : List Item) :
    select ('(' :: (first ++ ')' :: '&' :: second)) items = select second (select first items) ∧
      ((∃ text value, verdict second text = .value value) →
        select ('(' :: (first ++ ')' :: '|' :: second)) items =
            items.filter (fun item => item.satisfies first || item.satisfies second) ∧
          select ('!' :: second) items = items.filter (fun item => !item.satisfies second)) ∧
      ((∃ text fault, verdict second text = .malformed fault) →
        select ('(' :: (first ++ ')' :: '|' :: second)) items = [] ∧
          select ('!' :: second) items = []) := by
  obtain ⟨base, value, formed⟩ := formed
  have formed (item : Item) : ∃ value, verdict first item.searchedText = .value value :=
    value_everywhere formed _
  refine ⟨?_, ?_, ?_⟩
  · unfold select
    rw [List.filter_filter]
    apply List.filter_congr
    intro item _
    rw [Bool.and_comm]
    exact selects_conjunction scanned scanned' released (formed item)
  · rintro ⟨text, right, formed'⟩
    constructor
    · apply List.filter_congr
      intro item _
      obtain ⟨value, found⟩ := value_everywhere formed' item.searchedText
      have joined := selects_joined scanned scanned' released (formed item) found .or
      exact joined
    · apply List.filter_congr
      intro item _
      obtain ⟨value, found⟩ := value_everywhere formed' item.searchedText
      exact selects_negation scanned' found
  · rintro ⟨text, fault, malformed⟩
    constructor
    · apply List.filter_eq_nil_iff.mpr
      intro item _
      have found := malformed_everywhere malformed item.searchedText
      have hidden := selects_joined_of_malformed scanned scanned' released (formed item) found .or
      exact Bool.eq_false_iff.mp hidden
    · apply List.filter_eq_nil_iff.mpr
      intro item _
      have found := malformed_everywhere malformed item.searchedText
      exact Bool.eq_false_iff.mp (selects_negation_of_malformed scanned' found)

theorem select_of_combined_at_negation :
    let first := "not {sans} oR {ui}".toList
    let second := "{mono} \x7bui".toList
    let refused := "{mono} and".toList
    let both : Item := ⟨"a".toList, ["sans".toList, "mono".toList]⟩
    let plain : Item := ⟨"b".toList, ["ui".toList]⟩
    let mono : Item := ⟨"c".toList, ["mono".toList]⟩
    let bare : Item := ⟨"d".toList, []⟩
    let items := [both, plain, mono, bare]
    (first ≠ everything ∧ second ≠ everything ∧ refused ≠ everything ∧ pending? first = none ∧
      verdict first [] = .value true ∧ verdict second [] = .value false ∧
      ∃ fault, verdict refused [] = .malformed fault) ∧
    select ('(' :: (first ++ ')' :: '&' :: second)) items = [mono] ∧
      select ('(' :: (first ++ ')' :: '|' :: second)) items = [both, mono, bare] ∧
      select ('!' :: second) items = [plain, bare] ∧
      select ('(' :: (first ++ ')' :: '|' :: refused)) items = [] ∧
      select ('!' :: refused) items = [] := by
  intro first second refused both plain mono bare items
  have scanned : first ≠ everything := by decide
  have scanned' : second ≠ everything := by decide
  have scanned'' : refused ≠ everything := by decide
  have released : pending? first = none := by decide
  have formed : verdict first [] = .value true := by decide +kernel
  have formed' : verdict second [] = .value false := by decide +kernel
  have malformed : ∃ fault, verdict refused [] = .malformed fault :=
    ⟨.danglingOperator 8, by decide +kernel⟩
  have meet : select second (select first items) = [mono] := by decide +kernel
  have join : items.filter (fun item => item.satisfies first || item.satisfies second) =
      [both, mono, bare] := by
    decide +kernel
  have rest : items.filter (fun item => !item.satisfies second) = [plain, bare] := by
    decide +kernel
  obtain ⟨conjunction, combined, -⟩ :=
    select_of_combined scanned scanned' ⟨[], true, formed⟩ released items
  obtain ⟨disjunction, negation⟩ := combined ⟨[], false, formed'⟩
  obtain ⟨-, -, hidden⟩ := select_of_combined scanned scanned'' ⟨[], true, formed⟩ released items
  obtain ⟨nothing, nothing'⟩ := hidden ⟨[], malformed⟩
  exact ⟨⟨scanned, scanned', scanned'', released, formed, formed', malformed⟩,
    conjunction.trans meet, disjunction.trans join, negation.trans rest, nothing, nothing'⟩

end Catalog
end TagQuery

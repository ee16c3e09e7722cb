import TagQuery.Proofs.Diagnosis
import TagQuery.Proofs.Joining

/-!
Parentheses that change nothing. A phrase at the end of its group or of the query is folded whether
or not it is a group of its own: the one happens at its parenthesis, the other when what is around
it is folded. In between, whatever stands before the phrase, the stacks differ in a chain that has
or has not been replaced by its value, and only a column that no fault points at tells them apart.
-/
namespace TagQuery

open Grammar

namespace Stack

section Verdicts

variable {text : Text} {endColumn : Nat} {stack : Stack}

theorem verdict_of_accepted {front : List Symbol}
    (accepted : (stack.read text front).fault? = none) (back : List Symbol) :
    (evaluate text endColumn (front ++ back) stack).verdict =
      (evaluate text endColumn back (stack.read text front).stack).verdict := by
  simp only [evaluate, read_append accepted, Outcome.after]
  split <;> rfl

theorem verdict_of_refused {front : List Symbol} {fault : Fault}
    (refused : (stack.read text front).fault? = some fault) (back : List Symbol) :
    (evaluate text endColumn (front ++ back) stack).verdict = .malformed fault := by
  apply evaluate_malformed_iff.mpr
  left
  obtain ⟨before, symbol, after, rfl, accepted, stopped⟩ := read_fault_iff.mp refused
  exact read_fault_iff.mpr ⟨before, symbol, after ++ back, by simp, accepted, stopped⟩

theorem verdict_of_nothing :
    (evaluate text endColumn [] stack).verdict = (settle endColumn stack).verdict := rfl

theorem verdict_cons_of_accepted {symbol : Symbol}
    (accepted : (accept text symbol stack).fault? = none) (rest : List Symbol) :
    (evaluate text endColumn (symbol :: rest) stack).verdict =
      (evaluate text endColumn rest (accept text symbol stack).stack).verdict := by
  simp only [evaluate, read_cons accepted, Outcome.after]
  split <;> rfl

theorem verdict_cons_of_refused {symbol : Symbol} {fault : Fault}
    (refused : (accept text symbol stack).fault? = some fault) (rest : List Symbol) :
    (evaluate text endColumn (symbol :: rest) stack).verdict = .malformed fault := by
  simp only [evaluate, read, refused]

end Verdicts

theorem hasOpening_of_folded {upper : Stack} {value : Bool} (chain : Chain (terms upper) value)
    (place : Nat) (lower : Stack) :
    hasOpening (upper ++ lower) = hasOpening (⟨.value value, place⟩ :: lower) := by
  have plain := chain.plain
  rw [Bool.eq_iff_iff, hasOpening_iff, hasOpening_iff]
  simp [plain]

/-- A closing parenthesis finds the same fault whether or not a chain on top has been folded, and
leaves the same stack where it finds none. -/
theorem accept_closing_of_folded {upper : Stack} {value : Bool} (chain : Chain (terms upper) value)
    (text : Text) (place : Nat) (lower : Stack) {symbol : Symbol} (kind : symbol.kind = .closing) :
    (accept text symbol (upper ++ lower)).fault? =
        (accept text symbol (⟨.value value, place⟩ :: lower)).fault? ∧
      ((accept text symbol (upper ++ lower)).fault? = none →
        (accept text symbol (upper ++ lower)).stack =
          (accept text symbol (⟨.value value, place⟩ :: lower)).stack) := by
  obtain ⟨left, faults⟩ := closeInnermost_of_folded chain symbol.column place lower
  simp only [accept, kind, hasOpening_of_folded chain place lower]
  split
  · exact ⟨faults, fun _ => left⟩
  · exact ⟨rfl, by simp⟩

theorem verdict_of_folded {upper : Stack} {value : Bool} (chain : Chain (terms upper) value)
    (text : Text) (endColumn place : Nat) (lower : Stack) {symbols : List Symbol}
    (closes : ∀ symbol ∈ symbols.head?, symbol.kind = .closing) :
    (evaluate text endColumn symbols (upper ++ lower)).verdict =
      (evaluate text endColumn symbols (⟨.value value, place⟩ :: lower)).verdict := by
  cases symbols with
  | nil =>
      rw [verdict_of_nothing, verdict_of_nothing]
      exact settle_of_folded chain endColumn place lower
  | cons symbol rest =>
      have kind : symbol.kind = .closing := closes symbol rfl
      obtain ⟨faults, left⟩ := accept_closing_of_folded chain text place lower kind
      cases found : (accept text symbol (upper ++ lower)).fault? with
      | some fault =>
          rw [verdict_cons_of_refused found, verdict_cons_of_refused (faults.symm.trans found)]
      | none =>
          rw [verdict_cons_of_accepted found, left found,
            verdict_cons_of_accepted (faults.symm.trans found)]

section Groups

variable {text : Text} {phrase : List Symbol} {value : Bool}

theorem verdict_behind_group (formed : Phrase text (phrase.map Symbol.kind) value)
    (endColumn opened closed width length : Nat) (after : List Symbol) (lower : Stack) :
    (evaluate text endColumn
        (⟨.opening, opened, width⟩ :: (phrase ++ ⟨.closing, closed, length⟩ :: after))
        lower).verdict =
      (evaluate text endColumn after (⟨.value value, opened⟩ :: lower)).verdict := by
  obtain ⟨inside, group, whole, folded⟩ :=
    read_of_derives formed (⟨.opening, opened⟩ :: lower) phrase rfl
  obtain ⟨replaced, clean⟩ := closeInnermost_of_chain folded closed opened lower
  rw [← accept_closing text group lower closed length opened] at replaced clean
  have start : (accept text ⟨.opening, opened, width⟩ lower).fault? = none := rfl
  calc
    _ = (evaluate text endColumn (phrase ++ ⟨.closing, closed, length⟩ :: after)
          (⟨.opening, opened⟩ :: lower)).verdict := verdict_cons_of_accepted start _
    _ = (evaluate text endColumn (⟨.closing, closed, length⟩ :: after)
          (group ++ ⟨.opening, opened⟩ :: lower)).verdict := by
      rw [verdict_of_accepted inside, whole]
    _ = (evaluate text endColumn after (⟨.value value, opened⟩ :: lower)).verdict := by
      rw [verdict_cons_of_accepted clean, replaced]

theorem verdict_of_group (formed : Phrase text (phrase.map Symbol.kind) value) (endColumn : Nat)
    (before after : List Symbol) (opened closed width length : Nat)
    (closes : ∀ symbol ∈ after.head?, symbol.kind = .closing) :
    (evaluate text endColumn
        (before ++ ⟨.opening, opened, width⟩ :: (phrase ++ ⟨.closing, closed, length⟩ :: after))
        []).verdict =
      (evaluate text endColumn (before ++ (phrase ++ after)) []).verdict := by
  cases found : (read text [] before).fault? with
  | some fault => rw [verdict_of_refused found, verdict_of_refused found]
  | none =>
      rw [verdict_of_accepted found, verdict_of_accepted found, verdict_behind_group formed]
      generalize (read text [] before).stack = lower
      -- Without the group, the phrase leaves a chain of the same value on the stack.
      obtain ⟨accepted, upper, left, chain⟩ := read_of_derives formed lower phrase rfl
      rw [verdict_of_accepted accepted, left]
      exact (verdict_of_folded chain text endColumn opened lower closes).symm

end Groups

end Stack

namespace Query

open Scanner

/-- The symbols of a well-formed query form a phrase, also those of the query that selects all. -/
theorem phrase_of_verdict {query text : Text} {value : Bool}
    (formed : verdict query text = .value value) : ∃ value, Phrase text (kinds query) value := by
  by_cases scanned : query = everything
  · subst scanned
    have only : kinds everything = [.literal everything.dropLast] := by decide
    rw [only]
    exact ⟨_, .single (.literal Text.occurs_iff)⟩
  · exact ⟨value, (verdict_value_iff scanned text value).mp formed⟩

section Layout

variable {before phrase : Text}

theorem symbols_of_group (released : pending? before = none) (closed : pending? phrase = none)
    (after : Text) :
    symbols (before ++ '(' :: (phrase ++ ')' :: after)) =
      symbols before ++ ⟨.opening, 1 + before.length, 1⟩ ::
        (symbolsFrom none (1 + before.length + 1) phrase ++
          ⟨.closing, 1 + before.length + 1 + phrase.length, 1⟩ ::
            symbolsFrom none (1 + before.length + 1 + phrase.length + 1) after) := by
  rw [symbols, symbolsFrom_behind released (breaks_of_sign (by simp)), symbolsFrom_opening,
    symbolsFrom_behind closed (breaks_of_sign (by simp)), symbolsFrom_closing]
  rfl

theorem symbols_of_spaced (released : pending? before = none) (closed : pending? phrase = none)
    (after : Text) :
    symbols (before ++ ' ' :: (phrase ++ ' ' :: after)) =
      symbols before ++ (symbolsFrom none (1 + before.length + 1) phrase ++
        symbolsFrom none (1 + before.length + 1 + phrase.length + 1) after) := by
  rw [symbols, symbolsFrom_behind released (breaks_of_sign (by simp)), symbolsFrom_space,
    symbolsFrom_behind closed (breaks_of_sign (by simp)), symbolsFrom_space]
  rfl

end Layout

theorem closing_of_head {after : Text} (ends : after = [] ∨ ∃ rest, after = ')' :: rest)
    (column : Nat) :
    ∀ symbol ∈ (symbolsFrom none column after).head?, symbol.kind = .closing := by
  intro symbol first
  rcases ends with rfl | ⟨rest, rfl⟩
  · simp [symbolsFrom] at first
  · rw [symbolsFrom_closing] at first
    obtain rfl := Option.mem_some_iff.mp first
    rfl

/-- The parentheses of a group at the end of the query, or of the group around it, may be replaced
by spaces, whatever stands before them. -/
theorem verdict_of_trailing_group {text before phrase after : Text}
    (released : pending? before = none) (formed : ∃ value, verdict phrase text = .value value)
    (closed : pending? phrase = none) (ends : after = [] ∨ ∃ rest, after = ')' :: rest) :
    verdict (before ++ '(' :: (phrase ++ ')' :: after)) text =
      verdict (before ++ ' ' :: (phrase ++ ' ' :: after)) text := by
  have grouped : before ++ '(' :: (phrase ++ ')' :: after) ≠ everything := by
    intro same
    have present : '(' ∈ everything := by
      rw [← same]
      simp
    exact absurd present (by decide)
  have spaced : before ++ ' ' :: (phrase ++ ' ' :: after) ≠ everything := by
    intro same
    have spaces := congrArg (List.count ' ') same
    have one : everything.count ' ' = 1 := by decide
    simp only [one, List.count_append, List.count_cons_self] at spaces
    omega
  have width : endColumn (before ++ '(' :: (phrase ++ ')' :: after)) =
      endColumn (before ++ ' ' :: (phrase ++ ' ' :: after)) := by
    simp [endColumn]
  obtain ⟨found, formed⟩ := formed
  obtain ⟨value, derived⟩ := phrase_of_verdict formed
  rw [← kinds_from (1 + before.length + 1)] at derived
  rw [verdict_of_scanned grouped, verdict_of_scanned spaced, width,
    symbols_of_group released closed, symbols_of_spaced released closed]
  exact Stack.verdict_of_group derived _ (symbols before) _ _ _ 1 1 (closing_of_head ends _)

theorem verdict_of_group_in_malformed :
    let before := "{a} ({b} and".toList
    let phrase := "not {c} | {d}".toList
    let after := ") or {e}".toList
    pending? before = none ∧ (∃ value, verdict phrase "x : {d}".toList = .value value) ∧
      pending? phrase = none ∧ (after = [] ∨ ∃ rest, after = ')' :: rest) ∧
      verdict (before ++ '(' :: (phrase ++ ')' :: after)) "x : {d}".toList =
        .malformed (.missingOperand 1) ∧
      verdict (before ++ ' ' :: (phrase ++ ' ' :: after)) "x : {d}".toList =
        .malformed (.missingOperand 1) := by
  intro before phrase after
  have released : pending? before = none := by decide
  have formed : ∃ value, verdict phrase "x : {d}".toList = .value value :=
    ⟨false, by decide +kernel⟩
  have closed : pending? phrase = none := by decide
  have ends : after = [] ∨ ∃ rest, after = ')' :: rest := .inr ⟨" or {e}".toList, rfl⟩
  have grouped : verdict (before ++ '(' :: (phrase ++ ')' :: after)) "x : {d}".toList =
      .malformed (.missingOperand 1) := by
    decide +kernel
  have same := verdict_of_trailing_group released formed closed ends
  exact ⟨released, formed, closed, ends, grouped, same.symm.trans grouped⟩

end Query
end TagQuery

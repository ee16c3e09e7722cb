import TagQuery.Proofs.Brackets
import TagQuery.Proofs.Duties

namespace TagQuery

open TagQuery.Symbol (Kind openings closings Partner)

namespace Stack

/-- The events account for what becomes of a stack while the symbols are read: for its height, for
every entry that is put on it, and for every duty, which is discharged or left. -/
structure Accounts (text : Text) (symbols : List Symbol) (stack : Stack) (events : List Event)
    (last : Stack) : Prop where
  levels : Event.Levels stack.length events last.length
  entries : Event.entries events = Symbol.entries text symbols
  duties : (Event.duties events ++ due last).Perm (due stack ++ Symbol.duties symbols)

namespace Accounts

variable {text : Text}

theorem nil (stack : Stack) : Accounts text [] stack [] stack where
  levels := .nil _
  entries := rfl
  duties := by simp [Event.duties, Symbol.duties]

theorem groups {symbols : List Symbol} {stack last : Stack} {events : List Event}
    (accounts : Accounts text symbols stack events last) :
    (Event.closedColumns events ++ Duty.groups (due last)).Perm
      (Duty.groups (due stack) ++ Duty.groups (Symbol.duties symbols)) := by
  have kept := accounts.duties.filterMap Duty.group?
  rw [List.filterMap_append, List.filterMap_append] at kept
  rw [← Event.groups_duties]
  exact kept

theorem append {first second : List Symbol} {stack middle last : Stack} {front back : List Event}
    (before : Accounts text first stack front middle)
    (behind : Accounts text second middle back last) :
    Accounts text (first ++ second) stack (front ++ back) last where
  levels := before.levels.append behind.levels
  entries := by
    rw [Event.entries, List.filterMap_append, Symbol.entries, List.filterMap_append]
    exact congrArg₂ _ before.entries behind.entries
  duties := by
    have later := behind.duties.append_left (Event.duties front)
    have earlier := before.duties.append_right (Symbol.duties second)
    simp only [List.append_assoc] at later earlier
    rw [Event.duties_append, Symbol.duties_append, List.append_assoc]
    exact later.trans earlier

theorem of_works {stack last : Stack} {events : List Event} (works : Works stack events last) :
    Accounts text [] stack events last where
  levels := works.levels
  entries := works.entries_eq
  duties := by
    rw [works.duties_eq]
    simp [Symbol.duties]

theorem of_idle {event : Event} (unpushed : event.isPush = false) (idle : event.duty? = none)
    (stack : Stack) : Accounts text [] stack [event] stack where
  levels := .idle unpushed idle (.nil _)
  entries := by cases event <;> first | rfl | cases unpushed
  duties := by simp [Event.duties, Symbol.duties, idle]

theorem of_push {symbol : Symbol} {term : Term}
    (puts : symbol.pushed? text = some ⟨term, symbol.column⟩) (stack : Stack) :
    Accounts text [symbol] stack (stack.push term symbol.column).events
      (stack.push term symbol.column).stack where
  levels := .pushed term symbol.column (.nil _)
  entries := by
    rw [Symbol.entries, List.filterMap_cons, puts]
    rfl
  duties := by
    have left : due (⟨term, symbol.column⟩ :: stack) = Symbol.duties [symbol] ++ due stack := by
      rw [due, List.filterMap_cons, Symbol.duty?_of_pushed? puts]
      cases found : symbol.duty? <;> simp [Symbol.duties, found, due]
    simp only [push, left, Event.duties, List.filterMap_cons, Event.duty?, List.filterMap_nil,
      List.nil_append]
    exact List.perm_append_comm

theorem of_closing {symbol : Symbol} (kind : symbol.kind = .closing) {stack last : Stack}
    {events : List Event} (accounts : Accounts text [] stack events last) :
    Accounts text [symbol] stack events last where
  levels := accounts.levels
  entries := by simpa [Symbol.entries, Symbol.pushed?, kind] using accounts.entries
  duties := by simpa [Symbol.duties, Symbol.duty?, kind] using accounts.duties

end Accounts

theorem accounts_accept (text : Text) (symbol : Symbol) (stack : Stack) :
    ∃ last, Accounts text [symbol] stack (stack.accept text symbol).events last ∧
      ((stack.accept text symbol).fault? = none → last = (stack.accept text symbol).stack) := by
  obtain ⟨kind, column, length⟩ := symbol
  cases kind with
  | literal literal =>
      have idle : Accounts text [] stack [.literal literal (literal.occurs text)] stack :=
        .of_idle rfl rfl stack
      exact ⟨_, idle.append (.of_push rfl stack), fun _ => rfl⟩
  | opening => exact ⟨_, .of_push rfl stack, fun _ => rfl⟩
  | operator operator => exact ⟨_, .of_push rfl stack, fun _ => rfl⟩
  | closing =>
      cases present : stack.hasOpening with
      | false =>
          simp only [accept, present]
          exact ⟨stack, .of_closing rfl (.nil stack), fun _ => rfl⟩
      | true =>
          simp only [accept, present, if_true]
          obtain ⟨last, works, left⟩ := works_closeInnermost column stack
          exact ⟨last, .of_closing rfl (.of_works works), left⟩

/-- Of symbols that are read up to a fault, those before it are accounted for. -/
theorem accounts_read (text : Text) (symbols : List Symbol) (stack : Stack) :
    ∃ part last, part <+: symbols ∧ Accounts text part stack (stack.read text symbols).events last ∧
      ((stack.read text symbols).fault? = none →
        part = symbols ∧ last = (stack.read text symbols).stack) := by
  induction symbols generalizing stack with
  | nil => exact ⟨[], stack, List.prefix_rfl, .nil stack, fun _ => ⟨rfl, rfl⟩⟩
  | cons symbol symbols ih =>
      obtain ⟨next, first, left⟩ := accounts_accept text symbol stack
      cases found : (stack.accept text symbol).fault? with
      | some fault =>
          have stops : stack.read text (symbol :: symbols) = stack.accept text symbol := by
            simp only [read, found]
          rw [stops, found]
          exact ⟨[symbol], next, ⟨symbols, rfl⟩, first, by simp⟩
      | none =>
          rw [left found] at first
          obtain ⟨part, last, begins, rest, whole⟩ := ih (stack.accept text symbol).stack
          rw [read_cons found]
          refine ⟨symbol :: part, last, List.cons_prefix_cons.mpr ⟨rfl, begins⟩,
            first.append rest, ?_⟩
          intro accepted
          obtain ⟨rfl, rfl⟩ := whole accepted
          exact ⟨rfl, rfl⟩

theorem accounts_of_readable {text : Text} {symbols : List Symbol}
    (readable : Readable text symbols) :
    Accounts text symbols [] (read text [] symbols).events (read text [] symbols).stack := by
  obtain ⟨part, last, -, accounts, whole⟩ := accounts_read text symbols []
  obtain ⟨rfl, rfl⟩ := whole readable
  exact accounts

theorem accounts_evaluate (text : Text) (endColumn : Nat) (symbols : List Symbol) :
    ∃ part last, part <+: symbols ∧
      Accounts text part [] (evaluate text endColumn symbols []).events last ∧
      ∀ value, (evaluate text endColumn symbols []).verdict = .value value →
        part = symbols ∧ due last = [] := by
  cases found : (read text [] symbols).fault? with
  | some fault =>
      obtain ⟨part, last, begins, accounts, -⟩ := accounts_read text symbols []
      simp only [evaluate, found]
      exact ⟨part, last, begins, accounts, by simp⟩
  | none =>
      have reading := accounts_of_readable found
      obtain ⟨last, works, done⟩ := works_settle endColumn (read text [] symbols).stack
      have settling := reading.append (.of_works works)
      rw [List.append_nil] at settling
      simp only [evaluate, found, Evaluation.after]
      refine ⟨symbols, last, List.prefix_rfl, settling, ?_⟩
      intro value settled
      exact ⟨rfl, done value settled⟩

theorem length_closedColumns_of_readable {text : Text} {symbols : List Symbol}
    (readable : Readable text symbols) :
    (Event.closedColumns (read text [] symbols).events).length = closings symbols := by
  have counted : openings symbols =
      closings symbols + (terms (read text [] symbols).stack).count .opening :=
    (Covers.of_readable readable).represents.count
  have groups := (accounts_of_readable readable).groups.length_eq
  rw [List.length_append, List.length_append, length_groups_due,
    Symbol.length_groups_duties] at groups
  change _ = 0 + openings symbols at groups
  omega

/-- A closing parenthesis that is accepted closes the group that its partner has opened, and no
other. -/
theorem closedColumns_of_accept {text : Text} {symbols : List Symbol}
    (readable : Readable text symbols) {closing : Symbol} (kind : closing.kind = .closing)
    (accepted : ((read text [] symbols).stack.accept text closing).fault? = none) :
    ∃ opening, Partner symbols opening ∧
      Event.closedColumns ((read text [] symbols).stack.accept text closing).events =
        [opening.column] := by
  have covers := Covers.of_readable readable
  cases present : (read text [] symbols).stack.hasOpening with
  | false => simp [accept, kind, present] at accepted
  | true =>
      simp only [accept, kind, present, if_true] at accepted ⊢
      obtain ⟨group, opened, lower, value, whole, chain, closed⟩ := chain_of_closeInnermost accepted
      rw [whole] at accepted closed covers ⊢
      obtain ⟨opening, partner, rfl⟩ := covers.partner chain.plain
      -- Inside the innermost group only operators are left to be applied.
      rw [← Event.groups_duties, duties_closeInnermost accepted closed, Duty.groups_append,
        groups_due_of_plain chain.plain]
      exact ⟨opening, partner, rfl⟩

theorem closedColumns_of_read {text : Text} {front after : List Symbol} {closing : Symbol}
    (readable : Readable text (front ++ closing :: after)) (kind : closing.kind = .closing) :
    ∃ opening later, Partner front opening ∧
      Event.closedColumns ((read text [] front).stack.accept text closing).events =
        [opening.column] ∧
      Event.closedColumns (read text [] (front ++ closing :: after)).events =
        Event.closedColumns (read text [] front).events ++ opening.column :: later := by
  have clean : Readable text front := read_prefix readable
  have rest : ((read text [] front).stack.read text (closing :: after)).fault? = none := by
    rwa [Readable, read_append clean] at readable
  obtain ⟨accepted, -⟩ := accepted_of_read rest
  obtain ⟨opening, partner, closed⟩ := closedColumns_of_accept clean kind accepted
  let behind := ((read text [] front).stack.accept text closing).stack.read text after
  refine ⟨opening, Event.closedColumns behind.events, partner, closed, ?_⟩
  rw [read_append clean, read_cons accepted]
  simp only [Outcome.after, Event.closedColumns_append, closed]
  rfl

end Stack

namespace Query

open Stack

theorem accounts_events {query : Text} (scanned : query ≠ everything) (text : Text) :
    ∃ part last, part <+: symbols query ∧ Accounts text part [] (events query text) last ∧
      ∀ value, verdict query text = .value value → part = symbols query ∧ due last = [] := by
  obtain ⟨part, last, begins, accounts, done⟩ :=
    accounts_evaluate text (endColumn query) (symbols query)
  have evaluated : evaluate query text =
      Stack.evaluate text (endColumn query) (symbols query) [] := if_neg scanned
  rw [← evaluated] at accounts done
  refine ⟨part, last, begins, ?_, done⟩
  cases found : (evaluate query text).verdict with
  | value value =>
      simp only [events, found]
      exact accounts
  | malformed fault =>
      have reported : Accounts text [] last [.malformed query fault] last := .of_idle rfl rfl last
      have recorded := accounts.append reported
      rw [List.append_nil] at recorded
      simp only [events, found]
      exact recorded

theorem duties_events {query : Text} (scanned : query ≠ everything) (text : Text) :
    ∃ undone, (Event.duties (events query text) ++ undone).Perm (Symbol.duties (symbols query)) ∧
      ∀ value, verdict query text = .value value → undone = [] := by
  obtain ⟨part, last, ⟨unread, whole⟩, accounts, done⟩ := accounts_events scanned text
  refine ⟨due last ++ Symbol.duties unread, ?_, ?_⟩
  · rw [← whole, Symbol.duties_append, ← List.append_assoc]
    exact accounts.duties.append_right _
  · intro value evaluated
    obtain ⟨rfl, left⟩ := done value evaluated
    obtain rfl : unread = [] := List.append_right_eq_self.mp whole
    rw [left]
    rfl

theorem events_of_value {query text : Text} (scanned : query ≠ everything) {value : Bool}
    (evaluated : verdict query text = .value value) :
    Readable text (symbols query) ∧
      events query text = (read text [] (symbols query)).events ++
        (settle (endColumn query) (read text [] (symbols query)).stack).events := by
  have recorded : events query text = (evaluate query text).events := by
    rw [verdict] at evaluated
    simp only [events, evaluated]
  rw [recorded, evaluate, if_neg scanned]
  rw [verdict_of_scanned scanned] at evaluated
  cases found : (read text [] (symbols query)).fault? with
  | some fault => simp [Stack.evaluate, found] at evaluated
  | none =>
      apply And.intro found
      simp only [Stack.evaluate, found, Evaluation.after]

section Account

variable {query : Text} (scanned : query ≠ everything) (text : Text)
include scanned

theorem depth_of_push {before after : List Event} {term : Term} {column depth : Nat}
    (recorded : events query text = before ++ .pushed term column depth :: after) :
    depth + 2 * (Event.reductions .and before + Event.reductions .or before) +
        Event.reductions .not before + (Event.closedColumns before).length =
      1 + Event.pushes before := by
  obtain ⟨part, last, -, accounts, -⟩ := accounts_events scanned text
  have levels := accounts.levels
  rw [recorded] at levels
  have depth_spent := levels.depth
  rw [Duty.costs_eq, Event.count_apply_duties, Event.count_apply_duties, Event.count_apply_duties,
    Event.groups_duties, List.length_nil] at depth_spent
  omega

theorem read_prefix_events :
    (read text [] (symbols query)).events <+: events query text := by
  have reading : (read text [] (symbols query)).events <+: (evaluate query text).events := by
    rw [evaluate, if_neg scanned, Stack.evaluate]
    cases found : (read text [] (symbols query)).fault? with
    | some fault => exact List.prefix_rfl
    | none => exact List.prefix_append ..
  cases found : (evaluate query text).verdict with
  | value value =>
      simp only [events, found]
      exact reading
  | malformed fault =>
      simp only [events, found]
      exact reading.trans (List.prefix_append ..)

theorem entries_of_front {front after : List Symbol} (split : symbols query = front ++ after)
    (readable : Readable text front) :
    Symbol.entries text front <+: Event.entries (events query text) := by
  have begins := read_prefix_events scanned text
  rw [split, read_append readable] at begins
  rw [← (accounts_of_readable readable).entries]
  exact ((List.prefix_append ..).trans begins).filterMap Event.pushed?

theorem entries_events :
    Event.entries (events query text) <+: Symbol.entries text (symbols query) ∧
      ∀ value, verdict query text = .value value →
        Event.entries (events query text) = Symbol.entries text (symbols query) := by
  obtain ⟨part, last, begins, accounts, done⟩ := accounts_events scanned text
  rw [accounts.entries]
  refine ⟨begins.filterMap (Symbol.pushed? text), ?_⟩
  intro value evaluated
  rw [(done value evaluated).1]

theorem pushes_le :
    Event.pushes (events query text) ≤ (kinds query).countP (· ≠ .closing) := by
  rw [Event.pushes_eq, kinds, ← Symbol.length_entries text]
  exact (entries_events scanned text).1.length_le

theorem reductions_le (operator : Operator) :
    Event.reductions operator (events query text) ≤ (kinds query).count (.operator operator) := by
  obtain ⟨undone, kept, -⟩ := duties_events scanned text
  have counted := kept.count_eq (.apply operator)
  rw [List.count_append, Event.count_apply_duties, Symbol.count_apply_duties] at counted
  change _ = (kinds query).count (.operator operator) at counted
  omega

theorem closedColumns_events :
    ∃ unclosed, (Event.closedColumns (events query text) ++ unclosed).Perm
        (((symbols query).filter (·.kind = .opening)).map Symbol.column) ∧
      ∀ value, verdict query text = .value value → unclosed = [] := by
  obtain ⟨undone, kept, done⟩ := duties_events scanned text
  refine ⟨Duty.groups undone, ?_, ?_⟩
  · have groups := kept.filterMap Duty.group?
    rw [List.filterMap_append] at groups
    rw [← Event.groups_duties, ← Symbol.groups_duties]
    exact groups
  · intro value evaluated
    rw [done value evaluated]
    rfl

variable {value : Bool} (evaluated : verdict query text = .value value)
include evaluated

theorem reductions_of_value (operator : Operator) :
    Event.reductions operator (events query text) = (kinds query).count (.operator operator) := by
  obtain ⟨undone, kept, done⟩ := duties_events scanned text
  rw [done value evaluated, List.append_nil] at kept
  calc
    Event.reductions operator (events query text) =
        (Event.duties (events query text)).count (.apply operator) :=
      (Event.count_apply_duties ..).symm
    _ = (Symbol.duties (symbols query)).count (.apply operator) := kept.count_eq _
    _ = (kinds query).count (.operator operator) := Symbol.count_apply_duties ..

theorem pushes_of_value :
    Event.pushes (events query text) = (kinds query).countP (· ≠ .closing) := by
  rw [Event.pushes_eq, (entries_events scanned text).2 value evaluated, Symbol.length_entries]
  rfl

theorem closedColumns_of_value :
    (Event.closedColumns (events query text)).Perm
      (((symbols query).filter (·.kind = .opening)).map Symbol.column) := by
  obtain ⟨unclosed, columns, closed⟩ := closedColumns_events scanned text
  rwa [closed value evaluated, List.append_nil] at columns

theorem length_closedColumns_of_value :
    (Event.closedColumns (events query text)).length = (kinds query).count .opening ∧
      (Event.closedColumns (events query text)).length = (kinds query).count .closing := by
  have phrase := (verdict_value_iff scanned text value).mp evaluated
  have columns := (closedColumns_of_value scanned text evaluated).length_eq
  rw [← Symbol.groups_duties, Symbol.length_groups_duties] at columns
  exact ⟨columns, columns.trans phrase.balanced⟩

theorem closedColumns_at_closing {front after : List Symbol} {closing : Symbol}
    (split : symbols query = front ++ closing :: after) (kind : closing.kind = .closing) :
    ∃ opening, (∀ other, Partner front other ↔ other = opening) ∧
      Event.closedColumns ((read text [] front).stack.accept text closing).events =
        [opening.column] ∧
      (Event.closedColumns (events query text))[closings front]? = some opening.column := by
  obtain ⟨readable, recorded⟩ := events_of_value scanned evaluated
  rw [split] at readable recorded
  obtain ⟨opening, later, partner, closed, columns⟩ := closedColumns_of_read readable kind
  refine ⟨opening, ?_, closed, ?_⟩
  · intro other
    constructor
    · exact fun also => also.unique partner
    · intro same
      rwa [same]
  · have clean : Readable text front := read_prefix readable
    have before := length_closedColumns_of_readable clean
    rw [recorded, Event.closedColumns_append, columns, List.append_assoc, ← before,
      List.getElem?_append_right (Nat.le_refl _), Nat.sub_self]
    rfl

end Account

theorem opening_columns_nodup (query : Text) :
    (((symbols query).filter (·.kind = .opening)).map Symbol.column).Nodup := by
  apply List.pairwise_map.mpr
  exact ((symbols_increasing query).filter _).imp Nat.ne_of_lt

/-- The events of an evaluation account for its work. A push records the height that the events
before it leave, and the symbols that are read but for the closing parentheses have their entries
pushed, in their order and no more than once. An operator is applied at most as often as it stands
in the query, and a group is closed at most once. In a query with a value every entry is pushed,
every operator is applied and every group is closed: the groups in the order of their closing
parentheses, each at the column of the partner. -/
theorem events_account_for_work {query : Text} (scanned : query ≠ everything) (text : Text) :
    let recorded := events query text
    (∀ before term column depth after, recorded = before ++ .pushed term column depth :: after →
      depth + 2 * (Event.reductions .and before + Event.reductions .or before) +
          Event.reductions .not before + (Event.closedColumns before).length =
        1 + Event.pushes before) ∧
    (∀ front after, symbols query = front ++ after → (read text [] front).fault? = none →
      Symbol.entries text front <+: Event.entries recorded) ∧
    Event.entries recorded <+: Symbol.entries text (symbols query) ∧
    Event.pushes recorded ≤ (kinds query).countP (· ≠ .closing) ∧
    (∀ operator, Event.reductions operator recorded ≤ (kinds query).count (.operator operator)) ∧
    (∀ column ∈ Event.closedColumns recorded,
      ∃ symbol ∈ symbols query, symbol.kind = .opening ∧ symbol.column = column) ∧
    (Event.closedColumns recorded).Nodup ∧
    ((∃ value, verdict query text = .value value) →
      Event.entries recorded = Symbol.entries text (symbols query) ∧
      Event.pushes recorded = (kinds query).countP (· ≠ .closing) ∧
      (∀ operator, Event.reductions operator recorded = (kinds query).count (.operator operator)) ∧
      (Event.closedColumns recorded).Perm
        (((symbols query).filter (·.kind = .opening)).map Symbol.column) ∧
      (Event.closedColumns recorded).length = (kinds query).count .opening ∧
      (Event.closedColumns recorded).length = (kinds query).count .closing ∧
      ∀ front closing after, symbols query = front ++ closing :: after → closing.kind = .closing →
        ∃ opening, (∀ other, Partner front other ↔ other = opening) ∧
          Event.closedColumns ((read text [] front).stack.accept text closing).events =
            [opening.column] ∧
          (Event.closedColumns recorded)[closings front]? = some opening.column) := by
  intro recorded
  obtain ⟨unclosed, columns, -⟩ := closedColumns_events scanned text
  have distinct := columns.nodup_iff.mpr (opening_columns_nodup query)
  refine ⟨?_, ?_, (entries_events scanned text).1, pushes_le scanned text,
    reductions_le scanned text, ?_, (List.nodup_append.mp distinct).1, ?_⟩
  · intro before term column depth after pushed
    exact depth_of_push scanned text pushed
  · intro front after split readable
    exact entries_of_front scanned text split readable
  · intro column member
    have listed := columns.subset (List.mem_append_left unclosed member)
    obtain ⟨symbol, among, same⟩ := List.mem_map.mp listed
    obtain ⟨present, opens⟩ := List.mem_filter.mp among
    exact ⟨symbol, present, of_decide_eq_true opens, same⟩
  · intro formed
    obtain ⟨value, evaluated⟩ := formed
    obtain ⟨opened, closed⟩ := length_closedColumns_of_value scanned text evaluated
    refine ⟨(entries_events scanned text).2 value evaluated,
      pushes_of_value scanned text evaluated, reductions_of_value scanned text evaluated,
      closedColumns_of_value scanned text evaluated, opened, closed, ?_⟩
    intro front closing after split kind
    exact closedColumns_at_closing scanned text evaluated split kind

theorem events_account_for_nested_groups :
    let query := "(!({a} and {b}) or {c}) & not ({d})".toList
    let text := "x : {c}".toList
    let recorded := events query text
    let front := (symbols query).take 6
    query ≠ everything ∧ verdict query text = .value false ∧
      symbols query = front ++ ⟨.closing, 15, 1⟩ :: (symbols query).drop 7 ∧
      Event.closedColumns recorded = [3, 1, 31] ∧ Event.reductions .not recorded = 2 ∧
      Event.pushes recorded = 12 ∧
      (∃ opening, (∀ other, Partner front other ↔ other = opening) ∧
        Event.closedColumns ((read text [] front).stack.accept text ⟨.closing, 15, 1⟩).events =
          [opening.column] ∧
        (Event.closedColumns recorded)[closings front]? = some opening.column) ∧
      ∀ before term column depth after, recorded = before ++ .pushed term column depth :: after →
        depth + 2 * (Event.reductions .and before + Event.reductions .or before) +
            Event.reductions .not before + (Event.closedColumns before).length =
          1 + Event.pushes before := by
  intro query text recorded front
  have scanned : query ≠ everything := by decide
  have evaluated : verdict query text = .value false := by decide +kernel
  have split : symbols query = front ++ ⟨.closing, 15, 1⟩ :: (symbols query).drop 7 := by
    decide +kernel
  have columns : Event.closedColumns recorded = [3, 1, 31] := by decide +kernel
  have negations : (kinds query).count (.operator .not) = 2 := by decide +kernel
  have others : (kinds query).countP (· ≠ .closing) = 12 := by decide +kernel
  obtain ⟨depths, -, -, -, -, -, -, formed⟩ := events_account_for_work scanned text
  obtain ⟨-, pushed, applied, -, -, -, closed⟩ := formed ⟨false, evaluated⟩
  exact ⟨scanned, evaluated, split, columns, (applied .not).trans negations, pushed.trans others,
    closed front _ _ split rfl, depths⟩

end Query
end TagQuery

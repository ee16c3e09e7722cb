import TagQuery.Proofs.Chain

/-!
What is to be done for the symbols of a query. A symbol may lay a duty on the evaluation: an
operator is to be applied, and a group to be closed. Its entry keeps the duty on the stack, and an
event that is recorded discharges it. A reduction always discharges the latest duty, and takes off
the stack what this costs, so the events tell which duties are left and how high the stack is.
-/
namespace TagQuery

/-- What is to be done for a symbol: to apply an operator, or to close the group at a column. -/
inductive Duty where
  | apply (operator : Operator)
  | close (column : Nat)
  deriving DecidableEq, Repr

namespace Duty

/-- The number of entries that discharging the duty takes off a stack, less the one it puts on. -/
def cost : Duty → Nat
  | apply .not => 1
  | apply .and => 2
  | apply .or => 2
  | close _ => 1

def costs : List Duty → Nat
  | [] => 0
  | duty :: duties => duty.cost + costs duties

def group? : Duty → Option Nat
  | apply _ => none
  | close column => some column

def groups (duties : List Duty) : List Nat := duties.filterMap group?

@[simp] theorem groups_append (front back : List Duty) :
    groups (front ++ back) = groups front ++ groups back := List.filterMap_append

theorem costs_eq (duties : List Duty) :
    costs duties = 2 * (duties.count (.apply .and) + duties.count (.apply .or)) +
      duties.count (.apply .not) + (groups duties).length := by
  induction duties with
  | nil => rfl
  | cons duty duties ih =>
      rw [costs, ih]
      cases duty with
      | close column =>
          simp only [cost, groups, List.filterMap_cons, group?, List.length_cons, List.count_cons,
            beq_iff_eq, reduceCtorEq, if_false]
          omega
      | apply operator =>
          cases operator <;>
            simp only [cost, groups, List.filterMap_cons, group?, List.count_cons, beq_iff_eq,
              reduceCtorEq, apply.injEq, if_true, if_false] <;>
            omega

end Duty

def Symbol.duty? (symbol : Symbol) : Option Duty :=
  match symbol.kind with
  | .operator operator => some (.apply operator)
  | .opening => some (.close symbol.column)
  | _ => none

def Entry.duty? (entry : Entry) : Option Duty :=
  match entry.term with
  | .operator operator => some (.apply operator)
  | .opening => some (.close entry.column)
  | .value _ => none

/-- The entry that the symbol puts on a stack when it is read about the text. -/
def Symbol.pushed? (text : Text) (symbol : Symbol) : Option Entry :=
  match symbol.kind with
  | .literal literal => some ⟨.value (literal.occurs text), symbol.column⟩
  | .operator operator => some ⟨.operator operator, symbol.column⟩
  | .opening => some ⟨.opening, symbol.column⟩
  | .closing => none

theorem Symbol.duty?_of_pushed? {text : Text} {symbol : Symbol} {entry : Entry}
    (puts : symbol.pushed? text = some entry) : entry.duty? = symbol.duty? := by
  obtain ⟨kind, column, length⟩ := symbol
  cases kind <;> cases puts <;> rfl

namespace Event

def duty? : Event → Option Duty
  | .reduced operator _ => some (.apply operator)
  | .closed _ column => some (.close column)
  | _ => none

def isPush : Event → Bool
  | .pushed .. => true
  | _ => false

def pushed? : Event → Option Entry
  | .pushed term column _ => some ⟨term, column⟩
  | _ => none

def duties (events : List Event) : List Duty := events.filterMap duty?

def pushes (events : List Event) : Nat := events.countP isPush

def entries (events : List Event) : List Entry := events.filterMap pushed?

def reductions (operator : Operator) (events : List Event) : Nat :=
  events.countP fun
    | .reduced other _ => other = operator
    | _ => false

def closedColumns (events : List Event) : List Nat :=
  events.filterMap fun
    | .closed _ column => some column
    | _ => none

@[simp] theorem duties_append (front back : List Event) :
    duties (front ++ back) = duties front ++ duties back := List.filterMap_append

theorem pushes_eq (events : List Event) : pushes events = (entries events).length := by
  rw [pushes, entries, List.length_filterMap_eq_countP]
  apply List.countP_congr
  intro event _
  cases event <;> simp [isPush, pushed?]

theorem closedColumns_append (front back : List Event) :
    closedColumns (front ++ back) = closedColumns front ++ closedColumns back :=
  List.filterMap_append

theorem count_apply_duties (operator : Operator) (events : List Event) :
    (duties events).count (.apply operator) = reductions operator events := by
  rw [duties, List.count_filterMap]
  apply List.countP_congr
  intro event _
  cases event <;> simp [duty?]

theorem groups_duties (events : List Event) :
    Duty.groups (duties events) = closedColumns events := by
  rw [Duty.groups, duties, List.filterMap_filterMap, closedColumns]
  congr 1
  funext event
  cases event <;> rfl

/-- The events lead a stack from one height to another: a push by one up, to the depth that it
records, and a discharge down by its cost. -/
inductive Levels : Nat → List Event → Nat → Prop where
  | nil (height : Nat) : Levels height [] height
  | idle {event : Event} {height last : Nat} {events : List Event} (unpushed : event.isPush = false)
      (idle : event.duty? = none) (rest : Levels height events last) :
      Levels height (event :: events) last
  | pushed (term : Term) (column : Nat) {height last : Nat} {events : List Event}
      (rest : Levels (height + 1) events last) :
      Levels height (.pushed term column (height + 1) :: events) last
  | discharged {event : Event} {duty : Duty} {height last : Nat} {events : List Event}
      (discharges : event.duty? = some duty) (rest : Levels height events last) :
      Levels (height + duty.cost) (event :: events) last

namespace Levels

theorem append {first middle last : Nat} {front back : List Event}
    (before : Levels first front middle) (behind : Levels middle back last) :
    Levels first (front ++ back) last := by
  induction before with
  | nil => exact behind
  | idle unpushed idle rest ih => exact .idle unpushed idle (ih behind)
  | pushed term column rest ih => exact .pushed term column (ih behind)
  | discharged discharges rest ih => exact .discharged discharges (ih behind)

theorem split {first last : Nat} {front back : List Event}
    (levels : Levels first (front ++ back) last) :
    ∃ middle, Levels first front middle ∧ Levels middle back last := by
  induction front generalizing first with
  | nil => exact ⟨first, .nil first, levels⟩
  | cons event front ih =>
      cases levels with
      | idle unpushed idle rest =>
          obtain ⟨middle, before, behind⟩ := ih rest
          exact ⟨middle, .idle unpushed idle before, behind⟩
      | pushed term column rest =>
          obtain ⟨middle, before, behind⟩ := ih rest
          exact ⟨middle, .pushed term column before, behind⟩
      | discharged discharges rest =>
          obtain ⟨middle, before, behind⟩ := ih rest
          exact ⟨middle, .discharged discharges before, behind⟩

theorem balance {first last : Nat} {events : List Event} (levels : Levels first events last) :
    last + Duty.costs (duties events) = first + pushes events := by
  induction levels with
  | nil => rfl
  | idle unpushed idle rest ih => simpa [duties, pushes, unpushed, idle] using ih
  | pushed term column rest ih =>
      simp only [duties, pushes, List.filterMap_cons, duty?, isPush, List.countP_cons, if_true]
        at ih ⊢
      omega
  | @discharged event duty height last events discharges rest ih =>
      have unpushed : event.isPush = false := by
        cases event <;> first | rfl | cases discharges
      simp only [duties, pushes, List.filterMap_cons, discharges, Duty.costs, List.countP_cons,
        unpushed, Bool.false_eq_true, if_false] at ih ⊢
      omega

theorem depth {first last column depth : Nat} {term : Term} {before after : List Event}
    (levels : Levels first (before ++ .pushed term column depth :: after) last) :
    depth + Duty.costs (duties before) = first + pushes before + 1 := by
  obtain ⟨middle, front, back⟩ := levels.split
  have level := front.balance
  cases back with
  | idle unpushed idle rest => cases unpushed
  | pushed term column rest => omega
  | discharged discharges rest => cases discharges

end Levels
end Event

namespace Symbol

def entries (text : Text) (symbols : List Symbol) : List Entry := symbols.filterMap (pushed? text)

theorem length_entries (text : Text) (symbols : List Symbol) :
    (entries text symbols).length = (symbols.map kind).countP (· ≠ .closing) := by
  rw [entries, List.length_filterMap_eq_countP, List.countP_map]
  apply List.countP_congr
  intro symbol _
  cases same : symbol.kind <;> simp [pushed?, same]

def duties (symbols : List Symbol) : List Duty := symbols.filterMap duty?

@[simp] theorem duties_append (front back : List Symbol) :
    duties (front ++ back) = duties front ++ duties back := List.filterMap_append

theorem count_apply_duties (operator : Operator) (symbols : List Symbol) :
    (duties symbols).count (.apply operator) = (symbols.map kind).count (.operator operator) := by
  rw [duties, List.count_filterMap, List.count, List.countP_map]
  apply List.countP_congr
  intro symbol _
  cases same : symbol.kind <;> simp [duty?, same]

theorem groups_duties (symbols : List Symbol) :
    Duty.groups (duties symbols) = (symbols.filter (·.kind = .opening)).map column := by
  rw [Duty.groups, duties, List.filterMap_filterMap, ← List.filterMap_eq_map, List.filterMap_filter]
  congr 1
  funext symbol
  cases same : symbol.kind <;> simp [duty?, Duty.group?, same]

theorem length_groups_duties (symbols : List Symbol) :
    (Duty.groups (duties symbols)).length = (symbols.map kind).count .opening := by
  rw [groups_duties, List.length_map, ← List.countP_eq_length_filter, List.count, List.countP_map]
  rfl

end Symbol

namespace Stack

def due (stack : Stack) : List Duty := stack.filterMap Entry.duty?

@[simp] theorem due_append (upper lower : Stack) : due (upper ++ lower) = due upper ++ due lower :=
  List.filterMap_append

theorem due_value (value : Bool) (column : Nat) (below : Stack) :
    due (⟨.value value, column⟩ :: below) = due below := rfl

theorem due_opening (column : Nat) (below : Stack) :
    due (⟨.opening, column⟩ :: below) = .close column :: due below := rfl

theorem length_groups_due (stack : Stack) :
    (Duty.groups (due stack)).length = (terms stack).count .opening := by
  rw [Duty.groups, due, List.filterMap_filterMap, List.length_filterMap_eq_countP, terms,
    List.count_reverse, List.count, List.countP_map]
  apply List.countP_congr
  intro entry _
  cases same : entry.term <;> simp [Entry.duty?, Duty.group?, same]

theorem groups_due_of_plain {group : Stack} (plain : .opening ∉ terms group) :
    Duty.groups (due group) = [] := by
  apply List.eq_nil_of_length_eq_zero
  rw [length_groups_due, List.count_eq_zero]
  exact plain

/-- Each of the events discharges the latest duty that is left, and lowers the stack by its cost. -/
inductive Works : Stack → List Event → Stack → Prop where
  | done (stack : Stack) : Works stack [] stack
  | step {event : Event} {duty : Duty} {stack next last : Stack} {events : List Event}
      (discharges : event.duty? = some duty) (rest : Works next events last)
      (left : due stack = duty :: due next) (height : stack.length = next.length + duty.cost) :
      Works stack (event :: events) last

namespace Works

theorem duties_eq {stack last : Stack} {events : List Event} (works : Works stack events last) :
    Event.duties events ++ due last = due stack := by
  induction works with
  | done stack => rfl
  | step discharges rest left height ih =>
      rw [left, ← ih, Event.duties, List.filterMap_cons, discharges]
      rfl

theorem entries_eq {stack last : Stack} {events : List Event} (works : Works stack events last) :
    Event.entries events = [] := by
  induction works with
  | done stack => rfl
  | @step event duty stack next last events discharges rest left height ih =>
      have unpushed : event.pushed? = none := by
        cases event <;> first | rfl | cases discharges
      rw [Event.entries, List.filterMap_cons, unpushed]
      exact ih

theorem levels {stack last : Stack} {events : List Event} (works : Works stack events last) :
    Event.Levels stack.length events last.length := by
  induction works with
  | done stack => exact .nil _
  | step discharges rest left height ih =>
      rw [height]
      exact .discharged discharges ih

theorem of_applied {fallback : Nat} {stack rest last : Stack} {operator : Operator} {result : Bool}
    {events : List Event} (applied : reduce fallback stack = .applied operator result rest)
    (works : Works rest events last) : Works stack (.reduced operator result :: events) last := by
  have step := reduces fallback stack
  rw [applied] at step
  cases step with
  | joined joins place column edge left right below =>
      cases joins with
      | and => exact .step rfl works rfl rfl
      | or => exact .step rfl works rfl rfl
  | negated place column inner below => exact .step rfl works rfl rfl

theorem of_closed {fallback : Nat} {stack rest : Stack} {value : Bool} {opened : Nat}
    (closed : reduce fallback stack = .closed value opened rest) :
    Works stack [.closed value opened] rest := by
  obtain ⟨place, lower, rfl, rfl⟩ := closed_replaces closed
  exact .step rfl (.done _) rfl rfl

end Works

theorem works_closeInnermost (column : Nat) (stack : Stack) :
    let outcome := closeInnermost column stack
    ∃ last, Works stack outcome.events last ∧ (outcome.fault? = none → last = outcome.stack) := by
  fun_induction closeInnermost column stack with
  | case1 stack operator result rest applied ih =>
      obtain ⟨last, works, left⟩ := ih
      exact ⟨last, .of_applied applied works, left⟩
  | case2 stack value opened rest closed => exact ⟨rest, .of_closed closed, fun _ => rfl⟩
  | case3 stack fault rest failed => exact ⟨stack, .done stack, by simp⟩

theorem duties_closeInnermost {closing opened : Nat} {value : Bool} {group lower : Stack}
    (accepted : (closeInnermost closing (group ++ ⟨.opening, opened⟩ :: lower)).fault? = none)
    (closed : (closeInnermost closing (group ++ ⟨.opening, opened⟩ :: lower)).stack =
      ⟨.value value, opened⟩ :: lower) :
    Event.duties (closeInnermost closing (group ++ ⟨.opening, opened⟩ :: lower)).events =
      due group ++ [.close opened] := by
  obtain ⟨last, works, left⟩ := works_closeInnermost closing (group ++ ⟨.opening, opened⟩ :: lower)
  have discharged := works.duties_eq
  rw [left accepted, closed, due_value, due_append, due_opening] at discharged
  apply (List.append_left_inj (due lower)).mp
  rw [discharged, List.append_assoc, List.singleton_append]

theorem works_settle (endColumn : Nat) (stack : Stack) :
    ∃ last, Works stack (settle endColumn stack).events last ∧
      ∀ value, (settle endColumn stack).verdict = .value value → due last = [] := by
  fun_induction settle endColumn stack with
  | case1 => exact ⟨[], .done [], by simp⟩
  | case2 entry =>
      refine ⟨[entry], .done [entry], ?_⟩
      intro value settled
      obtain ⟨term, column⟩ := entry
      cases term with
      | value found => rfl
      | operator operator => cases settled
      | opening => cases settled
  | case3 top next below opens => exact ⟨_, .done _, by simp⟩
  | case4 top next below closed operator result rest applied ih =>
      obtain ⟨last, works, left⟩ := ih
      exact ⟨last, .of_applied applied works, left⟩
  | case5 top next below closed value opened rest reduced =>
      exact ⟨rest, .of_closed reduced, by simp⟩
  | case6 top next below closed fault rest reduced => exact ⟨_, .done _, by simp⟩

end Stack
end TagQuery

import TagQuery.Proofs.Diagnosis

namespace TagQuery

open Grammar
open TagQuery.Symbol (Kind)

/-- Every parenthesis of the row has its partner in the row. -/
inductive Bracketed : List Kind → Prop where
  | nil : Bracketed []
  | plain {kind : Kind} {kinds : List Kind} (unopening : kind ≠ .opening)
      (unclosing : kind ≠ .closing) (rest : Bracketed kinds) : Bracketed (kind :: kinds)
  | group {inner rest : List Kind} (inside : Bracketed inner) (behind : Bracketed rest) :
      Bracketed (.opening :: (inner ++ .closing :: rest))

namespace Bracketed

theorem append {front back : List Kind} (left : Bracketed front) (right : Bracketed back) :
    Bracketed (front ++ back) := by
  induction left with
  | nil => exact right
  | plain unopening unclosing rest ih => exact .plain unopening unclosing ih
  | group inside behind first second =>
      rw [List.cons_append, List.append_assoc, List.cons_append]
      exact .group inside second

theorem count_opening_cons (kinds : List Kind) :
    (.opening :: kinds).count .opening = kinds.count .opening + 1 ∧
      (.opening :: kinds).count .closing = kinds.count .closing := by
  simp

theorem count_closing_cons (kinds : List Kind) :
    (.closing :: kinds).count .opening = kinds.count .opening ∧
      (.closing :: kinds).count .closing = kinds.count .closing + 1 := by
  simp

theorem count {kinds : List Kind} (bracketed : Bracketed kinds) :
    kinds.count .opening = kinds.count .closing := by
  induction bracketed with
  | nil => rfl
  | plain unopening unclosing rest ih => simp [unopening, unclosing, ih]
  | @group inner rest inside behind first second =>
      obtain ⟨opened, unchanged⟩ := count_opening_cons (inner ++ .closing :: rest)
      obtain ⟨unchanged', closed⟩ := count_closing_cons rest
      rw [opened, unchanged, List.count_append, List.count_append, unchanged', closed]
      omega

theorem count_end {kinds front back : List Kind} (bracketed : Bracketed kinds)
    (split : kinds = front ++ back) : back.count .opening ≤ back.count .closing := by
  induction bracketed generalizing front back with
  | nil =>
      obtain ⟨-, rfl⟩ := List.append_eq_nil_iff.mp split.symm
      exact Nat.le_refl _
  | plain unopening unclosing rest ih =>
      cases front with
      | nil =>
          rw [List.nil_append] at split
          rw [← split]
          exact Nat.le_of_eq (plain unopening unclosing rest).count
      | cons first front => exact ih (List.cons.inj split).2
  | @group inner rest inside behind first second =>
      cases front with
      | nil =>
          rw [List.nil_append] at split
          rw [← split]
          exact Nat.le_of_eq (group inside behind).count
      | cons _ front =>
          have level := behind.count
          obtain ⟨unchanged, closed⟩ := count_closing_cons rest
          rcases List.append_eq_append_iff.mp (List.cons.inj split).2 with
            ⟨part, rfl, whole⟩ | ⟨part, rfl, rfl⟩
          · cases part with
            | nil =>
                rw [List.nil_append] at whole
                rw [← whole, unchanged, closed]
                omega
            | cons _ part => exact second (List.cons.inj whole).2
          · have ends := first rfl
            rw [List.count_append, List.count_append, unchanged, closed]
            omega

end Bracketed

theorem Grammar.Derives.bracketed {text : Text} {category : Category} {kinds : List Kind}
    {value : Bool} (derivation : Derives text category kinds value) : Bracketed kinds := by
  induction derivation with
  | literal found => exact .plain (by simp) (by simp) .nil
  | group inner ih => exact .group ih .nil
  | single operand ih => exact ih
  | joined joins operand phrase first second =>
      exact first.append (.plain (by simp) (by simp) second)
  | negated phrase ih => exact .plain (by simp) (by simp) ih

/-- Behind the symbols, a closing parenthesis belongs to this opening one. -/
def Symbol.Partner (front : List Symbol) (opening : Symbol) : Prop :=
  ∃ before inside, front = before ++ opening :: inside ∧ opening.kind = .opening ∧
    Bracketed (inside.map kind)

namespace Symbol

theorem no_partner_inside {before inside : List Symbol} {opening : Symbol}
    (opens : opening.kind = .opening)
    (outer : Bracketed ((before ++ opening :: inside).map kind)) :
    ¬ Bracketed (inside.map kind) := by
  intro inner
  have more := outer.count_end (List.map_append ..)
  have level := inner.count
  obtain ⟨opened, unchanged⟩ := Bracketed.count_opening_cons (inside.map kind)
  rw [List.map_cons, opens, opened, unchanged] at more
  omega

theorem Partner.unique {front : List Symbol} {first second : Symbol} (left : Partner front first)
    (right : Partner front second) : first = second := by
  obtain ⟨before, inside, rfl, opens, bracketed⟩ := left
  obtain ⟨before', inside', same, opens', bracketed'⟩ := right
  rcases List.append_eq_append_iff.mp same with ⟨part, -, rest⟩ | ⟨part, -, rest⟩
  · cases part with
    | nil => exact (List.cons.inj rest).1
    | cons _ part =>
        obtain ⟨-, rfl⟩ := List.cons.inj rest
        exact absurd bracketed' (no_partner_inside opens' bracketed)
  · cases part with
    | nil => exact (List.cons.inj rest).1.symm
    | cons _ part =>
        obtain ⟨-, rfl⟩ := List.cons.inj rest
        exact absurd bracketed (no_partner_inside opens bracketed')

end Symbol

namespace Stack

theorem Represents.bracketed {text : Text} {kinds : List Kind} {row : List Term}
    (represents : Represents text kinds row) (plain : .opening ∉ row) : Bracketed kinds := by
  induction represents with
  | nil => exact .nil
  | value operand rest ih =>
      exact operand.bracketed.append (ih fun member => plain (List.mem_cons_of_mem _ member))
  | operator operator rest ih =>
      exact .plain (by simp) (by simp) (ih fun member => plain (List.mem_cons_of_mem _ member))
  | opening rest ih => exact absurd (List.mem_cons_self ..) plain

/-- The innermost group on a stack has been opened by the partner of what closes it next. -/
theorem Covers.partner {text : Text} {symbols : List Symbol} {group lower : Stack} {opened : Nat}
    (covers : Covers text symbols (group ++ ⟨.opening, opened⟩ :: lower))
    (plain : .opening ∉ terms group) :
    ∃ opening, Symbol.Partner symbols opening ∧ opening.column = opened := by
  obtain ⟨before, opening, inside, rfl, kind, column, -, inner⟩ := covers.opening_split
  exact ⟨opening, ⟨before, inside, rfl, kind, inner.represents.bracketed plain⟩, column⟩

end Stack
end TagQuery

import TagQuery.Proofs.Grammar
import TagQuery.Proofs.Scanning
import TagQuery.Proofs.Tags

namespace TagQuery

open TagQuery.Symbol (Kind)

def Capture.Open (capture : Capture) : Prop :=
  ∃ tag, '}' ∉ tag ∧ capture.reversed.reverse = '{' :: tag

theorem Capture.open_start (column : Nat) : (Capture.start column).Open :=
  ⟨[], by simp, rfl⟩

theorem Capture.Open.extend {capture : Capture} (opened : capture.Open) {character : Char}
    (other : character ≠ '}') : (capture.extend character).Open := by
  obtain ⟨tag, whole, content⟩ := opened
  refine ⟨tag ++ [character], ?_, ?_⟩
  · simp [whole, Ne.symm other]
  · simp [Capture.extend, content]

namespace Scanner

theorem read_open {capture : Option Capture} (opened : ∀ started ∈ capture, started.Open)
    (column : Nat) (head : Char) (tail : Text) :
    ∀ started ∈ (read capture column head tail).2, started.Open := by
  intro started member
  cases capture with
  | none =>
      simp only [read] at member
      split at member
      · cases member
        exact Capture.open_start column
      · cases member
  | some pending =>
      simp only [read] at member
      split at member
      · cases member
      · rename_i other
        cases member
        exact (opened pending rfl).extend other

theorem read_literal {capture : Option Capture} (opened : ∀ started ∈ capture, started.Open)
    {column : Nat} {head : Char} {tail : Text} {symbol : Symbol} {literal : Text}
    (found : (read capture column head tail).1 = some symbol)
    (kind : symbol.kind = .literal literal) :
    ∃ tag, '}' ∉ tag ∧ literal = Text.braced tag := by
  cases capture with
  | none =>
      simp only [read] at found
      split at found
      · cases found
      · obtain ⟨bare, spelling, rest, -, spelled, rfl⟩ := Symbol.bare?_eq_some_iff.mp found
        obtain rfl : bare = .literal literal := kind
        cases spelled
  | some pending =>
      simp only [read] at found
      split at found
      · cases found
        obtain ⟨tag, whole, content⟩ := opened pending rfl
        refine ⟨tag, whole, ?_⟩
        rw [← Kind.literal.inj kind]
        simp [Capture.extend, content, Text.braced]
      · cases found

theorem literal_of_mem_symbolsFrom {capture : Option Capture}
    (opened : ∀ started ∈ capture, started.Open) {column : Nat} {text : Text} {symbol : Symbol}
    (member : symbol ∈ symbolsFrom capture column text) {literal : Text}
    (kind : symbol.kind = .literal literal) : ∃ tag, '}' ∉ tag ∧ literal = Text.braced tag := by
  induction text generalizing capture column with
  | nil => cases member
  | cons head tail ih =>
      rw [symbolsFrom_cons, List.mem_append, Option.mem_toList] at member
      rcases member with found | later
      · exact read_literal opened found kind
      · exact ih (read_open opened column head tail) later

end Scanner

namespace Stack

section Agreement

variable {text other : Text}

theorem accept_agree {symbol : Symbol}
    (agree : ∀ literal, symbol.kind = .literal literal → literal.occurs text = literal.occurs other)
    (stack : Stack) : stack.accept text symbol = stack.accept other symbol := by
  unfold accept
  split
  · rename_i literal kind
    rw [agree literal kind]
  · rfl
  · rfl
  · rfl

theorem read_agree {symbols : List Symbol}
    (agree : ∀ symbol ∈ symbols, ∀ literal, symbol.kind = .literal literal →
      literal.occurs text = literal.occurs other) (stack : Stack) :
    stack.read text symbols = stack.read other symbols := by
  induction symbols generalizing stack with
  | nil => rfl
  | cons symbol symbols ih =>
      have first := accept_agree (agree symbol (List.mem_cons_self ..)) stack
      have rest := ih fun later member => agree later (List.mem_cons_of_mem symbol member)
      simp only [read, first, rest]

theorem evaluate_agree {symbols : List Symbol}
    (agree : ∀ symbol ∈ symbols, ∀ literal, symbol.kind = .literal literal →
      literal.occurs text = literal.occurs other) (endColumn : Nat) (stack : Stack) :
    stack.evaluate text endColumn symbols = stack.evaluate other endColumn symbols := by
  simp only [evaluate, read_agree agree]

end Agreement
end Stack

namespace Query

theorem literal_of_mem {query literal : Text} (member : .literal literal ∈ kinds query) :
    ∃ tag, '}' ∉ tag ∧ literal = Text.braced tag := by
  obtain ⟨symbol, scanned, kind⟩ := List.mem_map.mp member
  have opened : ∀ started ∈ (none : Option Capture), started.Open := by
    intro started absent
    cases absent
  exact Scanner.literal_of_mem_symbolsFrom opened scanned kind

theorem evaluate_agree {query text other : Text}
    (agree : ∀ literal, .literal literal ∈ kinds query →
      literal.occurs text = literal.occurs other) :
    evaluate query text = evaluate query other := by
  unfold evaluate
  split
  · rfl
  · apply Stack.evaluate_agree
    intro symbol member literal kind
    apply agree
    rw [← kind]
    exact List.mem_map_of_mem member

end Query

namespace Item

def SameTags (first second : Item) : Prop := ∀ tag, tag ∈ first.tags ↔ tag ∈ second.tags

theorem SameTags.carries_iff {first second : Item} (same : SameTags first second) (tag : Text) :
    first.Carries tag ↔ second.Carries tag := by
  have untagged : first.tags = [] ↔ second.tags = [] := by
    rw [List.eq_nil_iff_forall_not_mem, List.eq_nil_iff_forall_not_mem]
    exact forall_congr' fun tag => not_congr (same tag)
  unfold Carries
  rw [same tag, untagged]

theorem occurs_searchedText_congr {first second : Item} (plain : first.BraceFree)
    (plain' : second.BraceFree) (same : SameTags first second) {tag : Text} (whole : '}' ∉ tag) :
    (Text.braced tag).occurs first.searchedText = (Text.braced tag).occurs second.searchedText := by
  rw [Bool.eq_iff_iff, Text.occurs_iff, Text.occurs_iff, braced_infix_searchedText_iff plain whole,
    braced_infix_searchedText_iff plain' whole]
  exact same.carries_iff tag

/-- What a query says about an item depends on the set of its tags only: neither on its name, nor on
the order of its tags, nor on how often it has one. -/
theorem verdict_of_same_tags {first second : Item} (plain : first.BraceFree)
    (plain' : second.BraceFree) (same : SameTags first second) (query : Text) :
    Query.verdict query first.searchedText = Query.verdict query second.searchedText ∧
      first.satisfies query = second.satisfies query := by
  have agree : ∀ literal, .literal literal ∈ Query.kinds query →
      literal.occurs first.searchedText = literal.occurs second.searchedText := by
    intro literal member
    obtain ⟨tag, whole, rfl⟩ := Query.literal_of_mem member
    exact occurs_searchedText_congr plain plain' same whole
  have verdicts :
      Query.verdict query first.searchedText = Query.verdict query second.searchedText := by
    rw [Query.verdict, Query.verdict, Query.evaluate_agree agree]
  apply And.intro verdicts
  rw [satisfies, satisfies, Query.selects, Query.selects, verdicts]

theorem verdict_of_reordered_tags :
    let first : Item := ⟨"b,a : a".toList, ["a".toList, "b".toList]⟩
    let second : Item := ⟨[], ["b".toList, "a".toList, "b".toList]⟩
    let query := "!\x7ba : {a} and {b}".toList
    first.BraceFree ∧ second.BraceFree ∧ SameTags first second ∧
      Query.verdict query first.searchedText = Query.verdict query second.searchedText ∧
        first.satisfies query = second.satisfies query := by
  intro first second query
  have plain : first.BraceFree := by decide
  have plain' : second.BraceFree := by decide
  have same : SameTags first second := by
    intro tag
    simp only [first, second, List.mem_cons, List.not_mem_nil, or_false]
    grind
  exact ⟨plain, plain', same, verdict_of_same_tags plain plain' same query⟩

end Item
end TagQuery

import TagQuery.Item

namespace TagQuery
namespace Text

def BraceFree (text : Text) : Prop := '{' ∉ text ∧ '}' ∉ text

instance (text : Text) : Decidable text.BraceFree := inferInstanceAs (Decidable (_ ∧ _))

theorem braced_infix_skip {needle front : Text} (bare : '{' ∉ front) (rest : Text) :
    braced needle <:+: front ++ rest ↔ braced needle <:+: rest := by
  induction front with
  | nil => rfl
  | cons head tail ih =>
      rw [List.mem_cons, not_or] at bare
      obtain ⟨different, bare⟩ := bare
      rw [List.cons_append, List.infix_cons_iff, ih bare]
      constructor
      · rintro (starts | found)
        · rw [braced, List.cons_append, List.cons_prefix_cons] at starts
          exact absurd starts.1 different
        · exact found
      · exact .inr

theorem closed_prefix_iff {needle content : Text} (whole : '}' ∉ needle) (closed : '}' ∉ content)
    (rest : Text) : needle ++ ['}'] <+: content ++ '}' :: rest ↔ needle = content := by
  induction needle generalizing content with
  | nil =>
      cases content with
      | nil => simp
      | cons head tail =>
          rw [List.mem_cons, not_or] at closed
          simp [closed.1]
  | cons first needle ih =>
      rw [List.mem_cons, not_or] at whole
      cases content with
      | nil => simp [Ne.symm whole.1]
      | cons head tail =>
          rw [List.mem_cons, not_or] at closed
          simp only [List.cons_append, List.cons_prefix_cons, List.cons.injEq]
          rw [ih whole.2 closed.2]

theorem braced_infix_iff {needle content : Text} (whole : '}' ∉ needle) (plain : BraceFree content)
    (rest : Text) :
    braced needle <:+: braced content ++ rest ↔ needle = content ∨ braced needle <:+: rest := by
  have apart : braced content ++ rest = '{' :: (content ++ '}' :: rest) := by simp [braced]
  have here : braced needle <+: '{' :: (content ++ '}' :: rest) ↔ needle = content := by
    rw [braced, List.cons_append, List.cons_prefix_cons, closed_prefix_iff whole plain.2]
    exact and_iff_right rfl
  have beyond : braced needle <:+: content ++ '}' :: rest ↔ braced needle <:+: rest := by
    rw [braced_infix_skip plain.1]
    have last : '{' ∉ ['}'] := by decide
    exact braced_infix_skip last rest
  rw [apart, List.infix_cons_iff, here, beyond]

theorem braced_intercalate_cons_cons (first second : Text) (others : List Text) :
    braced (['}', ',', '{'].intercalate (first :: second :: others)) =
      braced first ++ ([','] ++ braced (['}', ',', '{'].intercalate (second :: others))) := by
  simp [braced]

theorem braced_infix_intercalate_iff {needle first : Text} {others : List Text}
    (whole : '}' ∉ needle) (plain : ∀ content ∈ first :: others, BraceFree content) :
    braced needle <:+: braced (['}', ',', '{'].intercalate (first :: others)) ↔
      needle ∈ first :: others := by
  induction others generalizing first with
  | nil =>
      have only := braced_infix_iff whole (plain first (List.mem_cons_self ..)) []
      simpa [braced] using only
  | cons second others ih =>
      rw [braced_intercalate_cons_cons,
        braced_infix_iff whole (plain first (List.mem_cons_self ..)),
        braced_infix_skip (by decide), List.mem_cons (b := first),
        ih fun content member => plain content (List.mem_cons_of_mem _ member)]

end Text

namespace Item

/-- The tag is one of the tags of the item. One without tags has the empty tag. -/
def Carries (item : Item) (tag : Text) : Prop := tag ∈ item.tags ∨ tag = [] ∧ item.tags = []

instance (item : Item) (tag : Text) : Decidable (item.Carries tag) :=
  inferInstanceAs (Decidable (_ ∨ _))

structure BraceFree (item : Item) : Prop where
  name : item.name.BraceFree
  tags : ∀ tag ∈ item.tags, Text.BraceFree tag

instance (item : Item) : Decidable item.BraceFree :=
  decidable_of_iff (item.name.BraceFree ∧ ∀ tag ∈ item.tags, Text.BraceFree tag)
    ⟨fun ⟨name, tags⟩ => ⟨name, tags⟩, fun plain => ⟨plain.name, plain.tags⟩⟩

theorem braced_infix_searchedText_iff {item : Item} (plain : item.BraceFree) {tag : Text}
    (whole : '}' ∉ tag) : Text.braced tag <:+: item.searchedText ↔ item.Carries tag := by
  obtain ⟨name, tags⟩ := item
  have bare : '{' ∉ name ++ " : ".toList := by simpa using plain.name.1
  rw [searchedText, Text.braced_infix_skip bare]
  cases tags with
  | nil =>
      have empty : Text.BraceFree [] := ⟨by simp, by simp⟩
      have only := Text.braced_infix_iff whole empty []
      simpa [Carries, Text.braced] using only
  | cons first others =>
      rw [Text.braced_infix_intercalate_iff whole plain.tags]
      simp [Carries]

end Item
end TagQuery

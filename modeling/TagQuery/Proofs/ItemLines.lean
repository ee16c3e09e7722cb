import Mathlib.Data.List.DropRight
import TagQuery.Item

namespace TagQuery

namespace Text

def Blank (text : Text) : Prop := ∀ character ∈ text, isBlank character = true

instance (text : Text) : Decidable text.Blank :=
  decidable_of_iff (text.all isBlank = true) List.all_eq_true

theorem Blank.not_mem {text : Text} (blank : Blank text) {character : Char}
    (inked : isBlank character = false) : character ∉ text := by
  intro member
  rw [blank character member] at inked
  cases inked

theorem Blank.append {first second : Text} (left : Blank first) (right : Blank second) :
    Blank (first ++ second) := by
  intro character member
  rcases List.mem_append.mp member with member | member
  · exact left character member
  · exact right character member

theorem trim_of_blank {text : Text} (blank : Blank text) : trim text = [] := by
  rw [trim, List.dropWhile_eq_nil_iff.mpr blank]
  rfl

theorem trim_append_left {left : Text} (blank : Blank left) (text : Text) :
    trim (left ++ text) = trim text := by
  rw [trim, List.dropWhile_append_of_pos blank]
  rfl

theorem trim_append_right {right : Text} (blank : Blank right) (text : Text) :
    trim (text ++ right) = trim text := by
  by_cases bare : Blank text
  · rw [trim_of_blank bare, trim_of_blank (bare.append blank)]
  · have inked : (text.dropWhile isBlank).isEmpty = false := by
      rw [List.isEmpty_eq_false_iff]
      exact fun gone => bare (List.dropWhile_eq_nil_iff.mp gone)
    have reversed : ∀ character ∈ right.reverse, isBlank character = true := by
      intro character member
      exact blank character (List.mem_reverse.mp member)
    rw [trim, List.dropWhile_append, inked, if_neg Bool.false_ne_true, List.reverse_append,
      List.dropWhile_append_of_pos reversed]
    rfl

theorem trim_padded {left right : Text} (before : Blank left) (after : Blank right) (text : Text) :
    trim (left ++ text ++ right) = trim text := by
  rw [trim_append_right after, trim_append_left before]

theorem exists_padding (text : Text) :
    ∃ left right, Blank left ∧ Blank right ∧ text = left ++ trim text ++ right := by
  refine ⟨text.takeWhile isBlank, (text.dropWhile isBlank).rtakeWhile isBlank, ?_, ?_, ?_⟩
  · exact fun character member => List.mem_takeWhile_imp member
  · exact fun character member => List.mem_rtakeWhile_imp member
  · have ended : trim text ++ (text.dropWhile isBlank).rtakeWhile isBlank =
        text.dropWhile isBlank := List.rdropWhile_append_rtakeWhile
    rw [List.append_assoc, ended, List.takeWhile_append_dropWhile]

theorem trim_trim (text : Text) : trim (trim text) = trim text := by
  obtain ⟨left, right, before, after, padded⟩ := exists_padding text
  calc
    trim (trim text) = trim (left ++ trim text ++ right) := (trim_padded before after _).symm
    _ = trim text := by rw [← padded]

theorem not_mem_trim {text : Text} {character : Char} (absent : character ∉ text) :
    character ∉ trim text := by
  obtain ⟨left, right, -, -, padded⟩ := exists_padding text
  rw [padded] at absent
  simp only [List.mem_append, not_or] at absent
  exact absent.1.2

end Text

open Text

namespace Item

structure Listable (tag : Text) : Prop where
  filled : tag ≠ []
  whole : ',' ∉ tag
  trimmed : trim tag = tag

/-- Nothing of the item is lost on a line: no tab in its name and no blanks at its ends, and only
tags that can stand there. -/
structure Tidy (item : Item) : Prop where
  whole : '\t' ∉ item.name
  trimmed : trim item.name = item.name
  tags : ∀ tag ∈ item.tags, Listable tag

/-- The tags as they stand in pieces, each with blanks around it, and blank pieces among them. -/
inductive Pieces : List Text → List Text → Prop where
  | nil : Pieces [] []
  | blank {tags pieces : List Text} {piece : Text} (blank : Blank piece)
      (rest : Pieces tags pieces) : Pieces tags (piece :: pieces)
  | tag {tags pieces : List Text} {left right : Text} (before : Blank left) (after : Blank right)
      (tag : Text) (rest : Pieces tags pieces) :
      Pieces (tag :: tags) ((left ++ tag ++ right) :: pieces)

/-- The line writes the item: its name with blanks around it, a tab, and pieces of its tags with
commas between them. -/
def WrittenOn (item : Item) (line : Text) : Prop :=
  ∃ left right pieces, Blank left ∧ '\t' ∉ left ∧ Blank right ∧ '\t' ∉ right ∧
    Pieces item.tags pieces ∧
      line = left ++ item.name ++ right ++ '\t' :: [','].intercalate pieces

def line (item : Item) : Text := item.name ++ '\t' :: [','].intercalate item.tags

theorem comma_inked : isBlank ',' = false := by decide

namespace Pieces

variable {tags pieces : List Text}

theorem self (tags : List Text) : Pieces tags tags := by
  induction tags with
  | nil => exact .nil
  | cons first rest ih =>
      have empty : Blank [] := fun _ member => absurd member List.not_mem_nil
      simpa using Pieces.tag empty empty first ih

theorem trimmed (listed : Pieces tags pieces)
    (listable : ∀ tag ∈ tags, Listable tag) :
    (pieces.map trim).filter (· ≠ []) = tags := by
  induction listed with
  | nil => rfl
  | blank blank rest ih =>
      rw [List.map_cons, trim_of_blank blank]
      exact ih listable
  | tag before after tag rest ih =>
      obtain ⟨first, others⟩ := List.forall_mem_cons.mp listable
      rw [List.map_cons, trim_padded before after, first.trimmed,
        List.filter_cons_of_pos (by simp [first.filled]), ih others]

theorem whole (listed : Pieces tags pieces)
    (listable : ∀ tag ∈ tags, Listable tag) :
    ∀ piece ∈ pieces, ',' ∉ piece := by
  induction listed with
  | nil => exact fun _ member => absurd member List.not_mem_nil
  | blank blank rest ih =>
      exact List.forall_mem_cons.mpr ⟨blank.not_mem comma_inked, ih listable⟩
  | tag before after tag rest ih =>
      obtain ⟨first, others⟩ := List.forall_mem_cons.mp listable
      refine List.forall_mem_cons.mpr ⟨?_, ih others⟩
      simp only [List.mem_append, not_or]
      exact ⟨⟨before.not_mem comma_inked, first.whole⟩, after.not_mem comma_inked⟩

theorem of_trimmed (pieces : List Text) : Pieces ((pieces.map trim).filter (· ≠ [])) pieces := by
  induction pieces with
  | nil => exact .nil
  | cons piece pieces ih =>
      obtain ⟨left, right, before, after, padded⟩ := exists_padding piece
      by_cases gone : trim piece = []
      · have blank : Blank piece := by
          rw [padded, gone, List.append_nil]
          exact before.append after
        rw [List.map_cons, gone]
        exact .blank blank ih
      · rw [List.map_cons, List.filter_cons_of_pos (by simp [gone])]
        have piece' := Pieces.tag before after (trim piece) ih
        rwa [← padded] at piece'

end Pieces

theorem tagsOf_intercalate {tags pieces : List Text} (listed : Pieces tags pieces)
    (listable : ∀ tag ∈ tags, Listable tag) :
    tagsOf ([','].intercalate pieces) = tags := by
  by_cases none : pieces = []
  · subst none
    cases listed
    decide
  · rw [tagsOf, List.splitOn_intercalate ',' (listed.whole listable) none]
    exact listed.trimmed listable

theorem listable_of_mem_tagsOf {text tag : Text} (member : tag ∈ tagsOf text) : Listable tag := by
  obtain ⟨found, filled⟩ := List.mem_filter.mp member
  obtain ⟨piece, cut, rfl⟩ := List.mem_map.mp found
  exact ⟨of_decide_eq_true filled, not_mem_trim (not_mem_of_mem_splitOn cut), trim_trim piece⟩

theorem ofLine_of_tab {front : Text} (whole : '\t' ∉ front) (back : Text) :
    ofLine (front ++ '\t' :: back) = ⟨trim front, tagsOf back⟩ := by
  have ordinary : ∀ character ∈ front, decide (character ≠ '\t') = true := by
    intro character member
    exact decide_eq_true fun same => whole (same ▸ member)
  rw [ofLine, List.takeWhile_append_of_pos ordinary, List.dropWhile_append_of_pos ordinary]
  simp

theorem tidy_ofLine (line : Text) : (ofLine line).Tidy where
  whole := by
    apply not_mem_trim
    intro member
    have ordinary := List.mem_takeWhile_imp member
    exact of_decide_eq_true ordinary rfl
  trimmed := trim_trim _
  tags := fun _ member => listable_of_mem_tagsOf member

theorem ofLine_of_writtenOn {item : Item} {line : Text} (tidy : item.Tidy)
    (written : item.WrittenOn line) : ofLine line = item := by
  obtain ⟨left, right, pieces, before, plain, after, plain', listed, rfl⟩ := written
  have whole : '\t' ∉ left ++ item.name ++ right := by
    simp only [List.mem_append, not_or]
    exact ⟨⟨plain, tidy.whole⟩, plain'⟩
  rw [ofLine_of_tab whole, trim_padded before after, tidy.trimmed,
    tagsOf_intercalate listed tidy.tags]

theorem writtenOn_line (item : Item) : item.WrittenOn item.line :=
  ⟨[], [], item.tags, by decide, by decide, by decide, by decide, .self item.tags, by simp [line]⟩

theorem writtenOn_of_tab {line : Text} (tabbed : '\t' ∈ line) : (ofLine line).WrittenOn line := by
  obtain ⟨front, back, rfl, whole⟩ := List.eq_append_cons_of_mem tabbed
  obtain ⟨left, right, before, after, padded⟩ := exists_padding front
  have plain : '\t' ∉ left ∧ '\t' ∉ right := by
    rw [padded] at whole
    simp only [List.mem_append, not_or] at whole
    exact ⟨whole.1.1, whole.2⟩
  rw [ofLine_of_tab whole]
  refine ⟨left, right, back.splitOn ',', before, plain.1, after, plain.2, .of_trimmed _, ?_⟩
  rw [List.intercalate_splitOn, ← padded]

/-- A line that writes a tidy item, whatever blanks it has, is read as this item. From every line a
tidy item is read, which the line writes if it has a tab, and which is read again from its own plain
line. -/
theorem ofLine_of_written :
    (∀ item line, Tidy item → item.WrittenOn line → ofLine line = item) ∧
      ∀ line, (ofLine line).Tidy ∧ ('\t' ∈ line → (ofLine line).WrittenOn line) ∧
        ofLine (ofLine line).line = ofLine line := by
  constructor
  · intro item line tidy written
    exact ofLine_of_writtenOn tidy written
  · intro line
    have tidy := tidy_ofLine line
    refine ⟨tidy, writtenOn_of_tab, ?_⟩
    exact ofLine_of_writtenOn tidy (writtenOn_line (ofLine line))

theorem ofLine_of_written_with_blanks :
    let item : Item := ⟨"Fira Sans".toList, ["u\ti".toList, "é".toList]⟩
    let line := "  Fira Sans\u3000\t,\tu\ti , \t,é\u00a0,".toList
    item.Tidy ∧ item.WrittenOn line ∧ ofLine line = item := by
  intro item line
  have tidy : item.Tidy := by
    refine ⟨by decide, by decide, ?_⟩
    intro tag member
    simp only [item, List.mem_cons, List.not_mem_nil, or_false] at member
    rcases member with rfl | rfl <;> exact ⟨by decide, by decide, by decide⟩
  have listed : Pieces item.tags
      [[], "\tu\ti ".toList, " \t".toList, "é\u00a0".toList, []] := by
    refine .blank (by decide) ?_
    refine @Pieces.tag _ _ ['\t'] [' '] (by decide) (by decide) "u\ti".toList ?_
    refine .blank (by decide) ?_
    refine @Pieces.tag _ _ [] ['\u00a0'] (by decide) (by decide) "é".toList ?_
    exact .blank (by decide) .nil
  have written : item.WrittenOn line :=
    ⟨"  ".toList, ['\u3000'], _, by decide, by decide, by decide, by decide, listed, by decide⟩
  exact ⟨tidy, written, ofLine_of_written.1 item line tidy written⟩

end Item
end TagQuery

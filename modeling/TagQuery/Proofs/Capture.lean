import Mathlib.Data.List.Induction
import TagQuery.Proofs.Scanning

namespace TagQuery
namespace Text

/-- The character at a position of a text, where the first position is 1. -/
def StandsAt (text : Text) (character : Char) (position : Nat) : Prop :=
  0 < position ∧ text[position - 1]? = some character

theorem StandsAt.le {text : Text} {character : Char} {position : Nat}
    (stands : StandsAt text character position) : position ≤ text.length := by
  obtain ⟨positive, found⟩ := stands
  have bound := (List.getElem?_eq_some_iff.mp found).1
  omega

theorem standsAt_append {text : Text} {rest : Text} {character : Char} {position : Nat}
    (within : position ≤ text.length) :
    StandsAt (text ++ rest) character position ↔ StandsAt text character position := by
  unfold StandsAt
  constructor
  · rintro ⟨positive, found⟩
    rw [List.getElem?_append_left (by omega)] at found
    exact ⟨positive, found⟩
  · rintro ⟨positive, found⟩
    rw [List.getElem?_append_left (by omega)]
    exact ⟨positive, found⟩

theorem standsAt_iff_split {text : Text} {character : Char} {position : Nat} :
    StandsAt text character position ↔
      ∃ before rest, text = before ++ character :: rest ∧ position = before.length + 1 := by
  constructor
  · rintro ⟨positive, found⟩
    obtain ⟨before, rfl⟩ : ∃ before, position = before + 1 := ⟨position - 1, by omega⟩
    obtain ⟨bound, rfl⟩ := List.getElem?_eq_some_iff.mp found
    refine ⟨text.take before, text.drop (before + 1), ?_, ?_⟩
    · simp
    · have short : before < text.length := bound
      rw [List.length_take]
      omega
  · rintro ⟨before, rest, rfl, rfl⟩
    simp [StandsAt]

theorem standsAt_concat {text : Text} {last character : Char} {position : Nat} :
    StandsAt (text ++ [last]) character position ↔
      StandsAt text character position ∨ position = text.length + 1 ∧ last = character := by
  by_cases within : position ≤ text.length
  · rw [standsAt_append within]
    constructor
    · exact .inl
    · rintro (stands | ⟨rfl, -⟩)
      · exact stands
      · omega
  · constructor
    · intro stands
      have bound := stands.le
      rw [List.length_append, List.length_singleton] at bound
      obtain rfl : position = text.length + 1 := by omega
      refine .inr ⟨rfl, ?_⟩
      simpa [StandsAt] using stands
    · rintro (stands | ⟨rfl, rfl⟩)
      · exact absurd stands.le within
      · simp [StandsAt]

/-- The last `}` of the text stands at the position, or at 0 when there is none. -/
def LastClosing (text : Text) (position : Nat) : Prop :=
  (position = 0 ∨ StandsAt text '}' position) ∧
    ∀ later, position < later → ¬ StandsAt text '}' later

/-- The first `{` after the last `}` of the text stands at the position. -/
def OpenFrom (text : Text) (start : Nat) : Prop :=
  ∃ closing, LastClosing text closing ∧ closing < start ∧ StandsAt text '{' start ∧
    ∀ between, closing < between → between < start → ¬ StandsAt text '{' between

/-- The position lies inside a capture: a `{` stands before it, with no `}` from there to it. -/
def InCapture (text : Text) (position : Nat) : Prop :=
  ∃ start < position, StandsAt text '{' start ∧
    ∀ between, start ≤ between → between < position → ¬ StandsAt text '}' between

theorem LastClosing.le {text : Text} {closing : Nat} (last : LastClosing text closing) :
    closing ≤ text.length := by
  rcases last.1 with rfl | stands
  · exact Nat.zero_le _
  · exact stands.le

theorem LastClosing.unique {text : Text} {first second : Nat} (left : LastClosing text first)
    (right : LastClosing text second) : first = second := by
  have bounded {one two : Nat} (last : LastClosing text one) (other : LastClosing text two) :
      two ≤ one := by
    rcases other.1 with rfl | stands
    · omega
    · by_contra below
      exact last.2 two (by omega) stands
  have := bounded left right
  have := bounded right left
  omega

theorem OpenFrom.unique {text : Text} {first second : Nat} (left : OpenFrom text first)
    (right : OpenFrom text second) : first = second := by
  obtain ⟨closing, last, after, stands, clear⟩ := left
  obtain ⟨other, last', after', stands', clear'⟩ := right
  obtain rfl := last.unique last'
  rcases Nat.lt_trichotomy first second with less | same | greater
  · exact absurd stands (clear' first after less)
  · exact same
  · exact absurd stands' (clear second after' greater)

theorem LastClosing.concat {text : Text} {closing : Nat} {last : Char}
    (before : LastClosing text closing) (other : last ≠ '}') :
    LastClosing (text ++ [last]) closing := by
  obtain ⟨stands, clear⟩ := before
  refine ⟨stands.imp_right fun stands => standsAt_concat.mpr (.inl stands), ?_⟩
  intro later after stands
  rcases standsAt_concat.mp stands with stands | ⟨-, same⟩
  · exact clear later after stands
  · exact other same

theorem not_standsAt_beyond {text : Text} {last character : Char} {position : Nat}
    (beyond : text.length + 1 < position) : ¬ StandsAt (text ++ [last]) character position := by
  intro stands
  have bound := stands.le
  rw [List.length_append, List.length_singleton] at bound
  omega

theorem lastClosing_concat (text : Text) : LastClosing (text ++ ['}']) (text.length + 1) :=
  ⟨.inr (standsAt_concat.mpr (.inr ⟨rfl, rfl⟩)), fun _ => not_standsAt_beyond⟩

theorem OpenFrom.of_bare {text : Text} {closing : Nat} (last : LastClosing text closing)
    (bare : ∀ later, closing < later → ¬ StandsAt text '{' later) :
    OpenFrom (text ++ ['{']) (text.length + 1) := by
  have bound := last.le
  refine ⟨closing, last.concat (by decide), by omega, standsAt_concat.mpr (.inr ⟨rfl, rfl⟩), ?_⟩
  intro between after below stands
  rcases standsAt_concat.mp stands with stands | ⟨rfl, -⟩
  · exact bare between after stands
  · omega

theorem OpenFrom.concat {text : Text} {start : Nat} {last : Char} (before : OpenFrom text start)
    (other : last ≠ '}') : OpenFrom (text ++ [last]) start := by
  obtain ⟨closing, last, after, stands, clear⟩ := before
  refine ⟨closing, last.concat other, after, standsAt_concat.mpr (.inl stands), ?_⟩
  intro between lower upper again
  have bound := stands.le
  rcases standsAt_concat.mp again with again | ⟨rfl, -⟩
  · exact clear between lower upper again
  · omega

theorem OpenFrom.le {text : Text} {start : Nat} (opened : OpenFrom text start) :
    start ≤ text.length := by
  obtain ⟨closing, -, -, stands, -⟩ := opened
  exact stands.le

end Text

namespace Scanner

open Text

/-- The capture that is open after a text: none when no `{` follows the last `}`, and otherwise the
first one that does, with the text from there on. -/
inductive Tracks (text : Text) : Option Capture → Prop where
  | outside {closing : Nat} (last : LastClosing text closing)
      (bare : ∀ later, closing < later → ¬ StandsAt text '{' later) : Tracks text none
  | inside {capture : Capture} (start : OpenFrom text capture.column)
      (content : capture.reversed.reverse = text.drop (capture.column - 1)) :
      Tracks text (some capture)

theorem tracks_captureAfter (text : Text) : Tracks text (captureAfter none 1 text) := by
  induction text using List.reverseRecOn with
  | nil =>
      have start : LastClosing [] 0 := ⟨.inl rfl, by simp [StandsAt]⟩
      exact .outside start (by simp [StandsAt])
  | append_singleton front last ih =>
      rw [captureAfter_concat, Nat.add_comm]
      generalize captureAfter none 1 front = capture at ih ⊢
      by_cases closes : last = '}'
      · subst closes
        have idle : (read capture (front.length + 1) '}' []).2 = none := by
          cases capture <;> rfl
        rw [idle]
        exact .outside (lastClosing_concat front) fun _ => not_standsAt_beyond
      cases ih with
      | outside before bare =>
          by_cases opens : last = '{'
          · subst opens
            exact .inside (.of_bare before bare) (by simp [Capture.start])
          · rw [read, if_neg opens]
            refine .outside (before.concat closes) ?_
            intro later after stands
            rcases standsAt_concat.mp stands with stands | ⟨-, same⟩
            · exact bare later after stands
            · exact opens same
      | @inside capture start content =>
          rw [read_inside closes]
          refine .inside (start.concat closes) ?_
          have bound := start.le
          simp only [Capture.extend, List.reverse_cons]
          rw [content, List.drop_append_of_le_length (by omega)]

theorem Tracks.column_eq {text : Text} {capture : Option Capture} (tracks : Tracks text capture)
    {start : Nat} (opened : OpenFrom text start) : capture.map Capture.column = some start := by
  cases tracks with
  | outside last bare =>
      obtain ⟨closing, last', after, stands, -⟩ := opened
      obtain rfl := last.unique last'
      exact absurd stands (bare start after)
  | inside opened' => exact congrArg some (opened'.unique opened)

theorem inCapture_iff {before rest : Text} :
    InCapture (before ++ rest) (before.length + 1) ↔ captureAfter none 1 before ≠ none := by
  have tracks := tracks_captureAfter before
  generalize captureAfter none 1 before = capture at tracks
  constructor
  · rintro ⟨start, below, opens, clear⟩ rfl
    cases tracks with
    | @outside closing last bare =>
        rw [standsAt_append (by omega)] at opens
        refine bare start ?_ opens
        by_contra above
        have bound := last.le
        rcases last.1 with rfl | closes
        · exact above opens.1
        · exact clear closing (by omega) (by omega) ((standsAt_append bound).mpr closes)
  · intro capturing
    cases tracks with
    | outside => exact absurd rfl capturing
    | @inside capture opened content =>
        have bound := opened.le
        obtain ⟨closing, last, after, stands, -⟩ := opened
        refine ⟨capture.column, by omega, (standsAt_append bound).mpr stands, ?_⟩
        intro between lower upper closes
        exact last.2 between (by omega) ((standsAt_append (by omega)).mp closes)

end Scanner
end TagQuery

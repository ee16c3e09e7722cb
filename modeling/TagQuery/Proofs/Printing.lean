import TagQuery.Proofs.Writing

namespace TagQuery

open TagQuery.Symbol (Kind)

/-- The character may stand between symbols: it is no ASCII letter, and no symbol begins with it. -/
def Separates (character : Char) : Prop :=
  character.isAlpha = false ∧ character ∉ ['{', '(', ')', '!', '|', '&']

instance (character : Char) : Decidable (Separates character) :=
  inferInstanceAs (Decidable (_ ∧ _))

theorem toLower_of_separates {character : Char} (separates : Separates character) :
    character.toLower = character := by
  have letterless : (character.isUpper || character.isLower) = false := separates.1
  have small : character.isUpper = false := (Bool.or_eq_false_iff.mp letterless).1
  exact dif_neg (of_decide_eq_false small)

theorem quiet_of_separates {character : Char} (separates : Separates character) :
    Quiet character := by
  have plain := separates.2
  simp only [List.mem_cons, List.not_mem_nil, or_false, not_or] at plain
  apply And.intro plain.1
  intro column tail
  cases found : Symbol.bare? column (character :: tail) with
  | none => rfl
  | some symbol =>
      rcases Symbol.begins_of_bare? found with ⟨first, sign, begins⟩ | ⟨operator, word⟩
      · have same : character = first := by simpa using begins
        subst same
        simp [Symbol.signs, Operator.all, Operator.sign, plain] at sign
      · -- A word begins with a letter, and lower case makes no letter of another character.
        rw [List.map_cons, toLower_of_separates separates] at word
        have letter : character.isAlpha = true := by
          cases operator <;>
            (rw [Operator.word, List.cons_prefix_cons] at word; rw [← word.1]; decide)
        rw [separates.1] at letter
        cases letter

/-- A symbol as it is printed: its spelling, and the gap in front of it. -/
structure Piece where
  gap : Text
  kind : Kind
  spelling : Text
  separated : ∀ character ∈ gap, Separates character
  spelled : kind.Spelled spelling

namespace Piece

def text (piece : Piece) : Text := piece.gap ++ piece.spelling

def print (pieces : List Piece) : Text := pieces.flatMap text

def placed (column : Nat) (pieces : List Piece) : List Symbol :=
  pieces.mapIdx fun index piece =>
    ⟨piece.kind, column + (print (pieces.take index) ++ piece.gap).length, piece.spelling.length⟩

@[simp] theorem print_nil : print [] = [] := rfl

@[simp] theorem print_cons (piece : Piece) (pieces : List Piece) :
    print (piece :: pieces) = piece.gap ++ (piece.spelling ++ print pieces) := by
  simp [print, text]

theorem placed_cons (column : Nat) (piece : Piece) (pieces : List Piece) :
    placed column (piece :: pieces) =
      ⟨piece.kind, column + piece.gap.length, piece.spelling.length⟩ ::
        placed (column + piece.gap.length + piece.spelling.length) pieces := by
  simp only [placed, List.mapIdx_cons, List.take_zero, List.take_succ_cons, print_nil, print_cons,
    List.length_append, List.length_nil, Nat.zero_add, Nat.add_assoc]

theorem symbolsFrom_print (pieces : List Piece) {last : Text}
    (separated : ∀ character ∈ last, Separates character) (column : Nat) :
    Scanner.symbolsFrom none column (print pieces ++ last) = placed column pieces := by
  induction pieces generalizing column with
  | nil =>
      have quiet : ∀ character ∈ last, Quiet character := by
        intro character member
        exact quiet_of_separates (separated character member)
      have gone := Scanner.symbolsFrom_gap quiet column []
      rw [List.append_nil] at gone
      exact gone
  | cons piece pieces ih =>
      have quiet : ∀ character ∈ piece.gap, Quiet character := by
        intro character member
        exact quiet_of_separates (piece.separated character member)
      rw [print_cons, List.append_assoc, List.append_assoc, Scanner.symbolsFrom_gap quiet,
        Scanner.symbolsFrom_spelled piece.spelled, ih, placed_cons]

end Piece

namespace Scanner

theorem captureAfter_captured {tag : Text} (whole : '}' ∉ tag) (capture : Capture) (column : Nat) :
    captureAfter (some capture) column (tag ++ ['}']) = none := by
  rw [captureAfter_append, captureAfter_unclosed whole]
  rfl

theorem captureAfter_spelled {kind : Kind} {spelling : Text} (spelled : kind.Spelled spelling)
    (column : Nat) : captureAfter none column spelling = none := by
  cases spelled with
  | literal whole => exact captureAfter_captured whole _ _
  | bare bare => exact captureAfter_plain bare.plain column

theorem captureAfter_print (pieces : List Piece) (column : Nat) :
    captureAfter none column (Piece.print pieces) = none := by
  induction pieces generalizing column with
  | nil => rfl
  | cons piece pieces ih =>
      have plain : '{' ∉ piece.gap := by
        intro member
        have separates := piece.separated '{' member
        exact separates.2 (List.mem_cons_self ..)
      rw [Piece.print_cons, captureAfter_append, captureAfter_plain plain, captureAfter_append,
        captureAfter_spelled piece.spelled, ih]

end Scanner

namespace Query

/-- Scanning a printed query gives the kinds that have been printed, each at the column behind all
that is printed before it and as long as its spelling, and leaves no literal open. -/
theorem symbols_of_pieces (pieces : List Piece) (last : Text)
    (separated : ∀ character ∈ last, Separates character) :
    symbols (Piece.print pieces ++ last) =
        (pieces.mapIdx fun index piece =>
          ⟨piece.kind, 1 + (Piece.print (pieces.take index) ++ piece.gap).length,
            piece.spelling.length⟩) ∧
      pending? (Piece.print pieces ++ last) = none := by
  have plain : '{' ∉ last := by
    intro member
    exact (separated '{' member).2 (List.mem_cons_self ..)
  have released : Scanner.captureAfter none 1 (Piece.print pieces ++ last) = none := by
    rw [Scanner.captureAfter_append, Scanner.captureAfter_print, Scanner.captureAfter_plain plain]
  apply And.intro
  · exact Piece.symbolsFrom_print pieces separated 1
  · rw [pending?, released]
    rfl

theorem symbols_of_touching_words :
    (∀ character ∈ " →".toList, Separates character) ∧
      symbols "é aNdnot)\x7d\x7bü\x7b\x7doR →".toList =
        [⟨.operator .and, 3, 3⟩, ⟨.operator .not, 6, 3⟩, ⟨.closing, 9, 1⟩,
          ⟨.literal "\x7bü\x7b\x7d".toList, 11, 4⟩, ⟨.operator .or, 15, 2⟩] ∧
      pending? "é aNdnot)\x7d\x7bü\x7b\x7doR →".toList = none := by
  have separated (gap : Text)
      (all : gap.all (fun character => decide (Separates character)) = true) :
      ∀ character ∈ gap, Separates character := by
    intro character member
    exact of_decide_eq_true (List.all_eq_true.mp all character member)
  have last := separated " →".toList (by decide)
  let pieces : List Piece :=
    [⟨"é ".toList, .operator .and, "aNd".toList, separated _ (by decide),
        .bare (.operator (.inr rfl))⟩,
      ⟨[], .operator .not, "not".toList, separated _ rfl, .bare (.operator (.inr rfl))⟩,
      ⟨[], .closing, ")".toList, separated _ rfl, .bare .closing⟩,
      ⟨"\x7d".toList, .literal "\x7bü\x7b\x7d".toList, "\x7bü\x7b\x7d".toList,
        separated _ (by decide), @Kind.Spelled.literal "ü\x7b".toList (by decide)⟩,
      ⟨[], .operator .or, "oR".toList, separated _ rfl, .bare (.operator (.inr rfl))⟩]
  exact ⟨last, symbols_of_pieces pieces " →".toList last⟩

end Query
end TagQuery

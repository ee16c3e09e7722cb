namespace TagQuery

/-- A text is the list of its characters, so lengths and columns count characters, never bytes. -/
abbrev Text := List Char

/-- The ranges of the characters that Unicode calls white space, by code point. -/
def blankRanges : List (Nat × Nat) :=
  [(0x9, 0xD), (0x20, 0x20), (0x85, 0x85), (0xA0, 0xA0), (0x1680, 0x1680), (0x2000, 0x200A),
    (0x2028, 0x2029), (0x202F, 0x202F), (0x205F, 0x205F), (0x3000, 0x3000)]

def isBlank (character : Char) : Bool :=
  blankRanges.any fun (first, last) => first ≤ character.toNat && character.toNat ≤ last

namespace Text

/-- The text between one pair of braces: the way a query names a tag. -/
def braced (text : Text) : Text := '{' :: text ++ ['}']

def decimal (number : Nat) : Text := Nat.toDigits 10 number

def trim (text : Text) : Text :=
  ((text.dropWhile isBlank).reverse.dropWhile isBlank).reverse

def occurs (needle : Text) : Text → Bool
  | [] => needle.isEmpty
  | head :: tail => needle.isPrefixOf (head :: tail) || occurs needle tail

theorem occurs_iff {needle text : Text} : occurs needle text = true ↔ needle <:+: text := by
  induction text with
  | nil => simp [occurs]
  | cons head tail ih => simp [occurs, ih, List.infix_cons_iff]

def decode? (bytes : ByteArray) : Option Text := (String.fromUTF8? bytes).map String.toList

def encode (text : Text) : ByteArray := (String.ofList text).toUTF8

theorem decode?_encode (text : Text) : decode? (encode text) = some text := by
  have valid : (String.ofList text).toUTF8.IsValidUTF8 := (String.ofList text).isValidUTF8
  have same : String.fromUTF8 (String.ofList text).toUTF8 valid = String.ofList text := rfl
  rw [decode?, encode, String.fromUTF8?, dif_pos valid, same]
  simp

theorem decode?_eq_some_iff {bytes : ByteArray} {text : Text} :
    decode? bytes = some text ↔ bytes = encode text := by
  constructor
  · intro decoded
    obtain ⟨string, read, rfl⟩ := Option.map_eq_some_iff.mp decoded
    unfold String.fromUTF8? at read
    split at read
    · cases read
      rw [encode, String.ofList_toList]
      rfl
    · cases read
  · rintro rfl
    exact decode?_encode text

/-- A line without the carriage return that belongs to its ending. Only the last one does. -/
def withoutReturn (line : Text) : Text :=
  if line.getLast? = some '\r' then line.dropLast else line

/-- The lines of a text. A line ends at a line feed, or at a carriage return with a line feed behind
it; what follows the last line feed is a line when it is not empty, and is taken as it stands. -/
def lines (text : Text) : List Text :=
  let pieces := text.splitOn '\n'
  pieces.dropLast.map withoutReturn ++ [pieces.getLastD []].filter (· ≠ [])

def ofLines (lines : List Text) : Text := lines.flatMap fun line => line ++ ['\n']

theorem not_mem_of_mem_splitOn {separator : Char} {text piece : Text}
    (member : piece ∈ text.splitOn separator) : separator ∉ piece := by
  induction text generalizing piece with
  | nil =>
      rw [List.splitOn_nil, List.mem_singleton] at member
      simp [member]
  | cons head tail ih =>
      rw [List.splitOn_cons_eq_if_modifyHead] at member
      split at member
      · rcases List.mem_cons.mp member with rfl | later
        · exact List.not_mem_nil
        · exact ih later
      · rename_i other
        cases pieces : tail.splitOn separator with
        | nil => exact absurd pieces (List.splitOn_ne_nil separator tail)
        | cons first rest =>
            rw [pieces, List.modifyHead_cons] at member
            rcases List.mem_cons.mp member with rfl | later
            · have plain : separator ∉ first := ih (by simp [pieces])
              have different : separator ≠ head := by
                rintro rfl
                exact other (beq_self_eq_true separator)
              simp [plain, different]
            · exact ih (by simp [pieces, later])

theorem newline_not_mem_of_mem_lines {text line : Text} (member : line ∈ text.lines) :
    '\n' ∉ line := by
  rcases List.mem_append.mp member with ended | last
  · obtain ⟨piece, cut, rfl⟩ := List.mem_map.mp ended
    have whole := not_mem_of_mem_splitOn (List.dropLast_subset _ cut)
    unfold withoutReturn
    split
    · exact fun found => whole (List.dropLast_subset _ found)
    · exact whole
  · obtain ⟨piece, -⟩ := List.mem_filter.mp last
    have found : line ∈ text.splitOn '\n' := by
      rw [List.mem_singleton.mp piece, List.getLastD_eq_getLast?,
        List.getLast?_eq_some_getLast (List.splitOn_ne_nil '\n' text)]
      exact List.getLast_mem _
    exact not_mem_of_mem_splitOn found

private theorem intercalate_ended (lines : List Text) :
    ['\n'].intercalate (lines ++ [[]]) = ofLines lines := by
  induction lines with
  | nil => rfl
  | cons line rest ih =>
    cases rest with
    | nil => simp [ofLines, List.intercalate]
    | cons next more =>
      simp only [ofLines, List.intercalate, List.flatMap_cons] at ih ⊢
      simp [← ih]

theorem lines_ofLines {lines : List Text} (whole : ∀ line ∈ lines, '\n' ∉ line)
    (clean : ∀ line ∈ lines, line.getLast? ≠ some '\r') : (ofLines lines).lines = lines := by
  have split : (ofLines lines).splitOn '\n' = lines ++ [[]] := by
    rw [← intercalate_ended]
    apply List.splitOn_intercalate
    · intro line member
      rcases List.mem_append.mp member with present | last
      · exact whole line present
      · simp_all
    · simp
  have kept : lines.map withoutReturn = lines := by
    calc
      lines.map withoutReturn = lines.map id :=
        List.map_congr_left fun line member => if_neg (clean line member)
      _ = lines := List.map_id lines
  simp [Text.lines, split, kept]

/-- A line that does end in a carriage return loses it when it is read back. -/
example : (ofLines (lines "a\r\r\n".toList)).lines = ["a".toList] ∧
    lines "a\r\r\n".toList = ["a\r".toList] := by
  decide

end Text
end TagQuery

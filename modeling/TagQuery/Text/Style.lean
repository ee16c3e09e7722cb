import TagQuery.Text

namespace TagQuery

inductive Color where
  | red
  | green
  | yellow
  | blue
  deriving DecidableEq, Repr

namespace Color

def code : Color → Nat
  | red => 31
  | green => 32
  | yellow => 33
  | blue => 34

end Color

structure Style where
  bold : Bool
  dimmed : Bool
  color? : Option Color
  deriving DecidableEq, Repr

namespace Style

def plain : Style := ⟨false, false, none⟩

def strong : Style := ⟨true, false, none⟩

def tinted (color : Color) : Style := ⟨false, false, some color⟩

def strongTinted (color : Color) : Style := ⟨true, false, some color⟩

/-- The codes of a style: weight first, color last. -/
def codes (style : Style) : List Nat :=
  (if style.bold then [1] else []) ++ (if style.dimmed then [2] else []) ++
    (style.color?.map Color.code).toList

def escape : Char := '\x1b'

def reset : Text := [escape, '[', '0', 'm']

def opener (style : Style) : Text :=
  [escape, '['] ++ [';'].intercalate (style.codes.map Text.decimal) ++ ['m']

/-- The text with the style started again after each reset that it contains. -/
def resumed (style : Style) : Text → Text
  | '\x1b' :: '[' :: '0' :: 'm' :: rest => reset ++ style.opener ++ style.resumed rest
  | character :: rest => character :: style.resumed rest
  | [] => []

/-- The text in the style. Without colors, and for the plain style, that is the bare text. -/
def paint (style : Style) (colored : Bool) (text : Text) : Text :=
  if colored = false ∨ style = plain then text
  else style.opener ++ style.resumed text ++ reset

@[simp] theorem paint_false (style : Style) (text : Text) : style.paint false text = text :=
  if_pos (.inl rfl)

end Style
end TagQuery

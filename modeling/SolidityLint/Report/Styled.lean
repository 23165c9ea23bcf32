set_option autoImplicit false

/-! # Styled text

A text for people is a list of pieces, some of which have a style. With colours off a piece is its
text; with colours on, the text of a styled piece stands between the code that switches the style on
and the code that switches all styles off. If the text itself contains the latter, the style is
switched on again after it. -/

namespace SolidityLint

/-- How a piece of text is shown. -/
inductive Style where
  | bold
  | dimmed
  | blue
  | yellow
  | red
  | boldRed
deriving Repr, DecidableEq, Inhabited

/-- The parameters of the escape sequence that switches a style on. -/
def Style.code : Style → String
  | bold => "1"
  | dimmed => "2"
  | blue => "34"
  | yellow => "33"
  | red => "31"
  | boldRed => "1;31"

/-- The sequence with these codes. -/
def escapeSequence (codes : String) : List Char :=
  '\x1b' :: '[' :: codes.toList ++ ['m']

/-- The sequence that switches a style on. -/
def Style.start (style : Style) : List Char :=
  escapeSequence style.code

/-- The sequence that switches all styles off. -/
def resetSequence : List Char :=
  escapeSequence "0"

/-- A text in which `addition` follows each occurrence of the reset sequence. -/
def afterResets (addition : List Char) : List Char → List Char
  | '\x1b' :: '[' :: '0' :: 'm' :: rest => resetSequence ++ addition ++ afterResets addition rest
  | c :: rest => c :: afterResets addition rest
  | [] => []

/-- A stretch of text in one style, or in none. -/
structure Piece where
  style : Option Style
  text : String
deriving Repr, DecidableEq, Inhabited

/-- A text whose pieces have their own styles. -/
abbrev StyledText := List Piece

/-- A piece without a style. -/
def plain (text : String) : Piece := ⟨none, text⟩

/-- A piece in that style. -/
def Style.of (style : Style) (text : String) : Piece := ⟨some style, text⟩

/-- The written form of a piece, with the sequences of its style or without them. -/
def Piece.render (colours : Bool) (piece : Piece) : String :=
  match piece.style with
  | some style =>
      if colours then
        String.ofList (style.start ++ afterResets style.start piece.text.toList ++ resetSequence)
      else piece.text
  | none => piece.text

/-- The written form of a text, piece after piece. -/
def StyledText.render (colours : Bool) (text : StyledText) : String :=
  String.join (text.map (Piece.render colours))

end SolidityLint

set_option autoImplicit false

/-! # Blank characters

The Unicode property `White_Space`, and the one operation on texts that rests on it: collapsing
every run of blanks to a single space. -/

namespace SolidityLint.Text

/-- The property `White_Space`. -/
def isBlank (c : Char) : Bool :=
  let code := c.toNat
  (0x9 ≤ code && code ≤ 0xd) || code == 0x20 || code == 0x85 || code == 0xa0 || code == 0x1680
    || (0x2000 ≤ code && code ≤ 0x200a) || code == 0x2028 || code == 0x2029 || code == 0x202f
    || code == 0x205f || code == 0x3000

/-- The words of a text: its maximal stretches without a blank. -/
def words : List Char → List (List Char)
  | [] => []
  | c :: rest =>
      if isBlank c then words rest
      else match rest, words rest with
        | [], _ => [[c]]
        | d :: _, ws => if isBlank d then [c] :: ws else
            match ws with
            | [] => [[c]]
            | w :: ws => (c :: w) :: ws

/-- The words of a text with one space between each two. -/
def collapse (text : String) : String :=
  String.intercalate " " ((words text.toList).map String.ofList)

end SolidityLint.Text

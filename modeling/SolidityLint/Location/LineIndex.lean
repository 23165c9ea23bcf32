import SolidityLint.Location

set_option autoImplicit false

/-! # From byte offsets to positions

Tokens carry byte offsets, diagnostics carry lines and columns. A `LineIndex` cuts a text into its
lines, each with the offset it starts at and its characters, line break included; the last line has
no line break and may be empty. A line ends at a line feed only, so that a carriage return is a
character like any other.

The line of an offset is found by counting the lines that start at or before it. The column is the
number of characters from the start of that line to the offset; an offset inside a character has no
such number, and its column is its distance in bytes instead. -/

namespace SolidityLint

/-- A line of a text: the byte offset of its first character, and its characters. -/
structure Line where
  start : Nat
  text : List Char
deriving Repr, DecidableEq, Inhabited

/-- The lines of a text, in order. -/
structure LineIndex where
  lines : List Line
deriving Repr, DecidableEq, Inhabited

namespace LineIndex

/-- Cuts `text`, which starts at byte `start`, after each line feed. -/
def linesFrom (start : Nat) : List Char → List Line
  | [] => [⟨start, []⟩]
  | c :: rest =>
      if c = '\n' then ⟨start, [c]⟩ :: linesFrom (start + c.utf8Size) rest
      else match linesFrom (start + c.utf8Size) rest with
        | [] => [⟨start, [c]⟩]
        | line :: lines => ⟨start, c :: line.text⟩ :: lines

/-- The index of a source text. -/
def ofString (source : String) : LineIndex :=
  ⟨linesFrom 0 source.toList⟩

/-- The number of the line that holds the byte at `offset`, counted from one. -/
def lineNumber (index : LineIndex) (offset : Nat) : Nat :=
  index.lines.countP fun line => line.start ≤ offset

/-- How many characters the first `bytes` bytes of `text` hold, or all of them when there are fewer
    bytes; none when the last of these bytes ends inside a character. -/
def charactersWithin : List Char → (bytes : Nat) → Option Nat
  | _, 0 => some 0
  | [], _ + 1 => some 0
  | c :: rest, bytes + 1 =>
      if bytes + 1 < c.utf8Size then none
      else (charactersWithin rest (bytes + 1 - c.utf8Size)).map (· + 1)

/-- The column of `offset` in a line that starts at or before it. -/
def columnIn (line : Line) (offset : Nat) : Nat :=
  (charactersWithin line.text (offset - line.start)).getD (offset - line.start)

/-- The line and the column of a byte offset. Past the end of the text, the column is that of the
    end. -/
def position (index : LineIndex) (offset : Nat) : Position :=
  let number := index.lineNumber offset
  match index.lines[number - 1]? with
  | some line => ⟨number, columnIn line offset⟩
  | none => ⟨number, 0⟩

end LineIndex

end SolidityLint

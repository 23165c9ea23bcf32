set_option autoImplicit false

/-! # Searching in texts

Lines and occurrences, on lists of characters. -/

namespace SolidityLint.Text

/-- The pieces of a text between the occurrences of `mark`. There is one piece more than there are
    marks. -/
def pieces (mark : Char) : List Char → List (List Char)
  | [] => [[]]
  | c :: rest =>
      if c = mark then [] :: pieces mark rest
      else match pieces mark rest with
        | [] => [[c]]
        | piece :: more => (c :: piece) :: more

section Pieces

variable (mark : Char)

theorem pieces_ne_nil (text : List Char) : pieces mark text ≠ [] := by
  fun_induction pieces mark text <;> simp

/-- **A mark cuts a text in two.** -/
theorem pieces_append_mark (xs ys : List Char) :
    pieces mark (xs ++ mark :: ys) = pieces mark xs ++ pieces mark ys := by
  induction xs with
  | nil => simp [pieces]
  | cons c rest ih =>
    obtain ⟨piece, more, hpieces⟩ := List.exists_cons_of_ne_nil (pieces_ne_nil mark rest)
    by_cases hc : c = mark
    · simp [pieces, hc, ih]
    · simp [pieces, hc, ih, hpieces]

theorem pieces_of_notMem {text : List Char} (h : mark ∉ text) : pieces mark text = [text] := by
  induction text with
  | nil => rfl
  | cons c rest ih =>
    rw [List.mem_cons, not_or] at h
    rw [pieces, if_neg (Ne.symm h.1), ih h.2]

theorem length_pieces (text : List Char) :
    (pieces mark text).length = text.count mark + 1 := by
  induction text with
  | nil => rfl
  | cons c rest ih =>
    obtain ⟨piece, more, hpieces⟩ := List.exists_cons_of_ne_nil (pieces_ne_nil mark rest)
    rw [hpieces, List.length_cons] at ih
    by_cases hc : c = mark
    · simp [pieces, hc, hpieces, ih]
    · simp [pieces, hc, hpieces, ih]

theorem notMem_of_mem_pieces {text piece : List Char} (h : piece ∈ pieces mark text) :
    mark ∉ piece := by
  induction text generalizing piece with
  | nil => simp_all [pieces]
  | cons c rest ih =>
    obtain ⟨first, more, hpieces⟩ := List.exists_cons_of_ne_nil (pieces_ne_nil mark rest)
    rw [hpieces] at ih
    by_cases hc : c = mark
    · rw [pieces, if_pos hc, hpieces, List.mem_cons] at h
      rcases h with rfl | h
      · simp
      · exact ih h
    · simp only [pieces, if_neg hc, hpieces, List.mem_cons] at h
      rcases h with rfl | h
      · have hfirst : mark ∉ first := ih (by simp)
        simp [hfirst, Ne.symm hc]
      · exact ih (by simp [h])

end Pieces

/-- The lines of a text, without the line feeds that end them. A text that ends with a line feed has
    an empty last line. -/
def lines (text : List Char) : List (List Char) :=
  pieces '\n' text

/-- Does `word` occur anywhere in the text? -/
def occursIn (word : List Char) : List Char → Bool
  | [] => word.isEmpty
  | c :: rest => word.isPrefixOf (c :: rest) || occursIn word rest

/-- The text without its last character, if that is `c`. -/
def dropLast (c : Char) (text : String) : String :=
  if text.toList.getLast? = some c then String.ofList text.toList.dropLast else text

/-- The text without its first character, if that is `c`. -/
def dropFirst (c : Char) (text : String) : String :=
  match text.toList with
  | first :: rest => if first = c then String.ofList rest else text
  | [] => text

/-- Does the text start with `c`? -/
def startsWith (c : Char) (text : String) : Bool :=
  text.toList.head? = some c

end SolidityLint.Text

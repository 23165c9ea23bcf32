import SolidityLint.Location.LineIndex

set_option autoImplicit false

/-! # Lines and columns of byte offsets

The line of an offset is one more than the number of line feeds among the bytes before it. Its
column is measured from the last of these line feeds, or from the start of the text when there is
none: in characters where the offset is a boundary between characters or lies past the end, in bytes
where it lies inside a character (`HasColumn`).

Both come from one way to describe an offset (`Text.Passes`): the characters it has passed, and how
far it is into the character after them. The characters passed end in an unfinished line
(`Text.EndsIn`), and that line, continued to its line feed, is the line which the index finds. -/

namespace SolidityLint

/-! ## The bytes of a text -/

namespace Text

/-- The bytes that encode a text. -/
def utf8 (text : List Char) : List UInt8 :=
  text.flatMap String.utf8EncodeChar

@[simp] theorem utf8_nil : utf8 [] = [] := rfl

@[simp] theorem utf8_cons (c : Char) (rest : List Char) :
    utf8 (c :: rest) = String.utf8EncodeChar c ++ utf8 rest := rfl

@[simp] theorem utf8_append (xs ys : List Char) : utf8 (xs ++ ys) = utf8 xs ++ utf8 ys :=
  List.flatMap_append

theorem utf8_toList (s : String) : utf8 s.toList = s.toUTF8.data.toList := by
  have h : s.toByteArray = s.toList.utf8Encode := by
    rw [← String.toByteArray_ofList, String.ofList_toList]
  rw [String.toUTF8_eq_toByteArray, h, List.utf8Encode, List.data_toByteArray]
  rfl

theorem length_utf8_toList (s : String) : (utf8 s.toList).length = s.utf8ByteSize := by
  rw [utf8_toList, Array.length_toList]
  rfl

theorem length_utf8_cons (c : Char) (rest : List Char) :
    (utf8 (c :: rest)).length = c.utf8Size + (utf8 rest).length := by
  rw [utf8_cons, List.length_append, String.length_utf8EncodeChar]

theorem utf8EncodeChar_lineFeed : String.utf8EncodeChar '\n' = [10] := rfl

theorem utf8Size_lineFeed : '\n'.utf8Size = 1 := rfl

/-- The byte of a line feed is part of no other character. -/
theorem lineFeed_notMem_utf8EncodeChar {c : Char} (hc : c ≠ '\n') :
    10 ∉ String.utf8EncodeChar c := by
  have hcode : c.val.toNat ≠ 10 := by
    intro h
    exact hc (Char.ext (UInt32.toNat_inj.1 h))
  intro hmem
  have hbytes : 10 ∈ (String.utf8EncodeChar c).map UInt8.toNat := List.mem_map_of_mem hmem
  -- The one byte of an ASCII character is its code, and all other bytes are 128 or more.
  grind [String.utf8EncodeChar, UInt8.toNat_ofNat']

theorem count_utf8 (text : List Char) : (utf8 text).count 10 = text.count '\n' := by
  induction text with
  | nil => rfl
  | cons c rest ih =>
    rw [utf8_cons, List.count_append, ih]
    by_cases hc : c = '\n'
    · subst hc
      rw [List.count_cons_self, Nat.add_comm, utf8EncodeChar_lineFeed]
      rfl
    · rw [List.count_cons_of_ne hc, List.count_eq_zero.2 (lineFeed_notMem_utf8EncodeChar hc),
        Nat.zero_add]

/-! ## What an offset has passed -/

/-- An offset into a text has passed the characters of `before`, and is `excess` bytes into what
    follows them, which is less than the next character has. -/
structure Passes (text : List Char) (offset : Nat) (before after : List Char) (excess : Nat) :
    Prop where
  split : text = before ++ after
  reach : offset = (utf8 before).length + excess
  short : ∀ c ∈ after.head?, excess < c.utf8Size

theorem exists_passes (text : List Char) (offset : Nat) :
    ∃ before after excess, Passes text offset before after excess := by
  induction text generalizing offset with
  | nil => exact ⟨[], [], offset, rfl, by simp, by simp⟩
  | cons c rest ih =>
    by_cases hc : offset < c.utf8Size
    · exact ⟨[], c :: rest, offset, rfl, by simp, by simpa using hc⟩
    · obtain ⟨before, after, excess, h⟩ := ih (offset - c.utf8Size)
      refine ⟨c :: before, after, excess, by rw [h.split, List.cons_append], ?_, h.short⟩
      have hreach := h.reach
      rw [length_utf8_cons]
      omega

/-- The bytes before an offset hold the line feeds that it has passed, and no other. -/
theorem Passes.count_take {text before after : List Char} {offset excess : Nat}
    (h : Passes text offset before after excess) :
    ((utf8 text).take offset).count 10 = before.count '\n' := by
  have hnext : ((utf8 after).take excess).count 10 = 0 := by
    cases after with
    | nil => simp
    | cons c rest =>
      have hc : excess < c.utf8Size := h.short c rfl
      have hle : excess ≤ (String.utf8EncodeChar c).length := by
        rw [String.length_utf8EncodeChar]
        exact Nat.le_of_lt hc
      rw [utf8_cons, List.take_append_of_le_length hle, List.count_eq_zero]
      intro hmem
      -- A line feed is a single byte, of which an offset that has not passed it has none.
      by_cases hfeed : c = '\n'
      · subst hfeed
        obtain rfl : excess = 0 := Nat.lt_one_iff.1 hc
        simp at hmem
      · exact lineFeed_notMem_utf8EncodeChar hfeed (List.mem_of_mem_take hmem)
  rw [h.split, h.reach, utf8_append, List.take_length_add_append, List.count_append, hnext,
    count_utf8, Nat.add_zero]

/-- A text ends in an unfinished line: what stands after its last line feed, or all of it when it
    has none. -/
def EndsIn (text line : List Char) : Prop :=
  '\n' ∉ line ∧ (text = line ∨ ∃ earlier, text = earlier ++ '\n' :: line)

theorem exists_endsIn (text : List Char) : ∃ line, EndsIn text line := by
  induction text with
  | nil => exact ⟨[], by simp, .inl rfl⟩
  | cons c rest ih =>
    obtain ⟨line, hline, rfl | ⟨earlier, rfl⟩⟩ := ih
    · by_cases hc : c = '\n'
      · exact ⟨rest, hline, .inr ⟨[], by rw [hc, List.nil_append]⟩⟩
      · exact ⟨c :: rest, by simp [hline, Ne.symm hc], .inl rfl⟩
    · exact ⟨line, hline, .inr ⟨c :: earlier, rfl⟩⟩

end Text

namespace LineIndex

open Text (utf8 Passes EndsIn)

/-! ## Where lines start -/

/-- Where the lines after the first one start. -/
def laterStarts (start : Nat) : List Char → List Nat
  | [] => []
  | c :: rest =>
      if c = '\n' then (start + c.utf8Size) :: laterStarts (start + c.utf8Size) rest
      else laterStarts (start + c.utf8Size) rest

/-- The first line of a text, with its line feed if it has one. -/
def firstLine : List Char → List Char
  | [] => []
  | c :: rest => if c = '\n' then [c] else c :: firstLine rest

theorem linesFrom_eq_cons (start : Nat) (text : List Char) :
    ∃ more, linesFrom start text = ⟨start, firstLine text⟩ :: more
      ∧ more.map Line.start = laterStarts start text := by
  induction text generalizing start with
  | nil => exact ⟨[], rfl, rfl⟩
  | cons c rest ih =>
    obtain ⟨more, hmore, hstarts⟩ := ih (start + c.utf8Size)
    by_cases hc : c = '\n'
    · refine ⟨linesFrom (start + c.utf8Size) rest, ?_, ?_⟩
      · rw [linesFrom, firstLine, if_pos hc, if_pos hc]
      · rw [laterStarts, if_pos hc, hmore, List.map_cons, hstarts]
    · refine ⟨more, ?_, ?_⟩
      · rw [linesFrom, firstLine, if_neg hc, if_neg hc, hmore]
      · rw [laterStarts, if_neg hc, hstarts]

theorem map_start_linesFrom (start : Nat) (text : List Char) :
    (linesFrom start text).map Line.start = start :: laterStarts start text := by
  obtain ⟨more, hmore, hstarts⟩ := linesFrom_eq_cons start text
  rw [hmore, List.map_cons, hstarts]

theorem pairwise_laterStarts (start : Nat) (text : List Char) :
    (start :: laterStarts start text).Pairwise (· < ·) := by
  induction text generalizing start with
  | nil => simp [laterStarts]
  | cons c rest ih =>
    have hpos := c.utf8Size_pos
    have hrest := ih (start + c.utf8Size)
    -- Whatever comes after the first character starts later than it does.
    have hlater : ∀ s ∈ laterStarts (start + c.utf8Size) rest, start < s := by
      intro s hs
      have hle := List.rel_of_pairwise_cons hrest hs
      omega
    rw [laterStarts]
    split
    · refine List.Pairwise.cons ?_ hrest
      intro s hs
      rcases List.mem_cons.1 hs with rfl | hs
      · omega
      · exact hlater s hs
    · exact List.Pairwise.cons hlater hrest.of_cons

theorem countP_laterStarts (start offset : Nat) (text : List Char) :
    (laterStarts start text).countP (· ≤ offset)
      = ((utf8 text).take (offset - start)).count 10 := by
  induction text generalizing start with
  | nil => simp [laterStarts]
  | cons c rest ih =>
    rw [laterStarts, Text.utf8_cons, List.take_append, List.count_append,
      String.length_utf8EncodeChar, Nat.sub_sub, ← ih]
    by_cases hc : c = '\n'
    · subst hc
      -- The line below starts at or before the offset exactly when the line feed is before it.
      have hfeed : (List.take (offset - start) [(10 : UInt8)]).count 10
          = if start + 1 ≤ offset then 1 else 0 := by
        by_cases hoffset : start + 1 ≤ offset
        · rw [if_pos hoffset, List.take_of_length_le (by simp; omega)]
          rfl
        · rw [if_neg hoffset, Nat.sub_eq_zero_of_le (by omega)]
          rfl
      rw [if_pos rfl, List.countP_cons, Text.utf8EncodeChar_lineFeed, Text.utf8Size_lineFeed, hfeed,
        Nat.add_comm]
      simp
    · have hmem : 10 ∉ (String.utf8EncodeChar c).take (offset - start) := by
        intro hmem
        exact Text.lineFeed_notMem_utf8EncodeChar hc (List.mem_of_mem_take hmem)
      rw [if_neg hc, List.count_eq_zero.2 hmem, Nat.zero_add]

theorem lineNumber_eq_countP (index : LineIndex) (offset : Nat) :
    index.lineNumber offset = (index.lines.map Line.start).countP (· ≤ offset) := by
  rw [List.countP_map]
  rfl

theorem lineNumber_ofString (source : String) (offset : Nat) :
    (ofString source).lineNumber offset = 1 + ((utf8 source.toList).take offset).count 10 := by
  rw [lineNumber_eq_countP, ofString, map_start_linesFrom, List.countP_cons_of_pos (by simp),
    countP_laterStarts, Nat.sub_zero, Nat.add_comm]

/-- The line of a boundary between characters, by what stands before it. -/
theorem lineNumber_of_split {source : String} {before after : List Char}
    (hsplit : source.toList = before ++ after) :
    (ofString source).lineNumber (utf8 before).length = 1 + before.count '\n' := by
  have h : Passes source.toList (utf8 before).length before after 0 :=
    ⟨hsplit, rfl, fun c _ => c.utf8Size_pos⟩
  rw [lineNumber_ofString, h.count_take]

/-! ## The line an offset is in -/

theorem firstLine_append {line : List Char} (hline : '\n' ∉ line) (after : List Char) :
    firstLine (line ++ after) = line ++ firstLine after := by
  induction line with
  | nil => rfl
  | cons c rest ih =>
    rw [List.mem_cons, not_or] at hline
    rw [List.cons_append, firstLine, if_neg (Ne.symm hline.1), ih hline.2, List.cons_append]

/-- A line feed cuts the lines in two. -/
theorem linesFrom_append_lineFeed (start : Nat) (xs ys : List Char) :
    ∃ first, first.length = xs.count '\n' + 1
      ∧ linesFrom start (xs ++ '\n' :: ys)
          = first ++ linesFrom (start + (utf8 xs).length + 1) ys := by
  induction xs generalizing start with
  | nil => exact ⟨[⟨start, ['\n']⟩], rfl, rfl⟩
  | cons c rest ih =>
    obtain ⟨first, hlength, hfirst⟩ := ih (start + c.utf8Size)
    have hstart : start + c.utf8Size + (utf8 rest).length + 1
        = start + (utf8 (c :: rest)).length + 1 := by
      rw [Text.length_utf8_cons, Nat.add_assoc start]
    rw [hstart] at hfirst
    by_cases hc : c = '\n'
    · refine ⟨⟨start, [c]⟩ :: first, ?_, ?_⟩
      · rw [List.length_cons, hlength, hc, List.count_cons_self]
      · rw [List.cons_append, linesFrom, if_pos hc, hfirst, List.cons_append]
    · -- The first line is not the last, so the character joins one of `first`.
      obtain ⟨line, more, rfl⟩ := List.exists_cons_of_length_eq_add_one hlength
      refine ⟨⟨start, c :: line.text⟩ :: more, ?_, ?_⟩
      · rw [List.count_cons_of_ne hc, ← hlength]
        rfl
      · rw [List.cons_append, linesFrom, if_neg hc, hfirst]
        rfl

/-- The line feeds passed are the index of the line which is then unfinished. It starts where what
    there is of it starts, and goes on to its line feed. -/
theorem getElem?_linesFrom_of_endsIn {before line : List Char} (h : EndsIn before line)
    (after : List Char) :
    ∃ start, (linesFrom 0 (before ++ after))[before.count '\n']?
        = some ⟨start, line ++ firstLine after⟩
      ∧ (utf8 before).length = start + (utf8 line).length := by
  obtain ⟨hline, hend⟩ := h
  have hnone : line.count '\n' = 0 := List.count_eq_zero.2 hline
  rcases hend with rfl | ⟨earlier, rfl⟩
  · obtain ⟨more, hmore, -⟩ := linesFrom_eq_cons 0 (before ++ after)
    refine ⟨0, ?_, (Nat.zero_add _).symm⟩
    rw [hmore, hnone, firstLine_append hline]
    rfl
  · obtain ⟨first, hlength, hfirst⟩ := linesFrom_append_lineFeed 0 earlier (line ++ after)
    obtain ⟨more, hmore, -⟩ := linesFrom_eq_cons (0 + (utf8 earlier).length + 1) (line ++ after)
    refine ⟨(utf8 earlier).length + 1, ?_, ?_⟩
    · have hcount : (earlier ++ '\n' :: line).count '\n' = first.length := by
        rw [hlength, List.count_append, List.count_cons_self, hnone]
      rw [hcount, List.append_assoc, List.cons_append, hfirst, hmore, firstLine_append hline,
        List.getElem?_append_right (Nat.le_refl _), Nat.sub_self, Nat.zero_add]
      rfl
    · rw [Text.utf8_append, List.length_append, Text.length_utf8_cons, Text.utf8Size_lineFeed,
        Nat.add_assoc]

/-! ## The column of an offset -/

theorem charactersWithin_append (xs ys : List Char) (bytes : Nat) :
    charactersWithin (xs ++ ys) ((utf8 xs).length + bytes)
      = (charactersWithin ys bytes).map (xs.length + ·) := by
  induction xs with
  | nil => simp
  | cons c rest ih =>
    have hpos := c.utf8Size_pos
    obtain ⟨n, hn⟩ : ∃ n, (utf8 (c :: rest)).length + bytes = n + 1 := by
      rw [Text.length_utf8_cons]
      exact ⟨c.utf8Size - 1 + (utf8 rest).length + bytes, by omega⟩
    have hrest : n + 1 - c.utf8Size = (utf8 rest).length + bytes := by
      rw [← hn, Text.length_utf8_cons]
      omega
    have hfits : ¬ n + 1 < c.utf8Size := by
      rw [← hn, Text.length_utf8_cons]
      omega
    rw [hn, List.cons_append, charactersWithin, if_neg hfits, hrest, ih, Option.map_map]
    congr 1
    funext k
    simp only [Function.comp_apply, List.length_cons]
    omega

/-- Short of the next character, an offset is at a boundary, past the end or inside a character. -/
theorem charactersWithin_firstLine {after : List Char} {excess : Nat}
    (h : ∀ c ∈ after.head?, excess < c.utf8Size) :
    charactersWithin (firstLine after) excess
      = if excess = 0 ∨ after = [] then some 0 else none := by
  cases excess with
  | zero => simp [charactersWithin]
  | succ n =>
    cases after with
    | nil => rfl
    | cons c rest =>
      have hc : n + 1 < c.utf8Size := h c rfl
      have hfeed : c ≠ '\n' := by
        rintro rfl
        simp [Text.utf8Size_lineFeed] at hc
      rw [firstLine, if_neg hfeed, charactersWithin, if_pos hc, if_neg (by simp)]

section Passed

variable {source : String} {offset excess : Nat} {before after line : List Char}

theorem getElem?_lines_of_passes (h : Passes source.toList offset before after excess)
    (hline : EndsIn before line) :
    ∃ start, (ofString source).lines[(ofString source).lineNumber offset - 1]?
        = some ⟨start, line ++ firstLine after⟩
      ∧ (utf8 before).length = start + (utf8 line).length := by
  have hnumber : (ofString source).lineNumber offset - 1 = before.count '\n' := by
    rw [lineNumber_ofString, h.count_take, Nat.add_sub_cancel_left]
  rw [hnumber, ofString, h.split]
  exact getElem?_linesFrom_of_endsIn hline after

theorem column_of_passes (h : Passes source.toList offset before after excess)
    (hline : EndsIn before line) :
    ((ofString source).position offset).column
      = if excess = 0 ∨ after = [] then line.length else (utf8 line).length + excess := by
  obtain ⟨start, hfound, hlength⟩ := getElem?_lines_of_passes h hline
  have hdistance : offset - start = (utf8 line).length + excess := by
    rw [h.reach, hlength, Nat.add_assoc, Nat.add_sub_cancel_left]
  rw [position, hfound]
  simp only [columnIn, hdistance, charactersWithin_append, charactersWithin_firstLine h.short]
  split
  · rfl
  · rfl

end Passed

theorem position_line (index : LineIndex) (offset : Nat) :
    (index.position offset).line = index.lineNumber offset := by
  rw [position]
  split
  · rfl
  · rfl

/-- What the column of an offset should be. -/
inductive HasColumn (source : String) : (offset column : Nat) → Prop
  /-- Between two characters, or at an end of the text: the characters since the last line feed. -/
  | boundary {before after line : String} (hsplit : source = before ++ after)
      (hline : EndsIn before.toList line.toList) :
      HasColumn source before.utf8ByteSize line.length
  /-- Past the end: the characters of the last line. -/
  | pastEnd {offset : Nat} {line : String} (hend : source.utf8ByteSize < offset)
      (hline : EndsIn source.toList line.toList) :
      HasColumn source offset line.length
  /-- Inside a character: the bytes since the last line feed. -/
  | inside {before after line : String} {c : Char} {excess : Nat}
      (hsplit : source = before ++ String.singleton c ++ after)
      (hline : EndsIn before.toList line.toList)
      (hpos : 0 < excess) (hshort : excess < c.utf8Size) :
      HasColumn source (before.utf8ByteSize + excess) (line.utf8ByteSize + excess)

theorem HasColumn.column_eq {source : String} {offset column : Nat}
    (h : HasColumn source offset column) :
    ((ofString source).position offset).column = column := by
  cases h with
  | @boundary before after line hsplit hline =>
    have hpasses : Passes source.toList before.utf8ByteSize before.toList after.toList 0 := by
      refine ⟨by rw [hsplit, String.toList_append], ?_, fun c _ => c.utf8Size_pos⟩
      rw [Text.length_utf8_toList, Nat.add_zero]
    rw [column_of_passes hpasses hline, if_pos (.inl rfl), String.length_toList]
  | @pastEnd _ line hend hline =>
    have hpasses : Passes source.toList offset source.toList [] (offset - source.utf8ByteSize) := by
      refine ⟨(List.append_nil _).symm, ?_, by simp⟩
      rw [Text.length_utf8_toList]
      omega
    rw [column_of_passes hpasses hline, if_pos (.inr rfl), String.length_toList]
  | @inside before after line c excess hsplit hline hpos hshort =>
    have hpasses : Passes source.toList (before.utf8ByteSize + excess) before.toList
        (c :: after.toList) excess := by
      refine ⟨by simp [hsplit], by rw [Text.length_utf8_toList], ?_⟩
      intro d hd
      obtain rfl : c = d := Option.some.inj hd
      exact hshort
    have hinside : ¬ (excess = 0 ∨ c :: after.toList = []) := by
      rintro (rfl | h)
      · exact Nat.lt_irrefl 0 hpos
      · exact List.cons_ne_nil _ _ h
    rw [column_of_passes hpasses hline, if_neg hinside, Text.length_utf8_toList]

theorem exists_hasColumn (source : String) (offset : Nat) :
    ∃ column, HasColumn source offset column := by
  obtain ⟨before, after, excess, hsplit, hreach, hshort⟩ := Text.exists_passes source.toList offset
  obtain ⟨line, hline⟩ := Text.exists_endsIn before
  obtain ⟨before, rfl⟩ : ∃ s : String, s.toList = before := ⟨_, String.toList_ofList⟩
  obtain ⟨line, rfl⟩ : ∃ s : String, s.toList = line := ⟨_, String.toList_ofList⟩
  rw [Text.length_utf8_toList] at hreach
  subst hreach
  cases after with
  | nil =>
    obtain rfl : source = before := String.toList_inj.1 (by rw [hsplit, List.append_nil])
    by_cases hexcess : excess = 0
    · subst hexcess
      exact ⟨_, .boundary String.append_empty.symm hline⟩
    · exact ⟨_, .pastEnd (Nat.lt_add_of_pos_right (Nat.pos_of_ne_zero hexcess)) hline⟩
  | cons c rest =>
    have hsource : source = before ++ String.singleton c ++ String.ofList rest :=
      String.toList_inj.1 (by simp [hsplit])
    by_cases hexcess : excess = 0
    · subst hexcess
      exact ⟨_, .boundary (hsource.trans (String.append_assoc ..)) hline⟩
    · exact ⟨_, .inside hsource hline (Nat.pos_of_ne_zero hexcess) (hshort c rfl)⟩

/-! ## The number of a line by search -/

/-- The number that a search for `offset` among the starts of the lines stands for: the search finds
    the line that starts there, or the place where such a line would have to be. -/
inductive NumberBySearch (starts : List Nat) (offset : Nat) : Nat → Prop
  | found {earlier later : List Nat} (hsplit : starts = earlier ++ offset :: later) :
      NumberBySearch starts offset (earlier.length + 1)
  | missing {earlier later : List Nat} (hsplit : starts = earlier ++ later)
      (hearlier : ∀ s ∈ earlier, s < offset) (hlater : ∀ s ∈ later, offset < s) :
      NumberBySearch starts offset earlier.length

section Search

variable {starts : List Nat} {offset : Nat}

theorem countP_le_of_lt (h : ∀ s ∈ starts, s < offset) :
    starts.countP (· ≤ offset) = starts.length := by
  rw [List.countP_eq_length]
  intro s hs
  exact decide_eq_true (Nat.le_of_lt (h s hs))

theorem countP_le_of_gt (h : ∀ s ∈ starts, offset < s) : starts.countP (· ≤ offset) = 0 := by
  rw [List.countP_eq_zero]
  intro s hs hle
  exact Nat.not_le_of_lt (h s hs) (of_decide_eq_true hle)

theorem NumberBySearch.countP_eq {number : Nat} (hstarts : starts.Pairwise (· < ·))
    (h : NumberBySearch starts offset number) : starts.countP (· ≤ offset) = number := by
  cases h with
  | @found earlier later hsplit =>
    subst hsplit
    rw [List.pairwise_append, List.pairwise_cons] at hstarts
    obtain ⟨-, ⟨hlater, -⟩, hearlier⟩ := hstarts
    have hbefore : ∀ s ∈ earlier, s < offset := fun s hs => hearlier s hs offset (by simp)
    rw [List.countP_append, List.countP_cons_of_pos (by simp), countP_le_of_lt hbefore,
      countP_le_of_gt hlater]
  | missing hsplit hearlier hlater =>
    subst hsplit
    rw [List.countP_append, countP_le_of_lt hearlier, countP_le_of_gt hlater, Nat.add_zero]

theorem NumberBySearch.cons {s number : Nat} (hs : s < offset)
    (h : NumberBySearch starts offset number) :
    NumberBySearch (s :: starts) offset (number + 1) := by
  cases h with
  | @found earlier later hsplit =>
    have hcons : s :: starts = (s :: earlier) ++ offset :: later := by
      rw [hsplit, List.cons_append]
    exact .found hcons
  | @missing earlier later hsplit hearlier hlater =>
    have hcons : s :: starts = (s :: earlier) ++ later := by
      rw [hsplit, List.cons_append]
    exact .missing hcons (List.forall_mem_cons.2 ⟨hs, hearlier⟩) hlater

theorem exists_numberBySearch (offset : Nat) (hstarts : starts.Pairwise (· < ·)) :
    ∃ number, NumberBySearch starts offset number := by
  induction hstarts with
  | nil => exact ⟨_, .missing (List.append_nil []).symm (by simp) (by simp)⟩
  | @cons s rest hs _ ih =>
    rcases Nat.lt_trichotomy s offset with hlt | rfl | hgt
    · obtain ⟨number, h⟩ := ih
      exact ⟨number + 1, h.cons hlt⟩
    · exact ⟨_, .found (List.nil_append _).symm⟩
    · have hlater : ∀ r ∈ rest, offset < r := fun r hr => Nat.lt_trans hgt (hs r hr)
      exact ⟨_, .missing (List.nil_append _).symm (by simp)
        (List.forall_mem_cons.2 ⟨hgt, hlater⟩)⟩

end Search

theorem numberBySearch_iff (source : String) (offset number : Nat) :
    NumberBySearch ((ofString source).lines.map Line.start) offset number
      ↔ (ofString source).lineNumber offset = number := by
  have hstarts : ((ofString source).lines.map Line.start).Pairwise (· < ·) := by
    rw [ofString, map_start_linesFrom]
    exact pairwise_laterStarts 0 source.toList
  rw [lineNumber_eq_countP]
  constructor
  · intro h
    exact h.countP_eq hstarts
  · rintro rfl
    obtain ⟨number, h⟩ := exists_numberBySearch offset hstarts
    rw [h.countP_eq hstarts]
    exact h

/-! ## Every offset of every text -/

/-- Every offset has its line and its column. The line is one more than the line feeds (byte 10)
    before the offset, a search among the starts of the lines finds it, it is in the index, and it
    starts no later than the offset and the end of the text. -/
theorem ofString_locates (source : String) (offset : Nat) :
    (ofString source).lineNumber offset = 1 + (source.toUTF8.data.toList.take offset).count 10
    ∧ (∃ line, (ofString source).lines[(ofString source).lineNumber offset - 1]? = some line
        ∧ line.start ≤ min offset source.utf8ByteSize)
    ∧ ((ofString source).position offset).line = (ofString source).lineNumber offset
    ∧ (∀ column, HasColumn source offset column
        ↔ ((ofString source).position offset).column = column)
    ∧ ∀ number, NumberBySearch ((ofString source).lines.map Line.start) offset number
        ↔ (ofString source).lineNumber offset = number := by
  refine ⟨?_, ?_, position_line _ offset, ?_, numberBySearch_iff source offset⟩
  · rw [lineNumber_ofString, Text.utf8_toList]
  · obtain ⟨before, after, excess, h⟩ := Text.exists_passes source.toList offset
    obtain ⟨line, hline⟩ := Text.exists_endsIn before
    obtain ⟨start, hfound, hlength⟩ := getElem?_lines_of_passes h hline
    have hsize : source.utf8ByteSize = (utf8 before).length + (utf8 after).length := by
      rw [← Text.length_utf8_toList, h.split, Text.utf8_append, List.length_append]
    have hreach := h.reach
    have hle : start ≤ min offset source.utf8ByteSize := by omega
    exact ⟨_, hfound, hle⟩
  · intro column
    constructor
    · exact HasColumn.column_eq
    · rintro rfl
      obtain ⟨column, h⟩ := exists_hasColumn source offset
      rw [h.column_eq]
      exact h

end LineIndex

end SolidityLint

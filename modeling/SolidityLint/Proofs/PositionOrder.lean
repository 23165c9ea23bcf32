import SolidityLint.Ast.Lower
import SolidityLint.Proofs.Positions
import SolidityLint.Token.Lexer

set_option autoImplicit false

/-! # Positions keep the order of the source

Of two boundaries between characters, the later one has the later position: either a line feed
stands between them, and the line is a later one, or none does, and the same line has more
characters before it (`LineIndex.position_lt_position`). Everything else here is read off that.
Boundaries with the same position are the same, lexemes start at different positions because the
lexer cuts at later and later boundaries (`Lexer.starts_of_lexemesFrom`), and a span between
boundaries lies within the location of its source file. -/

namespace SolidityLint

/-! ## The order of positions -/

namespace Position

theorem lt_iff {p q : Position} :
    p < q ↔ p.line < q.line ∨ p.line = q.line ∧ p.column < q.column := Iff.rfl

theorem lt_irrefl (p : Position) : ¬p < p := by
  rw [lt_iff]
  omega

theorem le_refl (p : Position) : p ≤ p :=
  .inr rfl

end Position

/-! ## Boundaries between characters -/

namespace Text

/-- The offset is between two characters of the source, or at one of its ends. -/
def IsBoundary (source : String) (offset : Nat) : Prop :=
  String.Pos.Raw.IsValid source ⟨offset⟩

instance (source : String) (offset : Nat) : Decidable (IsBoundary source offset) :=
  inferInstanceAs (Decidable (String.Pos.Raw.IsValid source ⟨offset⟩))

section Boundary

variable {source : String} {a b : Nat}

theorem isBoundary_iff :
    IsBoundary source a
      ↔ ∃ before after, source.toList = before ++ after ∧ a = (utf8 before).length := by
  unfold IsBoundary
  rw [String.Pos.Raw.isValid_iff_exists_append]
  constructor
  · rintro ⟨before, after, rfl, h⟩
    refine ⟨before.toList, after.toList, String.toList_append, ?_⟩
    rw [length_utf8_toList]
    exact congrArg String.Pos.Raw.byteIdx h
  · rintro ⟨before, after, hsplit, rfl⟩
    refine ⟨String.ofList before, String.ofList after, ?_, ?_⟩
    · rw [← String.ofList_append, ← hsplit, String.ofList_toList]
    · rw [← String.toList_ofList (l := before), length_utf8_toList, String.toList_ofList]
      rfl

theorem isBoundary_zero (source : String) : IsBoundary source 0 :=
  isBoundary_iff.2 ⟨[], source.toList, rfl, rfl⟩

theorem isBoundary_utf8ByteSize (source : String) : IsBoundary source source.utf8ByteSize :=
  isBoundary_iff.2 ⟨source.toList, [], (List.append_nil _).symm, (length_utf8_toList source).symm⟩

theorem IsBoundary.le_utf8ByteSize (h : IsBoundary source a) : a ≤ source.utf8ByteSize := by
  obtain ⟨before, after, hsplit, rfl⟩ := isBoundary_iff.1 h
  rw [← length_utf8_toList, hsplit, utf8_append, List.length_append]
  exact Nat.le_add_right _ _

/-- Between two boundaries there is some text. -/
theorem IsBoundary.exists_between (ha : IsBoundary source a) (hb : IsBoundary source b)
    (h : a < b) :
    ∃ before between after, source.toList = before ++ between ++ after ∧ between ≠ []
      ∧ a = (utf8 before).length ∧ b = (utf8 (before ++ between)).length := by
  obtain ⟨before, afterA, hsplitA, rfl⟩ := isBoundary_iff.1 ha
  obtain ⟨beforeB, afterB, hsplitB, rfl⟩ := isBoundary_iff.1 hb
  rcases List.append_eq_append_iff.1 (hsplitA.symm.trans hsplitB) with
    ⟨between, rfl, -⟩ | ⟨between, rfl, -⟩
  · refine ⟨before, between, afterB, hsplitB, ?_, rfl, rfl⟩
    rintro rfl
    rw [List.append_nil] at h
    exact Nat.lt_irrefl _ h
  · -- The other way round, the first boundary would be the later one.
    rw [utf8_append, List.length_append] at h
    omega

end Boundary

/-- What goes on without a line feed is still the same line. -/
theorem EndsIn.append {text line more : List Char} (h : EndsIn text line) (hmore : '\n' ∉ more) :
    EndsIn (text ++ more) (line ++ more) := by
  obtain ⟨hline, hend⟩ := h
  refine ⟨by simp [hline, hmore], ?_⟩
  rcases hend with rfl | ⟨earlier, rfl⟩
  · exact .inl rfl
  · exact .inr ⟨earlier, by rw [List.append_assoc, List.cons_append]⟩

end Text

/-! ## Later boundaries have later positions -/

namespace LineIndex

open Text (utf8 EndsIn Passes IsBoundary)

/-- The position of a boundary: the line feeds before it and the unfinished line that they leave. -/
theorem position_of_endsIn {source : String} {before after line : List Char}
    (hsplit : source.toList = before ++ after) (hline : EndsIn before line) :
    (ofString source).position (utf8 before).length = ⟨1 + before.count '\n', line.length⟩ := by
  have h : Passes source.toList (utf8 before).length before after 0 :=
    ⟨hsplit, rfl, fun c _ => c.utf8Size_pos⟩
  have hnumber : ((ofString source).position (utf8 before).length).line
      = 1 + before.count '\n' := by
    rw [position_line, lineNumber_of_split hsplit]
  have hcolumn : ((ofString source).position (utf8 before).length).column = line.length := by
    rw [column_of_passes h hline, if_pos (.inl rfl)]
  rw [← hnumber, ← hcolumn]

section Order

variable {source : String} {a b : Nat}

theorem position_lt_position (ha : IsBoundary source a) (hb : IsBoundary source b) (h : a < b) :
    (ofString source).position a < (ofString source).position b := by
  obtain ⟨before, between, after, hsplit, hne, rfl, rfl⟩ := ha.exists_between hb h
  obtain ⟨line, hline⟩ := Text.exists_endsIn before
  have hsplit' : source.toList = before ++ (between ++ after) := by
    rw [hsplit, List.append_assoc]
  rw [position_of_endsIn hsplit' hline, Position.lt_iff]
  by_cases hfeed : '\n' ∈ between
  · -- A line feed in between: the line is a later one, whatever the columns are.
    obtain ⟨line', hline'⟩ := Text.exists_endsIn (before ++ between)
    rw [position_of_endsIn hsplit hline', List.count_append]
    have hpos := List.count_pos_iff.2 hfeed
    exact .inl (by dsimp only; omega)
  · -- None in between: the same line goes on.
    rw [position_of_endsIn hsplit (hline.append hfeed), List.count_append,
      List.count_eq_zero.2 hfeed, List.length_append]
    have hpos := List.length_pos_iff.2 hne
    exact .inr ⟨rfl, by dsimp only; omega⟩

theorem position_le_position (ha : IsBoundary source a) (hb : IsBoundary source b) (h : a ≤ b) :
    (ofString source).position a ≤ (ofString source).position b := by
  rcases Nat.eq_or_lt_of_le h with rfl | h
  · exact Position.le_refl _
  · exact .inl (position_lt_position ha hb h)

theorem eq_of_position_eq (ha : IsBoundary source a) (hb : IsBoundary source b)
    (h : (ofString source).position a = (ofString source).position b) : a = b := by
  rcases Nat.lt_trichotomy a b with hlt | heq | hgt
  · exact absurd (h ▸ position_lt_position ha hb hlt) (Position.lt_irrefl _)
  · exact heq
  · exact absurd (h ▸ position_lt_position hb ha hgt) (Position.lt_irrefl _)

end Order

theorem position_zero (source : String) : (ofString source).position 0 = ⟨1, 0⟩ :=
  position_of_endsIn (List.nil_append _).symm ⟨by simp, .inl rfl⟩

theorem one_le_position_line (source : String) (offset : Nat) :
    1 ≤ ((ofString source).position offset).line := by
  rw [position_line, lineNumber_ofString]
  exact Nat.le_add_right _ _

end LineIndex

/-! ## Lexemes start at different boundaries -/

namespace Lexer

open Text (utf8 IsBoundary)

theorem byteLength_eq (text : List Char) : byteLength text = (utf8 text).length := by
  induction text with
  | nil => rfl
  | cons c rest ih => rw [byteLength, ih, Text.length_utf8_cons]

theorem offset_add_byteLength {offset : Nat} {before : List Char}
    (h : offset = (utf8 before).length) (taken : List Char) :
    offset + byteLength taken = (utf8 (before ++ taken)).length := by
  rw [Text.utf8_append, List.length_append, h, byteLength_eq]

/-- A cut takes at least one character, so the lexer goes on at a later boundary. -/
theorem lt_offset_add_byteLength (offset : Nat) (c : Char) (rest : List Char) :
    offset < offset + byteLength (c :: rest) := by
  have hpos := c.utf8Size_pos
  rw [byteLength]
  omega

/-- What the lexer finds in the rest of a source starts at boundaries, no earlier than the rest, and
    each lexeme before the next. -/
theorem starts_of_lexemesFrom {source : String} {mode : Mode} {offset : Nat}
    {before text : List Char} {found : List Lexeme} (hsplit : source.toList = before ++ text)
    (hoffset : offset = (utf8 before).length) (h : lexemesFrom mode offset text = .ok found) :
    (∀ l ∈ found, offset ≤ l.start ∧ IsBoundary source l.start)
    ∧ found.Pairwise fun l m => l.start < m.start := by
  fun_induction lexemesFrom mode offset text generalizing before found with
  | case1 mode offset =>
    obtain rfl : [] = found := by simpa using h
    simp
  | case2 mode offset first rest c stop =>
    rename_i ih
    have hlater : offset < stop := lt_offset_add_byteLength ..
    have hnext := offset_add_byteLength hoffset (first :: rest.take c.extra)
    obtain ⟨hstarts, hpairs⟩ := ih (by simp [hsplit]) hnext h
    refine ⟨fun l hl => ?_, hpairs⟩
    obtain ⟨hle, hboundary⟩ := hstarts l hl
    exact ⟨by omega, hboundary⟩
  | case3 mode offset first rest c stop t =>
    rename_i ih
    have hlater : offset < stop := lt_offset_add_byteLength ..
    have hnext := offset_add_byteLength hoffset (first :: rest.take c.extra)
    cases hmore : lexemesFrom (mode.next t) stop (rest.drop c.extra) with
    | error e =>
      rw [hmore] at h
      cases h
    | ok more =>
      rw [hmore] at h
      obtain rfl : ⟨t, offset, stop⟩ :: more = found := Except.ok.inj h
      obtain ⟨hstarts, hpairs⟩ := ih (by simp [hsplit]) hnext hmore
      refine ⟨fun l hl => ?_, ?_⟩
      · rcases List.mem_cons.1 hl with rfl | hl
        · exact ⟨Nat.le_refl _, Text.isBoundary_iff.2 ⟨before, _, hsplit, hoffset⟩⟩
        · obtain ⟨hle, hboundary⟩ := hstarts l hl
          exact ⟨by omega, hboundary⟩
      · refine List.Pairwise.cons (fun m hm => ?_) hpairs
        obtain ⟨hle, -⟩ := hstarts m hm
        exact Nat.lt_of_lt_of_le hlater hle
  | case4 => cases h

theorem pairwise_position_start {source : String} {found : List Lexeme}
    (h : lexemes source = .ok found) :
    found.Pairwise fun l m =>
      (LineIndex.ofString source).position l.start
        < (LineIndex.ofString source).position m.start := by
  obtain ⟨hstarts, hpairs⟩ := starts_of_lexemesFrom (List.nil_append _).symm rfl h
  refine hpairs.imp_of_mem fun {l m} hl hm hlt => ?_
  exact LineIndex.position_lt_position (hstarts l hl).2 (hstarts m hm).2 hlt

end Lexer

/-! ## Locations of spans -/

namespace Location

/-- A location within another. -/
def Within (inner outer : Location) : Prop :=
  outer.start ≤ inner.start ∧ inner.stop ≤ outer.stop

end Location

namespace LineIndex

open Text (IsBoundary)

/-- A span between boundaries has a location from a line of the file to a position that is no
    earlier, within the location of the file. -/
theorem loc_of_span {source : String} {span : ParseTree.Span}
    (hstart : IsBoundary source span.start) (hstop : IsBoundary source span.stop)
    (hle : span.start ≤ span.stop) (unit : ParseTree.SourceUnit) :
    ((Source.ofString source).loc span).start ≤ ((Source.ofString source).loc span).stop
    ∧ 1 ≤ ((Source.ofString source).loc span).start.line
    ∧ ((Source.ofString source).loc span).Within
        (Ast.SourceUnit.lower (.ofString source) unit).loc := by
  refine ⟨position_le_position hstart hstop hle, one_le_position_line source span.start, ?_, ?_⟩
  · show (⟨1, 0⟩ : Position) ≤ (ofString source).position span.start
    rw [← position_zero source]
    exact position_le_position (Text.isBoundary_zero source) hstart (Nat.zero_le _)
  · exact position_le_position hstop (Text.isBoundary_utf8ByteSize source) hstop.le_utf8ByteSize

/-- **Positions keep the order of the source.** Of two boundaries the later one has the later
    position, so that no two have the same; no two lexemes of a source start at the same position,
    and they start in order; and a span between boundaries gets a location that starts no later
    than it stops, on a line of the file, within the location of the file. -/
theorem position_keeps_order (source : String) :
    (∀ a b, IsBoundary source a → IsBoundary source b → a < b →
      (ofString source).position a < (ofString source).position b)
    ∧ (∀ a b, IsBoundary source a → IsBoundary source b →
      (ofString source).position a = (ofString source).position b → a = b)
    ∧ (∀ found, Lexer.lexemes source = .ok found →
      found.Pairwise fun l m =>
        (ofString source).position l.start < (ofString source).position m.start)
    ∧ ∀ (span : ParseTree.Span) (unit : ParseTree.SourceUnit),
      IsBoundary source span.start → IsBoundary source span.stop → span.start ≤ span.stop →
        ((Source.ofString source).loc span).start ≤ ((Source.ofString source).loc span).stop
        ∧ 1 ≤ ((Source.ofString source).loc span).start.line
        ∧ ((Source.ofString source).loc span).Within
            (Ast.SourceUnit.lower (.ofString source) unit).loc := by
  refine ⟨?_, ?_, ?_, ?_⟩
  · intro a b ha hb h
    exact position_lt_position ha hb h
  · intro a b ha hb h
    exact eq_of_position_eq ha hb h
  · intro found h
    exact Lexer.pairwise_position_start h
  · intro span unit hstart hstop hle
    exact loc_of_span hstart hstop hle unit

/-- Two lines, each of which starts with a letter of two bytes. -/
def twoLines : String := "é\nü x"

theorem position_keeps_order_twoLines :
    IsBoundary twoLines 2 ∧ IsBoundary twoLines 6
    ∧ (ofString twoLines).position 2 < (ofString twoLines).position 6
    ∧ (ofString twoLines).position 2 ≠ (ofString twoLines).position 6
    ∧ (∃ found, Lexer.lexemes twoLines = .ok found ∧ found.length = 3
      ∧ found.Pairwise fun l m =>
        (ofString twoLines).position l.start < (ofString twoLines).position m.start)
    ∧ ((Source.ofString twoLines).loc ⟨2, 6⟩).start ≤ ((Source.ofString twoLines).loc ⟨2, 6⟩).stop
    ∧ 1 ≤ ((Source.ofString twoLines).loc ⟨2, 6⟩).start.line
    ∧ ((Source.ofString twoLines).loc ⟨2, 6⟩).Within
        (Ast.SourceUnit.lower (.ofString twoLines) ⟨[]⟩).loc := by
  obtain ⟨horder, hinjective, hlexemes, hspan⟩ := position_keeps_order twoLines
  have hfeed : IsBoundary twoLines 2 := by decide
  have hlast : IsBoundary twoLines 6 := by decide
  have hcut : (Lexer.lexemes twoLines).toOption.map List.length = some 3 := by decide +kernel
  refine ⟨hfeed, hlast, horder 2 6 hfeed hlast (by decide), ?_, ?_,
    hspan ⟨2, 6⟩ ⟨[]⟩ hfeed hlast (by decide)⟩
  · intro h
    exact absurd (hinjective 2 6 hfeed hlast h) (by decide)
  · cases hfound : Lexer.lexemes twoLines with
    | error e =>
      rw [hfound] at hcut
      cases hcut
    | ok found =>
      rw [hfound] at hcut
      exact ⟨found, rfl, Option.some.inj hcut, hlexemes found hfound⟩

end LineIndex

end SolidityLint

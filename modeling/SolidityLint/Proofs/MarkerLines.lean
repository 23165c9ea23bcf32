import SolidityLint.Proofs.Positions
import SolidityLint.Proofs.Suppression

set_option autoImplicit false

/-! # Markers by line and by offset

Which lines are silenced is decided on the lines of a source, and where a finding is on byte
offsets. Both number lines alike: a line carries a marker exactly when the marker occurs at an
offset with the number of that line (`Suppression.carries_iff_occursAt`), because a marker has no
line feed in it and so stands on one line.

The lines may also be taken without the carriage return before a line feed, and without the empty
line after the last line feed (`Text.strippedLines`): a marker has no carriage return in it either,
and there is none on an empty line (`Suppression.silencedFrom_strippedLines`). -/

namespace SolidityLint

namespace Text

/-! ## Occurrences at an offset -/

/-- The word occurs in the source at that byte offset. -/
def OccursAt (word source : String) (offset : Nat) : Prop :=
  ∃ before after, source = before ++ word ++ after ∧ offset = before.utf8ByteSize

theorem occursAt_iff {word source : String} {offset : Nat} :
    OccursAt word source offset
      ↔ ∃ before after, source.toList = before ++ word.toList ++ after
        ∧ offset = (utf8 before).length := by
  constructor
  · rintro ⟨before, after, rfl, rfl⟩
    exact ⟨before.toList, after.toList, by simp, (length_utf8_toList before).symm⟩
  · rintro ⟨before, after, hsplit, rfl⟩
    refine ⟨String.ofList before, String.ofList after, ?_, ?_⟩
    · exact String.toList_inj.1 (by simp [hsplit])
    · rw [← length_utf8_toList, String.toList_ofList]

/-- A text starts with a line, after which it ends or a line feed follows. -/
theorem exists_first_line (text : List Char) :
    ∃ line after, text = line ++ after ∧ '\n' ∉ line
      ∧ (after = [] ∨ ∃ more, after = '\n' :: more) := by
  by_cases h : '\n' ∈ text
  · obtain ⟨line, more, rfl, hline⟩ := List.eq_append_cons_of_mem h
    exact ⟨line, _, rfl, hline, .inr ⟨more, rfl⟩⟩
  · exact ⟨text, [], (List.append_nil _).symm, h, .inl rfl⟩

/-! ## Lines without what ends them -/

/-- The lines of a text without the line feed, or the carriage return and the line feed, that ends
    each. After the last line feed there is a line only if there is some text, which may end with a
    carriage return. -/
def strippedLines : List Char → List (List Char)
  | [] => []
  | c :: rest =>
      if c = '\n' then [] :: strippedLines rest
      else if c = '\r' ∧ rest.head? = some '\n' then strippedLines rest
      else match strippedLines rest with
        | [] => [[c]]
        | line :: more => (c :: line) :: more

/-- A line without the carriage return at its end, if there is one. -/
def withoutReturn : List Char → List Char
  | [] => []
  | [c] => if c = '\r' then [] else [c]
  | c :: d :: rest => c :: withoutReturn (d :: rest)

theorem eq_withoutReturn_or (line : List Char) :
    line = withoutReturn line ∨ line = withoutReturn line ++ ['\r'] := by
  fun_induction withoutReturn line with
  | case1 => exact .inl rfl
  | case2 => exact .inr rfl
  | case3 => exact .inl rfl
  | case4 c d rest ih =>
    rcases ih with ih | ih
    · exact .inl (congrArg (c :: ·) ih)
    · exact .inr (congrArg (c :: ·) ih)

theorem strippedLines_of_notMem {line : List Char} (h : '\n' ∉ line) :
    strippedLines line = if line = [] then [] else [line] := by
  induction line with
  | nil => rfl
  | cons c rest ih =>
    rw [List.mem_cons, not_or] at h
    have hhead : ¬(c = '\r' ∧ rest.head? = some '\n') := by
      rintro ⟨-, hrest⟩
      exact h.2 (List.mem_of_mem_head? hrest)
    rw [strippedLines, if_neg (Ne.symm h.1), if_neg hhead, ih h.2, if_neg (List.cons_ne_nil _ _)]
    by_cases hrest : rest = []
    · rw [if_pos hrest, hrest]
    · rw [if_neg hrest]

/-- **A line feed ends a line**, and a carriage return before it goes with it. -/
theorem strippedLines_append_lineFeed {line : List Char} (h : '\n' ∉ line) (rest : List Char) :
    strippedLines (line ++ '\n' :: rest) = withoutReturn line :: strippedLines rest := by
  induction line with
  | nil => rfl
  | cons c later ih =>
    rw [List.mem_cons, not_or] at h
    rw [List.cons_append, strippedLines, if_neg (Ne.symm h.1), ih h.2]
    cases later with
    | nil =>
      by_cases hc : c = '\r'
      · rw [if_pos ⟨hc, rfl⟩, hc]
        rfl
      · rw [if_neg fun hreturn => hc hreturn.1, withoutReturn, withoutReturn, if_neg hc]
    | cons d more =>
      have hd : d ≠ '\n' := by
        rintro rfl
        exact h.2 (List.mem_cons_self ..)
      rw [if_neg fun hreturn => hd (Option.some.inj hreturn.2), withoutReturn]

/-- What holds of a line, and of a line with a line feed before a text of which it holds, holds of
    every text. -/
@[elab_as_elim]
theorem lineInduction {P : List Char → Prop} (last : ∀ line, '\n' ∉ line → P line)
    (more : ∀ line rest, '\n' ∉ line → P rest → P (line ++ '\n' :: rest)) (text : List Char) :
    P text := by
  by_cases h : '\n' ∈ text
  · obtain ⟨line, rest, hsplit, hline⟩ := List.eq_append_cons_of_mem h
    rw [hsplit]
    exact more line rest hline (lineInduction last more rest)
  · exact last text h
termination_by text.length
decreasing_by
  rw [hsplit, List.length_append, List.length_cons]
  omega

theorem occursIn_withoutReturn {word : List Char} (hword : '\r' ∉ word) (line : List Char) :
    occursIn word (withoutReturn line) = occursIn word line := by
  rcases eq_withoutReturn_or line with h | h
  · rw [← h]
  · rw [Bool.eq_iff_iff, occursIn_iff_infix, occursIn_iff_infix]
    -- The word does not end with the carriage return, so it stands before it.
    conv => rhs; rw [h]
    rw [List.infix_concat_iff, List.suffix_concat_iff]
    constructor
    · exact .inr
    · rintro ((rfl | ⟨t, rfl, -⟩) | hinfix)
      · exact List.nil_infix
      · exact absurd hword (by simp)
      · exact hinfix

end Text

namespace Suppression

open Text (OccursAt utf8)

/-! ## The lines of markers -/

theorem lineFeed_notMem_thisLine : '\n' ∉ thisLine.toList := by decide

theorem lineFeed_notMem_nextLine : '\n' ∉ nextLine.toList := by decide

/-- **A line carries a marker exactly when the marker occurs at an offset on that line.** -/
theorem carries_iff_occursAt {marker source : String} {number : Nat}
    (hmarker : '\n' ∉ marker.toList) :
    Carries marker source number
      ↔ ∃ offset, OccursAt marker source offset
        ∧ (LineIndex.ofString source).lineNumber offset = number := by
  constructor
  · rintro ⟨line, ⟨before, after, hsplit, hline, -, -, rfl⟩, start, stop, rfl⟩
    have hsource : source.toList = (before ++ start) ++ marker.toList ++ (stop ++ after) := by
      simp [hsplit]
    have hstart : start.count '\n' = 0 := by
      refine List.count_eq_zero.2 fun h => hline ?_
      simp [h]
    refine ⟨_, Text.occursAt_iff.2 ⟨_, _, hsource, rfl⟩, ?_⟩
    rw [List.append_assoc] at hsource
    rw [LineIndex.lineNumber_of_split hsource, List.count_append, hstart, Nat.add_zero,
      Nat.add_comm]
  · rintro ⟨offset, hoccurs, rfl⟩
    obtain ⟨before, after, hsource, rfl⟩ := Text.occursAt_iff.1 hoccurs
    obtain ⟨start, hstart, hbefore⟩ := Text.exists_endsIn before
    obtain ⟨stop, more, rfl, hstop, hmore⟩ := Text.exists_first_line after
    have hnone : start.count '\n' = 0 := List.count_eq_zero.2 hstart
    have hnumber : (LineIndex.ofString source).lineNumber (utf8 before).length
        = 1 + before.count '\n' :=
      LineIndex.lineNumber_of_split (hsource.trans (List.append_assoc ..))
    refine ⟨start ++ marker.toList ++ stop, ?_, ⟨start, stop, rfl⟩⟩
    rw [hnumber]
    rcases hbefore with rfl | ⟨earlier, rfl⟩
    · refine ⟨[], more, by simp [hsource], by simp [hstart, hmarker, hstop], .inl rfl, hmore, ?_⟩
      rw [hnone]
      rfl
    · refine ⟨earlier ++ ['\n'], more, by simp [hsource], by simp [hstart, hmarker, hstop],
        .inr ⟨earlier, rfl⟩, hmore, ?_⟩
      simp [List.count_append, hnone, Nat.add_comm]

/-! ## The scan of stripped lines -/

theorem silencedBy_withoutReturn (number : Nat) (line : List Char) :
    silencedBy number (Text.withoutReturn line) = silencedBy number line := by
  unfold silencedBy
  rw [Text.occursIn_withoutReturn (by decide), Text.occursIn_withoutReturn (by decide)]

theorem silencedFrom_strippedLines (number : Nat) (text : List Char) :
    silencedFrom number (Text.strippedLines text) = silencedFrom number (Text.lines text) := by
  unfold Text.lines
  induction text using Text.lineInduction generalizing number with
  | last line hline =>
    rw [Text.strippedLines_of_notMem hline, Text.pieces_of_notMem _ hline]
    split
    · next hempty =>
      subst hempty
      rfl
    · rfl
  | more line rest hline ih =>
    rw [Text.strippedLines_append_lineFeed hline, Text.pieces_append_mark,
      Text.pieces_of_notMem _ hline, List.singleton_append, silencedFrom, silencedFrom,
      silencedBy_withoutReturn, ih]

/-- **Silenced lines, by offset.** A line is silenced exactly when the marker for the line below
    occurs at an offset of the line above, or the marker for the line itself occurs at an offset of
    the line and the other one at none. The lines may as well be taken without their carriage
    returns and without an empty last line. -/
theorem mem_silencedLines_iff_occursAt (source : String) (number : Nat) :
    (number ∈ silencedLines source
      ↔ (∃ p, OccursAt nextLine source p
          ∧ (LineIndex.ofString source).lineNumber p + 1 = number)
        ∨ ∃ p, OccursAt thisLine source p
          ∧ (LineIndex.ofString source).lineNumber p = number
          ∧ ¬∃ q, OccursAt nextLine source q
            ∧ (LineIndex.ofString source).lineNumber q = number)
    ∧ silencedLines source
        = (silencedFrom 1 (Text.strippedLines source.toList)).eraseDups := by
  constructor
  · rw [mem_silencedLines_iff, carries_iff_occursAt lineFeed_notMem_thisLine,
      carries_iff_occursAt lineFeed_notMem_nextLine]
    refine or_congr ⟨?_, ?_⟩ ⟨?_, ?_⟩
    · rintro ⟨above, rfl, habove⟩
      obtain ⟨p, hp, rfl⟩ := (carries_iff_occursAt lineFeed_notMem_nextLine).1 habove
      exact ⟨p, hp, rfl⟩
    · rintro ⟨p, hp, rfl⟩
      exact ⟨_, rfl, (carries_iff_occursAt lineFeed_notMem_nextLine).2 ⟨p, hp, rfl⟩⟩
    · rintro ⟨⟨p, hp, hnumber⟩, hnone⟩
      exact ⟨p, hp, hnumber, hnone⟩
    · rintro ⟨p, hp, hnumber, hnone⟩
      exact ⟨⟨p, hp, hnumber⟩, hnone⟩
  · rw [silencedFrom_strippedLines, silencedLines]

end Suppression

end SolidityLint

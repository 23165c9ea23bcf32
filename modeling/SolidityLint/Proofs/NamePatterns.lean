import Mathlib.Computability.RegularExpressions
import SolidityLint.Proofs.RuleFindings

set_option autoImplicit false

/-! # Case conventions as regular expressions

A convention is tested character by character, with one class for the first character of a name and
one for the others. Said as a regular expression (`CaseStyle.pattern`) it is a matter of words:
`[a-z][a-z0-9]*([A-Z][a-z0-9]*)*` in mixed case and `([A-Z][a-z0-9]*)+` in capitalized words, with
`[A-Z_][A-Z0-9_]*` for upper case. The test admits the language of the expression and nothing else
(`CaseStyle.admits_iff_mem_pattern`), and the check of a name reports what is outside of it.

The two meet in `mem_words_iff`: a text of heads and tails, in any order, falls into words at its
heads. -/

namespace SolidityLint.Check

open RegularExpression
open scoped Computability

/-! ## Classes of characters -/

/-- The characters from `first` to `last`. -/
def charRange (first last : Char) : List Char :=
  (List.range' first.toNat (last.toNat + 1 - first.toNat)).map Char.ofNat

/-- A range that ends below the surrogates has a character for each of its numbers. -/
theorem mem_charRange {first last c : Char} (hlast : last.toNat < 0xD800) :
    c ∈ charRange first last ↔ first ≤ c ∧ c ≤ last := by
  simp only [charRange, List.mem_map, List.mem_range'_1, Char.le_def, UInt32.le_iff_toNat_le]
  constructor
  · rintro ⟨code, ⟨hfirst, hcode⟩, rfl⟩
    have htoNat : (Char.ofNat code).val.toNat = code := by
      rw [Char.ofNat, dif_pos (.inl (by omega))]
      rfl
    rw [htoNat]
    exact ⟨hfirst, by change code ≤ last.toNat; omega⟩
  · rintro ⟨hfirst, hc⟩
    refine ⟨c.toNat, ⟨hfirst, ?_⟩, Char.ofNat_toNat c⟩
    change c.toNat ≤ last.toNat at hc
    omega

/-- The letters from `a` to `z`. -/
def lowerLetters : List Char := charRange 'a' 'z'

/-- The letters from `A` to `Z`. -/
def upperLetters : List Char := charRange 'A' 'Z'

/-- The ten digits. -/
def digits : List Char := charRange '0' '9'

theorem isLowerLetter_iff {c : Char} : isLowerLetter c ↔ c ∈ lowerLetters := by
  simp [isLowerLetter, lowerLetters, mem_charRange]

theorem isUpperLetter_iff {c : Char} : isUpperLetter c ↔ c ∈ upperLetters := by
  simp [isUpperLetter, upperLetters, mem_charRange]

theorem isDigit_iff {c : Char} : isDigit c ↔ c ∈ digits := by
  simp [isDigit, digits, mem_charRange]

theorem isLowerLetter_eq (c : Char) : isLowerLetter c = c.isLower := rfl

theorem isUpperLetter_eq (c : Char) : isUpperLetter c = c.isUpper :=
  (Bool.decide_and _ _).symm

theorem isLetterOrDigit_eq (c : Char) : isLetterOrDigit c = c.isAlphanum := by
  rw [isLetterOrDigit, isLowerLetter_eq, isUpperLetter_eq, Bool.or_comm c.isLower]
  rfl

/-! ## Expressions over classes -/

/-- The expression `[…]` for one character of a class. -/
def oneOf (chars : List Char) : RegularExpression Char :=
  (chars.map char).sum

theorem mem_oneOf {chars word : List Char} :
    word ∈ (oneOf chars).matches' ↔ ∃ c ∈ chars, word = [c] := by
  induction chars with
  | nil => simp [oneOf, matches'_zero, Language.notMem_zero]
  | cons c rest ih =>
    have hsum : oneOf (c :: rest) = char c + oneOf rest := rfl
    rw [hsum, matches'_add, Language.mem_add, ih, List.exists_mem_cons_iff]
    exact Iff.rfl

theorem mem_star_oneOf {chars word : List Char} :
    word ∈ (oneOf chars).star.matches' ↔ ∀ c ∈ word, c ∈ chars := by
  rw [matches'_star, Language.mem_kstar]
  constructor
  · rintro ⟨letters, rfl, hletters⟩ c hc
    obtain ⟨letter, hmem, hc⟩ := List.mem_flatten.1 hc
    obtain ⟨d, hd, rfl⟩ := mem_oneOf.1 (hletters letter hmem)
    rwa [List.mem_singleton.1 hc]
  · intro hword
    refine ⟨word.map fun c => [c], by rw [← List.flatMap_def, List.flatMap_singleton'], ?_⟩
    intro letter hletter
    obtain ⟨c, hc, rfl⟩ := List.mem_map.1 hletter
    exact mem_oneOf.2 ⟨c, hword c hc, rfl⟩

/-- The expression `[…]…` for a text that starts with a character of a class. -/
theorem mem_oneOf_mul {chars text : List Char} {later : RegularExpression Char} :
    text ∈ (oneOf chars * later).matches'
      ↔ ∃ c rest, text = c :: rest ∧ c ∈ chars ∧ rest ∈ later.matches' := by
  rw [matches'_mul, Language.mem_mul]
  constructor
  · rintro ⟨letter, hletter, rest, hrest, rfl⟩
    obtain ⟨c, hc, rfl⟩ := mem_oneOf.1 hletter
    exact ⟨c, rest, rfl, hc, hrest⟩
  · rintro ⟨c, rest, rfl, hc, hrest⟩
    exact ⟨[c], mem_oneOf.2 ⟨c, hc, rfl⟩, rest, hrest, rfl⟩

/-! ## Texts cut into words -/

/-- A word: a character of one class, then any number of another. -/
def word (heads tails : List Char) : RegularExpression Char :=
  oneOf heads * (oneOf tails).star

theorem mem_of_mem_word {heads tails text : List Char} {c : Char}
    (htext : text ∈ (word heads tails).matches') (hc : c ∈ text) : c ∈ heads ∨ c ∈ tails := by
  obtain ⟨d, rest, rfl, hd, hrest⟩ := mem_oneOf_mul.1 htext
  rcases List.mem_cons.1 hc with rfl | hc
  · exact .inl hd
  · exact .inr (mem_star_oneOf.1 hrest c hc)

/-- A word in front of words makes words. -/
theorem cons_mem_star_word {heads tails front words : List Char} {c : Char} (hc : c ∈ heads)
    (hfront : front ∈ (oneOf tails).star.matches')
    (hwords : words ∈ (word heads tails).star.matches') :
    c :: front ++ words ∈ (word heads tails).star.matches' := by
  have hword : c :: front ∈ (word heads tails).matches' :=
    mem_oneOf_mul.2 ⟨c, front, rfl, hc, hfront⟩
  have hmul : c :: front ++ words ∈ (word heads tails).matches' * (word heads tails).matches'∗ :=
    Language.append_mem_mul hword hwords
  exact (mul_kstar_le_kstar (a := (word heads tails).matches')) hmul

/-- **The rest of a word and then words**: any text in the two classes. -/
theorem mem_words_iff {heads tails text : List Char} :
    text ∈ ((oneOf tails).star * (word heads tails).star).matches'
      ↔ ∀ c ∈ text, c ∈ heads ∨ c ∈ tails := by
  rw [matches'_mul, Language.mem_mul]
  constructor
  · rintro ⟨front, hfront, words, hwords, rfl⟩ c hc
    rcases List.mem_append.1 hc with hc | hc
    · exact .inr (mem_star_oneOf.1 hfront c hc)
    · obtain ⟨parts, rfl, hparts⟩ := Language.mem_kstar.1 hwords
      obtain ⟨part, hpart, hc⟩ := List.mem_flatten.1 hc
      exact mem_of_mem_word (hparts part hpart) hc
  · intro htext
    induction text with
    | nil => exact ⟨[], mem_star_oneOf.2 (by simp), [], Language.nil_mem_kstar _, rfl⟩
    | cons c rest ih =>
      obtain ⟨hc, hrest⟩ := List.forall_mem_cons.1 htext
      obtain ⟨front, hfront, words, hwords, rfl⟩ := ih hrest
      -- A head opens a word with what comes before the next one; a tail only makes that longer.
      rcases hc with hc | hc
      · exact ⟨[], mem_star_oneOf.2 (by simp), _, cons_mem_star_word hc hfront hwords, rfl⟩
      · refine ⟨c :: front, ?_, words, hwords, rfl⟩
        exact mem_star_oneOf.2 (List.forall_mem_cons.2 ⟨hc, mem_star_oneOf.1 hfront⟩)

/-! ## The conventions -/

/-- A word of a name: `[A-Z][a-z0-9]*`. -/
def capitalized : RegularExpression Char :=
  word upperLetters (lowerLetters ++ digits)

namespace CaseStyle

/-- The regular expression of a convention. -/
def pattern : CaseStyle → RegularExpression Char
  | mixedCase => word lowerLetters (lowerLetters ++ digits) * capitalized.star
  | capWord => capitalized * capitalized.star
  | upperCase => word (upperLetters ++ ['_']) (upperLetters ++ digits ++ ['_'])

variable {style : CaseStyle} {text : List Char}

/-- A word of any class and then capitalized words: past its first character, any letters and
    digits. -/
theorem mem_word_mul_star_capitalized {heads : List Char} :
    text ∈ (word heads (lowerLetters ++ digits) * capitalized.star).matches'
      ↔ ∃ c rest, text = c :: rest ∧ c ∈ heads ∧ ∀ d ∈ rest, isLetterOrDigit d := by
  have hassoc : (word heads (lowerLetters ++ digits) * capitalized.star).matches'
      = (oneOf heads * ((oneOf (lowerLetters ++ digits)).star * capitalized.star)).matches' := by
    simp only [word, matches'_mul, mul_assoc]
  rw [hassoc]
  simp only [mem_oneOf_mul, capitalized, mem_words_iff, isLetterOrDigit, Bool.or_eq_true,
    isLowerLetter_iff, isUpperLetter_iff, isDigit_iff, List.mem_append]
  grind

/-- What an expression says of the first character and of the others. -/
theorem mem_pattern_iff :
    text ∈ style.pattern.matches'
      ↔ ∃ c rest, text = c :: rest ∧ style.admitsFirst c ∧ ∀ d ∈ rest, style.admitsLater d := by
  rcases style with _ | _ | _
  · simp only [pattern, mem_word_mul_star_capitalized, admitsFirst, admitsLater,
      isLowerLetter_iff]
  · have hword : pattern capWord
        = word upperLetters (lowerLetters ++ digits) * capitalized.star := rfl
    simp only [hword, mem_word_mul_star_capitalized, admitsFirst, admitsLater, isUpperLetter_iff]
  · simp only [pattern, word, mem_oneOf_mul, mem_star_oneOf, admitsFirst, admitsLater,
      Bool.or_eq_true, isUpperLetter_iff, isDigit_iff, beq_iff_eq, List.mem_append,
      List.mem_singleton]

theorem admits_iff {name : String} :
    style.admits name
      ↔ ∃ c rest, name.toList = c :: rest ∧ style.admitsFirst c
          ∧ ∀ d ∈ rest, style.admitsLater d := by
  rcases h : name.toList with _ | ⟨c, rest⟩ <;> simp [admits, h]

/-- **A convention admits the language of its expression.** -/
theorem admits_iff_mem_pattern {name : String} :
    style.admits name ↔ name.toList ∈ style.pattern.matches' :=
  admits_iff.trans mem_pattern_iff.symm

/-! ### Names of letters and digits -/

theorem exists_cons_iff_head {first later : Char → Bool} (h : ∀ c, first c → later c) :
    (∃ c rest, text = c :: rest ∧ first c ∧ ∀ d ∈ rest, later d)
      ↔ (∃ c ∈ text.head?, first c) ∧ ∀ c ∈ text, later c := by
  rcases text with _ | ⟨c, rest⟩
  · simp
  · simp only [List.cons.injEq, List.head?_cons, Option.mem_some, List.forall_mem_cons]
    grind

theorem mixedCase_admits_iff {name : String} :
    mixedCase.admits name
      ↔ (∃ c ∈ name.toList.head?, c.isLower) ∧ ∀ c ∈ name.toList, c.isAlphanum := by
  simp only [admits_iff, admitsFirst, admitsLater, ← isLowerLetter_eq, ← isLetterOrDigit_eq]
  refine exists_cons_iff_head fun c hc => ?_
  simp [isLetterOrDigit, hc]

theorem capWord_admits_iff {name : String} :
    capWord.admits name
      ↔ (∃ c ∈ name.toList.head?, c.isUpper) ∧ ∀ c ∈ name.toList, c.isAlphanum := by
  simp only [admits_iff, admitsFirst, admitsLater, ← isUpperLetter_eq, ← isLetterOrDigit_eq]
  refine exists_cons_iff_head fun c hc => ?_
  simp [isLetterOrDigit, hc]

/-- A name in mixed case starts with a letter that no other convention starts with. -/
theorem not_admits_of_mixedCase {name : String} (hstyle : style ≠ mixedCase)
    (h : mixedCase.admits name) : ¬ style.admits name := by
  intro hother
  obtain ⟨c, rest, hname, hlower, -⟩ := admits_iff.1 h
  obtain ⟨d, more, hname', hd, -⟩ := admits_iff.1 hother
  obtain ⟨rfl, -⟩ := List.cons.inj (hname.symm.trans hname')
  have hupper : isUpperLetter c ∨ c = '_' := by
    rcases style with _ | _ | _
    · exact absurd rfl hstyle
    · exact .inl hd
    · simpa [admitsFirst] using hd
  simp only [admitsFirst, isLowerLetter, isUpperLetter, Bool.and_eq_true,
    decide_eq_true_eq] at hlower hupper
  rcases hupper with hupper | rfl
  · exact absurd (Char.le_trans hlower.1 hupper.2) (by decide)
  · exact absurd hlower.1 (by decide)

end CaseStyle

/-! ## The check of a name -/

/-- A text less one underscore at its end. -/
def stem : List Char → List Char
  | [] => []
  | ['_'] => []
  | c :: rest => c :: stem rest

theorem stem_eq (text : List Char) :
    stem text = if text.getLast? = some '_' then text.dropLast else text := by
  fun_induction stem text with
  | case1 => rfl
  | case2 => rfl
  | case3 c rest hne ih =>
    rw [ih]
    rcases rest with _ | ⟨d, rest⟩
    · have hc : c ≠ '_' := fun hc => hne hc rfl
      simp [hc]
    · rw [List.getLast?_cons_cons, List.dropLast_cons_cons, apply_ite (List.cons c)]

theorem toList_dropLast_underscore (name : String) :
    (Text.dropLast '_' name).toList = stem name.toList := by
  rw [stem_eq, Text.dropLast, apply_ite String.toList, String.toList_ofList]

theorem judgeName_findings (kind name : String) (style : CaseStyle) (reference : Option String)
    (loc : Location) :
    (judgeName kind name style reference loc).map (fun d => (d.ruleId, d.location))
      = if name = "" then [("SOL-X001", loc)]
        else (if name.length = 1 then [("SOL-N001", loc)] else [])
          ++ if stem name.toList ∈ style.pattern.matches' then [] else [("SOL-N002", loc)] := by
  have hadmits : style.admits (Text.dropLast '_' name)
      ↔ stem name.toList ∈ style.pattern.matches' := by
    rw [CaseStyle.admits_iff_mem_pattern, toList_dropLast_underscore]
  by_cases hempty : name = ""
  · rw [judgeName_eq, if_pos hempty, hempty]
    rfl
  · have hlength : name.length < 2 ↔ name.length = 1 := by
      have := mt String.length_eq_zero_iff.1 hempty
      omega
    simp only [judgeName_eq, String.isEmpty_iff, if_neg hempty, hlength, hadmits,
      List.map_append]
    congr 1
    · split <;> rfl
    · split <;> rfl

/-- **The conventions are the languages of their expressions, and the check of a name is exact.**
    Mixed case and capitalized words are told apart by their first letter alone, and no name in
    mixed case is in another convention too. An empty name has the one note that it cannot be
    judged. Any other has a finding for its length if it is a single character, and then one for its
    case if the name less one underscore at its end is not in the language. -/
theorem name_findings_by_pattern :
    (∀ (style : CaseStyle) (name : String),
        style.admits name ↔ name.toList ∈ style.pattern.matches')
      ∧ (∀ name : String, CaseStyle.mixedCase.admits name
          ↔ (∃ c ∈ name.toList.head?, c.isLower) ∧ ∀ c ∈ name.toList, c.isAlphanum)
      ∧ (∀ name : String, CaseStyle.capWord.admits name
          ↔ (∃ c ∈ name.toList.head?, c.isUpper) ∧ ∀ c ∈ name.toList, c.isAlphanum)
      ∧ (∀ name : String, ¬ (CaseStyle.mixedCase.admits name ∧ CaseStyle.capWord.admits name)
          ∧ ¬ (CaseStyle.mixedCase.admits name ∧ CaseStyle.upperCase.admits name))
      ∧ ∀ (kind name : String) (style : CaseStyle) (reference : Option String) (loc : Location),
          (judgeName kind name style reference loc).map (fun d => (d.ruleId, d.location))
            = if name = "" then [("SOL-X001", loc)]
              else (if name.length = 1 then [("SOL-N001", loc)] else [])
                ++ if stem name.toList ∈ style.pattern.matches' then []
                  else [("SOL-N002", loc)] := by
  refine ⟨fun _ _ => CaseStyle.admits_iff_mem_pattern, fun _ => CaseStyle.mixedCase_admits_iff,
    fun _ => CaseStyle.capWord_admits_iff, fun name => ⟨?_, ?_⟩, judgeName_findings⟩
  · rintro ⟨hmixed, hcap⟩
    exact CaseStyle.not_admits_of_mixedCase (by decide) hmixed hcap
  · rintro ⟨hmixed, hupper⟩
    exact CaseStyle.not_admits_of_mixedCase (by decide) hmixed hupper

example : (judgeName "variable" "_" .upperCase none default).map (·.ruleId)
    = ["SOL-N001", "SOL-N002"] := by
  decide

end SolidityLint.Check

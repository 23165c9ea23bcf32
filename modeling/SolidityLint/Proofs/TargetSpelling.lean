import SolidityLint.Check.Increment
import SolidityLint.Proofs.Unlocated
import SolidityLint.Token.Lexer

set_option autoImplicit false

/-! # What the spelling of a target tells

Whether both sides of `x = x + 1` name the same variable is decided by their spelling. A spelling
can be read in one way only (`Check.Spells.unique`): from its end, a closing bracket belongs to an
index, a name after a full stop is a member, and what is left is a name or a number, which differ in
how they start. The one doubtful case, a full stop that belongs to a number, is told by the digit
after it.

What a spelling leaves out is the unit of a number. So two targets with the same spelling differ, if
at all, in the units of the numbers in them (`Check.SpelledAlike.unlocated_eq_iff`), and then the
check takes different targets for the same one. -/

namespace SolidityLint

open Ast

/-! ## Names and numbers -/

namespace Lexer

/-- The text of a name: a character that may start one, and others that may go on with it. -/
def isName : List Char → Bool
  | [] => false
  | first :: later => isWordStart first && later.all isWordCharacter

/-- The text of an exponent, without its mark. -/
def isExponent (text : List Char) : Bool :=
  text.all fun c => c == '-' || isDigit c

/-- What a number keeps as its exponent: nothing, or the mark and what follows it. -/
def IsMarkedExponent (text : List Char) : Prop :=
  text = [] ∨ ∃ exponent, text = 'e' :: exponent ∧ isExponent exponent = true

/-- The text that is kept of a number. -/
inductive IsNumber : List Char → Prop
  | decimal {integer exponent : List Char} (hne : integer ≠ [])
      (hinteger : integer.all isDigit = true) (hexponent : IsMarkedExponent exponent) :
      IsNumber (integer ++ exponent)
  | rational {integer fraction exponent : List Char} (hinteger : integer.all isDigit = true)
      (hne : fraction ≠ []) (hfraction : fraction.all isDigit = true)
      (hexponent : IsMarkedExponent exponent) :
      IsNumber (integer ++ '.' :: (fraction ++ exponent))
  | hexadecimal {digits : List Char} (hdigits : digits.all (fun c => isHexDigit c || c == '_')) :
      IsNumber ('0' :: 'x' :: digits)

/-! Digits do not start a name, and neither names nor numbers have a bracket in them. -/

theorem ne_of_class {p : Char → Bool} {c d : Char} (hc : p c = true) (hd : p d = false) :
    c ≠ d := by
  rintro rfl
  rw [hc] at hd
  cases hd

theorem isWordStart_of_isDigit {c : Char} (h : isDigit c = true) : isWordStart c = false := by
  have hranges : Text.identifierStartRanges.all (fun r => 57 < r.1) = true := by decide +kernel
  have hcode : c.toNat ≤ 57 := by
    rw [isDigit, Bool.and_eq_true, decide_eq_true_eq, decide_eq_true_eq] at h
    exact h.2
  have hnone : Text.isIdentifierStart c = false := by
    unfold Text.isIdentifierStart Text.inRanges
    rw [List.any_eq_false]
    intro r hr
    have hfirst := List.all_eq_true.1 hranges r hr
    rw [decide_eq_true_eq] at hfirst
    simp only [Bool.and_eq_true, decide_eq_true_eq, not_and]
    omega
  have hunderscore : c ≠ '_' := ne_of_class h (by decide)
  have hdollar : c ≠ '$' := ne_of_class h (by decide)
  simp [isWordStart, hnone, hunderscore, hdollar]

theorem isWordCharacter_of_isWordStart {c : Char} (h : isWordStart c = true) :
    isWordCharacter c = true := by
  unfold isWordStart at h
  rw [Bool.or_eq_true, Bool.or_eq_true] at h
  rcases h with (h | h) | h
  · obtain rfl : c = '_' := by simpa using h
    decide +kernel
  · simp [isWordCharacter, h]
  · simp [isWordCharacter, Text.isIdentifierContinue, h]

theorem all_of_isName {text : List Char} (h : isName text = true) :
    ∀ c ∈ text, isWordCharacter c = true := by
  cases text with
  | nil => cases h
  | cons first later =>
    rw [isName, Bool.and_eq_true] at h
    intro c hc
    rcases List.mem_cons.1 hc with rfl | hc
    · exact isWordCharacter_of_isWordStart h.1
    · exact List.all_eq_true.1 h.2 c hc

/-- No character of a name cuts a spelling. -/
theorem notMem_of_isName {text : List Char} (h : isName text = true) {c : Char}
    (hc : c = '.' ∨ c = '[' ∨ c = ']') : c ∉ text := by
  intro hmem
  have hword := all_of_isName h c hmem
  rcases hc with rfl | rfl | rfl
  · exact absurd hword (by decide +kernel)
  · exact absurd hword (by decide +kernel)
  · exact absurd hword (by decide +kernel)

/-- The characters that the text of a number may have. -/
def isNumberCharacter (c : Char) : Bool :=
  isHexDigit c || c == '.' || c == '-' || c == 'x' || c == '_'

theorem isNumberCharacter_of_isDigit {c : Char} (h : isDigit c = true) :
    isNumberCharacter c = true := by
  simp [isNumberCharacter, isHexDigit, h]

namespace IsMarkedExponent

variable {text : List Char}

theorem all (h : IsMarkedExponent text) : ∀ c ∈ text, isNumberCharacter c = true ∧ c ≠ '.' := by
  intro c hc
  rcases h with rfl | ⟨exponent, rfl, hexponent⟩
  · cases hc
  · rcases List.mem_cons.1 hc with rfl | hc
    · exact ⟨by decide, by decide⟩
    · have hclass := List.all_eq_true.1 hexponent c hc
      rw [Bool.or_eq_true, beq_iff_eq] at hclass
      rcases hclass with rfl | hdigit
      · exact ⟨by decide, by decide⟩
      · exact ⟨isNumberCharacter_of_isDigit hdigit, ne_of_class hdigit (by decide)⟩

end IsMarkedExponent

namespace IsNumber

variable {text : List Char}

theorem all (h : IsNumber text) : ∀ c ∈ text, isNumberCharacter c = true := by
  intro c hc
  cases h with
  | decimal hne hinteger hexponent =>
    rcases List.mem_append.1 hc with hc | hc
    · exact isNumberCharacter_of_isDigit (List.all_eq_true.1 hinteger c hc)
    · exact (hexponent.all c hc).1
  | rational hinteger hne hfraction hexponent =>
    simp only [List.mem_append, List.mem_cons] at hc
    rcases hc with hc | rfl | hc | hc
    · exact isNumberCharacter_of_isDigit (List.all_eq_true.1 hinteger c hc)
    · decide
    · exact isNumberCharacter_of_isDigit (List.all_eq_true.1 hfraction c hc)
    · exact (hexponent.all c hc).1
  | hexadecimal hdigits =>
    simp only [List.mem_cons] at hc
    rcases hc with rfl | rfl | hc
    · decide
    · decide
    · have hclass := List.all_eq_true.1 hdigits c hc
      rw [Bool.or_eq_true] at hclass
      rcases hclass with h | h
      · simp [isNumberCharacter, h]
      · simp [isNumberCharacter, h]

theorem notMem (h : IsNumber text) {c : Char} (hc : c = '[' ∨ c = ']') : c ∉ text := by
  intro hmem
  have hclass := h.all c hmem
  rcases hc with rfl | rfl
  · exact absurd hclass (by decide)
  · exact absurd hclass (by decide)

/-- A number does not start as a name does. -/
theorem exists_first (h : IsNumber text) :
    ∃ first later, text = first :: later ∧ isWordStart first = false := by
  cases h with
  | @decimal integer exponent hne hinteger hexponent =>
    obtain ⟨first, later, rfl⟩ := List.exists_cons_of_ne_nil hne
    rw [List.all_cons, Bool.and_eq_true] at hinteger
    exact ⟨first, later ++ exponent, rfl, isWordStart_of_isDigit hinteger.1⟩
  | @rational integer fraction exponent hinteger hne hfraction hexponent =>
    cases integer with
    | nil => exact ⟨'.', fraction ++ exponent, rfl, by decide +kernel⟩
    | cons first later =>
      rw [List.all_cons, Bool.and_eq_true] at hinteger
      exact ⟨first, later ++ '.' :: (fraction ++ exponent), rfl, isWordStart_of_isDigit hinteger.1⟩
  | @hexadecimal digits hdigits => exact ⟨'0', 'x' :: digits, rfl, by decide +kernel⟩

/-- After the last full stop of a number, if it has one, there is a digit. -/
theorem stop_cases (h : IsNumber text) :
    '.' ∉ text
    ∨ ∃ before digit after, text = before ++ '.' :: digit :: after ∧ isDigit digit = true
      ∧ '.' ∉ digit :: after := by
  have hdigits : ∀ {ds : List Char}, ds.all isDigit = true → '.' ∉ ds := by
    intro ds hds hmem
    exact absurd (List.all_eq_true.1 hds '.' hmem) (by decide)
  have hmarked : ∀ {ex : List Char}, IsMarkedExponent ex → '.' ∉ ex := by
    intro ex hex hmem
    exact (hex.all '.' hmem).2 rfl
  cases h with
  | decimal hne hinteger hexponent =>
    refine .inl fun hmem => ?_
    rcases List.mem_append.1 hmem with hmem | hmem
    · exact hdigits hinteger hmem
    · exact hmarked hexponent hmem
  | @rational integer fraction exponent hinteger hne hfraction hexponent =>
    obtain ⟨digit, more, rfl⟩ := List.exists_cons_of_ne_nil hne
    have hdigit : isDigit digit = true := List.all_eq_true.1 hfraction digit (by simp)
    refine .inr ⟨integer, digit, more ++ exponent, rfl, hdigit, fun hmem => ?_⟩
    rw [← List.cons_append] at hmem
    rcases List.mem_append.1 hmem with hmem | hmem
    · exact hdigits hfraction hmem
    · exact hmarked hexponent hmem
  | hexadecimal hhex =>
    refine .inl fun hmem => ?_
    simp only [List.mem_cons] at hmem
    rcases hmem with h | h | hmem
    · exact absurd h (by decide)
    · exact absurd h (by decide)
    · exact absurd (List.all_eq_true.1 hhex '.' hmem) (by decide)

theorem not_isName (h : IsNumber text) : isName text = false := by
  obtain ⟨first, later, rfl, hfirst⟩ := h.exists_first
  rw [isName, hfirst, Bool.false_and]

end IsNumber

end Lexer

/-! ## Spellings are read from their end -/

namespace Check

open Lexer (isName IsNumber)

/-- The expression is a target with that spelling, whose names and numbers are such. -/
inductive Spells : Expression → List Char → Prop
  | identifier {name : String} {loc : Location} (hname : isName name.toList = true) :
      Spells (.identifier name loc) name.toList
  | number {value : String} {unit : Option String} {loc : Location}
      (hnumber : IsNumber value.toList) : Spells (.literal .number value unit loc) value.toList
  | noIndex {base : Expression} {x : List Char} {loc : Location} (hbase : Spells base x) :
      Spells (.indexAccess base none loc) (x ++ ['[', ']'])
  | index {base index : Expression} {x i : List Char} {loc : Location} (hbase : Spells base x)
      (hindex : Spells index i) :
      Spells (.indexAccess base (some index) loc) (x ++ '[' :: (i ++ [']']))
  | member {base : Expression} {x : List Char} {name : String} {loc : Location}
      (hbase : Spells base x) (hname : isName name.toList = true) :
      Spells (.memberAccess base name loc) (x ++ '.' :: name.toList)

/-- The two are the same target, except for locations and for the units of numbers. -/
inductive SpelledAlike : Expression → Expression → Prop
  | identifier (name : String) (loc loc' : Location) :
      SpelledAlike (.identifier name loc) (.identifier name loc')
  | number (value : String) (unit unit' : Option String) (loc loc' : Location) :
      SpelledAlike (.literal .number value unit loc) (.literal .number value unit' loc')
  | noIndex {a b : Expression} (loc loc' : Location) (h : SpelledAlike a b) :
      SpelledAlike (.indexAccess a none loc) (.indexAccess b none loc')
  | index {a b i j : Expression} (loc loc' : Location) (h : SpelledAlike a b)
      (hindex : SpelledAlike i j) :
      SpelledAlike (.indexAccess a (some i) loc) (.indexAccess b (some j) loc')
  | member {a b : Expression} (name : String) (loc loc' : Location) (h : SpelledAlike a b) :
      SpelledAlike (.memberAccess a name loc) (.memberAccess b name loc')

/-- Of two equal texts, cut before what has no mark in it, the parts are the same. -/
theorem eq_of_cut_eq {p : Char → Prop} {xs ys m n : List Char} {d e : Char} (hd : p d) (he : p e)
    (hm : ∀ c ∈ m, ¬p c) (hn : ∀ c ∈ n, ¬p c) (h : xs ++ d :: m = ys ++ e :: n) :
    xs = ys ∧ d = e ∧ m = n := by
  rcases List.append_eq_append_iff.1 h with ⟨as, rfl, has⟩ | ⟨as, rfl, has⟩
  · cases as with
    | nil =>
      obtain ⟨rfl, rfl⟩ := List.cons.inj has
      exact ⟨(List.append_nil _).symm, rfl, rfl⟩
    | cons a as =>
      obtain ⟨-, rfl⟩ := List.cons.inj has
      exact absurd he (hm e (by simp))
  · cases as with
    | nil =>
      obtain ⟨rfl, rfl⟩ := List.cons.inj has
      exact ⟨List.append_nil _, rfl, rfl⟩
    | cons a as =>
      obtain ⟨-, rfl⟩ := List.cons.inj has
      exact absurd hd (hn d (by simp))

/-- What may stand before a spelling: nothing, or text that ends with an opening bracket. -/
def Opens (text : List Char) : Prop :=
  text = [] ∨ ∃ more, text = more ++ ['[']

/-- A full stop or an opening bracket: what may stand before the last name of a spelling. -/
def IsCut (c : Char) : Prop := c = '.' ∨ c = '['

/-- A name or a number, that is, a spelling without accesses. -/
def IsAtom (text : List Char) : Prop := isName text = true ∨ IsNumber text

section Atoms

variable {x y pre pre' : List Char}

theorem IsAtom.notMem (h : IsAtom x) {c : Char} (hc : c = '[' ∨ c = ']') : c ∉ x := by
  rcases h with h | h
  · exact Lexer.notMem_of_isName h (.inr hc)
  · exact h.notMem hc

theorem not_isCut_of_isName (h : isName x = true) : ∀ c ∈ x, ¬IsCut c := by
  rintro c hc (rfl | rfl)
  · exact Lexer.notMem_of_isName h (.inl rfl) hc
  · exact Lexer.notMem_of_isName h (.inr (.inl rfl)) hc

/-- Two atoms at the end of the same text are the same. -/
theorem eq_of_atoms (hx : IsAtom x) (hy : IsAtom y) (hpre : Opens pre) (hpre' : Opens pre')
    (h : pre ++ x = pre' ++ y) : pre = pre' ∧ x = y := by
  have hnone : ∀ {z : List Char}, IsAtom z → '[' ∉ z := fun hz => hz.notMem (.inl rfl)
  rcases hpre with rfl | ⟨more, rfl⟩ <;> rcases hpre' with rfl | ⟨more', rfl⟩
  · exact ⟨rfl, h⟩
  · refine absurd (hnone hx) (not_not.2 ?_)
    rw [List.nil_append] at h
    simp [h]
  · refine absurd (hnone hy) (not_not.2 ?_)
    rw [List.nil_append] at h
    simp [← h]
  · rw [List.append_assoc, List.append_assoc] at h
    have hcut := eq_of_cut_eq (p := (· = '[')) rfl rfl (fun c hc he => hnone hx (he ▸ hc))
      (fun c hc he => hnone hy (he ▸ hc)) h
    exact ⟨by rw [hcut.1], hcut.2.2⟩

/-- The end of a text that ends in an atom is not a full stop and a name. -/
theorem atom_ne_member (hy : IsAtom y) (hpre' : Opens pre') {name : List Char}
    (hname : isName name = true) (h : pre ++ '.' :: name = pre' ++ y) : False := by
  have hfree := not_isCut_of_isName hname
  -- First the cut that the text has if the atom has none, then the one inside a number.
  have hplain : (∀ c ∈ y, ¬IsCut c) → False := by
    intro hcut
    rcases hpre' with rfl | ⟨more, rfl⟩
    · rw [List.nil_append] at h
      exact hcut '.' (by simp [← h]) (.inl rfl)
    · rw [List.append_assoc] at h
      obtain ⟨-, hmark, -⟩ := eq_of_cut_eq (p := IsCut) (.inl rfl) (.inr rfl) hfree hcut h
      exact absurd hmark (by decide)
  rcases hy with hy | hy
  · exact hplain (not_isCut_of_isName hy)
  · have hbracket := hy.notMem (.inl rfl)
    rcases hy.stop_cases with hstop | ⟨before, digit, after, rfl, hdigit, hstop⟩
    · refine hplain ?_
      rintro c hc (rfl | rfl)
      · exact hstop hc
      · exact hbracket hc
    · have hcut : ∀ c ∈ digit :: after, ¬IsCut c := by
        rintro c hc (rfl | rfl)
        · exact hstop hc
        · exact hbracket (by simp only [List.mem_append]; exact .inr (List.mem_cons_of_mem _ hc))
      rw [← List.append_assoc] at h
      obtain ⟨-, -, rfl⟩ := eq_of_cut_eq (p := IsCut) (.inl rfl) (.inl rfl) hfree hcut h
      rw [isName, Bool.and_eq_true, Lexer.isWordStart_of_isDigit hdigit] at hname
      exact absurd hname.1 (by decide)

end Atoms

/-- Is the last access of a target one by index? -/
def isIndexed : Expression → Bool
  | .indexAccess .. => true
  | _ => false

namespace Spells

variable {a b : Expression} {x y pre pre' : List Char}

theorem ne_nil (h : Spells a x) : x ≠ [] := by
  cases h with
  | identifier hname =>
    intro hnil
    rw [hnil] at hname
    cases hname
  | number hnumber =>
    obtain ⟨first, later, hfirst, -⟩ := hnumber.exists_first
    rw [hfirst]
    exact List.cons_ne_nil _ _
  | noIndex hbase => simp
  | index hbase hindex => simp
  | member hbase hname => simp

theorem getLast?_append (h : Spells a x) (pre : List Char) :
    (pre ++ x).getLast? = x.getLast? :=
  List.getLast?_append_of_ne_nil pre h.ne_nil

/-- A spelling ends with a closing bracket, if it is one of an access by index, or with no bracket
    at all. -/
theorem getLast?_cases (h : Spells a x) :
    (isIndexed a = true ∧ x.getLast? = some ']')
    ∨ (isIndexed a = false ∧ x.getLast? ≠ some '[' ∧ x.getLast? ≠ some ']') := by
  have hatom : ∀ {z : List Char}, IsAtom z → z.getLast? ≠ some '[' ∧ z.getLast? ≠ some ']' :=
    fun hz => ⟨fun hlast => hz.notMem (.inl rfl) (List.mem_of_getLast? hlast),
      fun hlast => hz.notMem (.inr rfl) (List.mem_of_getLast? hlast)⟩
  cases h with
  | identifier hname => exact .inr ⟨rfl, hatom (.inl hname)⟩
  | number hnumber => exact .inr ⟨rfl, hatom (.inr hnumber)⟩
  | noIndex hbase => exact .inl ⟨rfl, by simp⟩
  | index hbase hindex => exact .inl ⟨rfl, by simp [List.getLast?_cons]⟩
  | @member base x name loc hbase hname =>
    have hlast : (x ++ '.' :: name.toList).getLast? = name.toList.getLast? := by
      rw [List.append_cons]
      refine List.getLast?_append_of_ne_nil _ fun hnil => ?_
      rw [hnil] at hname
      cases hname
    rw [hlast]
    exact .inr ⟨rfl, hatom (.inl hname)⟩

/-- Spellings with the same end are both of accesses by index, or neither is. -/
theorem isIndexed_eq (ha : Spells a x) (hb : Spells b y) (h : pre ++ x = pre' ++ y) :
    isIndexed a = isIndexed b := by
  have hlast : x.getLast? = y.getLast? := by
    rw [← ha.getLast?_append pre, h, hb.getLast?_append]
  rcases ha.getLast?_cases with ⟨hka, hla⟩ | ⟨hka, -, hla⟩ <;>
    rcases hb.getLast?_cases with ⟨hkb, hlb⟩ | ⟨hkb, -, hlb⟩
  · rw [hka, hkb]
  · exact absurd (hlast ▸ hla) hlb
  · exact absurd (hlast ▸ hlb) hla
  · rw [hka, hkb]

/-- Brackets with nothing in them are told from those around an index. -/
theorem noIndex_ne_index (hi : Spells a x) {more more' : List Char}
    (h : more ++ ['[', ']'] = more' ++ (x ++ [']'])) : False := by
  have hopen : more ++ ['['] = more' ++ x := by
    rw [← List.append_assoc, List.append_cons] at h
    exact List.append_cancel_right h
  have hlast : x.getLast? = some '[' := by
    rw [← hi.getLast?_append more', ← hopen, List.getLast?_concat]
  rcases hi.getLast?_cases with ⟨-, hla⟩ | ⟨-, hla, -⟩
  · rw [hlast] at hla
    exact absurd hla (by decide)
  · exact hla hlast

/-- **A spelling is read in one way.** Whatever stands before it, up to an opening bracket, two
    targets with the same spelling are the same, except for locations and units. -/
theorem unique (ha : Spells a x) (hb : Spells b y) (hpre : Opens pre) (hpre' : Opens pre')
    (h : pre ++ x = pre' ++ y) : SpelledAlike a b ∧ pre = pre' := by
  -- The induction is on the target read first. The text before it grows at each index, so it is
  -- arbitrary; that it ends with a bracket keeps a name before it apart.
  induction ha generalizing b y pre pre' with
  | @identifier name loc hname =>
    have hkind : isIndexed (.identifier name loc) = isIndexed b :=
      isIndexed_eq (.identifier hname) hb h
    cases hb with
    | identifier hname' =>
      obtain ⟨rfl, heq⟩ := eq_of_atoms (.inl hname) (.inl hname') hpre hpre' h
      obtain rfl := String.toList_inj.1 heq
      exact ⟨.identifier .., rfl⟩
    | number hnumber =>
      obtain ⟨-, heq⟩ := eq_of_atoms (.inl hname) (.inr hnumber) hpre hpre' h
      rw [heq, hnumber.not_isName] at hname
      cases hname
    | member hbase hname' =>
      rw [← List.append_assoc] at h
      exact (atom_ne_member (.inl hname) hpre hname' h.symm).elim
    | noIndex | index => cases hkind
  | @number value unit loc hnumber =>
    have hkind : isIndexed (.literal .number value unit loc) = isIndexed b :=
      isIndexed_eq (.number hnumber) hb h
    cases hb with
    | identifier hname' =>
      obtain ⟨-, heq⟩ := eq_of_atoms (.inr hnumber) (.inl hname') hpre hpre' h
      rw [← heq, hnumber.not_isName] at hname'
      cases hname'
    | number hnumber' =>
      obtain ⟨rfl, heq⟩ := eq_of_atoms (.inr hnumber) (.inr hnumber') hpre hpre' h
      obtain rfl := String.toList_inj.1 heq
      exact ⟨.number .., rfl⟩
    | member hbase hname' =>
      rw [← List.append_assoc] at h
      exact (atom_ne_member (.inr hnumber) hpre hname' h.symm).elim
    | noIndex | index => cases hkind
  | @noIndex base x loc hbase ih =>
    have hkind : isIndexed (.indexAccess base none loc) = isIndexed b :=
      isIndexed_eq (.noIndex hbase) hb h
    cases hb with
    | noIndex hbase' =>
      rw [← List.append_assoc, ← List.append_assoc] at h
      obtain ⟨halike, rfl⟩ := ih hbase' hpre hpre' (List.append_cancel_right h)
      exact ⟨.noIndex _ _ halike, rfl⟩
    | index hbase' hindex' =>
      rw [← List.append_assoc, ← List.append_assoc, List.append_cons _ '[' (_ ++ _)] at h
      exact (noIndex_ne_index hindex' h).elim
    | identifier | number | member => cases hkind
  | @index base index x i loc hbase hindex ihbase ihindex =>
    have hkind : isIndexed (.indexAccess base (some index) loc) = isIndexed b :=
      isIndexed_eq (.index hbase hindex) hb h
    cases hb with
    | noIndex hbase' =>
      rw [← List.append_assoc, ← List.append_assoc, List.append_cons _ '[' (_ ++ _)] at h
      exact (noIndex_ne_index hindex h.symm).elim
    | @index base' index' y j loc' hbase' hindex' =>
      have hinner : (pre ++ x ++ ['[']) ++ i = (pre' ++ y ++ ['[']) ++ j := by
        have hclosed : (pre ++ x ++ ['[']) ++ i ++ [']'] = (pre' ++ y ++ ['[']) ++ j ++ [']'] := by
          simpa using h
        exact List.append_cancel_right hclosed
      obtain ⟨hi, hcut⟩ := ihindex hindex' (.inr ⟨_, rfl⟩) (.inr ⟨_, rfl⟩) hinner
      obtain ⟨halike, rfl⟩ := ihbase hbase' hpre hpre' (List.append_cancel_right hcut)
      exact ⟨.index _ _ halike hi, rfl⟩
    | identifier | number | member => cases hkind
  | @member base x name loc hbase hname ih =>
    have hkind : isIndexed (.memberAccess base name loc) = isIndexed b :=
      isIndexed_eq (.member hbase hname) hb h
    rw [← List.append_assoc] at h
    cases hb with
    | identifier hname' => exact (atom_ne_member (.inl hname') hpre' hname h).elim
    | number hnumber' => exact (atom_ne_member (.inr hnumber') hpre' hname h).elim
    | @member base' y name' loc' hbase' hname' =>
      rw [← List.append_assoc] at h
      obtain ⟨hcut, -, heq⟩ := eq_of_cut_eq (p := IsCut) (.inl rfl) (.inl rfl)
        (not_isCut_of_isName hname) (not_isCut_of_isName hname') h
      obtain ⟨halike, rfl⟩ := ih hbase' hpre hpre' hcut
      obtain rfl := String.toList_inj.1 heq
      exact ⟨.member _ _ _ halike, rfl⟩
    | noIndex | index => cases hkind

end Spells

/-! ## What a spelling leaves out -/

/-- The units of the numbers in a target, from left to right. -/
def targetUnits : Expression → List (Option String)
  | .literal .number _ unit _ => [unit]
  | .indexAccess base none _ => targetUnits base
  | .indexAccess base (some index) _ => targetUnits base ++ targetUnits index
  | .memberAccess base _ _ => targetUnits base
  | _ => []

namespace SpelledAlike

variable {a b : Expression}

theorem exists_targetText (h : SpelledAlike a b) :
    ∃ x, targetText a = some x ∧ targetText b = some x := by
  induction h with
  | identifier name => exact ⟨name, rfl, rfl⟩
  | number value => exact ⟨value, rfl, rfl⟩
  | noIndex loc loc' h ih =>
    obtain ⟨x, ha, hb⟩ := ih
    exact ⟨x ++ "[]", by simp [targetText, ha], by simp [targetText, hb]⟩
  | index loc loc' h hindex ih ihIndex =>
    obtain ⟨x, ha, hb⟩ := ih
    obtain ⟨i, hi, hj⟩ := ihIndex
    exact ⟨x ++ "[" ++ i ++ "]", by simp [targetText, ha, hi], by simp [targetText, hb, hj]⟩
  | member name loc loc' h ih =>
    obtain ⟨x, ha, hb⟩ := ih
    exact ⟨x ++ "." ++ name, by simp [targetText, ha], by simp [targetText, hb]⟩

theorem length_targetUnits (h : SpelledAlike a b) :
    (targetUnits a).length = (targetUnits b).length := by
  induction h with
  | identifier | number => rfl
  | noIndex loc loc' h ih => exact ih
  | index loc loc' h hindex ih ihIndex => simp only [targetUnits, List.length_append, ih, ihIndex]
  | member name loc loc' h ih => exact ih

/-- **Targets with the same spelling** are the same expression exactly when the numbers in them have
    the same units. -/
theorem unlocated_eq_iff (h : SpelledAlike a b) :
    a.unlocated = b.unlocated ↔ targetUnits a = targetUnits b := by
  induction h with
  | identifier name => exact ⟨fun _ => rfl, fun _ => rfl⟩
  | number value unit unit' => simp [Expression.unlocated, targetUnits]
  | noIndex loc loc' h ih =>
    simp only [Expression.unlocated, Expression.unlocatedOption, targetUnits, ← ih,
      Expression.indexAccess.injEq, and_true]
  | index loc loc' h hindex ih ihIndex =>
    simp only [Expression.unlocated, Expression.unlocatedOption, targetUnits,
      Expression.indexAccess.injEq, Option.some.injEq, and_true, ih, ihIndex]
    constructor
    · rintro ⟨hbase, hunits⟩
      rw [hbase, hunits]
    · intro heq
      exact List.append_inj heq h.length_targetUnits
  | member name loc loc' h ih =>
    simp only [Expression.unlocated, targetUnits, ← ih, Expression.memberAccess.injEq, and_true]

end SpelledAlike

end Check

end SolidityLint

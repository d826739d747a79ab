import Mathlib
import Camcorder.Toml.Reader

/-!
# Unquoted values read back

A word ends where its line does (`value?_word`), and the words that are written for whole numbers and truth values are
read as these (`ofWord?_natText`, `ofWord?_boolText`). What is written for a number with a point is a word as well
(`isWordChar_floatText`).
-/

namespace Camcorder.Toml

/-! ## Digits -/

theorem digitOf?_of_isDigit {c : Char} (digit : c.isDigit = true) : digitOf? 10 c = some (c.toNat - 48) := by
  simp only [Char.isDigit, Bool.and_eq_true, decide_eq_true_eq] at digit
  obtain ⟨low, high⟩ := digit
  have bounds : c.toNat - 48 < 10 := by
    have high' : c.toNat ≤ 57 := high
    omega
  have within : '0' ≤ c ∧ c ≤ '9' := ⟨low, high⟩
  unfold digitOf? Decimal.hexDigit?
  rw [if_pos within]
  exact if_pos bounds

theorem underscore_ne_of_isDigit {c : Char} (digit : c.isDigit = true) : c ≠ '_' := by
  rintro rfl
  exact absurd digit (by decide)

theorem digits?_of_isDigit {cs : List Char} (some_ : cs ≠ []) (digits : ∀ c ∈ cs, c.isDigit = true) :
    digits? 10 cs = some (cs.map fun c => c.toNat - 48) := by
  induction cs with
  | nil => exact absurd rfl some_
  | cons c cs ih =>
    have first := digitOf?_of_isDigit (digits c List.mem_cons_self)
    cases cs with
    | nil =>
      rw [digits?, first]
      rfl
    | cons d cs =>
      have second : d ≠ '_' := underscore_ne_of_isDigit (digits d (List.mem_cons_of_mem _ List.mem_cons_self))
      have rest := ih (List.cons_ne_nil d cs) fun c member => digits c (List.mem_cons_of_mem _ member)
      rw [digits?.eq_4 10 c d cs second, first, rest]
      rfl

theorem ofDigits_map (cs : List Char) (n : Nat) :
    (cs.map fun c => c.toNat - 48).foldl (fun n d => n * 10 + d) n = Nat.ofDigitChars 10 cs n := by
  induction cs generalizing n with
  | nil => rfl
  | cons c cs ih =>
    rw [List.map_cons, List.foldl_cons, ih, Nat.ofDigitChars_cons, Nat.mul_comm n 10]
    rfl

theorem head?_toDigits {n : Nat} (positive : n ≠ 0) : ∃ d, (Nat.toDigits 10 n).head? = some d ∧ d.toNat - 48 ≠ 0 := by
  induction n using Nat.strong_induction_on with
  | _ n ih =>
    by_cases small : n < 10
    · rw [Nat.toDigits_of_lt_base small]
      refine ⟨n.digitChar, rfl, ?_⟩
      rwa [Nat.toNat_digitChar_sub_48_of_lt_ten small]
    · obtain ⟨d, first, nonzero⟩ := ih (n / 10) (by omega) (by omega)
      refine ⟨d, ?_, nonzero⟩
      rw [Nat.toDigits_of_base_le (by omega) (by omega), List.head?_append, first]
      rfl

/-- The digits of a number, and no more, are read as this number. -/
theorem decimalDigits?_toDigits (n : Nat) :
    ∃ ds, decimalDigits? (Nat.toDigits 10 n) = some ds ∧ Decimal.ofDigits 10 ds = n := by
  have digits : ∀ c ∈ Nat.toDigits 10 n, c.isDigit = true := fun c member =>
    Nat.isDigit_of_mem_toDigits (by omega) (by omega) member
  refine ⟨(Nat.toDigits 10 n).map fun c => c.toNat - 48, ?_, ?_⟩
  · unfold decimalDigits?
    rw [digits?_of_isDigit Nat.toDigits_ne_nil digits]
    have plain : ((Nat.toDigits 10 n).map fun c => c.toNat - 48).length = 1 ∨
        ((Nat.toDigits 10 n).map fun c => c.toNat - 48).head? ≠ some 0 := by
      by_cases zero : n = 0
      · left
        rw [zero, Nat.toDigits_zero]
        rfl
      · right
        obtain ⟨d, first, nonzero⟩ := head?_toDigits zero
        rw [List.head?_map, first]
        intro h
        exact nonzero (Option.some.inj h)
    exact if_pos plain
  · exact (ofDigits_map _ 0).trans Nat.ofDigitChars_ten_toDigits

/-! ## Words -/

/-- A word of decimal digits is the number that they spell. -/
theorem integer?_of_unsigned {word : List Char} {ds : List Nat} (hex : ∀ cs, word = '0' :: 'x' :: cs → False)
    (octal : ∀ cs, word = '0' :: 'o' :: cs → False) (binary : ∀ cs, word = '0' :: 'b' :: cs → False)
    (unsigned : sign word = (false, word)) (read : decimalDigits? word = some ds) :
    integer? word = bounded? (Decimal.ofDigits 10 ds : Nat) := by
  rw [integer?.eq_4 _ hex octal binary, unsigned]
  dsimp only
  rw [read, Option.bind_eq_bind, Option.bind_some, if_neg Bool.false_ne_true]

theorem bounded?_of_le {n : Nat} (small : n ≤ greatestInteger) : bounded? (n : Int) = some (.integer n) := by
  have positive : 0 < signedWordLimit := by decide
  unfold greatestInteger at small
  exact if_pos ⟨by omega, by omega⟩

/-- A word of digits is a whole number, if it is not too large. -/
theorem ofWord?_natText {n : Nat} (small : n ≤ greatestInteger) :
    ofWord? (Decimal.natText n).toList = some (.integer n) := by
  have digits : ∀ c ∈ Nat.toDigits 10 n, c.isDigit = true := fun c member =>
    Nat.isDigit_of_mem_toDigits (by omega) (by omega) member
  have absent {c : Char} (other : c.isDigit = false) : c ∉ Nat.toDigits 10 n := fun member =>
    absurd (other.symm.trans (digits c member)) nofun
  obtain ⟨ds, read, value⟩ := decimalDigits?_toDigits n
  have unsigned : sign (Nat.toDigits 10 n) = (false, Nat.toDigits 10 n) := by
    refine sign.eq_3 _ ?_ ?_
    · intro cs same
      exact absent (c := '-') (by decide) (same ▸ List.mem_cons_self)
    · intro cs same
      exact absent (c := '+') (by decide) (same ▸ List.mem_cons_self)
  have second {c : Char} (other : c.isDigit = false) (cs : List Char) : Nat.toDigits 10 n = '0' :: c :: cs → False := by
    intro same
    exact absent other (same ▸ List.mem_cons_of_mem _ List.mem_cons_self)
  have whole : integer? (Nat.toDigits 10 n) = some (.integer n) := by
    rw [integer?_of_unsigned (second (by decide)) (second (by decide)) (second (by decide)) unsigned read, value]
    exact bounded?_of_le small
  have text : (Decimal.natText n).toList = Nat.toDigits 10 n := String.toList_ofList
  have not_true : (Nat.toDigits 10 n == "true".toList) = false := by
    refine beq_false_of_ne fun same => absent (c := 't') (by decide) ?_
    rw [same]
    decide
  have not_false : (Nat.toDigits 10 n == "false".toList) = false := by
    refine beq_false_of_ne fun same => absent (c := 'f') (by decide) ?_
    rw [same]
    decide
  unfold ofWord?
  rw [text, not_true, not_false, whole]
  rfl

theorem ofWord?_boolText (b : Bool) : ofWord? (boolText b).toList = some (.bool b) := by
  cases b <;> rfl

/-! ## Where words end -/

theorem isWordChar_of_isDigit {c : Char} (digit : c.isDigit = true) : isWordChar c = true := by
  have letter : c.isAlphanum = true := by
    unfold Char.isAlphanum
    rw [digit, Bool.or_true]
  unfold isWordChar
  rw [letter]
  rfl

theorem isWordChar_natText (n : Nat) : ∀ c ∈ (Decimal.natText n).toList, isWordChar c = true := by
  intro c member
  unfold Decimal.natText at member
  rw [String.toList_ofList] at member
  exact isWordChar_of_isDigit (Nat.isDigit_of_mem_toDigits (by omega) (by omega) member)

theorem isWordChar_boolText (b : Bool) : ∀ c ∈ (boolText b).toList, isWordChar c = true :=
  List.all_eq_true.mp (by cases b <;> decide)

theorem mem_zeros {n : Nat} {c : Char} (member : c ∈ (Decimal.zeros n).toList) : c = '0' := by
  induction n with
  | zero => cases member
  | succ n ih =>
    have pushed : (Decimal.zeros (n + 1)).toList = (Decimal.zeros n).toList ++ ['0'] := String.toList_push '0'
    rw [pushed, List.mem_append, List.mem_singleton] at member
    exact member.elim ih id

theorem isWordChar_positional (d : Decimal.Scaled) : ∀ c ∈ d.positional.toList, isWordChar c = true := by
  have zero (n : Nat) : ∀ c ∈ (Decimal.zeros n).toList, isWordChar c = true := by
    intro c member
    rw [mem_zeros member]
    decide
  have digit := isWordChar_natText d.digits
  intro c member
  unfold Decimal.Scaled.positional at member
  dsimp only at member
  split_ifs at member
  · rw [String.toList_append, String.toList_append, List.mem_append, List.mem_append] at member
    rcases member with (member | member) | member
    · exact digit c member
    · exact zero _ c member
    · have each : ".0".toList.all isWordChar = true := by decide
      exact List.all_eq_true.mp each c member
  · rw [String.toList_append, String.toList_append, List.mem_append, List.mem_append, String.toList_copy_take,
      String.toList_copy_drop] at member
    rcases member with (member | member) | member
    · exact digit c (List.mem_of_mem_take member)
    · have each : ".".toList.all isWordChar = true := by decide
      exact List.all_eq_true.mp each c member
    · exact digit c (List.mem_of_mem_drop member)
  · rw [String.toList_append, String.toList_append, List.mem_append, List.mem_append] at member
    rcases member with (member | member) | member
    · have each : "0.".toList.all isWordChar = true := by decide
      exact List.all_eq_true.mp each c member
    · exact zero _ c member
    · exact digit c member

/-- The text of a number is a word. -/
theorem isWordChar_floatText (x : Float) : ∀ c ∈ (floatText x).toList, isWordChar c = true := by
  intro c member
  unfold floatText at member
  by_cases number : x.isNaN = true
  · rw [if_pos number] at member
    have each : "nan".toList.all isWordChar = true := by decide
    exact List.all_eq_true.mp each c member
  · rw [if_neg number, String.toList_append, List.mem_append] at member
    rcases member with member | member
    · have each (negative : Bool) : (if negative then "-" else "").toList.all isWordChar = true := by
        cases negative <;> decide
      exact List.all_eq_true.mp (each _) c member
    · split_ifs at member
      · have each : "inf".toList.all isWordChar = true := by decide
        exact List.all_eq_true.mp each c member
      · exact isWordChar_positional _ c member

/-- A word ends where its line does. -/
theorem takeWord_line {word rest : List Char} (letters : ∀ c ∈ word, isWordChar c = true) :
    takeWord (word ++ '\n' :: rest) = (word, '\n' :: rest) := by
  have taken : (word ++ '\n' :: rest).span isWordChar = (word, '\n' :: rest) := by
    have stop : isWordChar '\n' = false := by decide
    rw [List.span_eq_takeWhile_dropWhile, List.takeWhile_append_of_pos letters, List.dropWhile_append_of_pos letters,
      List.takeWhile_cons_of_neg (by rw [stop]; nofun), List.dropWhile_cons_of_neg (by rw [stop]; nofun), List.append_nil]
  unfold takeWord
  rw [taken]
  rfl

/-- The value of a word at the end of a line. -/
theorem value?_word {word : List Char} {v : Value} (letters : ∀ c ∈ word, isWordChar c = true)
    (read : ofWord? word = some v) (bound depth : Nat) (rest : List Char) :
    value? (bound + 1) depth (word ++ '\n' :: rest) = some (v, '\n' :: rest) := by
  cases word with
  | nil => cases read
  | cons c word =>
    have letter : isWordChar c = true := letters c List.mem_cons_self
    have differs {d : Char} (sign : isWordChar d = false) (cs : List Char) :
        c :: word ++ '\n' :: rest = d :: cs → False := by
      intro same
      have first : c = d := (List.cons.inj same).1
      exact absurd (first ▸ letter) (by rw [sign]; nofun)
    have plain : string? (c :: word ++ '\n' :: rest) = none :=
      string?.eq_5 _ (fun cs => differs (by decide) _) (fun cs => differs (by decide) _) (differs (by decide))
        (differs (by decide))
    rw [value?.eq_4 _ _ _ (differs (by decide)) (differs (by decide)), plain]
    dsimp only
    rw [takeWord_line letters]
    dsimp only
    rw [read]
    rfl

end Camcorder.Toml

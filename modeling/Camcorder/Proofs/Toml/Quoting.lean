import Mathlib
import Camcorder.Toml.Reader

/-!
# Quoted texts read back

A text that is quoted reads as itself (`string?_quote`), in whatever style `Style.choose` writes it. The reader goes
over the text character by character. What it may have to undo are marks in a row: up to two of them belong to the text,
and three close it, so the reader keeps them apart from the text before them (`Style.Mode.after`) until it knows.
-/

namespace Camcorder.Toml

namespace Style

variable {s : Style} {n : Nat} {c : Char} {out cs : List Char}

/-! ## Steps of the reader -/

/-- The mode after `n` marks in a row that may belong to the text. -/
def Mode.after : Nat → Mode
  | 0 => .text
  | n + 1 => .marks (n + 1)

/-- A character other than a mark settles that the marks before it belong to the text. -/
theorem scan?_char {mode : Mode} {out' : List Char} (short : n < 3) (differs : c ≠ s.mark)
    (taken : s.textStep? c (List.replicate n s.mark ++ out) = some (mode, out')) :
    s.scan? (.after n) out (c :: cs) = s.scan? mode out' cs := by
  have unlike : (c == s.mark) = false := beq_false_of_ne differs
  cases n with
  | zero =>
    have taken : s.textStep? c out = some (mode, out') := taken
    simp only [Mode.after, scan?, unlike, taken, Bool.false_eq_true, if_false]
  | succ n =>
    have few : ¬3 ≤ n + 1 := by omega
    simp only [Mode.after, scan?, unlike, taken, few, Bool.false_eq_true, if_false]

/-- In a text of several lines up to two marks in a row are only counted. -/
theorem scan?_mark (multi : s.multiline = true) (short : n < 2) :
    s.scan? (.after n) out (s.mark :: cs) = s.scan? (.after (n + 1)) out cs := by
  cases n with
  | zero => simp only [Mode.after, scan?, beq_self_eq_true, multi, if_true, Nat.zero_add]
  | succ n =>
    have few : ¬n + 1 = 4 := by omega
    simp only [Mode.after, scan?, beq_self_eq_true, few, if_true, if_false]

/-- A single mark closes a text on one line. -/
theorem scan?_close (single : s.multiline = false) :
    s.scan? .text out (s.mark :: cs) = some (out.reverse, cs) := by
  simp only [scan?, beq_self_eq_true, single, Bool.false_eq_true, if_true, if_false]

/-- Three marks close a text of several lines. Of the marks in a row the last three close it. -/
theorem scan?_closeMulti (multi : s.multiline = true) (short : n < 3) (ends : cs.head? ≠ some s.mark)
    (out : List Char) :
    s.scan? (.after n) out (s.mark :: s.mark :: s.mark :: cs) =
      some ((List.replicate n s.mark ++ out).reverse, cs) := by
  have third : s.scan? (.marks 3) out cs = some (out.reverse, cs) := by
    cases cs with
    | nil => rfl
    | cons c cs =>
      have unlike : (c == s.mark) = false := beq_false_of_ne fun same => ends (congrArg some same)
      simp only [scan?, unlike, Bool.false_eq_true, if_false, le_refl, if_true, Nat.sub_self, List.replicate_zero,
        List.nil_append]
  have fourth : s.scan? (.marks 4) out cs = some ((s.mark :: out).reverse, cs) := by
    cases cs with
    | nil => rfl
    | cons c cs =>
      have unlike : (c == s.mark) = false := beq_false_of_ne fun same => ends (congrArg some same)
      have enough : 3 ≤ 4 := by omega
      simp only [scan?, unlike, Bool.false_eq_true, if_false, enough, if_true]
      rfl
  -- The last mark of five is known to be the last.
  have count : n = 0 ∨ n = 1 ∨ n = 2 := by omega
  rcases count with rfl | rfl | rfl
  · rw [scan?_mark multi (by omega), scan?_mark multi (by omega)]
    simp only [Mode.after, scan?, beq_self_eq_true, if_true]
    exact third
  · rw [scan?_mark multi (by omega)]
    simp only [Mode.after, scan?, beq_self_eq_true, if_true]
    exact fourth
  · simp only [Mode.after, scan?, beq_self_eq_true, if_true]
    rfl

/-- Whether a character may stand for itself between marks of this style: a plain one may, and a line end where there
may be several lines. -/
def StandsFor (s : Style) (c : Char) : Prop := isPlain c = true ∨ (s.multiline = true ∧ c = '\n')

/-- A character that needs no escape stands for itself. -/
theorem textStep?_self (unescaped : s.escapes = true → c ≠ '\\') (stands : s.StandsFor c) :
    s.textStep? c out = some (.text, c :: out) := by
  have no_escape : (s.escapes && c == '\\') = false := by
    cases escapes : s.escapes with
    | false => rfl
    | true => exact beq_false_of_ne (unescaped escapes)
  unfold textStep?
  rw [no_escape, if_neg Bool.false_ne_true]
  rcases stands with plain | ⟨multi, rfl⟩
  · rw [if_pos plain]
  · have control : isPlain '\n' = false := by decide
    rw [control, if_neg Bool.false_ne_true, multi]
    rfl

/-! ## Escapes -/

/-- How a character other than a double mark is written in a text with escapes. -/
inductive Written (s : Style) (c : Char) : List Char → Prop where
  /-- A backslash and a letter stand for it. -/
  | pair {letter : Char} (ne : letter ≠ 'u' ∧ letter ≠ 'U') (stands : escaped? letter = some c) :
    Written s c ['\\', letter]
  | itself (ne : c ≠ '\\') (stands : s.StandsFor c) : Written s c [c]
  /-- A backslash and the digits of its number stand for it. -/
  | number (small : c.toNat < 0x10000) : Written s c ('\\' :: 'u' :: hexDigits c.toNat)

theorem small_of_not_plain (control : isPlain c = false) : c.toNat < 0x10000 := by
  unfold isPlain at control
  simp only [Bool.or_eq_false_iff, Bool.and_eq_false_iff, decide_eq_false_iff_not, bne_eq_false_iff_eq] at control
  omega

/-- Every character is written so that it is scanned again, whatever came before it. -/
theorem written_escape (s : Style) (run : Nat) (quote : c ≠ '"') : Written s c (escape s run c) := by
  unfold escape
  rw [if_neg (by simpa using quote)]
  split_ifs with backslash backspace tab newline multi feed carriage plain
  · exact .pair (by decide) (congrArg some (eq_of_beq backslash).symm)
  · exact .pair (by decide) (congrArg some (eq_of_beq backspace).symm)
  · exact .pair (by decide) (congrArg some (eq_of_beq tab).symm)
  · rw [eq_of_beq newline]
    exact .itself (by decide) (.inr ⟨multi, rfl⟩)
  · exact .pair (by decide) (congrArg some (eq_of_beq newline).symm)
  · exact .pair (by decide) (congrArg some (eq_of_beq feed).symm)
  · exact .pair (by decide) (congrArg some (eq_of_beq carriage).symm)
  · exact .itself (by simpa using backslash) (.inl plain)
  · exact .number (small_of_not_plain (by simpa using plain))

theorem scan?_backslash (escapes : s.escapes = true) (short : n < 3) (differs : '\\' ≠ s.mark) :
    s.scan? (.after n) out ('\\' :: cs) = s.scan? .escape (List.replicate n s.mark ++ out) cs := by
  have taken : s.textStep? '\\' (List.replicate n s.mark ++ out) = some (.escape, List.replicate n s.mark ++ out) := by
    simp only [textStep?, escapes, beq_self_eq_true, Bool.and_self, if_true]
  exact scan?_char short differs taken

theorem scan?_letter {letter : Char} (ne : letter ≠ 'u' ∧ letter ≠ 'U') (stands : escaped? letter = some c) :
    s.scan? .escape out (letter :: cs) = s.scan? .text (c :: out) cs := by
  have four : (letter == 'u') = false := beq_false_of_ne ne.1
  have eight : (letter == 'U') = false := beq_false_of_ne ne.2
  simp only [scan?, four, eight, stands, Bool.false_eq_true, if_false]

theorem hexDigit?_hexDigit {d : Nat} (small : d < 16) : Decimal.hexDigit? (Decimal.hexDigit true d) = some d := by
  have each : ∀ d : Fin 16, Decimal.hexDigit? (Decimal.hexDigit true d) = some d.val := by decide
  exact each ⟨d, small⟩

theorem scalar?_toNat (c : Char) : scalar? c.toNat = some c := by
  unfold scalar?
  have valid : c.toNat.isValidChar := c.valid
  rw [if_pos valid, Char.ofNat_toNat]

theorem scan?_digit {left value d : Nat} (more : 1 < left) (small : d < 16) :
    s.scan? (.unit left value) out (Decimal.hexDigit true d :: cs) =
      s.scan? (.unit (left - 1) (value * 16 + d)) out cs := by
  have last : ¬left ≤ 1 := by omega
  simp only [scan?, hexDigit?_hexDigit small, last, if_false]

theorem scan?_lastDigit {value d : Nat} (small : d < 16) (number : value * 16 + d = c.toNat) :
    s.scan? (.unit 1 value) out (Decimal.hexDigit true d :: cs) = s.scan? .text (c :: out) cs := by
  simp only [scan?, hexDigit?_hexDigit small, number, scalar?_toNat, le_refl, if_true]

/-- A character is scanned from its digits. -/
theorem scan?_hexDigits (small : c.toNat < 0x10000) :
    s.scan? .escape out ('u' :: (hexDigits c.toNat ++ cs)) = s.scan? .text (c :: out) cs := by
  have begun : s.scan? .escape out ('u' :: (hexDigits c.toNat ++ cs)) =
      s.scan? (.unit 4 0) out (hexDigits c.toNat ++ cs) := by
    simp only [scan?, beq_self_eq_true, if_true]
  rw [begun]
  unfold hexDigits
  simp only [List.map_cons, List.map_nil, List.cons_append, List.nil_append]
  rw [scan?_digit (by omega) (by omega), scan?_digit (by omega) (by omega), scan?_digit (by omega) (by omega)]
  exact scan?_lastDigit (by omega) (by omega)

/-- The reader makes a character of what is written for it. -/
theorem scan?_written {written : List Char} (escapes : s.escapes = true) (differs : '\\' ≠ s.mark) (apart : c ≠ s.mark)
    (short : n < 3) (h : Written s c written) (out cs : List Char) :
    s.scan? (.after n) out (written ++ cs) = s.scan? .text (c :: (List.replicate n s.mark ++ out)) cs := by
  cases h with
  | pair ne stands => exact (scan?_backslash escapes short differs).trans (scan?_letter ne stands)
  | itself ne stands => exact scan?_char short apart (textStep?_self (fun _ => ne) stands)
  | number small => exact (scan?_backslash escapes short differs).trans (scan?_hexDigits small)

/-! ## Texts with escapes -/

/-- How many of `run` marks in a row are written as they are, if the last of them is. -/
def held (s : Style) (run : Nat) : Nat := if s.multiline ∧ run < 3 then run else 0

theorem held_lt (s : Style) (run : Nat) : s.held run < 3 := by
  unfold held
  split <;> omega

theorem held_zero (s : Style) : s.held 0 = 0 := by
  unfold held
  split <;> rfl

theorem escape_quote (s : Style) (run : Nat) :
    escape s run '"' = if run < (if s.multiline then 2 else 0) then ['"'] else ['\\', '"'] := rfl

/-- A double mark is written as it is, or escaped. -/
theorem scan?_escape_mark (escapes : s.escapes = true) (mark : s.mark = '"') (run : Nat) (out cs : List Char) :
    ∃ out', s.scan? (.after (s.held run)) out (escape s run '"' ++ cs) = s.scan? (.after (s.held (run + 1))) out' cs ∧
      List.replicate (s.held (run + 1)) s.mark ++ out' = '"' :: (List.replicate (s.held run) s.mark ++ out) := by
  by_cases few : s.multiline = true ∧ run < 2
  · -- One of the first two marks in a row.
    have written : escape s run '"' = ['"'] := by
      rw [escape_quote, if_pos few.1, if_pos few.2]
    have now : s.held run = run := if_pos ⟨few.1, by omega⟩
    have next : s.held (run + 1) = run + 1 := if_pos ⟨few.1, by omega⟩
    rw [written, now, next]
    refine ⟨out, ?_, ?_⟩
    · rw [← mark]
      exact scan?_mark few.1 few.2
    · rw [List.replicate_succ, mark]
      rfl
  · have written : escape s run '"' = ['\\', '"'] := by
      rw [escape_quote, if_neg]
      split_ifs with multi
      · exact fun short => few ⟨multi, short⟩
      · omega
    have next : s.held (run + 1) = 0 := if_neg fun h => few ⟨h.1, by omega⟩
    have differs : '\\' ≠ s.mark := by
      rw [mark]
      decide
    have letter : ('"' : Char) ≠ 'u' ∧ ('"' : Char) ≠ 'U' := by decide
    rw [written, next]
    exact ⟨'"' :: (List.replicate (s.held run) s.mark ++ out),
      (scan?_backslash escapes (s.held_lt run) differs).trans (scan?_letter letter rfl), rfl⟩

/-- The reader makes a text of what is written for it. -/
theorem scan?_escapeAll (escapes : s.escapes = true) (mark : s.mark = '"') (run : Nat) (text out cs : List Char) :
    ∃ run' out',
      s.scan? (.after (s.held run)) out (escapeAll s run text ++ cs) = s.scan? (.after (s.held run')) out' cs ∧
      List.replicate (s.held run') s.mark ++ out' = text.reverse ++ (List.replicate (s.held run) s.mark ++ out) := by
  have differs : '\\' ≠ s.mark := by
    rw [mark]
    decide
  -- By induction on the text, whatever stands before it.
  induction text generalizing run out with
  | nil => exact ⟨run, out, rfl, rfl⟩
  | cons c text ih =>
    unfold escapeAll
    rw [List.append_assoc]
    by_cases quote : c = '"'
    · subst quote
      obtain ⟨out₁, read, held⟩ := scan?_escape_mark escapes mark run out (escapeAll s (run + 1) text ++ cs)
      obtain ⟨run', out', rest, held'⟩ := ih (run + 1) out₁
      refine ⟨run', out', read.trans rest, ?_⟩
      rw [held', held, List.reverse_cons, List.append_assoc]
      rfl
    · have other : (c == '"') = false := beq_false_of_ne quote
      have apart : c ≠ s.mark := by
        rw [mark]
        exact quote
      have read := scan?_written escapes differs apart (s.held_lt run) (written_escape s run quote) out
        (escapeAll s 0 text ++ cs)
      obtain ⟨run', out', rest, held'⟩ := ih 0 (c :: (List.replicate (s.held run) s.mark ++ out))
      rw [held_zero] at rest held'
      rw [other]
      refine ⟨run', out', read.trans rest, ?_⟩
      rw [held', List.reverse_cons, List.append_assoc]
      rfl

/-! ## Texts without escapes -/

/-- There are never three marks in a row, `n` of them standing before the text. -/
def Sparse (mark : Char) : Nat → List Char → Prop
  | _, [] => True
  | n, c :: cs => if c = mark then n + 1 < 3 ∧ Sparse mark (n + 1) cs else Sparse mark 0 cs

/-- The longest run so far, and the one that a character goes on with or ends. -/
def runStep (mark : Char) (seen : Nat × Nat) (c : Char) : Nat × Nat :=
  let run := if c == mark then seen.2 + 1 else 0
  (max seen.1 run, run)

theorem longest_le_foldl (mark : Char) (text : List Char) (seen : Nat × Nat) :
    seen.1 ≤ (text.foldl (runStep mark) seen).1 := by
  induction text generalizing seen with
  | nil => exact le_refl _
  | cons c text ih => exact (le_max_left _ _).trans (ih (runStep mark seen c))

theorem sparse_of_foldl {mark : Char} {text : List Char} {seen : Nat × Nat}
    (short : (text.foldl (runStep mark) seen).1 < 3) : Sparse mark seen.2 text := by
  induction text generalizing seen with
  | nil => trivial
  | cons c text ih =>
    have rest : Sparse mark (runStep mark seen c).2 text := ih short
    have longest : max seen.1 (runStep mark seen c).2 < 3 :=
      (longest_le_foldl mark text (runStep mark seen c)).trans_lt short
    unfold Sparse
    unfold runStep at rest longest
    split_ifs with same
    · rw [same, beq_self_eq_true] at rest longest
      exact ⟨(le_max_right _ _).trans_lt longest, rest⟩
    · rw [beq_false_of_ne same] at rest
      exact rest

/-- Marks are sparse if there are never three in a row. -/
theorem sparse_of_longestRun {mark : Char} {text : List Char} (short : longestRun mark text < 3) :
    Sparse mark 0 text := sparse_of_foldl short

/-- A text that is written as it is reads as it is, on one line. -/
theorem scan?_literal (unescaped : s.escapes = false) (text out cs : List Char)
    (clean : ∀ c ∈ text, c ≠ s.mark ∧ s.StandsFor c) :
    s.scan? .text out (text ++ cs) = s.scan? .text (text.reverse ++ out) cs := by
  induction text generalizing out with
  | nil => rfl
  | cons c text ih =>
    obtain ⟨apart, stands⟩ := clean c List.mem_cons_self
    have read : s.scan? (.after 0) out (c :: (text ++ cs)) = s.scan? .text (c :: out) (text ++ cs) :=
      scan?_char (by omega) apart (textStep?_self (fun escapes => absurd (unescaped.symm.trans escapes) nofun) stands)
    rw [List.reverse_cons, List.append_assoc]
    exact read.trans (ih (c :: out) fun c member => clean c (List.mem_cons_of_mem _ member))

/-- A text that is written as it is reads as it is, over several lines, unless three marks come in a row. -/
theorem scan?_multiLiteral (multi : s.multiline = true) (unescaped : s.escapes = false) (text out cs : List Char)
    (n : Nat) (short : n < 3) (sparse : Sparse s.mark n text) (clean : ∀ c ∈ text, c ≠ s.mark → s.StandsFor c) :
    ∃ n' out', n' < 3 ∧ s.scan? (.after n) out (text ++ cs) = s.scan? (.after n') out' cs ∧
      List.replicate n' s.mark ++ out' = text.reverse ++ (List.replicate n s.mark ++ out) := by
  induction text generalizing n out with
  | nil => exact ⟨n, out, short, rfl, rfl⟩
  | cons c text ih =>
    have clean' : ∀ c ∈ text, c ≠ s.mark → s.StandsFor c := fun c member => clean c (List.mem_cons_of_mem _ member)
    unfold Sparse at sparse
    by_cases mark : c = s.mark
    · rw [if_pos mark] at sparse
      obtain ⟨few, sparse⟩ := sparse
      obtain ⟨n', out', short', rest, held⟩ := ih out (n + 1) few sparse clean'
      refine ⟨n', out', short', ?_, ?_⟩
      · rw [mark]
        exact (scan?_mark multi (by omega)).trans rest
      · rw [held, List.reverse_cons, List.append_assoc, mark]
        rfl
    · rw [if_neg mark] at sparse
      have taken : s.textStep? c (List.replicate n s.mark ++ out) = some (.text, c :: (List.replicate n s.mark ++ out)) :=
        textStep?_self (fun escapes => absurd (unescaped.symm.trans escapes) nofun) (clean c List.mem_cons_self mark)
      obtain ⟨n', out', short', rest, held⟩ := ih (c :: (List.replicate n s.mark ++ out)) 0 (by omega) sparse clean'
      refine ⟨n', out', short', (scan?_char short mark taken).trans rest, ?_⟩
      rw [held, List.reverse_cons, List.append_assoc]
      rfl

/-! ## Single marks -/

theorem decode_of_scan? {text rest : List Char} (single : s.multiline = false)
    (scanned : s.scan? .text [] cs = some (text, rest)) : s.decode cs = some (String.ofList text, rest) := by
  unfold decode
  rw [single, if_neg Bool.false_ne_true, scanned]
  rfl

/-- What is written for a character begins with a backslash, or is the character itself. -/
theorem escape_cons (s : Style) (run : Nat) (c : Char) :
    ∃ d rest, escape s run c = d :: rest ∧
      (d = '\\' ∨ d = c ∧ s.StandsFor c ∧ (c = '"' → s.multiline = true)) := by
  by_cases quote : c = '"'
  · subst quote
    rw [escape_quote]
    split_ifs with multi few few
    · exact ⟨'"', [], rfl, .inr ⟨rfl, .inl (by decide), fun _ => multi⟩⟩
    · exact ⟨'\\', ['"'], rfl, .inl rfl⟩
    · omega
    · exact ⟨'\\', ['"'], rfl, .inl rfl⟩
  · have written := s.written_escape run quote
    generalize escape s run c = w at written
    cases written with
    | pair ne stands => exact ⟨_, _, rfl, .inl rfl⟩
    | itself ne stands => exact ⟨_, _, rfl, .inr ⟨rfl, stands, fun same => absurd same quote⟩⟩
    | number small => exact ⟨_, _, rfl, .inl rfl⟩

theorem escapeAll_cons (s : Style) (c : Char) (text : List Char) :
    ∃ d more, escapeAll s 0 (c :: text) = d :: more ∧
      (d = '\\' ∨ d = c ∧ s.StandsFor c ∧ (c = '"' → s.multiline = true)) := by
  obtain ⟨d, rest, written, begins⟩ := s.escape_cons 0 c
  refine ⟨d, rest ++ escapeAll s (if c == '"' then 1 else 0) text, ?_, begins⟩
  rw [escapeAll, written]
  rfl

/-- A text between single marks with escapes is decoded. -/
theorem decode_basic (text rest : List Char) :
    basic.decode (escapeAll basic 0 text ++ '"' :: rest) = some (String.ofList text, rest) := by
  obtain ⟨run, out, read, held⟩ := scan?_escapeAll (s := basic) rfl rfl 0 text [] ('"' :: rest)
  have same : out = text.reverse := held.trans (List.append_nil _)
  have closed : basic.scan? (.after (basic.held run)) out ('"' :: rest) = some (out.reverse, rest) :=
    scan?_close (s := basic) rfl
  have scanned : basic.scan? .text [] (escapeAll basic 0 text ++ '"' :: rest) = some (text, rest) := by
    rw [same, List.reverse_reverse] at closed
    exact read.trans (same ▸ closed)
  exact decode_of_scan? rfl scanned

/-- A clean text between single marks without escapes is decoded. -/
theorem decode_literal (text rest : List Char) (clean : ∀ c ∈ text, c ≠ '\'' ∧ isPlain c = true) :
    literal.decode (text ++ '\'' :: rest) = some (String.ofList text, rest) := by
  have scanned : literal.scan? .text [] (text ++ '\'' :: rest) = some (text, rest) := by
    rw [scan?_literal (s := literal) rfl text [] _ fun c member => ⟨(clean c member).1, .inl (clean c member).2⟩]
    have closed : literal.scan? .text (text.reverse ++ []) ('\'' :: rest) = _ := scan?_close (s := literal) rfl
    rw [closed, List.append_nil, List.reverse_reverse]
  exact decode_of_scan? rfl scanned

/-! ## Threefold marks -/

/-- What does not begin with a line end stays as it is. -/
theorem dropLineEnd_of_head (fresh : cs.head? ≠ some '\n' ∧ cs.head? ≠ some '\r') : dropLineEnd cs = cs := by
  unfold dropLineEnd
  split
  · exact absurd rfl fresh.1
  · exact absurd rfl fresh.2
  · rfl

theorem not_lineEnd_of_plain (plain : isPlain c = true) : c ≠ '\n' ∧ c ≠ '\r' := by
  constructor
  · rintro rfl
    exact absurd plain (by decide)
  · rintro rfl
    exact absurd plain (by decide)

/-- The line end that a text of several lines begins with is the one that is dropped. -/
theorem decode_of_scanMulti? {text body rest : List Char} (multi : s.multiline = true)
    (fresh : '\n' ∉ text → ∃ c more, body = c :: more ∧ c ≠ '\n' ∧ c ≠ '\r')
    (scanned : s.scan? .text [] body = some (text, rest)) :
    s.decode ((if text.contains '\n' then ['\n'] else []) ++ body) = some (String.ofList text, rest) := by
  have dropped : dropLineEnd ((if text.contains '\n' then ['\n'] else []) ++ body) = body := by
    split_ifs with lines
    · rfl
    · obtain ⟨c, more, rfl, feed, carriage⟩ := fresh (by simpa using lines)
      exact dropLineEnd_of_head ⟨fun h => feed (Option.some.inj h), fun h => carriage (Option.some.inj h)⟩
  unfold decode
  rw [if_pos multi, dropped, scanned]
  rfl

/-- A text of several lines with escapes is decoded. -/
theorem decode_multiBasic (text rest : List Char) (ends : rest.head? ≠ some '"') :
    multiBasic.decode ((if text.contains '\n' then ['\n'] else []) ++
      (escapeAll multiBasic 0 text ++ '"' :: '"' :: '"' :: rest)) = some (String.ofList text, rest) := by
  obtain ⟨run, out, read, held⟩ :=
    scan?_escapeAll (s := multiBasic) rfl rfl 0 text [] ('"' :: '"' :: '"' :: rest)
  have closed := scan?_closeMulti (s := multiBasic) rfl (multiBasic.held_lt run) ends out
  rw [held, held_zero, List.replicate_zero, List.nil_append, List.append_nil, List.reverse_reverse] at closed
  refine decode_of_scanMulti? rfl ?_ (read.trans closed)
  intro lines
  cases text with
  | nil => exact ⟨'"', _, rfl, by decide⟩
  | cons c text =>
    obtain ⟨d, more, written, begins⟩ := multiBasic.escapeAll_cons c text
    refine ⟨d, more ++ '"' :: '"' :: '"' :: rest, ?_, ?_⟩
    · rw [written]
      rfl
    · rcases begins with rfl | ⟨rfl, plain | ⟨_, rfl⟩, _⟩
      · decide
      · exact not_lineEnd_of_plain plain
      · exact absurd List.mem_cons_self lines

/-- A clean text of several lines without escapes is decoded. -/
theorem decode_multiLiteral (text rest : List Char) (ends : rest.head? ≠ some '\'')
    (clean : ∀ c ∈ text, isPlain c = true ∨ c = '\n') (sparse : Sparse '\'' 0 text) :
    multiLiteral.decode ((if text.contains '\n' then ['\n'] else []) ++ (text ++ '\'' :: '\'' :: '\'' :: rest)) =
      some (String.ofList text, rest) := by
  obtain ⟨n, out, short, read, held⟩ := scan?_multiLiteral (s := multiLiteral) rfl rfl text []
    ('\'' :: '\'' :: '\'' :: rest) 0 (by omega) sparse fun c member _ => (clean c member).imp_right fun feed => ⟨rfl, feed⟩
  have closed := scan?_closeMulti (s := multiLiteral) rfl short ends out
  rw [held, List.replicate_zero, List.nil_append, List.append_nil, List.reverse_reverse] at closed
  refine decode_of_scanMulti? rfl ?_ (read.trans closed)
  intro lines
  cases text with
  | nil => exact ⟨'\'', _, rfl, by decide⟩
  | cons c text =>
    refine ⟨c, _, rfl, ?_⟩
    rcases clean c List.mem_cons_self with plain | rfl
    · exact not_lineEnd_of_plain plain
    · exact absurd List.mem_cons_self lines

end Style

open Style

/-! ## All styles -/

/-- A text with escapes is told by the mark that it begins with. -/
theorem string?_basic (text rest : List Char) (ends : rest.head? ≠ some '"') :
    string? (basic.encode text ++ rest) = some (some (String.ofList text, rest)) := by
  have written : basic.encode text ++ rest = '"' :: (escapeAll basic 0 text ++ '"' :: rest) :=
    congrArg (List.cons '"') (List.append_assoc (escapeAll basic 0 text) ['"'] rest)
  -- The mark that the text begins with is not one of three.
  have single : ∀ more, escapeAll basic 0 text ++ '"' :: rest = '"' :: '"' :: more → False := by
    intro more same
    cases text with
    | nil =>
      have tail : rest = '"' :: more := (List.cons.inj same).2
      exact ends (by rw [tail]; rfl)
    | cons c text =>
      obtain ⟨d, more', written, begins⟩ := basic.escapeAll_cons c text
      rw [written] at same
      have mark : d = '"' := (List.cons.inj same).1
      rcases begins with rfl | ⟨rfl, _, multi⟩
      · cases mark
      · cases multi mark
  rw [written, string?.eq_3 _ single, decode_basic]

theorem string?_literal (text rest : List Char) (ends : rest.head? ≠ some '\'')
    (clean : ∀ c ∈ text, c ≠ '\'' ∧ isPlain c = true) :
    string? (literal.encode text ++ rest) = some (some (String.ofList text, rest)) := by
  have written : literal.encode text ++ rest = '\'' :: (text ++ '\'' :: rest) :=
    congrArg (List.cons '\'') (List.append_assoc text ['\''] rest)
  have single : ∀ more, text ++ '\'' :: rest = '\'' :: '\'' :: more → False := by
    intro more same
    cases text with
    | nil =>
      have tail : rest = '\'' :: more := (List.cons.inj same).2
      exact ends (by rw [tail]; rfl)
    | cons c text => exact (clean c List.mem_cons_self).1 (List.cons.inj same).1
  rw [written, string?.eq_4 _ single, decode_literal text rest clean]

theorem string?_multiBasic (text rest : List Char) (ends : rest.head? ≠ some '"') :
    string? (multiBasic.encode text ++ rest) = some (some (String.ofList text, rest)) := by
  have written : multiBasic.encode text ++ rest = '"' :: '"' :: '"' :: ((if text.contains '\n' then ['\n'] else []) ++
      (escapeAll multiBasic 0 text ++ '"' :: '"' :: '"' :: rest)) := by
    have parts : multiBasic.encode text = ['"', '"', '"'] ++ (if text.contains '\n' then ['\n'] else []) ++
      escapeAll multiBasic 0 text ++ ['"', '"', '"'] := rfl
    rw [parts]
    simp only [List.append_assoc, List.cons_append, List.nil_append]
  rw [written, string?.eq_1, decode_multiBasic text rest ends]

theorem string?_multiLiteral (text rest : List Char) (ends : rest.head? ≠ some '\'')
    (clean : ∀ c ∈ text, isPlain c = true ∨ c = '\n') (sparse : Sparse '\'' 0 text) :
    string? (multiLiteral.encode text ++ rest) = some (some (String.ofList text, rest)) := by
  have written : multiLiteral.encode text ++ rest = '\'' :: '\'' :: '\'' ::
      ((if text.contains '\n' then ['\n'] else []) ++ (text ++ '\'' :: '\'' :: '\'' :: rest)) := by
    have parts : multiLiteral.encode text = ['\'', '\'', '\''] ++ (if text.contains '\n' then ['\n'] else []) ++
      text ++ ['\'', '\'', '\''] := rfl
    rw [parts]
    simp only [List.append_assoc, List.cons_append, List.nil_append]
  rw [written, string?.eq_2, decode_multiLiteral text rest ends clean sparse]

/-- A quoted text begins with a mark. -/
theorem quote_cons (text : String) : ∃ c cs, (quote text).toList = c :: cs ∧ (c = '"' ∨ c = '\'') := by
  unfold quote
  rw [String.toList_ofList]
  unfold choose
  dsimp only
  split_ifs
  all_goals first
    | exact ⟨'"', _, rfl, .inl rfl⟩
    | exact ⟨'\'', _, rfl, .inr rfl⟩

/-- A quoted text reads as itself, whatever is in it, if no mark follows. -/
theorem string?_quote (text : String) {rest : List Char} (double : rest.head? ≠ some '"')
    (single : rest.head? ≠ some '\'') :
    string? ((quote text).toList ++ rest) = some (some (text, rest)) := by
  have plain (clear : hasControl text.toList = false) : ∀ c ∈ text.toList, isPlain c = true ∨ c = '\n' := by
    intro c member
    have free := List.any_eq_false.mp clear c member
    by_cases feed : c = '\n'
    · exact .inr feed
    · left
      by_contra control
      simp [control, feed] at free
  have same : String.ofList text.toList = text := String.ofList_toList
  unfold quote
  rw [String.toList_ofList]
  nth_rewrite 3 [← same]
  unfold choose
  dsimp only
  split_ifs with h₁ h₂ h₃ h₄ h₅
  · exact string?_basic _ _ double
  · simp only [Bool.and_eq_true, Bool.not_eq_true'] at h₂
    obtain ⟨⟨clear, quotes⟩, lines⟩ := h₂
    refine string?_literal _ _ single ?_
    intro c member
    refine ⟨?_, ?_⟩
    · rintro rfl
      simp [member] at quotes
    · rcases plain clear c member with plain | rfl
      · exact plain
      · simp [member] at lines
  · exact string?_multiBasic _ _ double
  · simp only [Bool.and_eq_true, Bool.not_eq_true', decide_eq_true_eq] at h₄
    obtain ⟨clear, short⟩ := h₄
    exact string?_multiLiteral _ _ single (plain clear) (sparse_of_longestRun short)
  · exact string?_multiBasic _ _ double
  · exact string?_basic _ _ double

end Camcorder.Toml

import Mathlib
import Camcorder.CommandLine.Arguments

/-!
# Groups of arguments

The arguments of a recording command are read from left to right, and an option takes whatever follows it for its value.
Here the groups are described by themselves, without an order in which they are read (`CommandLine.Group`). Reading
succeeds just if the tokens are such groups, one after the other, and the groups of one kind do not see those of another
kind (`CommandLine.read_groups`).
-/

namespace Camcorder

namespace Decimal

/-- Decimal digits, at least one, and their value. -/
def Digits (cs : List Char) (n : ℕ) : Prop :=
  cs ≠ [] ∧ (∀ c ∈ cs, c.isDigit) ∧ n = ofDigits 10 (cs.map fun c => c.toNat - 48)

/-- The number that a text writes, with a plus in front of its digits or without. -/
def Writes (text : String) (n : ℕ) : Prop :=
  Digits text.toList n ∨ ∃ digits, text.toList = '+' :: digits ∧ Digits digits n

variable {limit n m : ℕ} {c : Char} {cs : List Char}

theorem digit?_eq (c : Char) : digit? c = if c.isDigit then some (c.toNat - 48) else none := by
  have same : ('0' ≤ c ∧ c ≤ '9') ↔ c.isDigit = true := by
    unfold Char.isDigit
    rw [Bool.and_eq_true, decide_eq_true_iff, decide_eq_true_iff]
    exact Iff.rfl
  unfold digit?
  simp only [same]
  rfl

/-- A digit can be appended as long as the number stays below the limit. -/
theorem appendDigit_eq_ok :
    appendDigit limit n c = .ok m ↔ c.isDigit ∧ n * 10 + (c.toNat - 48) < limit ∧ m = n * 10 + (c.toNat - 48) := by
  unfold appendDigit
  rw [digit?_eq]
  by_cases digit : c.isDigit
  · rw [if_pos digit]
    dsimp only
    split
    case isTrue fits => simp [digit, fits, eq_comm]
    case isFalse large => simp [large]
  · rw [if_neg digit]
    simp [digit]

theorem le_foldl_ofDigits (n : ℕ) (ds : List ℕ) : n ≤ ds.foldl (fun n d => n * 10 + d) n := by
  induction ds generalizing n with
  | nil => exact le_rfl
  | cons d ds ih => exact le_trans (show n ≤ n * 10 + d by omega) (ih _)

/-- Numbers only grow as digits are appended, so a number below the limit was below it all the way. -/
theorem appendDigits_eq_ok (nonempty : cs ≠ []) :
    cs.foldlM (appendDigit limit) n = .ok m ↔
      (∀ c ∈ cs, c.isDigit) ∧ m < limit ∧ m = (cs.map fun c => c.toNat - 48).foldl (fun n d => n * 10 + d) n := by
  induction cs generalizing n with
  | nil => exact absurd rfl nonempty
  | cons c cs ih =>
    have first : (c :: cs).foldlM (appendDigit limit) n = .ok m ↔
        ∃ k, appendDigit limit n c = .ok k ∧ cs.foldlM (appendDigit limit) k = .ok m := by
      rw [List.foldlM_cons]
      cases appendDigit limit n c with
      | error flaw => simp [bind, Except.bind]
      | ok k => simp [bind, Except.bind]
    rw [first, List.forall_mem_cons, List.map_cons, List.foldl_cons]
    cases cs with
    | nil =>
      simp only [List.foldlM_nil, appendDigit_eq_ok]
      constructor
      · rintro ⟨k, ⟨digit, below, rfl⟩, done⟩
        cases done
        exact ⟨⟨digit, by simp⟩, below, rfl⟩
      · rintro ⟨⟨digit, -⟩, below, rfl⟩
        exact ⟨_, ⟨digit, below, rfl⟩, rfl⟩
    | cons c' cs =>
      simp only [ih (List.cons_ne_nil c' cs), appendDigit_eq_ok]
      constructor
      · rintro ⟨k, ⟨digit, -, rfl⟩, digits, below, value⟩
        exact ⟨⟨digit, digits⟩, below, value⟩
      · rintro ⟨⟨digit, digits⟩, below, value⟩
        refine ⟨_, ⟨digit, ?_, rfl⟩, digits, below, value⟩
        exact lt_of_le_of_lt (value ▸ le_foldl_ofDigits _ _) below

theorem not_digits_plus : ¬ Digits ('+' :: cs) n := fun ⟨_, digits, _⟩ =>
  absurd (digits '+' List.mem_cons_self) (by decide)

/-- A number below the limit is read just where it is written. -/
theorem readNumeral_eq_ok {text : String} : readNumeral limit text = .ok n ↔ Writes text n ∧ n < limit := by
  have read {cs : List Char} (nonempty : cs ≠ []) :
      cs.foldlM (appendDigit limit) 0 = .ok n ↔ Digits cs n ∧ n < limit := by
    rw [appendDigits_eq_ok nonempty]
    exact ⟨fun ⟨digits, below, value⟩ => ⟨⟨nonempty, digits, value⟩, below⟩,
      fun ⟨⟨_, digits, value⟩, below⟩ => ⟨digits, below, value⟩⟩
  unfold readNumeral Writes
  generalize text.toList = cs
  split
  case h_1 => simp [Digits]
  case h_2 c cs =>
    rw [read (List.cons_ne_nil c cs)]
    simp [not_digits_plus]
  case h_3 nonempty sign =>
    -- If there is a plus here, no digits follow it.
    have bare (digits : List Char) (plus : cs = '+' :: digits) : ¬ Digits digits n := by
      cases digits with
      | nil => exact fun empty => empty.1 rfl
      | cons c digits => exact absurd plus (sign c digits)
    rw [read nonempty]
    constructor
    · exact fun ⟨digits, below⟩ => ⟨.inl digits, below⟩
    · rintro ⟨digits | ⟨digits, plus, written⟩, below⟩
      · exact ⟨digits, below⟩
      · exact absurd written (bare digits plus)

end Decimal

namespace CommandLine

/-! ## Names in any case -/

/-- The value is the name, with capital letters in places. -/
def AnyCase (name value : String) : Prop :=
  List.Forall₂ (fun small c => c = small ∨ c = small.toUpper) name.toList value.toList

theorem toNat_toLower (c : Char) :
    c.toLower.toNat = if 65 ≤ c.toNat ∧ c.toNat ≤ 90 then c.toNat + 32 else c.toNat := by
  have upper : (c.val ≥ 'A'.val ∧ c.val ≤ 'Z'.val) ↔ 65 ≤ c.toNat ∧ c.toNat ≤ 90 := Iff.rfl
  unfold Char.toLower
  by_cases h : 65 ≤ c.toNat ∧ c.toNat ≤ 90
  · have gap : ('a'.val - 'A'.val).toNat = 32 := rfl
    rw [dif_pos (upper.mpr h), if_pos h, Char.toNat_mk, UInt32.toNat_add, Char.toNat_val, gap]
    omega
  · rw [dif_neg (fun h' => h (upper.mp h')), if_neg h]

theorem toNat_toUpper (c : Char) :
    c.toUpper.toNat = if 97 ≤ c.toNat ∧ c.toNat ≤ 122 then c.toNat - 32 else c.toNat := by
  have lower : ('a'.val ≤ c.val ∧ c.val ≤ 'z'.val) ↔ 97 ≤ c.toNat ∧ c.toNat ≤ 122 := Iff.rfl
  unfold Char.toUpper
  by_cases h : 97 ≤ c.toNat ∧ c.toNat ≤ 122
  · -- The difference of the two letters is negative, and wraps around.
    have gap : ('A'.val - 'a'.val).toNat = 0x100000000 - 32 := rfl
    rw [dif_pos (lower.mpr h), if_pos h, Char.toNat_mk, UInt32.toNat_add, Char.toNat_val, gap]
    omega
  · rw [dif_neg (fun h' => h (lower.mp h')), if_neg h]

/-- The characters with a certain small letter are that letter and its capital. -/
theorem toLower_eq_iff {small c : Char} (h : small.toLower = small) :
    c.toLower = small ↔ c = small ∨ c = small.toUpper := by
  have h' := congrArg Char.toNat h
  rw [toNat_toLower] at h'
  rw [← Char.toNat_inj, ← Char.toNat_inj, ← Char.toNat_inj, toNat_toUpper, toNat_toLower]
  split at h' <;> split <;> split <;> omega

/-- A value is a name in any case just when its small letters are those of the name. -/
theorem map_toLower_eq_iff {name value : String} (small : ∀ c ∈ name.toList, c.toLower = c) :
    value.map Char.toLower = name ↔ AnyCase name value := by
  unfold AnyCase
  rw [← String.toList_inj, String.toList_map]
  generalize name.toList = ns at small ⊢
  generalize value.toList = cs
  induction ns generalizing cs with
  | nil => simp
  | cons n ns ih =>
    obtain ⟨small, small'⟩ := List.forall_mem_cons.mp small
    cases cs with
    | nil => simp
    | cons c cs => rw [List.map_cons, List.cons.injEq, List.forall₂_cons, toLower_eq_iff small, ih small']

/-- The names of formats, and the one that leaves the format open. -/
def formatNames : List (String × Option FrameFormat) :=
  [("auto", none), ("yuyv", some .packed422), ("i422", some .planar422), ("nv12", some .semiPlanar420),
    ("mjpeg", some .compressed), ("jpeg", some .compressed)]

/-- The names of formats are those of the list. -/
theorem formatOfName?_eq_some {name : String} {f : Option FrameFormat} :
    Argument.formatOfName? name = some f ↔ (name, f) ∈ formatNames := by
  unfold Argument.formatOfName? formatNames
  split <;> simp_all [eq_comm]

theorem small_of_mem {name : String} {f : Option FrameFormat} (named : (name, f) ∈ formatNames) :
    ∀ c ∈ name.toList, c.toLower = c := by
  have all : ∀ entry ∈ formatNames, ∀ c ∈ entry.1.toList, c.toLower = c := by
    unfold formatNames
    simp
  exact all _ named

/-! ## Groups -/

/-- The values that an option takes, and what the group of both means. -/
inductive Valued : ValueOption → String → Argument → Prop
  | format {name value : String} {f : Option FrameFormat} (named : (name, f) ∈ formatNames)
      (written : AnyCase name value) : Valued .format value (.format f)
  | frames {value : String} {n : ℕ} (written : Decimal.Writes value n) (fits : n < wordLimit) :
      Valued .frames value (.frames n)
  | interval {value : String} {n : ℕ} (written : Decimal.Writes value n) (fits : n < wordLimit) :
      Valued .interval value (.interval n)
  /-- Any token at all. -/
  | preferences (path : String) : Valued .preferences path (.preferences path)

/-- The tokens that are no operands, except as the value of an option. -/
def reserved : List String := ["--format", "--frames", "--interval-ms", "--config", "--json"]

/-- The tokens of a group, and what it means. -/
inductive Spells : List String → Argument → Prop
  | operand {token : String} (plain : token ∉ reserved) : Spells [token] (.operand token)
  | json : Spells ["--json"] .json
  | valued {option : ValueOption} {value : String} {a : Argument} (valued : Valued option value a) :
      Spells [option.name, value] a

/-- Tokens that belong together. -/
@[ext]
structure Group where
  tokens : List String
  meaning : Argument
  spelled : Spells tokens meaning

/-- A value is read just as its option says. -/
theorem ofValue_eq_ok {option : ValueOption} {value : String} {a : Argument} :
    Argument.ofValue option value = .ok a ↔ Valued option value a := by
  have numeral (wrap : ℕ → Argument) :
      ((Decimal.readNumeral wordLimit value).map wrap).mapError ArgumentError.numeral = .ok a ↔
        ∃ n, (Decimal.Writes value n ∧ n < wordLimit) ∧ wrap n = a := by
    simp only [← Decimal.readNumeral_eq_ok]
    cases Decimal.readNumeral wordLimit value <;> simp [Except.map, Except.mapError]
  cases option with
  | format =>
    unfold Argument.ofValue
    dsimp only
    cases found : Argument.formatOfName? (value.map Char.toLower) with
    | none =>
      refine ⟨nofun, ?_⟩
      rintro ⟨named, written⟩
      rw [(map_toLower_eq_iff (small_of_mem named)).mpr written, formatOfName?_eq_some.mpr named] at found
      cases found
    | some f =>
      have named := formatOfName?_eq_some.mp found
      constructor
      · rintro ⟨⟩
        exact .format named ((map_toLower_eq_iff (small_of_mem named)).mp rfl)
      · rintro ⟨named, written⟩
        rw [(map_toLower_eq_iff (small_of_mem named)).mpr written, formatOfName?_eq_some.mpr named] at found
        cases found
        rfl
  | frames =>
    refine (numeral .frames).trans ⟨?_, ?_⟩
    · rintro ⟨n, ⟨written, fits⟩, rfl⟩
      exact .frames written fits
    · intro valued
      cases valued with
      | frames written fits => exact ⟨_, ⟨written, fits⟩, rfl⟩
  | interval =>
    refine (numeral .interval).trans ⟨?_, ?_⟩
    · rintro ⟨n, ⟨written, fits⟩, rfl⟩
      exact .interval written fits
    · intro valued
      cases valued with
      | interval written fits => exact ⟨_, ⟨written, fits⟩, rfl⟩
  | preferences =>
    constructor
    · rintro ⟨⟩
      exact .preferences value
    · rintro ⟨⟩
      rfl

theorem ofName?_name (option : ValueOption) : ValueOption.ofName? option.name = some option := by
  cases option <;> rfl

theorem name_of_ofName? {token : String} {option : ValueOption} (named : ValueOption.ofName? token = some option) :
    token = option.name := by
  have same := List.find?_some named
  exact (beq_iff_eq.mp same).symm

theorem ValueOption.mem_all (option : ValueOption) : option ∈ all := by
  cases option <;> decide

/-- A token stands for itself if it is neither the switch nor the name of an option. -/
theorem plain_iff {token : String} :
    token ∉ reserved ↔ token ≠ Argument.jsonSwitch ∧ ValueOption.ofName? token = none := by
  have none_iff : ValueOption.ofName? token = none ↔ ∀ option : ValueOption, option.name ≠ token := by
    unfold ValueOption.ofName?
    rw [List.find?_eq_none]
    exact ⟨fun other option => by simpa using other option (ValueOption.mem_all option),
      fun other option _ => by simpa using other option⟩
  have each {p : ValueOption → Prop} : (∀ option, p option) ↔ p .format ∧ p .frames ∧ p .interval ∧ p .preferences :=
    ⟨fun all => ⟨all _, all _, all _, all _⟩, fun ⟨a, b, c, d⟩ option => by cases option <;> assumption⟩
  rw [none_iff, each]
  unfold reserved Argument.jsonSwitch ValueOption.name
  simp only [List.mem_cons, List.not_mem_nil, or_false, not_or, ne_eq, eq_comm]
  tauto

/-! ## Reading from left to right -/

/-- A group is read as what it means, whatever follows. -/
theorem groups_append {tokens : List String} {a : Argument} (spelled : Spells tokens a) (rest : List String) :
    Argument.groups (tokens ++ rest) = (do return a :: (← Argument.groups rest)) := by
  cases spelled with
  | operand plain =>
    obtain ⟨switch, name⟩ := plain_iff.mp plain
    rw [List.singleton_append, Argument.groups.eq_2 _ _ name, if_neg switch]
  | json => rfl
  | @valued option value a valued =>
    have switch : option.name ≠ Argument.jsonSwitch := by cases option <;> decide
    rw [List.cons_append, List.singleton_append, Argument.groups.eq_4 _ _ _ _ (ofName?_name option), if_neg switch,
      ofValue_eq_ok.mpr valued]
    rfl

/-- Groups that are spelled out are found again. -/
theorem groups_of_split (gs : List Group) :
    Argument.groups (gs.flatMap Group.tokens) = .ok (gs.map Group.meaning) := by
  induction gs with
  | nil => rfl
  | cons g gs ih =>
    rw [List.flatMap_cons, groups_append g.spelled, ih]
    rfl

/-- One group comes off the tokens, and what follows it is read by itself. -/
theorem split_append {front rest : List String} {a : Argument} {as : List Argument} (spelled : Spells front a)
    (split : ∀ as, Argument.groups rest = .ok as → ∃ gs : List Group, gs.flatMap Group.tokens = rest)
    (read : (do return a :: (← Argument.groups rest)) = Except.ok as) :
    ∃ gs : List Group, gs.flatMap Group.tokens = front ++ rest := by
  cases left : Argument.groups rest with
  | error =>
    rw [left] at read
    cases read
  | ok as =>
    obtain ⟨gs, rfl⟩ := split as left
    exact ⟨⟨front, a, spelled⟩ :: gs, rfl⟩

/-- Tokens that can be read are groups, one after the other. -/
theorem split_of_groups {tokens : List String} {as : List Argument} (read : Argument.groups tokens = .ok as) :
    ∃ gs : List Group, gs.flatMap Group.tokens = tokens := by
  fun_induction Argument.groups tokens generalizing as with
  | case1 => exact ⟨[], rfl⟩
  | case2 rest ih => exact split_append .json (fun _ => ih) read
  | case3 token switch rest name ih =>
    exact split_append (.operand (plain_iff.mpr ⟨switch, name⟩)) (fun _ => ih) read
  | case4 => cases read
  | case5 token switch option value rest name ih =>
    obtain rfl := name_of_ofName? name
    cases valued : Argument.ofValue option value with
    | error =>
      rw [valued] at read
      cases read
    | ok a =>
      rw [valued] at read
      exact split_append (.valued (ofValue_eq_ok.mp valued)) (fun _ => ih) read

/-- The number of tokens in a group. -/
def width : Argument → ℕ
  | .operand _ => 1
  | .json => 1
  | _ => 2

/-- An argument is as many tokens long as its kind says. -/
theorem length_of_spells {tokens : List String} {a : Argument} (spelled : Spells tokens a) :
    tokens.length = width a := by
  rcases spelled with plain | _ | valued
  · rfl
  · rfl
  · cases valued <;> rfl

/-- Tokens are split into groups in one way only. -/
theorem split_unique {gs gs' : List Group} (same : gs.flatMap Group.tokens = gs'.flatMap Group.tokens) : gs = gs' := by
  have meanings : gs.map Group.meaning = gs'.map Group.meaning := by
    have read := groups_of_split gs
    rw [same, groups_of_split gs'] at read
    exact (Except.ok.inj read).symm
  -- Groups that mean the same are of the same length, so the tokens come apart at the same places.
  induction gs generalizing gs' with
  | nil => exact (List.map_eq_nil_iff.mp meanings.symm).symm
  | cons g gs ih =>
    cases gs' with
    | nil => cases meanings
    | cons g' gs' =>
      obtain ⟨first, later⟩ := List.cons.inj meanings
      have lengths : g.tokens.length = g'.tokens.length := by
        rw [length_of_spells g.spelled, length_of_spells g'.spelled, first]
      obtain ⟨front, rest⟩ := List.append_inj same lengths
      rw [Group.ext front first, ih rest later]

/-! ## What the groups ask for -/

/-- The kinds of groups: operands, the switch, and one kind for each option. -/
inductive Kind where
  | operand
  | json
  | option (option : ValueOption)
deriving DecidableEq

namespace Argument

def kind : Argument → Kind
  | .operand _ => .operand
  | .json => .json
  | .format _ => .option .format
  | .frames _ => .option .frames
  | .interval _ => .option .interval
  | .preferences _ => .option .preferences

def operand? : Argument → Option String
  | .operand text => some text
  | _ => none

def format? : Argument → Option (Option FrameFormat)
  | .format f => some f
  | _ => none

def frames? : Argument → Option ℕ
  | .frames limit => some limit
  | _ => none

def interval? : Argument → Option ℕ
  | .interval millis => some millis
  | _ => none

def preferences? : Argument → Option String
  | .preferences path => some path
  | _ => none

end Argument

/-- What groups ask for: the operands in order, and for each option the last of its values. -/
def asked (as : List Argument) : Arguments where
  operands := as.filterMap Argument.operand?
  format := (as.filterMap Argument.format?).getLast?.getD none
  limit := (as.filterMap Argument.frames?).getLast?
  interval := (as.filterMap Argument.interval?).getLast?.getD 33
  preferences := (as.filterMap Argument.preferences?).getLast?
  json := decide (Argument.json ∈ as)

/-- One more argument, after the others. -/
theorem asked_concat (as : List Argument) (a : Argument) : asked (as ++ [a]) = (asked as).add a := by
  unfold asked Arguments.add
  cases a <;> simp [Argument.operand?, Argument.format?, Argument.frames?, Argument.interval?, Argument.preferences?]

theorem foldl_add (as : List Argument) : as.foldl Arguments.add {} = asked as := by
  induction as using List.reverseRecOn with
  | nil => rfl
  | append_singleton as a ih => rw [List.foldl_append, List.foldl_cons, List.foldl_nil, ih, asked_concat]

/-- What is read of groups is what they ask for, the last of each kind. -/
theorem read_of_split (gs : List Group) :
    Arguments.read (gs.flatMap Group.tokens) = .ok (asked (gs.map Group.meaning)) := by
  unfold Arguments.read
  rw [groups_of_split, ← foldl_add]
  rfl

/-- What is picked from groups of one kind only. -/
theorem filterMap_kind {α : Type} {f : Argument → Option α} {kind : Kind}
    (only : ∀ a, a.kind ≠ kind → f a = none) (as : List Argument) :
    (as.filter (·.kind = kind)).filterMap f = as.filterMap f := by
  rw [List.filterMap_filter]
  refine List.filterMap_congr fun a _ => ?_
  by_cases picked : a.kind = kind
  · rw [if_pos (decide_eq_true picked)]
  · rw [if_neg (by simpa using picked), only a picked]

/-- What groups ask for depends on the groups of each kind only, and not on how the kinds are mixed. -/
theorem asked_congr {as bs : List Argument}
    (same : ∀ kind, as.filter (·.kind = kind) = bs.filter (·.kind = kind)) : asked as = asked bs := by
  have picked {α : Type} (f : Argument → Option α) (kind : Kind) (only : ∀ a, a.kind ≠ kind → f a = none) :
      as.filterMap f = bs.filterMap f := by
    rw [← filterMap_kind only as, ← filterMap_kind only bs, same]
  have switch : Argument.json ∈ as ↔ Argument.json ∈ bs := by
    have mem (l : List Argument) : Argument.json ∈ l ↔ Argument.json ∈ l.filter (·.kind = .json) := by
      simp [List.mem_filter, Argument.kind]
    rw [mem as, mem bs, same]
  unfold asked
  rw [picked Argument.operand? .operand (by intro a; cases a <;> simp [Argument.kind, Argument.operand?]),
    picked Argument.format? (.option .format) (by intro a; cases a <;> simp [Argument.kind, Argument.format?]),
    picked Argument.frames? (.option .frames) (by intro a; cases a <;> simp [Argument.kind, Argument.frames?]),
    picked Argument.interval? (.option .interval) (by intro a; cases a <;> simp [Argument.kind, Argument.interval?]),
    picked Argument.preferences? (.option .preferences)
      (by intro a; cases a <;> simp [Argument.kind, Argument.preferences?]),
    decide_eq_decide.mpr switch]

/-- **Arguments are read as groups.** The arguments from the third one on can be read just if they are groups, one after
the other, and then they are so in one way only. The operands are taken in order and the last value of each option
counts, so that groups of different kinds can change places. -/
theorem read_groups (args : List String) :
    ((∃ a, Arguments.read (args.drop 2) = .ok a) ↔ ∃! gs : List Group, gs.flatMap Group.tokens = args.drop 2) ∧
    ∀ gs : List Group, gs.flatMap Group.tokens = args.drop 2 →
      Arguments.read (args.drop 2) = .ok (asked (gs.map Group.meaning)) ∧
      ∀ moved : List Group,
        (∀ kind, moved.filter (·.meaning.kind = kind) = gs.filter (·.meaning.kind = kind)) →
          Arguments.read (moved.flatMap Group.tokens) = Arguments.read (args.drop 2) := by
  refine ⟨⟨?_, ?_⟩, ?_⟩
  · rintro ⟨a, read⟩
    obtain ⟨as, groups⟩ : ∃ as, Argument.groups (args.drop 2) = .ok as := by
      unfold Arguments.read at read
      cases groups : Argument.groups (args.drop 2) with
      | error =>
        rw [groups] at read
        cases read
      | ok as => exact ⟨as, rfl⟩
    obtain ⟨gs, split⟩ := split_of_groups groups
    exact ⟨gs, split, fun gs' split' => split_unique (split'.trans split.symm)⟩
  · rintro ⟨gs, split, -⟩
    exact ⟨_, split ▸ read_of_split gs⟩
  · intro gs split
    have read := read_of_split gs
    rw [split] at read
    refine ⟨read, fun moved same => ?_⟩
    have kinds (kind : Kind) : (moved.map Group.meaning).filter (·.kind = kind) =
        (gs.map Group.meaning).filter (·.kind = kind) := by
      rw [List.filter_map, List.filter_map]
      exact congrArg (List.map Group.meaning) (same kind)
    rw [read, read_of_split, asked_congr kinds]

/-- A name of an option for the preferences, a format that is left open in the end, and the same with the operands moved
to the end. -/
theorem read_groups_moved :
    let command := ["camcorder", "record"]
    let tokens := ["--format", "Yuyv", "a", "--config", "--json", "b", "--format", "AUTO"]
    let moved := ["--format", "Yuyv", "--format", "AUTO", "--config", "--json", "a", "b"]
    Arguments.read ((command ++ tokens).drop 2) =
        .ok { operands := ["a", "b"], preferences := some "--json" } ∧
      Arguments.read moved = Arguments.read ((command ++ tokens).drop 2) := by
  intro command tokens moved
  have yuyv : Spells ["--format", "Yuyv"] (.format (some .packed422)) :=
    .valued (.format (show ("yuyv", some .packed422) ∈ formatNames by decide) (by simp [AnyCase]))
  have auto : Spells ["--format", "AUTO"] (.format none) :=
    .valued (.format (show ("auto", none) ∈ formatNames by decide) (by simp [AnyCase]))
  have preferences : Spells ["--config", "--json"] (.preferences "--json") := .valued (.preferences "--json")
  let a : Group := ⟨["a"], _, .operand (by decide)⟩
  let b : Group := ⟨["b"], _, .operand (by decide)⟩
  let gs : List Group := [⟨_, _, yuyv⟩, a, ⟨_, _, preferences⟩, b, ⟨_, _, auto⟩]
  let gs' : List Group := [⟨_, _, yuyv⟩, ⟨_, _, auto⟩, ⟨_, _, preferences⟩, a, b]
  obtain ⟨read, same⟩ := (read_groups (command ++ tokens)).2 gs rfl
  refine ⟨read, same gs' fun kind => ?_⟩
  rcases kind with _ | _ | option
  · rfl
  · rfl
  · cases option <;> rfl

end CommandLine

end Camcorder

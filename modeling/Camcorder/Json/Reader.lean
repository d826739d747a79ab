import Camcorder.Json.Value

/-!
# Reading JSON

The text goes through two machines, each of which takes one step for each symbol: `Lexer` turns characters into
tokens, `Parser` turns tokens into a value, with the arrays and objects that are still open on a stack. Both
refuse by having no next state, so reading is a fold and needs no bound.
-/

namespace Camcorder.Json

/-- The smallest meaningful parts of a JSON text. -/
inductive Token where
  | openArray
  | closeArray
  | openObject
  | closeObject
  | comma
  | colon
  /-- `null`, a truth value, a number or a string. -/
  | scalar (v : Value)

/-! ## Characters to tokens -/

namespace Lexer

/-- A string in the making: its characters in reverse, the first half of a surrogate pair that waits for the
second, and whether all halves met so far found each other. -/
structure Partial where
  chars : List Char := []
  high : Option Nat := none
  paired : Bool := true

/-- What the character to come belongs to. -/
inductive Mode where
  | between
  /-- A word or numeral, in reverse. -/
  | word (chars : List Char)
  | string (s : Partial)
  /-- The character after a backslash. -/
  | escape (s : Partial)
  /-- The hexadecimal digits of an escape: how many are to come, and the number so far. -/
  | unit (s : Partial) (left value : Nat)

/-- Appends a character to a string. A half of a pair that waits has waited in vain. -/
def Partial.push (s : Partial) (c : Char) : Partial :=
  { chars := c :: s.chars, high := none, paired := s.paired && s.high.isNone }

/-- Appends a UTF-16 unit to a string. -/
def Partial.pushUnit (s : Partial) (n : Nat) : Partial :=
  let isHigh := 0xD800 ≤ n && n < 0xDC00
  let isLow := 0xDC00 ≤ n && n < 0xE000
  match s.high with
  | some h =>
    if isLow then
      { s with chars := Char.ofNat (0x10000 + (h - 0xD800) * 0x400 + (n - 0xDC00)) :: s.chars, high := none }
    else { s with high := none, paired := false }
  | none =>
    if isHigh then { s with high := some n }
    else if isLow then { s with paired := false }
    else { s with chars := Char.ofNat n :: s.chars }

/-- The string, once its closing quote is met. -/
def Partial.close (s : Partial) : Value :=
  .text (if s.paired && s.high.isNone then some (String.ofList s.chars.reverse) else none)

/-- The character that a backslash and `c` stand for. -/
def escaped? (c : Char) : Option Char :=
  [('"', '"'), ('\\', '\\'), ('/', '/'), ('b', '\x08'), ('f', '\x0c'), ('n', '\n'), ('r', '\r'), ('t', '\t')].lookup c

/-- The scalar that a word or numeral names. -/
def scalar? (word : List Char) : Option Value :=
  if word == "null".toList then some .null
  else if word == "true".toList then some (.bool true)
  else if word == "false".toList then some (.bool false)
  else (Numeral.ofChars? word).map fun _ => .number (String.ofList word)

def isBlank (c : Char) : Bool := c == ' ' || c == '\t' || c == '\n' || c == '\r'

def isWordChar (c : Char) : Bool := c.isAlphanum || c == '-' || c == '+' || c == '.'

/-- A character between tokens: the mode it leads to, and the token it is, if it is one by itself. -/
def start? (c : Char) : Option (Mode × List Token) :=
  if isBlank c then some (.between, [])
  else if isWordChar c then some (.word [c], [])
  else match c with
    | '"' => some (.string {}, [])
    | '[' => some (.between, [.openArray])
    | ']' => some (.between, [.closeArray])
    | '\x7b' => some (.between, [.openObject])
    | '\x7d' => some (.between, [.closeObject])
    | ',' => some (.between, [.comma])
    | ':' => some (.between, [.colon])
    | _ => none

/-- The mode after `c`, and the tokens that `c` completes. -/
def step? (mode : Mode) (c : Char) : Option (Mode × List Token) :=
  match mode with
  | .between => start? c
  | .word chars =>
    if isWordChar c then some (.word (c :: chars), [])
    else do
      let v ← scalar? chars.reverse
      let (mode, tokens) ← start? c
      return (mode, .scalar v :: tokens)
  | .string s =>
    if c == '"' then some (.between, [.scalar s.close])
    else if c == '\\' then some (.escape s, [])
    else if c.toNat < 32 then none
    else some (.string (s.push c), [])
  | .escape s =>
    if c == 'u' then some (.unit s 4 0, [])
    else (escaped? c).map fun e => (.string (s.push e), [])
  | .unit s left value =>
    (Decimal.hexDigit? c).map fun d =>
      let value := value * 16 + d
      if left ≤ 1 then (.string (s.pushUnit value), []) else (.unit s (left - 1) value, [])

/-- The tokens of a text, in order. -/
def tokens? (text : List Char) : Option (List Token) := do
  let (mode, done) ← text.foldlM (fun (mode, done) c => do
    let (mode, new) ← step? mode c
    return (mode, new.reverse ++ done)) (Mode.between, [])
  match mode with
  | .between => return done.reverse
  | .word chars => return (.scalar (← scalar? chars.reverse) :: done).reverse
  | _ => none

end Lexer

/-! ## Tokens to a value -/

namespace Parser

/-- An array or object that is still open, with what it holds so far in reverse. -/
inductive Frame where
  | array (items : List Value)
  /-- The value to come belongs to `key`. -/
  | object (fields : List (Option String × Value)) (key : Option String)

/-- What may come next. -/
inductive State where
  /-- A value; `first` says that an array may also close. -/
  | value (stack : List Frame) (first : Bool)
  /-- The key of a field; `first` says that the object may also close. -/
  | key (stack : List Frame) (fields : List (Option String × Value)) (first : Bool)
  | colon (stack : List Frame) (fields : List (Option String × Value)) (key : Option String)
  /-- A comma or the end of the innermost container, after the value `v`. -/
  | after (v : Value) (stack : List Frame)

/-- The state after a token. -/
def step? : State → Token → Option State
  | .value stack _, .scalar v => some (.after v stack)
  | .value stack _, .openArray => some (.value (.array [] :: stack) true)
  | .value stack _, .openObject => some (.key stack [] true)
  | .value (.array [] :: stack) true, .closeArray => some (.after (.array []) stack)
  | .key stack fields _, .scalar (.text k) => some (.colon stack fields k)
  | .key stack _ true, .closeObject => some (.after (.object []) stack)
  | .colon stack fields k, .colon => some (.value (.object fields k :: stack) false)
  | .after v (.array items :: stack), .comma => some (.value (.array (v :: items) :: stack) false)
  | .after v (.array items :: stack), .closeArray => some (.after (.array (v :: items).reverse) stack)
  | .after v (.object fields k :: stack), .comma => some (.key stack ((k, v) :: fields) false)
  | .after v (.object fields k :: stack), .closeObject =>
    some (.after (.object ((k, v) :: fields).reverse) stack)
  | _, _ => none

end Parser

/-- The value that a text writes, if it writes one and nothing else. -/
def read? (text : String) : Option Value := do
  let tokens ← Lexer.tokens? text.toList
  match ← tokens.foldlM Parser.step? (.value [] false) with
  | .after v [] => some v
  | _ => none

end Camcorder.Json

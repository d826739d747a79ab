import Camcorder.Decimal.Text

/-!
# TOML strings

A string stands between quotation marks of one of four styles: double or single, once or three times on either
side. Between double marks there are escapes, between single ones none; between threefold marks the text may go
over several lines. `Style.encode` writes a text in a style, `Style.decode` reads one.
-/

namespace Camcorder.Toml

/-- A style of quotation. -/
structure Style where
  mark : Char
  /-- Whether a backslash begins an escape. -/
  escapes : Bool
  /-- Whether the mark is threefold and the text may have several lines. -/
  multiline : Bool
deriving DecidableEq, Repr

namespace Style

def basic : Style := { mark := '"', escapes := true, multiline := false }

def literal : Style := { mark := '\'', escapes := false, multiline := false }

def multiBasic : Style := { mark := '"', escapes := true, multiline := true }

def multiLiteral : Style := { mark := '\'', escapes := false, multiline := true }

/-- The marks on either side. -/
def delimiter (s : Style) : List Char := List.replicate (if s.multiline then 3 else 1) s.mark

/-! ## Reading -/

/-- Whether a character may stand for itself: any but the control characters, of which only the tab may. -/
def isPlain (c : Char) : Bool := c == '\t' || (32 ≤ c.toNat && c.toNat != 127)

/-- What the character to come belongs to. -/
inductive Mode where
  | text
  /-- Marks in a row, which may be the closing ones. -/
  | marks (n : Nat)
  /-- The character after a carriage return. -/
  | carriage
  /-- The character after a backslash. -/
  | escape
  /-- The hexadecimal digits of an escape: how many are to come, and the number so far. -/
  | unit (left value : Nat)
  /-- Blanks after a backslash, up to the end of the line. -/
  | lineEnd
  /-- A carriage return among blanks that are passed over. -/
  | blankCarriage
  /-- Blanks and line ends that are passed over. -/
  | blanks

/-- The character that a backslash and `c` stand for. -/
def escaped? (c : Char) : Option Char :=
  [('b', '\x08'), ('t', '\t'), ('n', '\n'), ('f', '\x0c'), ('r', '\r'), ('"', '"'), ('\\', '\\')].lookup c

/-- The character with a number, if there is one. -/
def scalar? (n : Nat) : Option Char := if n.isValidChar then some (Char.ofNat n) else none

/-- A character of the text other than a mark: the mode after it and the text, in reverse. -/
def textStep? (s : Style) (c : Char) (out : List Char) : Option (Mode × List Char) :=
  if s.escapes && c == '\\' then some (.escape, out)
  else if isPlain c then some (.text, c :: out)
  else if s.multiline && c == '\n' then some (.text, '\n' :: out)
  else if s.multiline && c == '\r' then some (.carriage, out)
  else none

/-- Reads the text up to the closing marks, and answers it with what follows them. Up to two marks in a row belong
to the text, at its end too. -/
def scan? (s : Style) : Mode → (out : List Char) → List Char → Option (List Char × List Char)
  | .marks n, out, [] => if n < 3 then none else some ((List.replicate (n - 3) s.mark ++ out).reverse, [])
  | _, _, [] => none
  | mode, out, c :: cs =>
    match mode with
    | .text =>
      if c == s.mark then
        if s.multiline then scan? s (.marks 1) out cs else some (out.reverse, cs)
      else match textStep? s c out with
        | some (mode, out) => scan? s mode out cs
        | none => none
    | .marks n =>
      if c == s.mark then
        if n = 4 then some ((s.mark :: s.mark :: out).reverse, cs) else scan? s (.marks (n + 1)) out cs
      else if 3 ≤ n then some ((List.replicate (n - 3) s.mark ++ out).reverse, c :: cs)
      else match textStep? s c (List.replicate n s.mark ++ out) with
        | some (mode, out) => scan? s mode out cs
        | none => none
    | .carriage => if c == '\n' then scan? s .text ('\n' :: out) cs else none
    | .escape =>
      if c == 'u' then scan? s (.unit 4 0) out cs
      else if c == 'U' then scan? s (.unit 8 0) out cs
      else match escaped? c with
        | some e => scan? s .text (e :: out) cs
        | none =>
          if s.multiline then
            if c == ' ' || c == '\t' then scan? s .lineEnd out cs
            else if c == '\n' then scan? s .blanks out cs
            else if c == '\r' then scan? s .blankCarriage out cs
            else none
          else none
    | .unit left value =>
      match Decimal.hexDigit? c with
      | none => none
      | some d =>
        if left ≤ 1 then
          match scalar? (value * 16 + d) with
          | some e => scan? s .text (e :: out) cs
          | none => none
        else scan? s (.unit (left - 1) (value * 16 + d)) out cs
    | .lineEnd =>
      if c == ' ' || c == '\t' then scan? s .lineEnd out cs
      else if c == '\n' then scan? s .blanks out cs
      else if c == '\r' then scan? s .blankCarriage out cs
      else none
    | .blankCarriage => if c == '\n' then scan? s .blanks out cs else none
    | .blanks =>
      if c == ' ' || c == '\t' || c == '\n' then scan? s .blanks out cs
      else if c == '\r' then scan? s .blankCarriage out cs
      else if c == s.mark then scan? s (.marks 1) out cs
      else match textStep? s c out with
        | some (mode, out) => scan? s mode out cs
        | none => none

/-- Drops a line end at the front. -/
def dropLineEnd : List Char → List Char
  | '\n' :: cs => cs
  | '\r' :: '\n' :: cs => cs
  | cs => cs

/-- Reads a string whose opening marks have been passed. A line end directly after threefold marks does not
count. -/
def decode (s : Style) (cs : List Char) : Option (String × List Char) :=
  (s.scan? .text [] (if s.multiline then dropLineEnd cs else cs)).map fun (text, rest) => (String.ofList text, rest)

/-! ## Writing -/

/-- The longest run of a character. -/
def longestRun (c : Char) (text : List Char) : Nat :=
  (text.foldl (fun (longest, run) d =>
    let run := if d == c then run + 1 else 0
    (max longest run, run)) (0, 0)).1

/-- Whether a text has characters that cannot be written as themselves, line ends apart. -/
def hasControl (text : List Char) : Bool := text.any fun c => !isPlain c && c != '\n'

/-- The style in which a text is written: the first that holds it without escapes, or else one with escapes. A tab
is escaped all the same where that is possible. -/
def choose (text : List Char) : Style :=
  let lines := text.contains '\n'
  let control := hasControl text
  if !control && !text.contains '\\' && !text.contains '"' && !lines then basic
  else if !control && !text.contains '\'' && !lines then literal
  else if !control && !text.contains '\\' && longestRun '"' text < 3 then multiBasic
  else if !control && longestRun '\'' text < 3 then multiLiteral
  else if lines then multiBasic
  else basic

/-- The digits of a number below 2 ^ 16. -/
def hexDigits (n : Nat) : List Char :=
  [n / 4096, n / 256 % 16, n / 16 % 16, n % 16].map (Decimal.hexDigit true)

/-- A character as it stands in a text with escapes, after `run` double marks in a row. -/
def escape (s : Style) (run : Nat) (c : Char) : List Char :=
  if c == '"' then (if run < (if s.multiline then 2 else 0) then ['"'] else ['\\', '"'])
  else if c == '\\' then ['\\', '\\']
  else if c == '\x08' then ['\\', 'b']
  else if c == '\t' then ['\\', 't']
  else if c == '\n' then (if s.multiline then ['\n'] else ['\\', 'n'])
  else if c == '\x0c' then ['\\', 'f']
  else if c == '\r' then ['\\', 'r']
  else if isPlain c then [c]
  else ['\\', 'u'] ++ hexDigits c.toNat

/-- A text with escapes; `run` double marks came directly before. -/
def escapeAll (s : Style) : (run : Nat) → List Char → List Char
  | _, [] => []
  | run, c :: cs => escape s run c ++ escapeAll s (if c == '"' then run + 1 else 0) cs

/-- A text in a style. A text of several lines begins on a line of its own. -/
def encode (s : Style) (text : List Char) : List Char :=
  s.delimiter ++ (if s.multiline && text.contains '\n' then ['\n'] else []) ++
    (if s.escapes then escapeAll s 0 text else text) ++ s.delimiter

end Style

/-- A text between quotation marks. -/
def quote (text : String) : String :=
  String.ofList ((Style.choose text.toList).encode text.toList)

end Camcorder.Toml

import Camcorder.Toml.Scalar

/-!
# Reading TOML

A document is a sequence of lines: blank ones, headers, which name the table that the lines after them belong to,
and pairs of a key and a value. Values may go over several lines.

Readers answer with what they read and the characters after it. Those for nested values take a bound on the steps
they may need; the length of the text is one. How deep values may be nested is limited, and so is the number of
parts of a key.
-/

namespace Camcorder.Toml

/-- How deep values may be nested, and how many parts a key may have. -/
def greatestDepth : Nat := 79

/-! ## Blanks and comments -/

/-- Drops blanks on a line. -/
def skipBlanks (cs : List Char) : List Char := cs.dropWhile fun c => c == ' ' || c == '\t'

/-- Drops a comment up to the end of its line. It must not hold control characters. -/
def skipComment? : List Char → Option (List Char)
  | [] => some []
  | '\n' :: cs => some ('\n' :: cs)
  | '\r' :: '\n' :: cs => some ('\n' :: cs)
  | c :: cs => if Style.isPlain c then skipComment? cs else none

/-- Drops blanks, line ends and comments; `inComment` says that a comment has begun. -/
def skipLines? : (inComment : Bool) → List Char → Option (List Char)
  | _, [] => some []
  | _, '\n' :: cs => skipLines? false cs
  | _, '\r' :: '\n' :: cs => skipLines? false cs
  | true, c :: cs => if Style.isPlain c then skipLines? true cs else none
  | false, c :: cs =>
    if c == ' ' || c == '\t' then skipLines? false cs
    else if c == '#' then skipLines? true cs
    else some (c :: cs)

/-- Drops the rest of a line, which may only be blanks and a comment, with the line end. -/
def endLine? (cs : List Char) : Option (List Char) :=
  match skipBlanks cs with
  | [] => some []
  | '\n' :: cs => some cs
  | '\r' :: '\n' :: cs => some cs
  | '#' :: cs => (skipComment? cs).map (·.drop 1)
  | _ => none

/-! ## Keys -/

def isKeyChar (c : Char) : Bool := c.isAlphanum || c == '_' || c == '-'

/-- Takes one part of a key, between quotation marks or not. -/
def keyPart? : List Char → Option (String × List Char)
  | '"' :: cs => Style.basic.decode cs
  | '\'' :: cs => Style.literal.decode cs
  | cs =>
    let (word, rest) := cs.span isKeyChar
    if word.isEmpty then none else some (String.ofList word, rest)

/-- Takes parts of a key with points between them, as many as `most`. -/
def keyParts? : (most : Nat) → List Char → Option (List String × List Char)
  | 0, _ => none
  | most + 1, cs => do
    let (part, cs) ← keyPart? (skipBlanks cs)
    match skipBlanks cs with
    | '.' :: cs =>
      let (parts, cs) ← keyParts? most cs
      return (part :: parts, cs)
    | cs => return ([part], cs)

/-- Takes a key. -/
def key? (cs : List Char) : Option (List String × List Char) := keyParts? greatestDepth cs

/-! ## Values -/

/-- Takes a string, if there is one. -/
def string? : List Char → Option (Option (String × List Char))
  | '"' :: '"' :: '"' :: cs => some (Style.multiBasic.decode cs)
  | '\'' :: '\'' :: '\'' :: cs => some (Style.multiLiteral.decode cs)
  | '"' :: cs => some (Style.basic.decode cs)
  | '\'' :: cs => some (Style.literal.decode cs)
  | _ => none

mutual

/-- Takes a value that lies `depth` deep in others. -/
def value? : (bound depth : Nat) → List Char → Option (Value × List Char)
  | 0, _, _ => none
  | bound + 1, depth, cs =>
    match string? cs with
    | some found => found.map fun (s, rest) => (.text s, rest)
    | none =>
      match cs with
      | '[' :: cs => if depth < greatestDepth then do items? bound (depth + 1) (← skipLines? false cs) [] else none
      | '\x7b' :: cs =>
        if depth < greatestDepth then
          match skipBlanks cs with
          | '\x7d' :: rest => some (.table .closed [], rest)
          | cs => pairs? bound (depth + 1) cs []
        else none
      | cs => do
        let (word, rest) := takeWord cs
        return (← ofWord? word, rest)

/-- Takes the items of an array up to the closing bracket; `done` are those before, in reverse. -/
def items? : (bound depth : Nat) → List Char → (done : List Value) → Option (Value × List Char)
  | 0, _, _, _ => none
  | _ + 1, _, ']' :: rest, done => some (.array done.reverse, rest)
  | bound + 1, depth, cs, done => do
    let (v, cs) ← value? bound depth cs
    match ← skipLines? false cs with
    | ',' :: cs => items? bound depth (← skipLines? false cs) (v :: done)
    | ']' :: rest => return (.array (v :: done).reverse, rest)
    | _ => none

/-- Takes the pairs of a table between braces, at least one, up to the closing brace. -/
def pairs? : (bound depth : Nat) → List Char → (entries : Entries) → Option (Value × List Char)
  | 0, _, _, _ => none
  | bound + 1, depth, cs, entries => do
    let (path, cs) ← key? cs
    let (v, cs) ← value? bound depth (skipBlanks (← expect? '=' cs))
    let entries ← entries.assign? path v .closed
    match skipBlanks cs with
    | ',' :: cs => pairs? bound depth cs entries
    | '\x7d' :: rest => return (.table .closed entries, rest)
    | _ => none

end

/-! ## Documents -/

/-- A document in the making: what it holds, and the header that is in force. -/
structure Draft where
  entries : Entries := []
  header : List String := []

namespace Draft

/-- Takes up a header. -/
def addHeader? (d : Draft) (path : List String) (repeated : Bool) : Option Draft := do
  let last ← path.getLast?
  let change := if repeated then Entries.append? last else Entries.open? last
  return { entries := ← d.entries.update? false change path.dropLast .headed, header := path }

/-- Takes up a pair, in the table of the header in force. -/
def addPair? (d : Draft) (path : List String) (v : Value) : Option Draft := do
  return { d with entries := ← d.entries.update? false (fun kind entries => entries.assign? path v kind) d.header .headed }

end Draft

/-- Takes a line other than a blank one: what it makes of the document, and what follows it. -/
def line? (bound : Nat) (d : Draft) (cs : List Char) : Option (Draft × List Char) := do
  match cs with
  | '[' :: '[' :: cs =>
    let (path, cs) ← key? cs
    let cs ← expect? ']' (← expect? ']' cs)
    return (← d.addHeader? path true, ← endLine? cs)
  | '[' :: cs =>
    let (path, cs) ← key? cs
    return (← d.addHeader? path false, ← endLine? (← expect? ']' cs))
  | cs =>
    let (path, cs) ← key? cs
    let (v, cs) ← value? bound 0 (skipBlanks (← expect? '=' cs))
    return (← d.addPair? path v, ← endLine? cs)

/-- Reads lines to the end. -/
def lines? : (bound : Nat) → Draft → List Char → Option Draft
  | 0, _, _ => none
  | bound + 1, d, cs => do
    match ← skipLines? false cs with
    | [] => return d
    | cs =>
      let (d, cs) ← line? bound d cs
      lines? bound d cs

/-- The value that a document writes. -/
def read? (text : String) : Option Value := do
  let cs := match text.toList with
    | '\ufeff' :: cs => cs
    | cs => cs
  return .table .headed (← lines? (cs.length + 1) {} cs).entries

end Camcorder.Toml

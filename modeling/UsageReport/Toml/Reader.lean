import UsageReport.Toml.Scalar
import UsageReport.Toml.Tree

/-! Reading TOML text: statements line by line, each a key with a value or the header of a table,
and the table that they make. -/

namespace UsageReport.Toml

open UsageReport.Json (Fields)

def isControl (c : Char) : Bool := (c.toNat < 0x20 && c != '\t') || c.toNat == 0x7F

def isSpace (c : Char) : Bool := c == ' ' || c == '\t'

def skipSpaces (s : List Char) : List Char := s.dropWhile isSpace

/-- The text behind spaces, line ends and comments, of which one may be open. -/
def skipGap? (comment : Bool) : List Char → Option (List Char)
  | [] => some []
  | '\n' :: rest => skipGap? false rest
  | '\r' :: '\n' :: rest => skipGap? false rest
  | c :: rest =>
    if comment then if isControl c then none else skipGap? true rest
    else if isSpace c then skipGap? false rest
    else if c = '#' then skipGap? true rest
    else some (c :: rest)

/-- The text behind the end of a statement: spaces, a comment, and the end of the line. -/
def endLine? (s : List Char) : Option (List Char) :=
  match skipSpaces s with
  | '#' :: comment =>
    match comment.dropWhile (! isControl ·) with
    | [] => some []
    | '\n' :: rest => some rest
    | '\r' :: '\n' :: rest => some rest
    | _ => none
  | [] => some []
  | '\n' :: rest => some rest
  | '\r' :: '\n' :: rest => some rest
  | _ => none

/-! ### Texts -/

/-- The character with the code that hexadecimal digits spell. -/
def charOf? (digits : List Char) : Option Char :=
  if digits.all (isDigitOf 16) then
    let code := digits.foldl (fun n c => 16 * n + digitValue c) 0
    if code < 0xD800 ∨ (0xDFFF < code ∧ code < 0x110000) then some (Char.ofNat code) else none
  else none

/-- The character behind a backslash, and the text behind it. -/
def escape? : List Char → Option (Char × List Char)
  | 'b' :: rest => some ('\x08', rest)
  | 't' :: rest => some ('\t', rest)
  | 'n' :: rest => some ('\n', rest)
  | 'f' :: rest => some ('\x0c', rest)
  | 'r' :: rest => some ('\r', rest)
  | 'e' :: rest => some ('\x1b', rest)
  | '"' :: rest => some ('"', rest)
  | '\\' :: rest => some ('\\', rest)
  | 'x' :: a :: b :: rest => (charOf? [a, b]).map (·, rest)
  | 'u' :: a :: b :: c :: d :: rest => (charOf? [a, b, c, d]).map (·, rest)
  | 'U' :: a :: b :: c :: d :: e :: f :: g :: h :: rest =>
    (charOf? [a, b, c, d, e, f, g, h]).map (·, rest)
  | _ => none

/-- The text up to a double quote. -/
def basic? : Nat → List Char → Option (List Char × List Char)
  | 0, _ => none
  | fuel + 1, s =>
    match s with
    | '"' :: rest => some ([], rest)
    | '\\' :: rest => do
      let (c, rest) ← escape? rest
      let (text, rest) ← basic? fuel rest
      return (c :: text, rest)
    | c :: rest =>
      if isControl c then none
      else (basic? fuel rest).map fun (text, rest) => (c :: text, rest)
    | [] => none

/-- The text up to a single quote. -/
def literal? : List Char → Option (List Char × List Char)
  | '\'' :: rest => some ([], rest)
  | c :: rest =>
    if isControl c then none else (literal? rest).map fun (text, rest) => (c :: text, rest)
  | [] => none

/-- The quotes before the end of a text over several lines and the text behind it: three quotes end
it, and up to two more belong to it. -/
def closing? (quote : Char) (s : List Char) : Option (List Char × List Char) :=
  let count := min 5 (s.takeWhile (· = quote)).length
  if 3 ≤ count then some (List.replicate (count - 3) quote, s.drop count) else none

/-- The text from its first character that is neither a space nor a line end. -/
def skipLines : List Char → List Char
  | '\n' :: rest => skipLines rest
  | '\r' :: '\n' :: rest => skipLines rest
  | c :: rest => if isSpace c then skipLines rest else c :: rest
  | [] => []

/-- The text behind a backslash at the end of a line: all spaces and line ends are skipped. -/
def continued? (s : List Char) : Option (List Char) :=
  match skipSpaces s with
  | '\n' :: rest => some (skipLines rest)
  | '\r' :: '\n' :: rest => some (skipLines rest)
  | _ => none

/-- The text over several lines up to three quotes. A backslash escapes if `escapes` is set. -/
def lines? (quote : Char) (escapes : Bool) : Nat → List Char → Option (List Char × List Char)
  | 0, _ => none
  | fuel + 1, s =>
    match closing? quote s with
    | some found => some found
    | none =>
      match s with
      | [] => none
      | '\r' :: '\n' :: rest =>
        (lines? quote escapes fuel rest).map fun (text, rest) => ('\r' :: '\n' :: text, rest)
      | c :: rest =>
        if c = '\\' ∧ escapes then
          match continued? rest with
          | some rest => lines? quote escapes fuel rest
          | none => do
            let (c, rest) ← escape? rest
            let (text, rest) ← lines? quote escapes fuel rest
            return (c :: text, rest)
        else if isControl c ∧ c ≠ '\n' then none
        else (lines? quote escapes fuel rest).map fun (text, rest) => (c :: text, rest)

def skipLineEnd : List Char → List Char
  | '\n' :: rest => rest
  | '\r' :: '\n' :: rest => rest
  | s => s

/-- A text between quotes, of which the first comes next. -/
def text? (s : List Char) : Option (List Char × List Char) :=
  match s with
  | '"' :: '"' :: '"' :: rest => lines? '"' true (s.length + 1) (skipLineEnd rest)
  | '\'' :: '\'' :: '\'' :: rest => lines? '\'' false (s.length + 1) (skipLineEnd rest)
  | '"' :: rest => basic? (s.length + 1) rest
  | '\'' :: rest => literal? rest
  | _ => none

/-! ### Keys -/

def isNameChar (c : Char) : Bool := c.isAlphanum || c == '_' || c == '-'

/-- A name, with quotes or without. -/
def name? (s : List Char) : Option (String × List Char) :=
  match s with
  | '"' :: rest => (basic? (s.length + 1) rest).map fun (name, rest) => (String.ofList name, rest)
  | '\'' :: rest => (literal? rest).map fun (name, rest) => (String.ofList name, rest)
  | _ =>
    let name := s.takeWhile isNameChar
    if name = [] then none else some (String.ofList name, s.dropWhile isNameChar)

/-- Names with points between them, and the text behind the spaces after them. -/
def path? : Nat → List Char → Option (List String × List Char)
  | 0, _ => none
  | fuel + 1, s => do
    let (name, rest) ← name? (skipSpaces s)
    match skipSpaces rest with
    | '.' :: rest => do
      let (names, rest) ← path? fuel rest
      return (name :: names, rest)
    | rest => return ([name], rest)

def splitPath? (path : List String) : Option (List String × String) :=
  path.getLast?.map (path.dropLast, ·)

def key? (s : List Char) : Option (List String × String × List Char) := do
  let (path, rest) ← path? (s.length + 1) s
  let (path, name) ← splitPath? path
  return (path, name, ← after? '=' rest)

/-! ### Values -/

def isWordChar (c : Char) : Bool := isNameChar c || c == '+' || c == '.' || c == ':'

/-- The word that comes next. A date and a time may have a space between them. -/
def word (s : List Char) : List Char × List Char :=
  let first := s.takeWhile isWordChar
  match afterDate? first, s.dropWhile isWordChar with
  | some [], ' ' :: c :: rest =>
    if c.isDigit then
      (first ++ ' ' :: (c :: rest).takeWhile isWordChar, (c :: rest).dropWhile isWordChar)
    else (first, ' ' :: c :: rest)
  | _, rest => (first, rest)

def depthLimit : Nat := 80

mutual

/-- A value within `depth` open arrays and tables. The fuel bounds the steps. -/
def value? : Nat → Nat → List Char → Option (Value × List Char)
  | 0, _, _ => none
  | fuel + 1, depth, s =>
    match s with
    | '[' :: rest => if depth < depthLimit then items? fuel (depth + 1) [] rest else none
    | '\x7b' :: rest => if depth < depthLimit then members? fuel (depth + 1) [] rest else none
    | c :: _ =>
      if c = '"' ∨ c = '\'' then
        (text? s).map fun (text, rest) => (.string (String.ofList text), rest)
      else
        let (first, rest) := word s
        (scalar? first).map (·, rest)
    | [] => none

/-- The items of an array up to its end, behind those in `done`. -/
def items? : Nat → Nat → List Value → List Char → Option (Value × List Char)
  | 0, _, _, _ => none
  | fuel + 1, depth, done, s => do
    match ← skipGap? false s with
    | ']' :: rest => some (.array done, rest)
    | s =>
      let (v, rest) ← value? fuel depth s
      match ← skipGap? false rest with
      | ',' :: rest => items? fuel depth (done ++ [v]) rest
      | ']' :: rest => some (.array (done ++ [v]), rest)
      | _ => none

/-- The members of a table within braces up to its end, behind those in `done`. -/
def members? : Nat → Nat → Branch → List Char → Option (Value × List Char)
  | 0, _, _, _ => none
  | fuel + 1, depth, done, s => do
    match ← skipGap? false s with
    | '\x7d' :: rest => some (.table (Node.closeFields done), rest)
    | s =>
      let (path, name, rest) ← key? s
      let (v, rest) ← value? fuel depth (skipSpaces rest)
      let done ← done.put? path name v
      match ← skipGap? false rest with
      | ',' :: rest => members? fuel depth done rest
      | '\x7d' :: rest => some (.table (Node.closeFields done), rest)
      | _ => none

end

/-! ### Documents -/

/-- A statement of a document. -/
inductive Statement where
  /-- A value in the table that the last header defined, or in one below it. -/
  | pair (path : List String) (name : String) (v : Value)
  /-- The header of a table. -/
  | table (path : List String) (name : String)
  /-- The header of a table at the end of a list. -/
  | item (path : List String) (name : String)

/-- A statement and the text behind its line. -/
def statement? (s : List Char) : Option (Statement × List Char) :=
  match s with
  | '[' :: '[' :: rest => do
    let (path, rest) ← path? (s.length + 1) rest
    let (path, name) ← splitPath? path
    let rest ← endLine? (← after? ']' (← after? ']' rest))
    return (.item path name, rest)
  | '[' :: rest => do
    let (path, rest) ← path? (s.length + 1) rest
    let (path, name) ← splitPath? path
    let rest ← endLine? (← after? ']' rest)
    return (.table path name, rest)
  | _ => do
    let (path, name, rest) ← key? s
    let (v, rest) ← value? (2 * s.length + 2) 0 (skipSpaces rest)
    let rest ← endLine? rest
    return (.pair path name v, rest)

/-- All statements of a text. The fuel bounds their number. -/
def statements? : Nat → List Char → Option (List Statement)
  | 0, _ => none
  | fuel + 1, s => do
    match ← skipGap? false s with
    | [] => some []
    | s =>
      let (first, rest) ← statement? s
      return first :: (← statements? fuel rest)

/-- A document while its statements are read. -/
structure Draft where
  /-- The path of the last header. -/
  current : List String
  root : Branch

/-- The document with one more statement. -/
def Draft.add? (d : Draft) : Statement → Option Draft
  | .pair path name v => do
    return { d with root := ← d.root.within? d.current (·.put? path name v) }
  | .table path name => do
    return ⟨path ++ [name], ← d.root.within? path (Branch.define? name)⟩
  | .item path name => do
    return ⟨path ++ [name], ← d.root.within? path (Branch.append? name)⟩

/-- Reads a document. A byte order mark may come first. -/
def parse? (text : String) : Option (Fields Value) := do
  let s := match text.toList with
    | '\ufeff' :: rest => rest
    | s => s
  let draft ← (← statements? (s.length + 1) s).foldlM Draft.add? ⟨[], []⟩
  return Node.closeFields draft.root

end UsageReport.Toml

import UsageReport.Json.Number

/-! Reading JSON text in one pass over its characters. The reader is a machine with two parts: the
lexeme that is being read and the place in the document, a stack of open containers. Reading a text
is a fold of its steps, so reading `s ++ t` is reading `t` from where reading `s` ended. -/

namespace UsageReport.Json

/-- A container that is still open. -/
inductive Frame where
  /-- An array and its items so far, the last one first. -/
  | items (done : List Value)
  /-- An object, its fields so far and the key of the value being read. -/
  | member (done : Object) (key : String)

/-- What may come next, with the open containers from the inside out. -/
inductive Place where
  | value (outer : List Frame)
  /-- The first item of an array, or its end. -/
  | firstItem (outer : List Frame)
  | key (done : Object) (outer : List Frame)
  /-- The first key of an object, or its end. -/
  | firstKey (outer : List Frame)
  /-- The colon behind a key. -/
  | colon (done : Object) (key : String) (outer : List Frame)
  /-- A value has ended: a comma, the end of its container, or the end of the text. -/
  | ended (v : Value) (outer : List Frame)

/-- The parts of JSON text between its blanks. -/
inductive Token where
  | arrayStart
  | arrayEnd
  | objectStart
  | objectEnd
  | comma
  | colon
  | text (s : String)
  /-- A value that is neither text nor a container. -/
  | scalar (v : Value)

def depthLimit : Nat := 127

/-- The place after a token at which a value may start. -/
def Place.start (outer : List Frame) : Token → Option Place
  | .arrayStart => if outer.length < depthLimit then some (.firstItem outer) else none
  | .objectStart => if outer.length < depthLimit then some (.firstKey outer) else none
  | .text s => some (.ended (.string s) outer)
  | .scalar v => some (.ended v outer)
  | _ => none

/-- The place after a token, none where the token may not stand. -/
def Place.next : Place → Token → Option Place
  | .value outer, token => start outer token
  | .firstItem outer, .arrayEnd => some (.ended (.array []) outer)
  | .firstItem outer, token => start (.items [] :: outer) token
  | .key done outer, .text name => some (.colon done name outer)
  | .firstKey outer, .objectEnd => some (.ended (.object []) outer)
  | .firstKey outer, .text name => some (.colon [] name outer)
  | .colon done name outer, .colon => some (.value (.member done name :: outer))
  | .ended v (.items done :: outer), .comma => some (.value (.items (v :: done) :: outer))
  | .ended v (.items done :: outer), .arrayEnd =>
    some (.ended (.array (v :: done).reverse) outer)
  | .ended v (.member done name :: outer), .comma => some (.key (done.set name v) outer)
  | .ended v (.member done name :: outer), .objectEnd =>
    some (.ended (.object (done.set name v)) outer)
  | _, _ => none

/-- The lexeme that is being read; texts and words hold their characters last one first. -/
inductive Lexeme where
  /-- Between lexemes. -/
  | blank
  /-- A name or a numeral. -/
  | word (read : List Char)
  /-- Inside a text. -/
  | text (read : List Char)
  /-- Behind a backslash. -/
  | escape (read : List Char)
  /-- Inside a code unit of which `missing + 1` digits are to come. -/
  | unit (read : List Char) (high : Option Nat) (missing : Nat) (code : Nat)
  /-- Behind the first half of a surrogate pair, or behind that and a backslash. -/
  | pair (read : List Char) (high : Nat) (escaped : Bool)

structure Reader where
  lexeme : Lexeme
  place : Place

namespace Reader

def initial : Reader := ⟨.blank, .value []⟩

/-- The token of a single character. -/
def punctuation? : Char → Option Token
  | '[' => some .arrayStart
  | ']' => some .arrayEnd
  | '\x7b' => some .objectStart
  | '\x7d' => some .objectEnd
  | ',' => some .comma
  | ':' => some .colon
  | _ => none

def isSpace (c : Char) : Bool := c == ' ' || c == '\t' || c == '\n' || c == '\r'

def isDelimiter (c : Char) : Bool := isSpace c || c == '"' || (punctuation? c).isSome

/-- The value of a word. -/
def scalar? (word : List Char) : Option Value :=
  match String.ofList word with
  | "null" => some .null
  | "true" => some (.bool true)
  | "false" => some (.bool false)
  | _ => number? word

/-- The place after the word that is being read, if there is one. -/
def flush (r : Reader) : Option Place :=
  match r.lexeme with
  | .blank => some r.place
  | .word read => (scalar? read.reverse).bind fun v => r.place.next (.scalar v)
  | _ => none

/-- A step from between two lexemes. -/
def fresh (place : Place) (c : Char) : Option Reader :=
  if isSpace c then some ⟨.blank, place⟩
  else if c = '"' then some ⟨.text [], place⟩
  else match punctuation? c with
    | some token => (place.next token).map (⟨.blank, ·⟩)
    | none => some ⟨.word [c], place⟩

/-- The character that a letter behind a backslash stands for. -/
def escaped? : Char → Option Char
  | '"' => some '"'
  | '\\' => some '\\'
  | '/' => some '/'
  | 'b' => some '\x08'
  | 'f' => some '\x0c'
  | 'n' => some '\n'
  | 'r' => some '\r'
  | 't' => some '\t'
  | _ => none

def hexDigit? (c : Char) : Option Nat :=
  if '0' ≤ c ∧ c ≤ '9' then some (c.toNat - '0'.toNat)
  else if 'a' ≤ c ∧ c ≤ 'f' then some (c.toNat - 'a'.toNat + 10)
  else if 'A' ≤ c ∧ c ≤ 'F' then some (c.toNat - 'A'.toNat + 10)
  else none

def isHigh (code : Nat) : Bool := 0xD800 ≤ code && code ≤ 0xDBFF

def isLow (code : Nat) : Bool := 0xDC00 ≤ code && code ≤ 0xDFFF

/-- The lexeme after a complete code unit. Halves of a pair stand only together. -/
def unitEnd (read : List Char) (high : Option Nat) (code : Nat) : Option Lexeme :=
  match high with
  | some first =>
    if isLow code then
      some (.text (Char.ofNat (0x10000 + (first - 0xD800) * 0x400 + (code - 0xDC00)) :: read))
    else none
  | none =>
    if isHigh code then some (.pair read code false)
    else if isLow code then none
    else some (.text (Char.ofNat code :: read))

/-- The reader after one more character. -/
def step (r : Reader) (c : Char) : Option Reader :=
  match r.lexeme with
  | .blank => fresh r.place c
  | .word read =>
    if isDelimiter c then r.flush.bind (fresh · c) else some { r with lexeme := .word (c :: read) }
  | .text read =>
    if c = '"' then (r.place.next (.text (String.ofList read.reverse))).map (⟨.blank, ·⟩)
    else if c = '\\' then some { r with lexeme := .escape read }
    else if c.toNat < 0x20 then none
    else some { r with lexeme := .text (c :: read) }
  | .escape read =>
    if c = 'u' then some { r with lexeme := .unit read none 3 0 }
    else (escaped? c).map fun e => { r with lexeme := .text (e :: read) }
  | .unit read high missing code =>
    (hexDigit? c).bind fun digit =>
      let code := 16 * code + digit
      match missing with
      | 0 => (unitEnd read high code).map ({ r with lexeme := · })
      | n + 1 => some { r with lexeme := .unit read high n code }
  | .pair read high false =>
    if c = '\\' then some { r with lexeme := .pair read high true } else none
  | .pair read high true =>
    if c = 'u' then some { r with lexeme := .unit read (some high) 3 0 } else none

def run (r : Reader) (text : List Char) : Option Reader := text.foldlM step r

def result (r : Reader) : Option Value :=
  match r.flush with
  | some (.ended v []) => some v
  | _ => none

theorem run_append (r : Reader) (s t : List Char) :
    r.run (s ++ t) = (r.run s).bind (·.run t) :=
  List.foldlM_append

end Reader

def parse? (text : String) : Option Value :=
  (Reader.initial.run text.toList).bind Reader.result

end UsageReport.Json

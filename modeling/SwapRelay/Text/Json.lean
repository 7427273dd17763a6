/-!
# Strict JSON

Reading of JSON texts without any extension: no comments, no trailing commas, no leading zeros. The
text is cut into tokens, and a machine with a stack of open containers puts the tokens together, so
nesting costs no recursion. A number is kept only if it is written as a plain natural number, since
no other is of use here; a string whose escapes leave half of a surrogate pair has no text, but is a
string all the same.
-/

namespace SwapRelay.Json

/-- A JSON value. Objects keep their members in order, repeated keys included. -/
inductive Value where
  | null
  | bool (value : Bool)
  /-- The number, if it is written without sign, fraction and exponent. -/
  | number (natural : Option Nat)
  /-- The text, if the escapes spell one. -/
  | string (text : Option String)
  | array (items : List Value)
  | object (members : List (Option String × Value))
  deriving Repr

/-- A piece of JSON text; strings, numbers and literals are values already. -/
inductive Token where
  | openArray
  | closeArray
  | openObject
  | closeObject
  | colon
  | comma
  | atom (value : Value)
  deriving Repr

/-! ## Strings -/

/-- A character of a string, or a UTF-16 unit given by its number. -/
inductive Piece where
  | char (c : Char)
  | unit (number : Nat)
  deriving DecidableEq, Repr

def hexDigit? (c : Char) : Option Nat :=
  if '0' ≤ c ∧ c ≤ '9' then some (c.toNat - '0'.toNat)
  else if 'a' ≤ c ∧ c ≤ 'f' then some (c.toNat - 'a'.toNat + 10)
  else if 'A' ≤ c ∧ c ≤ 'F' then some (c.toNat - 'A'.toNat + 10)
  else none

def hexNumber? (digits : List Char) : Option Nat :=
  digits.foldlM (fun high c => do return 16 * high + (← hexDigit? c)) 0

/-- What a backslash and one more character stand for. -/
def escaped? : Char → Option Char
  | '"' => some '"'
  | '\\' => some '\\'
  | '/' => some '/'
  | 'b' => some '\x08'
  | 'f' => some '\x0c'
  | 'n' => some '\n'
  | 'r' => some '\r'
  | 't' => some '\t'
  | _ => none

/-- The rest of a string up to its closing quote, and what follows. Control characters are refused. -/
def scanString : List Piece → List Char → Option (List Piece × List Char)
  | latestFirst, '"' :: rest => some (latestFirst.reverse, rest)
  | latestFirst, '\\' :: 'u' :: a :: b :: c :: d :: rest =>
    match hexNumber? [a, b, c, d] with
    | some number => scanString (.unit number :: latestFirst) rest
    | none => none
  | latestFirst, '\\' :: c :: rest =>
    match escaped? c with
    | some c => scanString (.char c :: latestFirst) rest
    | none => none
  | latestFirst, c :: rest =>
    if c < ' ' then none else scanString (.char c :: latestFirst) rest
  | _, [] => none

/-- Whether a UTF-16 unit is the first half of a pair. -/
def isHighSurrogate (number : Nat) : Bool := 0xd800 ≤ number ∧ number < 0xdc00

def isLowSurrogate (number : Nat) : Bool := 0xdc00 ≤ number ∧ number < 0xe000

/-- The characters, unless a unit is half of a pair without the other half next to it. -/
def resolve : List Char → List Piece → Option (List Char)
  | latestFirst, [] => some latestFirst.reverse
  | latestFirst, .char c :: rest => resolve (c :: latestFirst) rest
  | latestFirst, .unit high :: .unit low :: rest =>
    if isHighSurrogate high then
      if isLowSurrogate low then
        resolve (Char.ofNat (0x10000 + (high - 0xd800) * 0x400 + (low - 0xdc00)) :: latestFirst) rest
      else none
    else if isLowSurrogate high then none
    else resolve (Char.ofNat high :: latestFirst) (.unit low :: rest)
  | latestFirst, .unit number :: rest =>
    if isHighSurrogate number || isLowSurrogate number then none
    else resolve (Char.ofNat number :: latestFirst) rest

/-! ## Numbers -/

/-- The digits in front, which must not be missing, and what follows. -/
def scanDigits (chars : List Char) : Option (List Char × List Char) :=
  match chars.takeWhile Char.isDigit with
  | [] => none
  | digits => some (digits, chars.dropWhile Char.isDigit)

/-- The digits in front of a fraction: a zero, or digits that do not begin with one. -/
def scanWhole : List Char → Option (List Char × List Char)
  | '0' :: rest => some (['0'], rest)
  | chars => scanDigits chars

def scanFraction : List Char → Option (Bool × List Char)
  | '.' :: rest => (scanDigits rest).map fun scanned => (true, scanned.2)
  | chars => some (false, chars)

def skipSign : List Char → List Char
  | '+' :: rest => rest
  | '-' :: rest => rest
  | chars => chars

def scanExponent : List Char → Option (Bool × List Char)
  | 'e' :: rest => (scanDigits (skipSign rest)).map fun scanned => (true, scanned.2)
  | 'E' :: rest => (scanDigits (skipSign rest)).map fun scanned => (true, scanned.2)
  | chars => some (false, chars)

def decimal (digits : List Char) : Nat :=
  digits.foldl (fun high c => 10 * high + (c.toNat - '0'.toNat)) 0

def scanUnsigned (chars : List Char) : Option (Option Nat × List Char) := do
  let (digits, chars) ← scanWhole chars
  let (hasFraction, chars) ← scanFraction chars
  let (hasExponent, chars) ← scanExponent chars
  return (if hasFraction || hasExponent then none else some (decimal digits), chars)

def scanNumber : List Char → Option (Option Nat × List Char)
  | '-' :: rest => (scanUnsigned rest).map fun scanned => (none, scanned.2)
  | chars => scanUnsigned chars

/-! ## Tokens -/

def isBlank (c : Char) : Bool := c = ' ' || c = '\t' || c = '\n' || c = '\r'

/-- The token in front of a text that begins with no blank, and what follows it. -/
def scanToken : List Char → Option (Token × List Char)
  | '[' :: rest => some (.openArray, rest)
  | ']' :: rest => some (.closeArray, rest)
  | '\x7b' :: rest => some (.openObject, rest)
  | '\x7d' :: rest => some (.closeObject, rest)
  | ':' :: rest => some (.colon, rest)
  | ',' :: rest => some (.comma, rest)
  | 'n' :: 'u' :: 'l' :: 'l' :: rest => some (.atom .null, rest)
  | 't' :: 'r' :: 'u' :: 'e' :: rest => some (.atom (.bool true), rest)
  | 'f' :: 'a' :: 'l' :: 's' :: 'e' :: rest => some (.atom (.bool false), rest)
  | '"' :: rest => do
    let (pieces, rest) ← scanString [] rest
    return (.atom (.string ((resolve [] pieces).map String.ofList)), rest)
  | chars => do
    let (natural, rest) ← scanNumber chars
    return (.atom (.number natural), rest)

/-- The tokens of a text of at most `fuel` characters; each takes at least one. -/
def scanTokens : Nat → List Token → List Char → Option (List Token)
  | _, latestFirst, [] => some latestFirst.reverse
  | 0, _, _ => none
  | fuel + 1, latestFirst, c :: rest =>
    if isBlank c then scanTokens fuel latestFirst rest
    else
      match scanToken (c :: rest) with
      | some (token, rest) => scanTokens fuel (token :: latestFirst) rest
      | none => none

/-! ## Values -/

/-- An open container: the parts read so far, latest first, and the key whose value is to come. -/
inductive Frame where
  | items (latestFirst : List Value)
  | members (latestFirst : List (Option String × Value)) (key : Option String)
  deriving Repr

/-- What may come next, in the containers that are open, innermost first. -/
inductive State where
  | value (outer : List Frame)
  /-- An item or the end of the array. -/
  | firstItem (outer : List Frame)
  /-- A key or the end of the object. -/
  | firstKey (outer : List Frame)
  | key (outer : List Frame) (latestFirst : List (Option String × Value))
  | colon (outer : List Frame) (latestFirst : List (Option String × Value)) (key : Option String)
  /-- A comma or the end of the array. -/
  | afterItem (outer : List Frame) (latestFirst : List Value)
  /-- A comma or the end of the object. -/
  | afterMember (outer : List Frame) (latestFirst : List (Option String × Value))
  | finished (value : Value)
  deriving Repr

def place (value : Value) : List Frame → State
  | [] => .finished value
  | .items latestFirst :: outer => .afterItem outer (value :: latestFirst)
  | .members latestFirst key :: outer => .afterMember outer ((key, value) :: latestFirst)

def begin (outer : List Frame) : Token → Option State
  | .atom value => some (place value outer)
  | .openArray => some (.firstItem outer)
  | .openObject => some (.firstKey outer)
  | _ => none

def step : State → Token → Option State
  | .value outer, token => begin outer token
  | .firstItem outer, .closeArray => some (place (.array []) outer)
  | .firstItem outer, token => begin (.items [] :: outer) token
  | .firstKey outer, .closeObject => some (place (.object []) outer)
  | .firstKey outer, .atom (.string key) => some (.colon outer [] key)
  | .key outer latestFirst, .atom (.string key) => some (.colon outer latestFirst key)
  | .colon outer latestFirst key, .colon => some (.value (.members latestFirst key :: outer))
  | .afterItem outer latestFirst, .comma => some (.value (.items latestFirst :: outer))
  | .afterItem outer latestFirst, .closeArray => some (place (.array latestFirst.reverse) outer)
  | .afterMember outer latestFirst, .comma => some (.key outer latestFirst)
  | .afterMember outer latestFirst, .closeObject =>
    some (place (.object latestFirst.reverse) outer)
  | _, _ => none

/-- Reads a text that holds one value and nothing else but blanks. -/
def parse? (text : String) : Option Value := do
  let chars := text.toList
  let tokens ← scanTokens chars.length [] chars
  match ← tokens.foldlM step (.value []) with
  | .finished value => return value
  | _ => none

/-! ## Records -/

/-- The values of the fields of a record, where given. A record is an object, in which no field is
given twice and other members do not count, or an array of the first fields in order. -/
def fields? (names : List String) : Value → Option (List (Option Value))
  | .object members =>
    if members.all fun member => member.1.isSome then
      names.mapM fun name =>
        match members.filter fun member => member.1 == some name with
        | [] => some none
        | [member] => some (some member.2)
        | _ => none
    else none
  | .array items =>
    if items.length ≤ names.length then
      some (items.map some ++ List.replicate (names.length - items.length) none)
    else none
  | _ => none

end SwapRelay.Json

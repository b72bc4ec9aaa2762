import ActionTree.Json.Numeral

/-! The value that a JSON text stands for. Where an object repeats a key, the last value
under it counts. -/
namespace ActionTree.Json

def isSeparator (c : Char) : Bool := c = ' ' || c = '\t' || c = '\n' || c = '\r'

def skipSeparators (text : List Char) : List Char := text.dropWhile isSeparator

def digitValue (c : Char) : Nat := c.toNat - '0'.toNat

/-- The digits at the front of a text. -/
def takeDigits (text : List Char) : List Nat × List Char :=
  ((text.takeWhile Char.isDigit).map digitValue, text.dropWhile Char.isDigit)

def takeSome? (text : List Char) : Option (List Nat × List Char) :=
  match takeDigits text with
  | ([], _) => none
  | found => some found

def takePart? : List Char → Option (List Nat × List Char)
  | '.' :: rest => takeSome? rest
  | rest => some ([], rest)

def ofDigits (digits : List Nat) : Nat := digits.foldl (fun value digit => 10 * value + digit) 0

def takeSign : List Char → Bool × List Char
  | '-' :: rest => (true, rest)
  | '+' :: rest => (false, rest)
  | rest => (false, rest)

def takePower? : List Char → Option (Option Int × List Char)
  | c :: rest =>
      if c = 'e' ∨ c = 'E' then do
        let (negative, rest) := takeSign rest
        let (digits, rest) ← takeSome? rest
        let size : Int := ofDigits digits
        return (some (if negative then -size else size), rest)
      else some (none, c :: rest)
  | [] => some (none, [])

/-- The numeral at the front of a text, whose whole part does not start with a zero
unless it is one. -/
def takeNumeral? (text : List Char) : Option (Numeral × List Char) := do
  let (negative, text) := match text with
    | '-' :: rest => (true, rest)
    | rest => (false, rest)
  let (whole, text) ← takeSome? text
  if whole.head? = some 0 ∧ whole ≠ [0] then none
  let (part, text) ← takePart? text
  let (power?, text) ← takePower? text
  return (⟨negative, whole, part, power?⟩, text)

def hexDigit? (c : Char) : Option Nat :=
  if c.isDigit then some (c.toNat - '0'.toNat)
  else if 'a' ≤ c ∧ c ≤ 'f' then some (c.toNat - 'a'.toNat + 10)
  else if 'A' ≤ c ∧ c ≤ 'F' then some (c.toNat - 'A'.toNat + 10)
  else none

/-- The 16-bit unit that four hexadecimal digits name. -/
def takeUnit? : List Char → Option (Nat × List Char)
  | a :: b :: c :: d :: rest => do
      let a ← hexDigit? a
      let b ← hexDigit? b
      let c ← hexDigit? c
      let d ← hexDigit? d
      return (((a * 16 + b) * 16 + c) * 16 + d, rest)
  | _ => none

/-- The character that one unit or a pair of them names. -/
def takeCoded? (text : List Char) : Option (Char × List Char) := do
  let (unit, rest) ← takeUnit? text
  if 0xD800 ≤ unit ∧ unit < 0xDC00 then
    match rest with
    | '\\' :: 'u' :: rest => do
        let (low, rest) ← takeUnit? rest
        if 0xDC00 ≤ low ∧ low < 0xE000 then
          return (Char.ofNat (0x10000 + (unit - 0xD800) * 0x400 + (low - 0xDC00)), rest)
        else none
    | _ => none
  else if 0xDC00 ≤ unit ∧ unit < 0xE000 then none
  else return (Char.ofNat unit, rest)

def escaped? : Char → Option Char
  | '"' => some '"'
  | '\\' => some '\\'
  | '/' => some '/'
  | 'b' => some '\x08'
  | 'f' => some '\x0c'
  | 'n' => some '\n'
  | 'r' => some '\r'
  | 't' => some '\t'
  | _ => none

/-- The rest of a quoted text, after what was `read` of it, latest first. -/
def takeQuoted? (fuel : Nat) (read : List Char) (text : List Char) :
    Option (String × List Char) :=
  match fuel, text with
  | _, '"' :: rest => some (String.ofList read.reverse, rest)
  | fuel + 1, '\\' :: 'u' :: rest => do
      let (c, rest) ← takeCoded? rest
      takeQuoted? fuel (c :: read) rest
  | fuel + 1, '\\' :: c :: rest => do
      let c ← escaped? c
      takeQuoted? fuel (c :: read) rest
  | fuel + 1, c :: rest => if c < ' ' then none else takeQuoted? fuel (c :: read) rest
  | _, _ => none

def takeWord? (word : List Char) (value : Json) (text : List Char) : Option (Json × List Char) :=
  if word.isPrefixOf text then some (value, text.drop word.length) else none

mutual

def takeValue? (fuel : Nat) (text : List Char) : Option (Json × List Char) :=
  match fuel with
  | 0 => none
  | fuel + 1 => match skipSeparators text with
      | '"' :: rest => (takeQuoted? fuel [] rest).map fun found => (.string found.1, found.2)
      | '[' :: rest => match skipSeparators rest with
          | ']' :: rest => some (.array [], rest)
          | _ => takeItems? fuel [] rest
      | '\x7b' :: rest => match skipSeparators rest with
          | '\x7d' :: rest => some (.object [], rest)
          | _ => takeEntries? fuel .empty rest
      | 'n' :: rest => takeWord? "ull".toList .null rest
      | 't' :: rest => takeWord? "rue".toList (.bool true) rest
      | 'f' :: rest => takeWord? "alse".toList (.bool false) rest
      | text => do
          let (numeral, rest) ← takeNumeral? text
          let value ← numeral.value?
          return (value, rest)

def takeItems? (fuel : Nat) (read : List Json) (text : List Char) : Option (Json × List Char) :=
  match fuel with
  | 0 => none
  | fuel + 1 => do
      let (item, rest) ← takeValue? fuel text
      match skipSeparators rest with
      | ',' :: rest => takeItems? fuel (item :: read) rest
      | ']' :: rest => return (.array (item :: read).reverse, rest)
      | _ => none

def takeEntries? (fuel : Nat) (read : StringMap Json) (text : List Char) :
    Option (Json × List Char) :=
  match fuel with
  | 0 => none
  | fuel + 1 => match skipSeparators text with
      | '"' :: rest => do
          let (key, rest) ← takeQuoted? fuel [] rest
          match skipSeparators rest with
          | ':' :: rest => do
              let (value, rest) ← takeValue? fuel rest
              match skipSeparators rest with
              | ',' :: rest => takeEntries? fuel (read.insert key value) rest
              | '\x7d' :: rest => return (.object (read.insert key value).entries, rest)
              | _ => none
          | _ => none
      | _ => none

end

/-- The value of a whole text. Every step takes a character or is followed by one that
does, so the fuel lasts. -/
def ofText? (text : String) : Option Json := do
  let text := text.toList
  let (value, rest) ← takeValue? (2 * text.length + 2) text
  if skipSeparators rest = [] then some value else none

end ActionTree.Json

import ActionTree.Text.Blank

/-! Lists of repeat indexes as they are written: words between blanks, each an
unsigned decimal number of 32 bits that is not zero. The first bad word is the error. -/
namespace ActionTree.RepeatIndex

/-- An index list that could not be read, with its first bad word. -/
structure Invalid where
  text : String
  token : String
  deriving DecidableEq, Repr

def Invalid.message (error : Invalid) : String :=
  s!"invalid repeat index `{error.token}` in `{error.text}`"

def limit : Nat := Nat.pow 2 32

/-- A word without its sign: one leading plus is allowed. -/
def unsigned : List Char → List Char
  | '+' :: digits => digits
  | digits => digits

def ofWord? (word : List Char) : Option Nat :=
  let digits := unsigned word
  let value := Nat.ofDigitChars 10 digits 0
  if digits ≠ [] ∧ digits.all Char.isDigit ∧ 0 < value ∧ value < limit then some value else none

def ofWords (text : String) : List (List Char) → Except Invalid (List Nat)
  | [] => .ok []
  | word :: rest =>
      match ofWord? word with
      | none => .error ⟨text, String.ofList word⟩
      | some index => (ofWords text rest).map (index :: ·)

/-- The indexes written in a text; blank text has none. -/
def parse (text : String) : Except Invalid (List Nat) := ofWords text (Text.words text.toList)

end ActionTree.RepeatIndex

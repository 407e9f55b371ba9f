import Mathlib.Data.List.Infix

/-! # Texts as ECMAScript sees them

White space, `trim` and the texts of `JSON.stringify` as ECMAScript defines them, and a small scanner
for fixed-width numerals, enough to write a regular expression of digits and separators as a
sequence of steps. -/

namespace AutoTrade.Lib.Text

/-- The characters `String.prototype.trim` removes: white space and line terminators. -/
def isJsSpace (c : Char) : Bool :=
  c ∈ ['\t', '\n', '\x0b', '\x0c', '\r', ' ', '\u00a0', '\u1680', '\u2028', '\u2029', '\u202f',
    '\u205f', '\u3000', '\ufeff'] ∨ (0x2000 ≤ c.toNat ∧ c.toNat ≤ 0x200a)

/-- `text.trim()`. -/
def trim (text : String) : String :=
  String.ofList ((text.toList.dropWhile isJsSpace).reverse.dropWhile isJsSpace).reverse

/-- `text.trim() === ""`. -/
def isBlank (text : String) : Bool := text.toList.all isJsSpace

theorem isBlank_append {left right : String} (h : isBlank left = false) :
    isBlank (left ++ right) = false := by
  unfold isBlank at h ⊢
  rw [String.toList_append, List.all_append, h, Bool.false_and]

/-- A `string | null` is truthy: it is neither `null` nor empty. -/
def truthy : Option String → Bool
  | none => false
  | some text => text ≠ ""

/-- `text.includes(part)`. -/
def includes (text part : String) : Bool := part.toList <:+: text.toList

/-! ### Order -/

/-- The UTF-16 code units of a character. -/
def charUnits (c : Char) : List ℕ :=
  if c.toNat < 0x10000 then [c.toNat]
  else [0xd800 + (c.toNat - 0x10000) / 0x400, 0xdc00 + (c.toNat - 0x10000) % 0x400]

/-- `left < right` on texts, which compares their UTF-16 code units. -/
def before (left right : String) : Bool :=
  left.toList.flatMap charUnits < right.toList.flatMap charUnits

/-! ### JSON texts -/

/-- The lower-case hexadecimal digit of a number below sixteen. -/
def hexDigit (n : ℕ) : Char := if n < 10 then Char.ofNat (48 + n) else Char.ofNat (87 + n)

/-- A character inside a text that `JSON.stringify` writes. -/
def jsonEscape (c : Char) : List Char :=
  if c = '"' then ['\\', '"']
  else if c = '\\' then ['\\', '\\']
  else if c = '\x08' then ['\\', 'b']
  else if c = '\x0c' then ['\\', 'f']
  else if c = '\n' then ['\\', 'n']
  else if c = '\r' then ['\\', 'r']
  else if c = '\t' then ['\\', 't']
  else if c.toNat < 0x20 then
    ['\\', 'u', '0', '0', hexDigit (c.toNat / 16), hexDigit (c.toNat % 16)]
  else [c]

/-- `JSON.stringify(text)`. -/
def jsonString (text : String) : String :=
  String.ofList ('"' :: text.toList.flatMap jsonEscape ++ ['"'])

/-- `JSON.stringify` of an object whose values are texts, in the order of its keys. -/
def jsonObject (fields : List (String × String)) : String :=
  "\x7b" ++ String.intercalate "," (fields.map fun f => jsonString f.1 ++ ":" ++ jsonString f.2) ++
    "\x7d"

/-- `JSON.stringify` of a `string | null`. -/
def jsonNullable : Option String → String
  | none => "null"
  | some text => jsonString text

/-- `JSON.stringify` of an array of texts. -/
def jsonArray (texts : List String) : String :=
  "[" ++ String.intercalate "," (texts.map jsonString) ++ "]"

/-- `JSON.stringify` of an object whose values are given as JSON, in the order of its keys. -/
def jsonRecord (fields : List (String × String)) : String :=
  "\x7b" ++ String.intercalate "," (fields.map fun f => jsonString f.1 ++ ":" ++ f.2) ++ "\x7d"

/-! ### Scanning numerals -/

/-- The character `c` at the front of the text. -/
def literal (c : Char) : List Char → Option (List Char)
  | [] => none
  | d :: rest => if d = c then some rest else none

/-- Exactly `width` decimal digits at the front of the text, read onto `acc`. -/
def numeral : (width : ℕ) → (acc : ℕ) → List Char → Option (ℕ × List Char)
  | 0, acc, rest => some (acc, rest)
  | _ + 1, _, [] => none
  | width + 1, acc, c :: rest =>
    if c.isDigit then numeral width (10 * acc + (c.toNat - 48)) rest else none

/-- The longest run of at most `width` digits at the front of the text, read onto `acc`, with the
number of digits that were missing to `width`. -/
def fraction : (width : ℕ) → (acc : ℕ) → List Char → ℕ × ℕ × List Char
  | 0, acc, rest => (acc, 0, rest)
  | width + 1, acc, [] => (acc, width + 1, [])
  | width + 1, acc, c :: rest =>
    if c.isDigit then fraction width (10 * acc + (c.toNat - 48)) rest
    else (acc, width + 1, c :: rest)

end AutoTrade.Lib.Text

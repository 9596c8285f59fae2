import ScriptHost.Text.Digits

/-!
# JSON texts

A reader for whole JSON texts, by the strict grammar: nothing but white space around the value, no
comments, no commas at the end. Strings are kept as 16-bit units where they are written by number,
so that a surrogate without its partner can be told apart later.

* `Json.parse?` : the value that a whole text writes.
* `Json.decode?` : the characters of a string, unless a surrogate stands alone.
-/

namespace ScriptHost

/-- A part of a string: a character, or a 16-bit unit written by its number. -/
inductive JsonUnit
  | char (character : Char)
  | code (unit : Nat)
deriving DecidableEq

inductive Json
  | null
  | bool (b : Bool)
  /-- A number without sign, point and exponent. -/
  | natural (n : Nat)
  /-- Any other number. -/
  | number
  | string (units : List JsonUnit)
  | array (items : List Json)
  | object (fields : List (List JsonUnit × Json))

namespace Json

/-! ## Strings -/

/-- The characters of a string, unless a surrogate stands alone. -/
def decode? : List JsonUnit → Option (List Char)
  | [] => some []
  | .char character :: units => (decode? units).map (character :: ·)
  | [.code unit] => if 0xd800 ≤ unit ∧ unit ≤ 0xdfff then none else some [Char.ofNat unit]
  | .code unit :: next :: units =>
    if 0xd800 ≤ unit ∧ unit ≤ 0xdbff then
      match next with
      | .code low =>
        if 0xdc00 ≤ low ∧ low ≤ 0xdfff then
          (decode? units).map
            (Char.ofNat (0x10000 + (unit - 0xd800) * 0x400 + (low - 0xdc00)) :: ·)
        else none
      | .char _ => none
    else if 0xdc00 ≤ unit ∧ unit ≤ 0xdfff then none
    else (decode? (next :: units)).map (Char.ofNat unit :: ·)

/-- The value of a digit in base sixteen. -/
def hexDigit? (character : Char) : Option Nat :=
  if '0' ≤ character ∧ character ≤ '9' then some (character.toNat - '0'.toNat)
  else if 'a' ≤ character ∧ character ≤ 'f' then some (character.toNat - 'a'.toNat + 10)
  else if 'A' ≤ character ∧ character ≤ 'F' then some (character.toNat - 'A'.toNat + 10)
  else none

/-- The unit that four digits write. -/
def unit? (a b c d : Char) : Option JsonUnit := do
  let a ← hexDigit? a
  let b ← hexDigit? b
  let c ← hexDigit? c
  let d ← hexDigit? d
  return .code (((a * 16 + b) * 16 + c) * 16 + d)

/-- The character that a short escape writes. -/
def escape? : Char → Option Char
  | '\x22' => some '\x22'
  | '\x5c' => some '\x5c'
  | '/' => some '/'
  | 'b' => some '\x08'
  | 'f' => some '\x0c'
  | 'n' => some '\n'
  | 'r' => some '\r'
  | 't' => some '\t'
  | _ => none

/-- The rest of a string whose opening quote has been read, and what follows it. -/
def stringRest? : List Char → Option (List JsonUnit × List Char)
  | [] => none
  | '\x22' :: text => some ([], text)
  | '\x5c' :: 'u' :: a :: b :: c :: d :: text => do
    let unit ← unit? a b c d
    let (units, text) ← stringRest? text
    return (unit :: units, text)
  | '\x5c' :: mark :: text => do
    let character ← escape? mark
    let (units, text) ← stringRest? text
    return (.char character :: units, text)
  | character :: text =>
    if character.toNat < 0x20 ∨ character = '\x5c' then none
    else do
      let (units, text) ← stringRest? text
      return (.char character :: units, text)

/-! ## Numbers -/

/-- What follows a run of at least one digit. -/
def digits? (text : List Char) : Option (List Char) :=
  match text with
  | character :: _ => if character.isDigit then some (text.dropWhile Char.isDigit) else none
  | [] => none

/-- What follows the fraction of a number, if it has one. -/
def fraction? : List Char → Option (List Char)
  | '.' :: text => digits? text
  | text => some text

/-- What follows the exponent of a number, if it has one. -/
def exponent? : List Char → Option (List Char)
  | 'e' :: text | 'E' :: text =>
    match text with
    | '+' :: text | '-' :: text => digits? text
    | text => digits? text
  | text => some text

/-- The integral part of a number, and what follows it. -/
def whole? : List Char → Option (Nat × List Char)
  | '0' :: text =>
    match text with
    | character :: _ => if character.isDigit then none else some (0, text)
    | [] => some (0, [])
  | character :: text =>
    if character.isDigit then
      some (Text.decimalValue (character :: text.takeWhile Char.isDigit),
        text.dropWhile Char.isDigit)
    else none
  | [] => none

/-- Whether a number goes on behind its integral part. -/
def goesOn : List Char → Bool
  | character :: _ => character == '.' || character == 'e' || character == 'E'
  | [] => false

/-- A number, and what follows it. -/
def number? (text : List Char) : Option (Json × List Char) :=
  match text with
  | '-' :: text => do
    let (_, text) ← whole? text
    let text ← fraction? text
    let text ← exponent? text
    return (.number, text)
  | text => do
    let (n, text) ← whole? text
    if goesOn text then
      let text ← fraction? text
      let text ← exponent? text
      return (.number, text)
    else return (.natural n, text)

/-! ## Values -/

def isSpace (character : Char) : Bool :=
  character == ' ' || character == '\t' || character == '\n' || character == '\r'

def skipSpace (text : List Char) : List Char := text.dropWhile isSpace

/-- What follows a word. -/
def word? (word text : List Char) : Option (List Char) :=
  if word.isPrefixOf text then some (text.drop word.length) else none

mutual

/-- A value, and what follows it; the nesting is limited by `fuel`. -/
def value? (fuel : Nat) (text : List Char) : Option (Json × List Char) :=
  match fuel with
  | 0 => none
  | fuel + 1 =>
    match skipSpace text with
    | '\x22' :: text => (stringRest? text).map fun (units, text) => (.string units, text)
    | '[' :: text =>
      match skipSpace text with
      | ']' :: text => some (.array [], text)
      | text => (items? fuel text).map fun (items, text) => (.array items, text)
    | '\x7b' :: text =>
      match skipSpace text with
      | '\x7d' :: text => some (.object [], text)
      | text => (fields? fuel text).map fun (fields, text) => (.object fields, text)
    | 'n' :: text => (word? ['u', 'l', 'l'] text).map fun text => (.null, text)
    | 't' :: text => (word? ['r', 'u', 'e'] text).map fun text => (.bool true, text)
    | 'f' :: text => (word? ['a', 'l', 's', 'e'] text).map fun text => (.bool false, text)
    | text => number? text

/-- The items of an array up to its end, and what follows it. -/
def items? (fuel : Nat) (text : List Char) : Option (List Json × List Char) :=
  match fuel with
  | 0 => none
  | fuel + 1 => do
    let (item, text) ← value? fuel text
    match skipSpace text with
    | ']' :: text => some ([item], text)
    | ',' :: text =>
      let (items, text) ← items? fuel text
      return (item :: items, text)
    | _ => none

/-- The fields of an object up to its end, and what follows it. -/
def fields? (fuel : Nat) (text : List Char) :
    Option (List (List JsonUnit × Json) × List Char) :=
  match fuel with
  | 0 => none
  | fuel + 1 =>
    match skipSpace text with
    | '\x22' :: text => do
      let (key, text) ← stringRest? text
      match skipSpace text with
      | ':' :: text =>
        let (value, text) ← value? fuel text
        match skipSpace text with
        | '\x7d' :: text => some ([(key, value)], text)
        | ',' :: text =>
          let (fields, text) ← fields? fuel text
          return ((key, value) :: fields, text)
        | _ => none
      | _ => none
    | _ => none

end

/-- The value that a whole text writes. -/
def parse? (text : List Char) : Option Json :=
  match value? (2 * text.length + 2) text with
  | some (value, rest) => if skipSpace rest = [] then some value else none
  | none => none

end Json

end ScriptHost

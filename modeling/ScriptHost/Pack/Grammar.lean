import ScriptHost.Pack.Reader

/-!
# The grammar of packed values

Which bytes pack which value, said without a cursor. An item ends where its grammar says so, not
where a reader stops.

* `Pack.Digits`, `Pack.IntegerText`, `Pack.DoubleText` : how numbers are written.
* `Pack.Item` : the items of a stream.
* `Pack.Packs` : whole byte sequences.
-/

namespace ScriptHost.Pack

/-- Plain characters as bytes. -/
def plain (text : String) : List UInt8 := text.toList.map fun c => UInt8.ofNat c.toNat

/-- The bytes of a number as characters. -/
def characters (bytes : List UInt8) : List Char := bytes.map fun byte => Char.ofNat byte.toNat

/-! ## Numbers -/

/-- One or more decimal digits write a natural number. -/
inductive Digits : List UInt8 → Nat → Prop
  | single {digit : Nat} : digit < 10 → Digits [UInt8.ofNat (0x30 + digit)] digit
  | more {bytes : List UInt8} {n digit : Nat} :
    Digits bytes n → digit < 10 → Digits (bytes ++ [UInt8.ofNat (0x30 + digit)]) (10 * n + digit)

/-- Digits with at most one sign write an integer. -/
inductive IntegerText : List UInt8 → Int → Prop
  | positive {bytes : List UInt8} {n : Nat} : Digits bytes n → IntegerText bytes n
  | negative {bytes : List UInt8} {n : Nat} : Digits bytes n → IntegerText (plain "-" ++ bytes) (-n)

/-- Three words and the numerals of finite doubles write a double. -/
inductive DoubleText : List UInt8 → Double → Prop
  | infinity : DoubleText (plain "inf") (.infinite false)
  | negativeInfinity : DoubleText (plain "-inf") (.infinite true)
  | nan : DoubleText (plain "NaN") .nan
  | numeral {bytes : List UInt8} {d : Double} :
    (∀ byte ∈ bytes, byte ∈ plain "0123456789+-.eE") → Double.parse? (characters bytes) = some d →
    DoubleText bytes d

/-! ## Items -/

/-- A length or a count with the colon behind it. -/
def Counted (bytes : List UInt8) (count : Nat) : Prop :=
  count < 2 ^ 64 ∧ ∃ digits, Digits digits count ∧ bytes = digits ++ plain ":"

mutual

/-- One item of a stream. -/
inductive Item : List UInt8 → Value → Prop
  | uninit : Item (plain "u") .uninit
  | no : Item (plain "b0") (.boolean false)
  | yes : Item (plain "b1") (.boolean true)
  | integer {bytes : List UInt8} {n : Int32} :
    IntegerText bytes n.toInt → Item (plain "i" ++ bytes) (.integer n)
  | double {bytes : List UInt8} {d : Double} :
    DoubleText bytes d → Item (plain "r" ++ bytes) (.double d)
  | string {length payload : List UInt8} :
    Counted length payload.length → Item (plain "S" ++ length ++ payload) (.string (textOf payload))
  | array {count bytes : List UInt8} {values : List Value} :
    Counted count values.length → Items bytes values →
    Item (plain "a" ++ count ++ bytes) (.array values)

/-- Items that stand one behind the other. -/
inductive Items : List UInt8 → List Value → Prop
  | nil : Items [] []
  | cons {first rest : List UInt8} {value : Value} {values : List Value} :
    Item first value → Items rest values → Items (first ++ rest) (value :: values)

end

/-- A whole byte sequence packs a value: a string that stands alone, with any bytes behind its tag,
or one item in which arrays are not nested too deeply. -/
def Packs (bytes : List UInt8) (value : Value) : Prop :=
  (∃ payload, bytes = plain "s" ++ payload ∧ value = .string (textOf payload)) ∨
    (Item bytes value ∧ value.depth ≤ 256)

end ScriptHost.Pack

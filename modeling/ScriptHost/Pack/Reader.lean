import ScriptHost.Error
import ScriptHost.Text.Digits
import ScriptHost.Text.Incoming
import ScriptHost.Value

/-!
# Unpacking values

A cursor stands in packed bytes. Reading an item moves it behind the item; after a failure it
stands where the fault is.

* `Pack.readItem` : one item of a stream, with a limit on nested arrays.
* `Cursor.next` : the next value of a stream.
* `Value.unpack` : the value that a whole byte sequence packs.
-/

namespace ScriptHost

/-- A place in packed bytes: how many bytes come before it, and the bytes that follow. -/
structure Cursor where
  offset : Nat
  rest : List UInt8
deriving DecidableEq

namespace Pack

/-- The outcome of reading: a result and the cursor behind it, or a fault and the cursor at it. -/
inductive Reading (α : Type)
  | done (result : α) (cursor : Cursor)
  | failed (fault : Fault) (cursor : Cursor)

namespace Reading

def bind {α β : Type} (reading : Reading α) (next : α → Cursor → Reading β) : Reading β :=
  match reading with
  | .done result cursor => next result cursor
  | .failed fault cursor => .failed fault cursor

def map {α β : Type} (f : α → β) (reading : Reading α) : Reading β :=
  reading.bind fun result cursor => .done (f result) cursor

/-- The cursor where reading ended. -/
def cursor {α : Type} : Reading α → Cursor
  | .done _ cursor => cursor
  | .failed _ cursor => cursor

/-- The result, or the error with its place. -/
def toExcept {α : Type} : Reading α → Except Error α
  | .done result _ => .ok result
  | .failed fault cursor => .error (.deserialize cursor.offset fault)

end Reading

/-! ## Parts of an item -/

/-- The cursor moved over some bytes. -/
def move (cursor : Cursor) (count : Nat) : Cursor :=
  ⟨cursor.offset + count, cursor.rest.drop count⟩

def isDigit (byte : UInt8) : Bool := 0x30 ≤ byte && byte ≤ 0x39

/-- The bytes that integers are written with. -/
def isIntegerByte (byte : UInt8) : Bool := byte == 0x2d || isDigit byte

/-- The bytes that finite doubles are written with. -/
def isDoubleByte (byte : UInt8) : Bool :=
  isIntegerByte byte || byte == 0x2b || byte == 0x2e || byte == 0x65 || byte == 0x45

/-- The number that the longest run of some bytes writes. -/
def readRun {α : Type} (isPart : UInt8 → Bool) (parse? : List Char → Option α)
    (fault : String → Fault) (cursor : Cursor) : Reading α :=
  let run := cursor.rest.takeWhile isPart
  let written := run.map fun byte => Char.ofNat byte.toNat
  match parse? written with
  | some number => .done number (move cursor run.length)
  | none => .failed (fault (String.ofList written)) cursor

/-- The natural number that decimal digits write. -/
def parseNat? (written : List Char) : Option Nat :=
  if written ≠ [] ∧ written.all Char.isDigit then some (Text.decimalValue written) else none

/-- A length or a count: a natural number below `2 ^ 64`. -/
def parseLength? (written : List Char) : Option Nat :=
  (parseNat? written).filter fun n => n < 2 ^ 64

/-- An integer of 32 bits, with an optional sign. -/
def parseInteger? (written : List Char) : Option Int32 :=
  let number? : Option Int :=
    match written with
    | '-' :: digits => (parseNat? digits).map Int.negOfNat
    | digits => (parseNat? digits).map Int.ofNat
  number?.bind fun n =>
    if Int32.minValue.toInt ≤ n ∧ n ≤ Int32.maxValue.toInt then some (Int32.ofInt n) else none

/-- The colon behind a length. -/
def readColon (cursor : Cursor) : Reading Unit :=
  match cursor.rest with
  | [] => .failed .endBeforeColon cursor
  | byte :: _ => if byte = 0x3a then .done () (move cursor 1) else .failed (.noColon byte) cursor

/-- A length and the colon behind it. -/
def readLength (cursor : Cursor) : Reading Nat :=
  (readRun isDigit parseLength? .badLength cursor).bind fun n cursor =>
    (readColon cursor).map fun _ => n

/-- A payload of the given number of bytes. -/
def readPayload (count : Nat) (cursor : Cursor) : Reading (List UInt8) :=
  let payload := cursor.rest.take count
  if payload.length = count then .done payload (move cursor count)
  else .failed (.payloadTooLong count payload.length) cursor

def readBoolean (cursor : Cursor) : Reading Value :=
  match cursor.rest with
  | [] => .failed .endBeforeBoolean cursor
  | byte :: _ =>
    if byte = 0x31 then .done (.boolean true) (move cursor 1)
    else if byte = 0x30 then .done (.boolean false) (move cursor 1)
    else .failed (.badBoolean byte) cursor

/-- The doubles that are written as words. -/
def words : List (List UInt8 × Double) :=
  [([0x2d, 0x69, 0x6e, 0x66], .infinite true), ([0x69, 0x6e, 0x66], .infinite false),
    ([0x4e, 0x61, 0x4e], .nan)]

def readDouble (cursor : Cursor) : Reading Value :=
  match words.find? fun (word, _) => word.isPrefixOf cursor.rest with
  | some (word, d) => .done (.double d) (move cursor word.length)
  | none => (readRun isDoubleByte Double.parse? .badDouble cursor).map .double

/-- The text of a string, which may be of any bytes. -/
def textOf (bytes : List UInt8) : String := Text.received bytes

def readString (cursor : Cursor) : Reading Value :=
  (readLength cursor).bind fun count cursor =>
    (readPayload count cursor).map fun bytes => .string (textOf bytes)

/-! ## Items -/

/-- The given number of values, one behind the other. -/
def readMany (read : Cursor → Reading Value) : Nat → Cursor → Reading (List Value)
  | 0, cursor => .done [] cursor
  | count + 1, cursor =>
    (read cursor).bind fun value cursor => (readMany read count cursor).map (value :: ·)

/-- One item of a stream, which may hold arrays nested up to the given depth. -/
def readItem (allowance : Nat) (cursor : Cursor) : Reading Value :=
  match cursor.rest with
  | [] => .failed .endBeforeTag cursor
  | tag :: _ =>
    let payload := move cursor 1
    if tag = 0x75 then .done .uninit payload
    else if tag = 0x62 then readBoolean payload
    else if tag = 0x69 then
      (readRun isIntegerByte parseInteger? .badInteger payload).map .integer
    else if tag = 0x72 then readDouble payload
    else if tag = 0x53 then readString payload
    else if tag = 0x61 then
      match allowance with
      | 0 => .failed .tooDeep cursor
      | allowance + 1 =>
        (readLength payload).bind fun count cursor =>
          (readMany (readItem allowance) count cursor).map .array
    else if tag = 0x73 then .failed .unprefixedString cursor
    else .failed (.unknownTag tag) cursor

end Pack

namespace Cursor

def ofBytes (bytes : List UInt8) : Cursor := ⟨0, bytes⟩

def isAtEnd (cursor : Cursor) : Bool := cursor.rest.isEmpty

/-- The next value of a stream. -/
def next (cursor : Cursor) : Pack.Reading Value := Pack.readItem Pack.maxDepth cursor

end Cursor

namespace Value

/-- The value that a whole byte sequence packs, in the form that stands alone or in stream form. -/
def unpack (bytes : List UInt8) : Except Error Value :=
  match bytes with
  | 0x73 :: payload => .ok (.string (Pack.textOf payload))
  | bytes =>
    match (Cursor.ofBytes bytes).next with
    | .failed fault cursor => .error (.deserialize cursor.offset fault)
    | .done value cursor =>
      if cursor.isAtEnd then .ok value
      else .error (.deserialize cursor.offset (.trailing cursor.rest.length))

end Value

end ScriptHost

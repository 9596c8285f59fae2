import ScriptHost.Method.Catalog
import ScriptHost.Text.Inspect

/-!
# Errors of operations on values

Every error is a cause; its wording is given once, here.

* `Pack.Fault` : what is wrong with packed bytes.
* `ArgumentFault` : what is wrong with the arguments of a call.
* `Error` : all errors, with `Error.message` and `Error.label`.
-/

namespace ScriptHost

/-! ## Packed bytes -/

/-- The deepest nesting of arrays that packed bytes may hold. -/
def Pack.maxDepth : Nat := 256

/-- What is wrong with packed bytes. -/
inductive Pack.Fault
  | endBeforeTag
  | endBeforeBoolean
  | badBoolean (byte : UInt8)
  | badInteger (written : String)
  | badDouble (written : String)
  | badLength (written : String)
  | endBeforeColon
  | noColon (found : UInt8)
  | payloadTooLong (wanted left : Nat)
  | tooDeep
  | unprefixedString
  | unknownTag (byte : UInt8)
  | trailing (count : Nat)
deriving DecidableEq, Repr

/-- A byte between quotes. -/
def Pack.quotedByte (byte : UInt8) : String :=
  "'" ++ String.ofList (Text.escapeByte byte) ++ "'"

def Pack.Fault.message : Pack.Fault → String
  | .endBeforeTag => "unexpected end of buffer, expected kind tag"
  | .endBeforeBoolean => "unexpected end of buffer, expected boolean payload"
  | .badBoolean byte => "invalid boolean " ++ Pack.quotedByte byte
  | .badInteger written => "invalid integer '" ++ written ++ "'"
  | .badDouble written => "invalid double '" ++ written ++ "'"
  | .badLength written => "invalid length '" ++ written ++ "'"
  | .endBeforeColon => "unexpected end of buffer, expected ':'"
  | .noColon found => "expected ':', found " ++ Pack.quotedByte found
  | .payloadTooLong wanted left =>
    "payload of " ++ toString wanted ++ " bytes runs past end of buffer (" ++ toString left ++
      " left)"
  | .tooDeep => "arrays nested deeper than " ++ toString Pack.maxDepth
  | .unprefixedString => "unprefixed string inside a stream"
  | .unknownTag byte => "unknown kind tag " ++ Pack.quotedByte byte
  | .trailing count => toString count ++ " trailing bytes after value"

/-! ## Arguments -/

/-- What is wrong with the arguments of a call. -/
inductive ArgumentFault
  | noIndex
  | stringIndices
  | arity (method : Method) (given : Nat)
  | kind (method : Method) (position : Nat) (wanted given : Kind)
  | negativeLength (method : Method) (length : Int)
  | unknownSide (code : Int)
deriving DecidableEq, Repr

/-- The numbers of arguments a method takes, in words. -/
def Method.arityText (method : Method) : String :=
  let (least, greatest) := method.arity
  if least = greatest then toString least else toString least ++ " to " ++ toString greatest

def ArgumentFault.message : ArgumentFault → String
  | .noIndex => "subscript needs at least one index"
  | .stringIndices => "string subscript takes [begin, len]"
  | .arity method given =>
    method.name ++ " takes " ++ method.arityText ++ " argument(s), got " ++ toString given
  | .kind method position wanted given =>
    method.name ++ ": argument " ++ toString position ++ " must be " ++ wanted.name ++ ", got " ++
      given.name
  | .negativeLength method length =>
    method.name ++ ": negative length " ++ toString length
  | .unknownSide code => "trim: unknown side " ++ toString code

/-! ## All errors -/

/-- The operations that may not apply to two kinds of values. -/
inductive Operation
  | add
  | subtract
  | index
  | assign
deriving DecidableEq, Repr

def Operation.verb : Operation → String
  | .add => "add"
  | .subtract => "subtract"
  | .index => "index"
  | .assign => "assign"

/-- What a method was called on: a value of some kind, or a constant string. -/
inductive Receiver
  | value (kind : Kind)
  | constant
deriving DecidableEq, Repr

def Receiver.name : Receiver → String
  | .value kind => kind.name
  | .constant => "ConstString"

inductive Error
  | typeMismatch (operation : Operation) (left right : Kind)
  | indexOutOfRange (index : Int) (length : Nat)
  | deserialize (offset : Nat) (fault : Pack.Fault)
  | noSuchMethod (receiver : Receiver) (name : String)
  | invalidArgument (fault : ArgumentFault)
  | invalidUnicode (intact : Nat)
  | staleView
deriving DecidableEq, Repr

namespace Error

/-- The name of the kind of error. -/
def label : Error → String
  | .typeMismatch _ _ _ => "TypeMismatch"
  | .indexOutOfRange _ _ => "IndexOutOfRange"
  | .deserialize _ _ => "Deserialize"
  | .noSuchMethod _ _ => "NoSuchMethod"
  | .invalidArgument _ => "InvalidArgument"
  | .invalidUnicode _ => "InvalidUnicode"
  | .staleView => "StaleView"

def message : Error → String
  | .typeMismatch operation left right =>
    "TypeError: cannot " ++ operation.verb ++ " " ++ left.name ++ " and " ++ right.name
  | .indexOutOfRange index length =>
    "RangeError: index " ++ toString index ++ " out of range for length " ++ toString length
  | .deserialize offset fault =>
    "DeserializeError: " ++ fault.message ++ " at offset " ++ toString offset
  | .noSuchMethod receiver name => "NoSuchMethod: " ++ receiver.name ++ "." ++ name
  | .invalidArgument fault => "InvalidArgument: " ++ fault.message
  | .invalidUnicode intact =>
    "InvalidUnicode: invalid UTF-8 after byte " ++ toString intact
  | .staleView => "StaleView: owning string was mutated or replaced"

end Error

end ScriptHost

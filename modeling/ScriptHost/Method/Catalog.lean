import ScriptHost.Value

/-!
# The catalog of methods

Every built-in method has a number, a name, the kind of value it is called on, and the numbers of
arguments it takes. Names are found without regard to the case of ASCII letters.

* `Method.all` : the catalog in order.
* `Method.ofId?`, `Method.lookup?` : the method of a number and of a name.
-/

namespace ScriptHost

inductive Method
  | length
  | upper
  | lower
  | find
  | trim
  | replace
  | subreplace
  | substr
  | split
  | join
  | isValidUnicode
  | utf16
  | utf32
  | size
  | append
  | insert
  | erase
  | reverse
deriving DecidableEq, Repr

namespace Method

/-- The catalog in order. -/
def all : List Method :=
  [.length, .upper, .lower, .find, .trim, .replace, .subreplace, .substr, .split, .join,
    .isValidUnicode, .utf16, .utf32, .size, .append, .insert, .erase, .reverse]

def id : Method → Nat
  | .length => 1
  | .upper => 2
  | .lower => 3
  | .find => 4
  | .trim => 5
  | .replace => 6
  | .subreplace => 7
  | .substr => 8
  | .split => 9
  | .join => 10
  | .isValidUnicode => 11
  | .utf16 => 12
  | .utf32 => 13
  | .size => 101
  | .append => 102
  | .insert => 103
  | .erase => 104
  | .reverse => 105

def name : Method → String
  | .length => "length"
  | .upper => "upper"
  | .lower => "lower"
  | .find => "find"
  | .trim => "trim"
  | .replace => "replace"
  | .subreplace => "subreplace"
  | .substr => "substr"
  | .split => "split"
  | .join => "join"
  | .isValidUnicode => "isvalidunicode"
  | .utf16 => "utf16"
  | .utf32 => "utf32"
  | .size => "size"
  | .append => "append"
  | .insert => "insert"
  | .erase => "erase"
  | .reverse => "reverse"

/-- The kind of value a method is called on. -/
def receiver : Method → Kind
  | .size | .append | .insert | .erase | .reverse => .array
  | _ => .string

/-- Whether a method changes the value it is called on. -/
def mutates : Method → Bool
  | .replace | .subreplace | .append | .insert | .erase | .reverse => true
  | _ => false

/-- The number of arguments that stands for "any number". -/
def unlimited : Nat := 2 ^ 64 - 1

/-- The least and the greatest number of arguments. -/
def arity : Method → Nat × Nat
  | .length | .upper | .lower | .isValidUnicode | .utf16 | .utf32 | .size | .reverse => (0, 0)
  | .find => (1, 2)
  | .trim => (0, 2)
  | .replace | .substr | .insert => (2, 2)
  | .subreplace => (3, 3)
  | .split => (0, 1)
  | .join | .erase => (1, 1)
  | .append => (1, unlimited)

/-- The method of a number. -/
def ofId? (id : Nat) : Option Method := all.find? fun method => method.id == id

/-- The method of a name. -/
def lookup? (name : String) : Option Method :=
  all.find? fun method => method.name.toList == name.toList.map Char.toLower

end Method

end ScriptHost

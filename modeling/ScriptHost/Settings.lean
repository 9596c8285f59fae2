import ScriptHost.Settings.Json

/-!
# Settings of a call service

* `Settings.default` : the settings that hold where nothing else is said.
* `Settings.ofJson?` : settings from an object with named fields, or from an array with the fields
  in order.
-/

namespace ScriptHost

structure Settings where
  threadName : String
  queueCapacity : Nat
  firstRequestId : UInt64
deriving DecidableEq

namespace Settings

def default : Settings :=
  { threadName := "sable-engine", queueCapacity := 1024, firstRequestId := 1 }

/-- A queue holds at least one call. -/
def withCapacity (settings : Settings) (capacity : Nat) : Settings :=
  { settings with queueCapacity := max 1 capacity }

inductive Field
  | threadName
  | queueCapacity
  | firstRequestId
deriving DecidableEq

namespace Field

def all : List Field := [.threadName, .queueCapacity, .firstRequestId]

def name : Field → String
  | .threadName => "thread_name"
  | .queueCapacity => "queue_capacity"
  | .firstRequestId => "first_request_id"

end Field

/-- A text, from a JSON string. -/
def textOf? : Json → Option String
  | .string units => (Json.decode? units).map String.ofList
  | _ => none

/-- A number of 64 bits, from a JSON number without sign, point and exponent. -/
def wordOf? : Json → Option Nat
  | .natural n => if n < 2 ^ 64 then some n else none
  | _ => none

/-- The settings with one field read from JSON. -/
def setField? (settings : Settings) (field : Field) (value : Json) : Option Settings :=
  match field with
  | .threadName => (textOf? value).map fun threadName => { settings with threadName }
  | .queueCapacity => (wordOf? value).map settings.withCapacity
  | .firstRequestId =>
    (wordOf? value).map fun n => { settings with firstRequestId := UInt64.ofNat n }

/-- The settings with fields read from an object. Unknown names are passed over, and no known name
may come twice. -/
def setFields? (settings : Settings) (seen : List Field) :
    List (List JsonUnit × Json) → Option Settings
  | [] => some settings
  | (key, value) :: fields => do
    let name ← Json.decode? key
    match Field.all.find? fun field => field.name.toList == name with
    | none => setFields? settings seen fields
    | some field =>
      if seen.contains field then none
      else
        let settings ← settings.setField? field value
        setFields? settings (field :: seen) fields

/-- The settings with the first fields read from an array. -/
def setInOrder? (settings : Settings) : List Field → List Json → Option Settings
  | _, [] => some settings
  | [], _ :: _ => none
  | field :: fields, value :: values => do
    let settings ← settings.setField? field value
    setInOrder? settings fields values

/-- The settings that a JSON text gives; what it does not mention is as by default. -/
def ofJson? (text : List Char) : Option Settings :=
  match Json.parse? text with
  | some (.object fields) => setFields? default [] fields
  | some (.array values) => setInOrder? default Field.all values
  | _ => none

end Settings

end ScriptHost

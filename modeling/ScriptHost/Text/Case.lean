import ScriptHost.Text.Blank
import ScriptHost.Text.CaseTable

/-!
# Upper and lower case

Letters are mapped one by one, some to several letters. The only letter that depends on its
neighbours is the capital sigma, which has a form of its own at the end of a word.

* `upper`, `lower` : the case of a whole text.
-/

namespace ScriptHost.Text

/-- The shift that the runs give a code point. -/
def shiftedBy (runs : List CaseRun) (code : Nat) : Option Int :=
  (runs.find? fun run =>
    run.first ≤ code && code ≤ run.last && (code - run.first) % run.stride == 0).map (·.shift)

/-- A character mapped by tables of expansions and of shifts. -/
def mapCase (expansions : List (Nat × List Nat)) (runs : List CaseRun) (character : Char) :
    List Char :=
  match expansions.lookup character.toNat with
  | some codes => codes.map Char.ofNat
  | none =>
    match shiftedBy runs character.toNat with
    | some shift => [Char.ofNat (character.toNat + shift).toNat]
    | none => [character]

def upperChar (character : Char) : List Char :=
  if character.toNat < 0x80 then [character.toUpper]
  else mapCase CaseTable.upperExpansions CaseTable.upperRuns character

def lowerChar (character : Char) : List Char :=
  if character.toNat < 0x80 then [character.toLower]
  else mapCase CaseTable.lowerExpansions CaseTable.lowerRuns character

/-- The text in upper case. -/
def upper (text : List Char) : List Char := text.flatMap upperChar

def isCased (character : Char) : Bool := inRanges CaseTable.casedRanges character.toNat

def isCaseIgnorable (character : Char) : Bool :=
  inRanges CaseTable.caseIgnorableRanges character.toNat

/-- Whether the first character that is not passed over is a letter with case. -/
def meetsCased (text : List Char) : Bool :=
  match text.dropWhile isCaseIgnorable with
  | [] => false
  | character :: _ => isCased character

/-- The lower case of the characters that follow, given those before them in reverse. -/
def lowerFrom (before : List Char) : List Char → List Char
  | [] => []
  | character :: text =>
    let written :=
      if character = 'Σ' then
        if meetsCased before && !meetsCased text then ['ς'] else ['σ']
      else lowerChar character
    written ++ lowerFrom (character :: before) text

/-- The text in lower case. -/
def lower (text : List Char) : List Char := lowerFrom [] text

end ScriptHost.Text

/-!
# White space

* `isBlank` : the characters of the white space property, 25 in number.
* `words` : the longest runs of other characters.
-/

namespace ScriptHost.Text

/-- Ranges of the white space characters. -/
def blankRanges : List (Nat × Nat) := [
  (0x9, 0xd), (0x20, 0x20), (0x85, 0x85), (0xa0, 0xa0), (0x1680, 0x1680), (0x2000, 0x200a),
  (0x2028, 0x2029), (0x202f, 0x202f), (0x205f, 0x205f), (0x3000, 0x3000)]

/-- Whether a code point lies in one of the ranges. -/
def inRanges (ranges : List (Nat × Nat)) (code : Nat) : Bool :=
  ranges.any fun (first, last) => first ≤ code && code ≤ last

def isBlank (character : Char) : Bool := inRanges blankRanges character.toNat

/-- A run of characters, unless it is empty, in front of others. -/
def consRun (run : List Char) (runs : List (List Char)) : List (List Char) :=
  if run = [] then runs else run :: runs

/-- The run of characters other than white space at the front, and the runs behind it. -/
def visibleRuns : List Char → List Char × List (List Char)
  | [] => ([], [])
  | character :: text =>
    let (run, later) := visibleRuns text
    if isBlank character then ([], consRun run later) else (character :: run, later)

/-- The longest runs of characters that are not white space. -/
def words (text : List Char) : List (List Char) :=
  let (run, later) := visibleRuns text
  consRun run later

end ScriptHost.Text

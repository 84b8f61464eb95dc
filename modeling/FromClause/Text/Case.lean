import FromClause.Text.CaseTable
import FromClause.Text.Letter
/-!
# Letter case

Upper and lower case of whole texts, by the full mappings of Unicode: one letter may become several, and a
capital sigma becomes a final one at the end of a word. Neither mapping depends on a language.
-/

namespace FromClause

namespace Text

/-- The image of a code point under the first run that holds it. -/
def imageIn? (runs : List CaseRun) (code : Nat) : Option Nat :=
  runs.findSome? fun run => run.image? code

/-- The upper case of one character. -/
def upperChar (c : Char) : List Char :=
  if c.toNat < 128 then [c.toUpper]
  else
    match upperSequences.lookup c.toNat with
    | some codes => codes.map Char.ofNat
    | none => [((imageIn? upperRuns c.toNat).map Char.ofNat).getD c]

/-- The lower case of one character, whatever stands around it. A capital I with a dot keeps its dot as a
mark of its own. -/
def lowerChar (c : Char) : List Char :=
  if c.toNat < 128 then [c.toLower]
  else if c = 'İ' then ['i', '\u0307']
  else [((imageIn? lowerRuns c.toNat).map Char.ofNat).getD c]

/-- The characters that have a case. -/
def isCased (c : Char) : Bool :=
  if c.toNat < 128 then c.isAlpha else inRanges casedRanges c.toNat

/-- Whether the first character that is not passed over is cased. -/
def casedAhead (cs : List Char) : Bool :=
  match cs.dropWhile fun c => inRanges caseIgnorableRanges c.toNat with
  | [] => false
  | c :: _ => isCased c

/-- The lower case of a text that follows `before`, which is given backwards. A capital sigma is final when a
cased letter precedes it and none follows. -/
def lowerAfter (before : List Char) : List Char → List Char
  | [] => []
  | c :: rest =>
    (if c = 'Σ' then [if casedAhead before && !casedAhead rest then 'ς' else 'σ'] else lowerChar c) ++
      lowerAfter (c :: before) rest

/-- The upper case of a text. -/
def upper (s : String) : String :=
  String.ofList (s.toList.flatMap upperChar)

/-- The lower case of a text. -/
def lower (s : String) : String :=
  String.ofList (lowerAfter [] s.toList)

end Text

end FromClause

/-
Lower and upper case of whole texts. A character may map to several, and a capital
sigma at the end of a word maps to the final sigma, which is the one place where the
neighbours of a character matter.
-/
import ApkReport.Text.CaseTable
import ApkReport.Text.CharClass

namespace ApkReport.Text

/-- The image of a character by a table of longer images first and the runs second. -/
def caseImage (special : List (Nat × List Nat)) (runs : List CaseRun) (c : Char) : List Char :=
  match special.lookup c.toNat with
  | some image => image.map Char.ofNat
  | none => [Char.ofNat ((runs.findSome? (·.image? c.toNat)).getD c.toNat)]

def upperChar (c : Char) : List Char := caseImage upperSpecial upperRuns c

/-- The lower case of a character that stands alone. -/
def lowerChar (c : Char) : List Char := caseImage lowerSpecial lowerRuns c

def isCaseIgnorable (c : Char) : Bool := inRanges caseIgnorableRanges c.toNat

def isCased (c : Char) : Bool := inRanges casedRanges c.toNat

/-- The nearest character that is not case-ignorable is cased. -/
def meetsCased (s : List Char) : Bool :=
  match s.dropWhile isCaseIgnorable with
  | [] => false
  | c :: _ => isCased c

/-- The lower case of a text that follows `before`, which is given last character first. -/
def lowerAfter (before : List Char) : List Char → List Char
  | [] => []
  | c :: rest =>
    if c = 'Σ' then
      (if meetsCased before && !meetsCased rest then 'ς' else 'σ') :: lowerAfter (c :: before) rest
    else lowerChar c ++ lowerAfter (c :: before) rest

def lower (s : String) : String := String.ofList (lowerAfter [] s.toList)

def upper (s : String) : String := String.ofList (s.toList.flatMap upperChar)

end ApkReport.Text

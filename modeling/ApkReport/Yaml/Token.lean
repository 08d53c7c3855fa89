/-
Tokens of a settings document, and the characters that divide them.
-/

namespace ApkReport.Yaml

inductive Token where
  | version (major : Nat)
  | tagPrefix (handle replacement : String)
  | otherDirective
  | documentStart
  | documentEnd
  | blockSequence
  | blockMapping
  | blockEnd
  | flowSequence
  | flowSequenceEnd
  | flowMapping
  | flowMappingEnd
  | blockEntry
  | flowEntry
  | key
  | value
  | alias (name : String)
  | anchor (name : String)
  | tag (handle : Option String) (suffix : String)
  | scalar (isPlain : Bool) (text : String)
  deriving DecidableEq, Repr

/-- The character that stands for the end of the text. -/
def endMark : Char := '\x00'

def isBreak (c : Char) : Bool := c = '\n' || c = '\x85' || c = '\u2028' || c = '\u2029'

/-- Ends a line, or the text. -/
def isLineEnd (c : Char) : Bool := isBreak c || c = endMark

def isSpaceOrEnd (c : Char) : Bool := isLineEnd c || c = ' '

/-- Ends a word: a blank, a tab, the end of the line or of the text. -/
def isSeparator (c : Char) : Bool := isSpaceOrEnd c || c = '\t'

/-- The character at a position from the front. -/
def peek (s : List Char) (n : Nat) : Char := s.getD n endMark

/-- The break that is kept in a text: the break of a line becomes a line feed. -/
def keptBreak (c : Char) : Char := if c = '\x85' then '\n' else c

/-- A mark of three characters that starts or ends a document stands at the front. -/
def atMark (c : Char) (s : List Char) : Bool := [c, c, c].isPrefixOf s && isSeparator (peek s 3)

def atDocumentMark (s : List Char) : Bool := atMark '-' s || atMark '.' s

/-- Letters, digits, and the two dashes. -/
def isNameChar (c : Char) : Bool :=
  ('0' ≤ c && c ≤ '9') || ('A' ≤ c && c ≤ 'Z') || ('a' ≤ c && c ≤ 'z') || c = '-' || c = '_'

def isHexDigit (c : Char) : Bool := ('0' ≤ c && c ≤ '9') || ('A' ≤ c && c ≤ 'F') || ('a' ≤ c && c ≤ 'f')

end ApkReport.Yaml

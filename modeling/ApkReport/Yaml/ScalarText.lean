/-
The texts of scalars: plain ones, those in quotes, and blocks. Line breaks inside of plain
and quoted text fold to blanks; a block keeps or folds its lines as its header says.
-/
import ApkReport.Text.Numeral
import ApkReport.Yaml.Fault
import ApkReport.Yaml.Token

namespace ApkReport.Yaml

/-- A text, and what follows it. -/
abbrev Reading := Except Fault (List Char × List Char)

def malformed {α : Type} (reason : String) : Except Fault α := .error (.malformed reason)

/-- What a break and the empty lines after it leave of themselves. -/
def foldBreaks (first : Char) (others : List Char) : List Char :=
  if first ≠ '\n' then first :: others else if others.isEmpty then [' '] else others

/-! ## Plain text -/

/-- The characters that end plain text inside of brackets. -/
def isFlowMark (c : Char) : Bool := c = ',' || c = '?' || c = '[' || c = ']' || c = '\x7b' || c = '\x7d'

/-- The colon that the text starts with ends a plain text. -/
def endsAtColon (inFlow : Bool) (after : Char) : Bool :=
  isSeparator after || (inFlow && (after = ',' || after = '[' || after = ']' || after = '\x7b' || after = '\x7d'))

/-- The plain characters at the front. -/
def plainWord (inFlow : Bool) : List Char → List Char
  | [] => []
  | c :: rest =>
    if isSeparator c || (c = ':' && endsAtColon inFlow (peek rest 0)) || (inFlow && isFlowMark c) then []
    else c :: plainWord inFlow rest

/-- Breaks and blanks at the front: the breaks, what follows, and the number of blanks before that. At the
mark of a document nothing more is taken, and there is no such number. -/
def plainBreaks : Nat → List Char → List Char × List Char × Option Nat
  | blanks, [] => ([], [], some blanks)
  | blanks, c :: rest =>
    if c = ' ' then plainBreaks (blanks + 1) rest
    else if isBreak c then
      if atDocumentMark rest then ([keptBreak c], rest, none)
      else
        let (breaks, rest, column) := plainBreaks 0 rest
        (keptBreak c :: breaks, rest, column)
    else ([], c :: rest, some blanks)

/-- A plain text in which lines may be broken, its rest, and whether a line was broken at its end. In a
block, a line with fewer than `indent` blanks in front ends it. `steps` bounds the words. -/
def plainText (inFlow : Bool) (indent : Nat) : Nat → List Char → List Char → List Char × List Char × Bool
  | 0, _, s => ([], s, false)
  | steps + 1, spaces, s =>
    let word := if peek s 0 = '#' then [] else plainWord inFlow s
    if word.isEmpty then ([], s, true)
    else
      let after := s.drop word.length
      let blanks := after.takeWhile (· = ' ')
      let next := after.drop blanks.length
      let taken := spaces ++ word
      if isBreak (peek next 0) then
        let first := keptBreak (peek next 0)
        if atDocumentMark (next.drop 1) then (taken, next.drop 1, true)
        else
          let (breaks, next, column?) := plainBreaks 0 (next.drop 1)
          match column? with
          | none => (taken, next, true)
          | some column =>
            if peek next 0 = '#' || (!inFlow && column < indent) then (taken, next, true)
            else
              let (more, rest, broken) := plainText inFlow indent steps (foldBreaks first breaks) next
              (taken ++ more, rest, if more.isEmpty then true else broken)
      else if blanks.isEmpty || peek next 0 = '#' then (taken, next, false)
      else
        let (more, rest, broken) := plainText inFlow indent steps blanks next
        (taken ++ more, rest, if more.isEmpty then false else broken)

/-! ## Quoted text -/

/-- The character that a letter after a backslash stands for. -/
def escaped? : Char → Option Char
  | '0' => some '\x00'
  | 'a' => some '\x07'
  | 'b' => some '\x08'
  | 't' | '\t' => some '\t'
  | 'n' => some '\n'
  | 'v' => some '\x0b'
  | 'f' => some '\x0c'
  | 'r' => some '\r'
  | 'e' => some '\x1b'
  | ' ' => some ' '
  | '"' => some '"'
  | '\\' => some '\\'
  | '/' => some '/'
  | 'N' => some '\x85'
  | '_' => some '\xa0'
  | 'L' => some '\u2028'
  | 'P' => some '\u2029'
  | _ => none

/-- The number of hexadecimal digits after a letter. -/
def escapeWidth? : Char → Option Nat
  | 'x' => some 2
  | 'u' => some 4
  | 'U' => some 8
  | _ => none

/-- The character of a number; one without a character of its own is replaced. -/
def codedCharacter (n : Nat) : Except Fault Char :=
  if n < 0xD800 ∨ (0xE000 ≤ n ∧ n < 0x110000) then .ok (Char.ofNat n)
  else if n < 0x110000 then .ok '\uFFFD'
  else if n < 0x80000000 then .error .noSuchCharacter
  else .error .characterOverflow

/-- The breaks at the front, with blanks around them. -/
def quotedBreaks : Nat → List Char → Reading
  | 0, _ => malformed "unexpected end"
  | steps + 1, s =>
    if atDocumentMark s then malformed "found unexpected document separator"
    else
      let next := s.dropWhile fun c => c = ' ' || c = '\t'
      if isBreak (peek next 0) then
        match quotedBreaks steps (next.drop 1) with
        | .error f => .error f
        | .ok (breaks, rest) => .ok (keptBreak (peek next 0) :: breaks, rest)
      else .ok ([], next)

/-- Blanks and breaks at the front, folded. -/
def quotedSpaces (s : List Char) : Reading :=
  let blanks := s.takeWhile fun c => c = ' ' || c = '\t'
  let next := s.drop blanks.length
  if next.isEmpty then malformed "found unexpected end of stream"
  else if isBreak (peek next 0) then
    match quotedBreaks (next.length + 1) (next.drop 1) with
    | .error f => .error f
    | .ok (breaks, rest) => .ok (foldBreaks (keptBreak (peek next 0)) breaks, rest)
  else .ok (blanks, next)

/-- The text of an escape after its backslash. -/
def escape (s : List Char) : Reading :=
  match s with
  | [] => malformed "found unknown escape character"
  | c :: rest =>
    match escaped? c, escapeWidth? c with
    | some e, _ => .ok ([e], rest)
    | none, some width =>
      let digits := rest.take width
      if digits.length = width ∧ digits.all isHexDigit then
        match codedCharacter (Text.ofDigits 16 (digits.filterMap (Text.digitIn? 16))) with
        | .error f => .error f
        | .ok e => .ok ([e], rest.drop width)
      else malformed "expected escape sequence of hexadecimal numbers"
    | none, none => if isBreak c then quotedBreaks (rest.length + 1) rest else malformed "found unknown escape character"

/-- The text up to the closing quote. -/
def quotedText (quote : Char) : Nat → List Char → Reading
  | 0, _ => malformed "unexpected end"
  | _, [] => malformed "found unexpected end of stream"
  | steps + 1, c :: rest =>
    let followedBy (piece : Reading) : Reading :=
      match piece with
      | .error f => .error f
      | .ok (text, rest) =>
        match quotedText quote steps rest with
        | .error f => .error f
        | .ok (more, rest) => .ok (text ++ more, rest)
    if c = quote then
      if quote = '\'' ∧ peek rest 0 = '\'' then followedBy (.ok (['\''], rest.drop 1)) else .ok ([], rest)
    else if quote = '"' ∧ c = '\\' then followedBy (escape rest)
    else if c = ' ' || c = '\t' || isBreak c then followedBy (quotedSpaces (c :: rest))
    else followedBy (.ok ([c], rest))

/-! ## Blocks -/

/-- What happens to the breaks at the end of a block. -/
inductive Chomping where
  | clip
  | strip
  | keep
  deriving DecidableEq, Repr

def chomping? : Char → Option Chomping
  | '+' => some .keep
  | '-' => some .strip
  | _ => none

/-- The number of blanks that a header asks for. -/
def increment? (c : Char) : Option Nat := if '0' ≤ c ∧ c ≤ '9' then some (c.toNat - '0'.toNat) else none

/-- The two marks of a header in either order, both optional, and what follows. -/
def blockHeader (s : List Char) : Except Fault (Chomping × Option Nat × List Char) :=
  let finish (chomping : Chomping) (increment : Option Nat) (rest : List Char) :
      Except Fault (Chomping × Option Nat × List Char) :=
    if increment = some 0 then malformed "expected indentation indicator in the range 1-9"
    else if isSpaceOrEnd (peek rest 0) then .ok (chomping, increment, rest)
    else malformed "expected chomping or indentation indicators"
  match chomping? (peek s 0), increment? (peek s 0) with
  | some chomping, _ =>
    match increment? (peek s 1) with
    | some n => finish chomping (some n) (s.drop 2)
    | none => finish chomping none (s.drop 1)
  | none, some n =>
    match chomping? (peek s 1) with
    | some chomping => finish chomping (some n) (s.drop 2)
    | none => finish .clip (some n) (s.drop 1)
  | none, none => finish .clip none s

/-- Skips blanks and a comment up to the end of the line, which is skipped too. -/
def skipLine (s : List Char) : Except Fault (List Char) :=
  let next := s.dropWhile (· = ' ')
  let next := if peek next 0 = '#' then next.dropWhile (!isLineEnd ·) else next
  if isLineEnd (peek next 0) then .ok (next.drop 1) else malformed "expected a comment or a line break"

/-- The breaks before the first line of a block, the largest number of blanks in front of any of these
lines, what follows, and the number of blanks before that. -/
def firstIndent : Nat → Nat → List Char → List Char × Nat × List Char × Nat
  | column, greatest, [] => ([], greatest, [], column)
  | column, greatest, c :: rest =>
    if c = ' ' then firstIndent (column + 1) (max greatest (column + 1)) rest
    else if isBreak c then
      let (breaks, greatest, rest, column) := firstIndent 0 greatest rest
      (keptBreak c :: breaks, greatest, rest, column)
    else ([], greatest, c :: rest, column)

/-- Breaks at the front, each with at most `indent` blanks after it; what follows, and the number of
blanks before that. -/
def blockBreaks (indent : Nat) : Nat → List Char → List Char × List Char × Nat
  | column, [] => ([], [], column)
  | column, c :: rest =>
    if c = ' ' ∧ column < indent then blockBreaks indent (column + 1) rest
    else if isBreak c then
      let (breaks, rest, column) := blockBreaks indent 0 rest
      (keptBreak c :: breaks, rest, column)
    else ([], c :: rest, column)

/-- The break between two lines of a block. -/
def lineJoin (folded : Bool) (lineBreak : Char) (spaceAround : Bool) (breaks : List Char) : List Char :=
  if folded && lineBreak = '\n' && !spaceAround then (if breaks.isEmpty then [' '] else [])
  else [lineBreak]

def isTabOrSpace (c : Char) : Bool := c = ' ' || c = '\t'

/-- The lines of a block, each of which starts after `indent` blanks: their text, the last break, the
empty lines after it, and the rest. -/
def blockLines (folded : Bool) (indent : Nat) : Nat → List Char → List Char × List Char × List Char × List Char
  | 0, s => ([], [], [], s)
  | steps + 1, s =>
    let line := s.takeWhile (!isLineEnd ·)
    let next := s.drop line.length
    if next.isEmpty then (line, [], [], [])
    else
      let lineBreak := keptBreak (peek next 0)
      let (breaks, next, column) := blockBreaks indent 0 (next.drop 1)
      if column = indent ∧ !next.isEmpty then
        let joined := lineJoin folded lineBreak (isTabOrSpace (peek line 0) || isTabOrSpace (peek next 0)) breaks
        let (more, last, trailing, rest) := blockLines folded indent steps next
        (line ++ joined ++ breaks ++ more, last, trailing, rest)
      else (line, [lineBreak], breaks, next)

/-- The text of a block after its mark, which stands in a collection of `indent` blanks; what follows it,
and whether that starts a line. -/
def blockText (folded : Bool) (indent : Int) (s : List Char) : Reading :=
  match blockHeader s with
  | .error f => .error f
  | .ok (chomping, increment, s) =>
    match skipLine s with
    | .error f => .error f
    | .ok s =>
      let least := (max (indent + 1) 1).toNat
      let (width, breaks, next, column) := match increment with
        | none =>
          let (breaks, greatest, next, column) := firstIndent 0 0 s
          (max least greatest, breaks, next, column)
        | some n =>
          let width := least + n - 1
          let (breaks, next, column) := blockBreaks width 0 s
          (width, breaks, next, column)
      if column = width ∧ !next.isEmpty then
        let (text, last, trailing, rest) := blockLines folded width (next.length + 1) next
        let tail := match chomping with
          | .strip => []
          | .clip => last
          | .keep => last ++ trailing
        .ok (breaks ++ text ++ tail, rest)
      else .ok (if chomping = .keep then breaks else [], next)

end ApkReport.Yaml

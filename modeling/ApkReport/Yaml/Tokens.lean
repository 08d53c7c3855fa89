/-
The tokens of a settings document. Lines of a block nest by their indentation. A key that
stands on one line before its colon is known only when the colon is met: until then its
place among the tokens is remembered, one for each level of brackets.
-/
import ApkReport.Text.Encoding
import ApkReport.Yaml.ScalarText

namespace ApkReport.Yaml

/-! ## Places -/

structure Place where
  index : Nat := 0
  line : Nat := 0
  column : Nat := 0
  deriving DecidableEq, Repr

/-- The place after a character. A byte-order mark takes no column. -/
def Place.after (p : Place) (c : Char) : Place :=
  if isBreak c then ⟨p.index + 1, p.line + 1, 0⟩
  else ⟨p.index + 1, p.line, if c = '\uFEFF' then p.column else p.column + 1⟩

/-! ## Parts of tokens -/

/-- A name at the front. -/
def scanName (s : List Char) : Reading :=
  let name := s.takeWhile isNameChar
  if name.isEmpty then malformed "expected alphabetic or numeric character" else .ok (name, s.drop name.length)

/-- A name after the mark of an anchor or an alias. -/
def scanAnchor (s : List Char) : Reading := do
  let (name, rest) ← scanName s
  let c := peek rest 0
  if isSeparator c || "?:,]%@\x60".toList.contains c || c = '\x7d' then return (name, rest)
  else malformed "expected alphabetic or numeric character"

def isUriMark (c : Char) : Bool := "-;/?:@&=+$,_.!~*'()[]".toList.contains c

/-- Bytes after percent signs. -/
def escapedBytes : List Char → Except Fault (Bytes × List Char)
  | '%' :: a :: b :: rest =>
    if isHexDigit a && isHexDigit b then do
      let (bytes, rest) ← escapedBytes rest
      return (UInt8.ofNat (Text.ofDigits 16 ([a, b].filterMap (Text.digitIn? 16))) :: bytes, rest)
    else malformed "expected URI escape sequence of 2 hexadecimal numbers"
  | '%' :: _ => malformed "expected URI escape sequence of 2 hexadecimal numbers"
  | rest => .ok ([], rest)

/-- The characters of an address; `steps` bounds their number. -/
def uriChars : Nat → List Char → Reading
  | 0, s => .ok ([], s)
  | steps + 1, s =>
    let c := peek s 0
    if c = '%' then do
      let (bytes, rest) ← escapedBytes s
      let text ← match Text.decodeUtf8 bytes with
        | .ok text => .ok text.toList
        | .error e => malformed e.message
      let (more, rest) ← uriChars steps rest
      return (text ++ more, rest)
    else if isNameChar c || isUriMark c then do
      let (more, rest) ← uriChars steps (s.drop 1)
      return (c :: more, rest)
    else .ok ([], s)

def scanUri (s : List Char) : Reading := do
  let (uri, rest) ← uriChars (s.length + 1) s
  if rest.length = s.length then malformed "expected URI" else return (uri, rest)

/-- A handle: one exclamation mark before a blank, or a name between two. -/
def scanHandle (s : List Char) : Reading :=
  if peek s 0 ≠ '!' then malformed "expected '!'"
  else if peek s 1 = ' ' then .ok (['!'], s.drop 1)
  else
    let name := (s.drop 1).takeWhile isNameChar
    if peek s (name.length + 1) = '!' then .ok (s.take (name.length + 2), s.drop (name.length + 2))
    else malformed "expected '!'"

/-- A second exclamation mark follows before the next blank. -/
def hasHandle (s : List Char) : Bool := (s.takeWhile (!isSpaceOrEnd ·)).contains '!'

/-- A tag, of which the text holds the first exclamation mark. -/
def scanTag (s : List Char) : Except Fault (Token × List Char) := do
  let (token, rest) ←
    if peek s 1 = '<' then do
      let (uri, rest) ← scanUri (s.drop 2)
      if peek rest 0 ≠ '>' then malformed "expected '>'"
      else .ok (Token.tag none (String.ofList uri), rest.drop 1)
    else if isSeparator (peek s 1) then .ok (Token.tag none "!", s.drop 1)
    else do
      let (handle, rest) ← if hasHandle (s.drop 1) then scanHandle s else .ok (['!'], s.drop 1)
      let (uri, rest) ← scanUri rest
      .ok (Token.tag (some (String.ofList handle)) (String.ofList uri), rest)
  if isSpaceOrEnd (peek rest 0) then return (token, rest) else malformed "expected ' '"

/-! ### Directives -/

def skipBlanks (s : List Char) : List Char := s.dropWhile (· = ' ')

def scanNumber (s : List Char) : Except Fault (Nat × List Char) :=
  let digits := s.takeWhile fun c => '0' ≤ c && c ≤ '9'
  if digits.isEmpty then malformed "expected a digit"
  else if Text.maxDigits < digits.length then .error (.longInteger digits.length)
  else .ok (Text.ofDigits 10 (digits.filterMap (Text.digitIn? 10)), s.drop digits.length)

def scanVersion (s : List Char) : Except Fault (Token × List Char) := do
  let (major, rest) ← scanNumber (skipBlanks s)
  if peek rest 0 ≠ '.' then malformed "expected a digit or '.'"
  else
    let (_, rest) ← scanNumber (rest.drop 1)
    if isSpaceOrEnd (peek rest 0) then return (.version major, rest) else malformed "expected a digit or ' '"

def scanTagPrefix (s : List Char) : Except Fault (Token × List Char) := do
  let (handle, rest) ← scanHandle (skipBlanks s)
  if peek rest 0 ≠ ' ' then malformed "expected ' '"
  else
    let (uri, rest) ← scanUri (skipBlanks rest)
    if isSpaceOrEnd (peek rest 0) then return (.tagPrefix (String.ofList handle) (String.ofList uri), rest)
    else malformed "expected ' '"

/-- A directive after its percent sign, with the rest of its line. -/
def scanDirective (s : List Char) : Except Fault (Token × List Char) := do
  let (name, rest) ← scanName s
  if !isSpaceOrEnd (peek rest 0) then malformed "expected alphabetic or numeric character"
  else
    let (token, rest) ←
      if name = "YAML".toList then scanVersion rest
      else if name = "TAG".toList then scanTagPrefix rest
      else .ok (Token.otherDirective, rest.dropWhile (!isLineEnd ·))
    return (token, ← skipLine rest)

/-! ## The scanner -/

/-- A place where a key may have started, with the number of tokens before it. A required key has to be
followed by its colon. -/
structure KeyPlace where
  tokens : Nat
  required : Bool
  place : Place
  deriving DecidableEq, Repr

structure Scanner where
  rest : List Char
  place : Place := {}
  tokens : Array Token := #[]
  /-- The number of brackets that are open. -/
  level : Nat := 0
  /-- The indentation of the innermost block, and those around it. -/
  indent : Int := -1
  indents : List Int := []
  /-- A key may start here. -/
  keyAllowed : Bool := true
  /-- The places of possible keys by their level. -/
  keys : List (Nat × KeyPlace) := []

namespace Scanner

def next (s : Scanner) : Char := peek s.rest 0

def inFlow (s : Scanner) : Bool := s.level ≠ 0

/-- Goes on to a rest of the text. -/
def moveTo (s : Scanner) (rest : List Char) : Scanner :=
  { s with rest, place := (s.rest.take (s.rest.length - rest.length)).foldl Place.after s.place }

def skip (s : Scanner) (n : Nat) : Scanner := s.moveTo (s.rest.drop n)

def push (s : Scanner) (t : Token) : Scanner := { s with tokens := s.tokens.push t }

/-- Puts a token in front of one that was found before. -/
def insertAt (s : Scanner) (i : Nat) (t : Token) : Scanner :=
  { s with tokens := (s.tokens.toList.take i ++ t :: s.tokens.toList.drop i).toArray }

/-- Blanks, comments and line breaks; `steps` bounds the lines. -/
def skipToToken : Nat → Scanner → Scanner
  | 0, s => s
  | steps + 1, s =>
    let rest := skipBlanks s.rest
    let rest := if peek rest 0 = '#' then rest.dropWhile (!isLineEnd ·) else rest
    if isBreak (peek rest 0) then
      let s := s.moveTo (rest.drop 1)
      skipToToken steps (if s.inFlow then s else { s with keyAllowed := true })
    else s.moveTo rest

/-- A possible key that was not required is forgotten. -/
def forget (s : Scanner) (isStale : Nat → KeyPlace → Bool) : Except Fault Scanner :=
  if s.keys.any fun (level, k) => k.required && isStale level k then malformed "could not find expected ':'"
  else .ok { s with keys := s.keys.filter fun (level, k) => !isStale level k }

/-- The longest key, with what stands in front of its colon. -/
def maxKey : Nat := 1024

/-- Keys end on their line. -/
def forgetStale (s : Scanner) : Except Fault Scanner :=
  s.forget fun _ k => k.place.line ≠ s.place.line || maxKey < s.place.index - k.place.index

/-- Forgets the possible key of this level. -/
def forgetKey (s : Scanner) : Except Fault Scanner := s.forget fun level _ => level = s.level

/-- Remembers that a key may start here. -/
def rememberKey (s : Scanner) : Except Fault Scanner :=
  if !s.keyAllowed then .ok s
  else do
    let required := !s.inFlow && s.indent = s.place.column
    let s ← s.forgetKey
    return { s with keys := (s.level, ⟨s.tokens.size, required, s.place⟩) :: s.keys }

/-- Ends the blocks that are indented more; `steps` bounds their number. -/
def unwind (column : Int) : Nat → Scanner → Scanner
  | 0, s => s
  | steps + 1, s =>
    if s.inFlow || s.indent ≤ column then s
    else unwind column steps ({ s with indent := s.indents.headD (-1), indents := s.indents.tail }.push .blockEnd)

def unwindTo (s : Scanner) (column : Int) : Scanner := unwind column (s.indents.length + 1) s

/-- Starts a block at a column, if it is indented more; its token takes the place `i`. -/
def startBlock (s : Scanner) (column : Nat) (t : Token) (i : Nat) : Scanner :=
  if s.indent < column then { s with indent := column, indents := s.indent :: s.indents }.insertAt i t else s

/-! ### Tokens -/

/-- A mark at the left margin that belongs to no block. -/
def atMargin (s : Scanner) : Except Fault Scanner := do
  let s ← (s.unwindTo (-1)).forgetKey
  return { s with keyAllowed := false }

def scanFlowStart (s : Scanner) (t : Token) : Except Fault Scanner := do
  let s ← s.rememberKey
  return ({ s with level := s.level + 1, keyAllowed := true }.skip 1).push t

def scanFlowEnd (s : Scanner) (t : Token) : Except Fault Scanner := do
  let s ← s.forgetKey
  if !s.inFlow then malformed "unexpected end of a flow collection"
  else return ({ s with level := s.level - 1, keyAllowed := false }.skip 1).push t

/-- A mark that ends a possible key. -/
def scanEntry (s : Scanner) (t : Token) (keyAllowed : Bool) : Except Fault Scanner := do
  let s ← { s with keyAllowed }.forgetKey
  return (s.skip 1).push t

/-- A mark in front of an entry or a key, which may start a block. -/
def scanBlockMark (s : Scanner) (start mark : Token) (keyAllowed : Bool) : Except Fault Scanner :=
  if s.inFlow then s.scanEntry mark keyAllowed
  else if !s.keyAllowed then malformed "entries are not allowed here"
  else (s.startBlock s.place.column start s.tokens.size).scanEntry mark keyAllowed

def scanColon (s : Scanner) : Except Fault Scanner :=
  match s.keys.lookup s.level with
  | none => s.scanBlockMark .blockMapping .value (!s.inFlow)
  | some k =>
    let s := { s with keys := s.keys.filter (·.1 ≠ s.level), keyAllowed := false }.insertAt k.tokens .key
    let s := if s.inFlow then s else s.startBlock k.place.column .blockMapping k.tokens
    .ok ((s.skip 1).push .value)

/-- A token that may be a key, read from where the scanner stands. -/
def scanLeaf (s : Scanner) (read : List Char → Except Fault (Token × List Char)) : Except Fault Scanner := do
  let s ← s.rememberKey
  let (t, rest) ← read s.rest
  return ({ s with keyAllowed := false }.moveTo rest).push t

def scanQuoted (s : Scanner) (quote : Char) : Except Fault Scanner :=
  s.scanLeaf fun text => do
    let (body, rest) ← quotedText quote (text.length + 1) (text.drop 1)
    return (.scalar false (String.ofList body), rest)

def scanPlain (s : Scanner) : Except Fault Scanner := do
  let s ← s.rememberKey
  let (text, rest, broken) := plainText s.inFlow (s.indent + 1).toNat (s.rest.length + 1) [] s.rest
  return ({ s with keyAllowed := broken }.moveTo rest).push (.scalar true (String.ofList text))

def scanBlockScalar (s : Scanner) (folded : Bool) : Except Fault Scanner := do
  let s ← { s with keyAllowed := true }.forgetKey
  let (text, rest) ← blockText folded s.indent (s.rest.drop 1)
  return (s.moveTo rest).push (.scalar false (String.ofList text))

/-- The marks that no plain text starts with. -/
def isMark (c : Char) : Bool := "-?:,[]#&*!|>'\"%@\x60".toList.contains c || c = '\x7b' || c = '\x7d'

def startsPlain (s : Scanner) : Bool :=
  let c := s.next
  !(isSeparator c || isMark c) ||
    (!isSeparator (peek s.rest 1) && (c = '-' || (!s.inFlow && (c = '?' || c = ':'))))

/-- The token at the front, which is not the end of the text. -/
def scanToken (s : Scanner) : Except Fault Scanner :=
  let c := s.next
  let isAlone := isSeparator (peek s.rest 1)
  if s.place.column = 0 ∧ c = '%' then do
    let s ← s.atMargin
    let (t, rest) ← scanDirective (s.rest.drop 1)
    return (s.moveTo rest).push t
  else if s.place.column = 0 ∧ atDocumentMark s.rest then do
    let s ← s.atMargin
    return (s.skip 3).push (if c = '-' then .documentStart else .documentEnd)
  else if c = '[' then s.scanFlowStart .flowSequence
  else if c = '\x7b' then s.scanFlowStart .flowMapping
  else if c = ']' then s.scanFlowEnd .flowSequenceEnd
  else if c = '\x7d' then s.scanFlowEnd .flowMappingEnd
  else if c = ',' then s.scanEntry .flowEntry true
  else if c = '-' ∧ isAlone then s.scanBlockMark .blockSequence .blockEntry true
  else if c = '?' ∧ (s.inFlow || isAlone) then s.scanBlockMark .blockMapping .key (!s.inFlow)
  else if c = ':' ∧ (s.inFlow || isAlone) then s.scanColon
  else if c = '*' then s.scanLeaf fun text => (scanAnchor (text.drop 1)).map fun (n, r) => (.alias (String.ofList n), r)
  else if c = '&' then s.scanLeaf fun text => (scanAnchor (text.drop 1)).map fun (n, r) => (.anchor (String.ofList n), r)
  else if c = '!' then s.scanLeaf scanTag
  else if c = '|' ∧ !s.inFlow then s.scanBlockScalar false
  else if c = '>' ∧ !s.inFlow then s.scanBlockScalar true
  else if c = '\'' ∨ c = '"' then s.scanQuoted c
  else if s.startsPlain then s.scanPlain
  else malformed "found character that cannot start any token"

/-- The tokens up to the end of the text, and the fault that ends them earlier; `steps` bounds their number. -/
def scanAll : Nat → Scanner → List Token × Option Fault
  | 0, s => (s.tokens.toList, some (.malformed "unexpected end"))
  | steps + 1, s =>
    match (skipToToken (s.rest.length + 1) s).forgetStale with
    | .error f => (s.tokens.toList, some f)
    | .ok s =>
      let s := s.unwindTo s.place.column
      if s.rest.isEmpty then
        match s.atMargin with
        | .error f => (s.tokens.toList, some f)
        | .ok s => (s.tokens.toList, none)
      else
        match s.scanToken with
        | .error f => (s.tokens.toList, some f)
        | .ok s => scanAll steps s

end Scanner

/-! ## Text -/

/-- A character that a document may hold. -/
def isLegal (c : Char) : Bool :=
  c = '\t' || c = '\n' || c = '\r' || (' ' ≤ c && c ≤ '~') || c = '\x85' || ('\xa0' ≤ c && c ≠ '\uFFFE' && c ≠ '\uFFFF')

/-- Every line ends in a line feed. -/
def plainLineEnds : List Char → List Char
  | [] => []
  | '\r' :: '\n' :: rest => '\n' :: plainLineEnds rest
  | '\r' :: rest => '\n' :: plainLineEnds rest
  | c :: rest => c :: plainLineEnds rest

/-- The tokens of a text, and the fault that ends them before the text ends. -/
def tokens (text : String) : List Token × Option Fault :=
  let chars := plainLineEnds text.toList
  if !chars.all isLegal then ([], some (.malformed "special characters are not allowed"))
  else
    let s : Scanner := { rest := chars }
    Scanner.scanAll (chars.length + 1) (if chars.head? = some '\uFEFF' then s.skip 1 else s)

end ApkReport.Yaml

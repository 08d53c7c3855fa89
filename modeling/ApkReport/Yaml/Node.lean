/-
The nodes of a settings document: scalars, sequences and mappings, each with its tag. An
alias stands for the node of its anchor; inside of that very node it stays an alias.
-/
import ApkReport.Yaml.Tokens
import ApkReport.Yaml.Tag

namespace ApkReport.Yaml

inductive Node where
  | scalar (tag : Tag) (text : String)
  | sequence (tag : Tag) (items : List Node)
  | mapping (tag : Tag) (entries : List (Node × Node))
  /-- A collection with an anchor. -/
  | marked (label : Nat) (n : Node)
  /-- The collection of that label, which is still open. -/
  | again (label : Nat)
  deriving Inhabited, Repr

/-- What is still to read, the handles of tags, and the anchors in the order they were met. -/
structure Reader where
  tokens : List Token
  fault : Option Fault
  handles : List (String × String) := []
  anchors : List (String × Node) := []

abbrev Reads := StateT Reader (Except Fault)

namespace Reads

def refuse {α : Type} (reason : String) : Reads α := throw (.malformed reason)

/-- The next token; `none` at the end of the document. -/
def next? : Reads (Option Token) := do
  match (← get).tokens, (← get).fault with
  | t :: _, _ => return some t
  | [], some f => throw f
  | [], none => return none

/-- Passes over the next token. -/
def pass : Reads Unit := modify fun r => { r with tokens := r.tokens.tail }

/-- Passes over a token if it is the next one. -/
def passIf (t : Token) : Reads Bool := do
  if (← next?) = some t then
    pass
    return true
  else return false

/-- The next token is one of these. -/
def nextIsIn (ts : List Token) : Reads Bool := do
  match ← next? with
  | none => return false
  | some t => return ts.contains t

/-! ## Properties -/

/-- The anchor and the tag in front of a node, in either order. -/
def properties : Reads (Option String × Option (Option String × String)) := do
  let anchor? : Reads (Option String) := do
    match ← next? with
    | some (.anchor name) =>
      pass
      return some name
    | _ => return none
  let tag? : Reads (Option (Option String × String)) := do
    match ← next? with
    | some (.tag handle suffix) =>
      pass
      return some (handle, suffix)
    | _ => return none
  match ← anchor? with
  | some name => return (some name, ← tag?)
  | none =>
    match ← tag? with
    | some tag => return (← anchor?, some tag)
    | none => return (none, none)

/-- The full name of a tag. -/
def tagName : Option (Option String × String) → Reads (Option String)
  | none => return none
  | some (none, suffix) => return some suffix
  | some (some handle, suffix) => do
    match (← get).handles.lookup handle with
    | none => refuse "found undefined tag handle"
    | some start => return some (start ++ suffix)

/-- An anchor may be given once. -/
def takeAnchor (anchor : Option String) : Reads Unit := do
  match anchor with
  | none => return
  | some name => if ((← get).anchors.lookup name).isSome then refuse "found duplicate anchor" else return

/-- Sets an anchor to a node. -/
def setAnchor (name : String) (n : Node) : Reads Unit := modify fun r =>
  { r with anchors := (name, n) :: r.anchors.filter (·.1 ≠ name) }

/-- A collection around the reading of its content, in which its anchor stands for an open node. -/
def collection (anchor : Option String) (content : Reads Node) : Reads Node := do
  match anchor with
  | none => content
  | some name =>
    let label := (← get).anchors.length
    setAnchor name (.again label)
    let n ← content
    setAnchor name (.marked label n)
    return .marked label n

/-- A scalar without text. -/
def emptyScalar : Node := .scalar (Tag.ofScalar true none "") ""

/-! ## Nodes -/

mutual

/-- A node. `inBlock` admits blocks, and `atKey` a sequence that is not indented more than the key in front
of it. All of these functions take `steps` tokens at most. -/
def node (inBlock atKey : Bool) : Nat → Reads Node
  | 0 => refuse "unexpected end"
  | steps + 1 => do
    match ← next? with
    | some (.alias name) =>
      pass
      match (← get).anchors.lookup name with
      | none => refuse "found undefined alias"
      | some n => return n
    | _ =>
      let (anchor, tag) ← properties
      let tag ← tagName tag
      takeAnchor anchor
      let leaf (isPlain : Bool) (text : String) : Reads Node := do
        let n := Node.scalar (Tag.ofScalar isPlain tag text) text
        if let some name := anchor then setAnchor name n
        return n
      match ← next? with
      | some .blockEntry =>
        if atKey then collection anchor (return .sequence (Tag.ofSequence tag) (← looseItems steps))
        else if anchor.isSome || tag.isSome then leaf true ""
        else refuse "expected the node content"
      | some (.scalar isPlain text) =>
        pass
        leaf isPlain text
      | some .flowSequence =>
        pass
        collection anchor (return .sequence (Tag.ofSequence tag) (← flowItems true steps))
      | some .flowMapping =>
        pass
        collection anchor (return .mapping (Tag.ofMapping tag) (← flowEntries true steps))
      | next? =>
        if inBlock && next? = some .blockSequence then
          pass
          collection anchor (return .sequence (Tag.ofSequence tag) (← blockItems steps))
        else if inBlock && next? = some .blockMapping then
          pass
          collection anchor (return .mapping (Tag.ofMapping tag) (← blockEntries steps))
        else if anchor.isSome || tag.isSome then leaf true ""
        else refuse "expected the node content"

/-- A node, or an empty scalar in front of some tokens. -/
def nodeUnless (before : List Token) (inBlock atKey : Bool) : Nat → Reads Node
  | 0 => refuse "unexpected end"
  | steps + 1 => do if ← nextIsIn before then return emptyScalar else node inBlock atKey steps

/-- The items of a block sequence up to its end. -/
def blockItems : Nat → Reads (List Node)
  | 0 => refuse "unexpected end"
  | steps + 1 => do
    if ← passIf .blockEntry then
      let n ← nodeUnless [.blockEntry, .blockEnd] true false steps
      return n :: (← blockItems steps)
    else if ← passIf .blockEnd then return []
    else refuse "expected <block end>"

/-- The items of a sequence that has no block of its own. -/
def looseItems : Nat → Reads (List Node)
  | 0 => refuse "unexpected end"
  | steps + 1 => do
    if ← passIf .blockEntry then
      let n ← nodeUnless [.blockEntry, .key, .value, .blockEnd] true false steps
      return n :: (← looseItems steps)
    else
      let _ ← next?
      return []

/-- The entries of a block mapping up to its end. -/
def blockEntries : Nat → Reads (List (Node × Node))
  | 0 => refuse "unexpected end"
  | steps + 1 => do
    let ends : List Token := [.key, .value, .blockEnd]
    if ← passIf .key then
      let k ← nodeUnless ends true true steps
      let v ← if ← passIf .value then nodeUnless ends true true steps else pure emptyScalar
      return (k, v) :: (← blockEntries steps)
    else if ← passIf .blockEnd then return []
    else refuse "expected <block end>"

/-- The value after a key in brackets, if it has a colon. -/
def flowValue (ending : Token) : Nat → Reads Node
  | 0 => refuse "unexpected end"
  | steps + 1 => do
    if ← passIf .value then nodeUnless [.flowEntry, ending] false false steps
    else
      let _ ← next?
      return emptyScalar

/-- The items of a sequence in brackets. A key in it makes a mapping of one entry. -/
def flowItems (isFirst : Bool) : Nat → Reads (List Node)
  | 0 => refuse "unexpected end"
  | steps + 1 => do
    if ← passIf .flowSequenceEnd then return []
    else
      if !isFirst then
        if !(← passIf .flowEntry) then refuse "expected a comma or the end of the sequence"
      if ← passIf .key then
        let k ← nodeUnless [.value, .flowEntry, .flowSequenceEnd] false false steps
        let v ← flowValue .flowSequenceEnd steps
        return .mapping (Tag.ofMapping none) [(k, v)] :: (← flowItems false steps)
      else if ← passIf .flowSequenceEnd then return []
      else
        let n ← node false false steps
        return n :: (← flowItems false steps)

/-- The entries of a mapping in brackets. -/
def flowEntries (isFirst : Bool) : Nat → Reads (List (Node × Node))
  | 0 => refuse "unexpected end"
  | steps + 1 => do
    if ← passIf .flowMappingEnd then return []
    else
      if !isFirst then
        if !(← passIf .flowEntry) then refuse "expected a comma or the end of the mapping"
      if ← passIf .key then
        let k ← nodeUnless [.value, .flowEntry, .flowMappingEnd] false false steps
        let v ← flowValue .flowMappingEnd steps
        return (k, v) :: (← flowEntries false steps)
      else if ← passIf .flowMappingEnd then return []
      else
        let k ← node false false steps
        return (k, emptyScalar) :: (← flowEntries false steps)

end

/-! ## Documents -/

/-- The handles that every document knows. -/
def standardHandles : List (String × String) := [("!", "!"), ("!!", Tag.standardStart)]

/-- The directives in front of a document; `versioned` tells that the version was given. -/
def directives (versioned : Bool) : Nat → Reads Unit
  | 0 => refuse "unexpected end"
  | steps + 1 => do
    match ← next? with
    | some (.version major) =>
      pass
      if versioned then refuse "found duplicate YAML directive"
      else if major ≠ 1 then refuse "found incompatible YAML document"
      else directives true steps
    | some (.tagPrefix handle start) =>
      pass
      if ((← get).handles.lookup handle).isSome then refuse "duplicate tag handle"
      else
        modify fun r => { r with handles := r.handles ++ [(handle, start)] }
        directives versioned steps
    | some .otherDirective =>
      pass
      directives versioned steps
    | _ => modify fun r => { r with handles := r.handles ++ standardHandles }

def isDirective : Token → Bool
  | .version _ | .tagPrefix .. | .otherDirective => true
  | _ => false

/-- Marks of the end of a document. -/
def passEnds : Nat → Reads Unit
  | 0 => return
  | steps + 1 => do if ← passIf .documentEnd then passEnds steps else return

/-- The root of the only document; `none` if there is no document. -/
def document? (steps : Nat) : Reads (Option Node) := do
  let root? ← match ← next? with
    | none => pure none
    | some t =>
      if isDirective t || t = .documentStart then do
        directives false steps
        if !(← passIf .documentStart) then refuse "expected '<document start>'"
        match ← next? with
        | none => pure (some emptyScalar)
        | some t =>
          if isDirective t || t = .documentStart || t = .documentEnd then pure (some emptyScalar)
          else some <$> node true false steps
      else
        modify fun r => { r with handles := standardHandles }
        some <$> node true false steps
  passEnds steps
  match ← next? with
  | none => return root?
  | some _ => refuse "expected a single document in the stream"

end Reads

/-- The root of the document in a text; `none` if the text holds none. -/
def readNode (text : String) : Except Fault (Option Node) :=
  let (ts, fault) := tokens text
  (Reads.document? (4 * ts.length + 4)).run' { tokens := ts, fault }

end ApkReport.Yaml

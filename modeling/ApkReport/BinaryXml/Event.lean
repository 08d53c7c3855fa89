/-
The chunks of a document as events, and how they end: properly where the document says
that it ends, at something that is no chunk, or within a field.
-/
import ApkReport.BinaryXml.StringPool

namespace ApkReport.BinaryXml

/-- An attribute, of which all but the kind and the data are numbers of texts. -/
structure RawAttribute where
  space : Nat
  name : Nat
  text : Nat
  kind : Nat
  data : Nat
  deriving DecidableEq, Repr

inductive Event where
  | resources (ids : List Nat)
  | openSpace (comment label uri : Nat)
  | closeSpace (comment label uri : Nat)
  | start (comment space name : Nat) (attributes : List RawAttribute)
  | stop (name : Nat)
  | text (content : Nat)
  deriving DecidableEq, Repr

inductive Ending where
  | complete
  | notAChunk
  | faulty (f : Fault)
  deriving DecidableEq, Repr

def resourceKind : Nat := 0x180

/-- The size of the header of every chunk that says something about the tree. -/
def nodeHeader : Nat := 16

/-- An attribute takes so many bytes, and may be followed by more that mean nothing. -/
def attributeSize : Nat := 20

/-- What follows the filling after an attribute. -/
def skipFilling (size : Nat) (data : Bytes) : Except Fault Bytes :=
  if size + 1 = attributeSize then .ok []
  else if size < attributeSize then .error .badLength
  else .ok (data.drop (size - attributeSize))

def attributes (size : Nat) : Nat → Bytes → Except Fault (List RawAttribute × Bytes)
  | 0, data => .ok ([], data)
  | count + 1, data => do
    let a : RawAttribute := {
      space := ← field data 0 4
      name := ← field data 4 4
      text := ← field data 8 4
      kind := (← field data 12 4) / 0x1000000
      data := ← field data 16 4 }
    let rest ← skipFilling size (data.drop attributeSize)
    let (others, rest) ← attributes size count rest
    return (a :: others, rest)

/-- An event of the tree, and what follows it; `none` for a kind that says nothing. -/
def nodeEvent (kind : Nat) (data : Bytes) : Except Fault (Option (Event × Bytes)) := do
  let _ ← field data 8 4
  let comment ← field data 12 4
  match kind with
  | 0x100 => return some (.openSpace comment (← field data 16 4) (← field data 20 4), data.drop 24)
  | 0x101 => return some (.closeSpace comment (← field data 16 4) (← field data 20 4), data.drop 24)
  | 0x102 =>
    let space ← field data 16 4
    let name ← field data 20 4
    let size ← field data 26 2
    let count ← field data 28 2
    let _ ← field data 30 2
    let _ ← field data 32 4
    let (found, rest) ← attributes size count (data.drop 36)
    return some (.start comment space name found, rest)
  | 0x103 =>
    let _ ← field data 16 4
    return some (.stop (← field data 20 4), data.drop 24)
  | 0x104 =>
    let content ← field data 16 4
    let _ ← field data 20 4
    let _ ← field data 24 4
    return some (.text content, data.drop 28)
  | _ => return none

/-- The event of a chunk at the front of the data, and what follows. -/
def chunkEvent (c : Chunk) (data : Bytes) : Except Fault (Option (Event × Bytes)) := do
  if c.kind = resourceKind then
    let count := (c.size - c.headerSize) / 4
    return some (.resources (← words data minHeader count), data.drop (minHeader + 4 * count))
  else if c.kind < 0x100 ∨ 0x17F < c.kind ∨ c.headerSize ≠ nodeHeader then return none
  else nodeEvent c.kind data

/-- A map of resources of that size is complete. -/
def isWholeMap (c : Chunk) : Bool := c.kind ≠ resourceKind || c.size % 4 = 0

/-- The events of the data, of which the document takes `left` bytes; `steps` bounds their number. -/
def events : Nat → Int → Bytes → List Event × Ending
  | 0, _, _ => ([], .notAChunk)
  | steps + 1, left, data =>
    if left = 0 then ([], .complete)
    else
      match Chunk.read? data with
      | none => ([], .notAChunk)
      | some c =>
        if !isWholeMap c then ([], .notAChunk)
        else
          match chunkEvent c data with
          | .error f => ([], .faulty f)
          | .ok none => events steps (left - c.size) (data.drop c.size)
          | .ok (some (event, rest)) =>
            let (more, ending) := events steps (left - (data.length - rest.length)) rest
            (event :: more, ending)

/-- The pool and the events of a document; `none` if its outer form is not that of a document. -/
def readDocument? (data : Bytes) : Except Fault (Option (StringPool × List Event × Ending)) :=
  match Chunk.read? data, Chunk.read? (data.drop minHeader) with
  | some whole, some pool =>
    if whole.headerSize ≠ minHeader ∨ data.length < whole.size ∨ pool.kind ≠ 1 ∨ pool.headerSize ≠ StringPool.headerSize then
      .ok none
    else do
      let texts ← StringPool.read pool.size (data.drop (2 * minHeader))
      let body := data.drop (minHeader + pool.size)
      return some (texts, events (data.length + 1) (whole.size - (minHeader + pool.size : Nat)) body)
  | _, _ => .ok none

end ApkReport.BinaryXml

/-
The value of a settings document. The content of a collection is built after everything on
the level of the collection itself: so of several faults the one on the outermost level
counts, and of those the first.
-/
import ApkReport.Value.Order
import ApkReport.Yaml.Node
import ApkReport.Yaml.ScalarValue

namespace ApkReport.Yaml

/-- What something means, and the faults in it with their levels, in the order of the text. -/
structure Meaning (α : Type) where
  value : α
  faults : List (Nat × Fault) := []

namespace Meaning

def ofExcept (level : Nat) : Except Fault Value → Meaning Value
  | .ok v => ⟨v, []⟩
  | .error f => ⟨.scalar .null, [(level, f)]⟩

def fault (level : Nat) (reason : String) : Meaning Value := ⟨.scalar .null, [(level, .malformed reason)]⟩

def map {α β : Type} (f : α → β) (m : Meaning α) : Meaning β := ⟨f m.value, m.faults⟩

/-- The fault that counts. -/
def firstFault (faults : List (Nat × Fault)) : Option Fault :=
  (faults.foldl (fun best (level, f) =>
    match best with
    | none => some (level, f)
    | some (l, _) => if level < l then some (level, f) else best) none).map (·.2)

def toExcept {α : Type} (m : Meaning α) : Except Fault α :=
  match firstFault m.faults with
  | none => .ok m.value
  | some f => .error f

end Meaning

/-- The entries of a mapping: those merged into it, and its own. -/
structure Entries where
  merged : List (Meaning Value × Meaning Value) := []
  own : List (Meaning Value × Meaning Value) := []
  faults : List (Nat × Fault) := []

namespace Entries

/-- Merged entries come first, so that own ones replace them. -/
def all (e : Entries) : List (Meaning Value × Meaning Value) := e.merged ++ e.own

/-- The entries of a level one after another; a key has to be one. -/
def pairs (level : Nat) (e : Entries) : Meaning (List (Value × Value)) where
  value := e.all.map fun (k, v) => (k.value, v.value)
  faults := e.faults ++ e.all.flatMap fun (k, v) =>
    k.faults ++ (if k.value.isKey then [] else [(level, .malformed "found unhashable key")]) ++ v.faults

end Entries

namespace Node

def tag : Node → Tag
  | .scalar t _ | .sequence t _ | .mapping t _ => t
  | .marked _ n => n.tag
  | .again _ => .unknown

/-- A key that merges a mapping. -/
def isMerge (n : Node) : Bool := n.tag = .merge

/-- The text that stands for a node: of a mapping, the text of its default value. -/
def text? : Node → Option String
  | .scalar _ text => some text
  | .marked _ n => n.text?
  | .mapping _ entries => textAmong entries
  | _ => none
where
  textAmong : List (Node × Node) → Option String
    | [] => none
    | (k, v) :: rest => if k.tag = .value then v.text? else textAmong rest

mutual

/-- The meaning of a node on a level. -/
def meaning (level : Nat) : Node → Meaning Value
  | .again label => ⟨.again label, []⟩
  | .marked label n => (meaning level n).map (Value.mark label)
  | .scalar tag text =>
    match tag with
    | .seq | .map | .set | .omap | .pairs => .fault (level + 1) "expected a collection"
    | tag => .ofExcept level (scalarValue tag text)
  | .sequence tag items =>
    match tag with
    | .seq => (itemMeanings (level + 1) items).map .list
    | .omap | .pairs => (pairMeanings (level + 1) items).map .pairs
    | .map | .set => .fault (level + 1) "expected a mapping"
    | _ => .fault level "expected a scalar"
  | .mapping tag entries =>
    match tag with
    | .map => ((entryMeanings (level + 1) entries).pairs (level + 1)).map fun es => .mapping (Value.entriesOf es)
    | .set => ((entryMeanings (level + 1) entries).pairs (level + 1)).map fun es => .set ((Value.entriesOf es).map (·.1))
    | .seq | .omap | .pairs => .fault (level + 1) "expected a sequence"
    | tag =>
      match text?.textAmong entries with
      | some text => .ofExcept level (scalarValue tag text)
      | none => .fault level "expected a scalar"

def itemMeanings (level : Nat) : List Node → Meaning (List Value)
  | [] => ⟨[], []⟩
  | n :: rest =>
    let m := meaning level n
    let ms := itemMeanings level rest
    ⟨m.value :: ms.value, m.faults ++ ms.faults⟩

/-- Mappings of one entry each, as pairs. -/
def pairMeanings (level : Nat) : List Node → Meaning (List (Value × Value))
  | [] => ⟨[], []⟩
  | n :: rest =>
    let m := pairMeaning level n
    let ms := pairMeanings level rest
    ⟨m.value :: ms.value, m.faults ++ ms.faults⟩

def pairMeaning (level : Nat) : Node → Meaning (Value × Value)
  | .mapping _ [(k, v)] =>
    let key := meaning level k
    let value := meaning level v
    ⟨(key.value, value.value), key.faults ++ value.faults⟩
  | .marked _ n => pairMeaning level n
  | _ => ⟨(.scalar .null, .scalar .null), [(level, .malformed "expected a mapping of length 1")]⟩

/-- The entries of a mapping. A key of the default value is a text. -/
def entryMeanings (level : Nat) : List (Node × Node) → Entries
  | [] => {}
  | (k, v) :: rest =>
    let others := entryMeanings level rest
    if k.isMerge then
      let new := mergedEntries level v
      { others with merged := new.all ++ others.merged, faults := new.faults ++ others.faults }
    else
      let key : Meaning Value := if k.tag = .value then ⟨.scalar (.text (k.text?.getD "")), []⟩ else meaning level k
      { others with own := (key, meaning level v) :: others.own }

/-- The entries that a mapping, or a list of mappings, brings in. Of a list, the first mapping counts most. -/
def mergedEntries (level : Nat) : Node → Entries
  | .mapping _ entries => entryMeanings level entries
  | .sequence _ items => mergedLists level items
  | .marked _ n => mergedEntries level n
  | .again _ => {}
  | .scalar .. => { faults := [(level, .malformed "expected a mapping or list of mappings for merging")] }

def mergedLists (level : Nat) : List Node → Entries
  | [] => {}
  | n :: rest =>
    let others := mergedLists level rest
    let new := mergedItem level n
    { merged := others.merged ++ new.all, faults := new.faults ++ others.faults }

def mergedItem (level : Nat) : Node → Entries
  | .mapping _ entries => entryMeanings level entries
  | .marked _ n => mergedItem level n
  | .again _ => {}
  | .scalar .. | .sequence .. => { faults := [(level, .malformed "expected a mapping for merging")] }

end

end Node

/-- The value of the document in a text; null if there is none. -/
def readValue (text : String) : Except Fault Value := do
  match ← readNode text with
  | none => return .scalar .null
  | some n => (n.meaning 0).toExcept

end ApkReport.Yaml

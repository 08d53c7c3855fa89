/-
The device interfaces that the bytecode of a package refers to: every bytecode member is
read in full and searched on its own. The reads are issued together, complete in any order
and are joined. A member that cannot be read is reported and left out.
-/
import ApkReport.Archive.Access
import ApkReport.Dex.Catalog
import ApkReport.Dex.Entry

namespace ApkReport.Dex

open Archive

/-! ## Requests issued together -/

/-- An order in which requests complete. Each of them does. -/
structure Completion (count : Nat) where
  order : List (Fin count)
  reaches : ∀ i, i ∈ order

/-- The requests complete in the order they were issued in. -/
def Completion.inTurn (count : Nat) : Completion count := ⟨List.finRange count, List.mem_finRange⟩

/-- The answers so far after one more request completes: it fills the place of the request. -/
def answered {α : Type} {count : Nat} (request : Fin count → α) (places : Vector (Option α) count) (i : Fin count) :
    Vector (Option α) count :=
  places.set i (some (request i))

/-- The answers to all requests, in the order they were issued in. -/
def gather {α : Type} {count : Nat} (request : Fin count → α) (completion : Completion count) : List α :=
  (completion.order.foldl (answered request) (Vector.replicate count none)).toList.filterMap id

/-! ## Scanning -/

/-- The labels of all contents together. A failure other than that of a single member is final. -/
def collectLabels : List (Member × Except Failure Bytes) → Run (List String)
  | [] => return []
  | (_, .ok content) :: rest => do
    let labels := (matchesIn (byteText content)).map (·.label)
    return labels ++ (← collectLabels rest)
  | (m, .error e) :: rest => do
    if e.kind ≠ .stream then throw e
    Run.note .scan Journal.warning ("Skipping unreadable " ++ m.name ++ ": " ++ e.message)
    collectLabels rest

/-- The labels of a package, in code point order, each once; the reads of its bytecode members complete
in the order given for their number. -/
def scan (path : String) (completion : ∀ count, Completion count := Completion.inTurn) : Run (List String) := do
  let reader ← openArchive path
  let entries ← reader.allEntries
  let dexEntries := entries.filter (isDexEntry ·.name)
  let payloads := gather (fun i => reader.content dexEntries[i]) (completion dexEntries.length)
  let labels := sortedLabels (← collectLabels (dexEntries.zip payloads))
  Run.note .scan Journal.debug
    ("Scanned " ++ toString dexEntries.length ++ " dex entries in " ++ path ++ ": " ++ toString labels.length ++ " APIs")
  return labels

end ApkReport.Dex

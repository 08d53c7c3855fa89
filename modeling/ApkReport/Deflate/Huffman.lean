/-
Canonical prefix codes. A code is given by the length of each symbol's word; words of one
length are numbered in the order of their symbols, and shorter words come first. As a tree
that is filled from the left, decoding is a walk from the root.
-/

namespace ApkReport.Deflate

/-- The longest word of any code. -/
def maxBits : Nat := 15

inductive Tree where
  | empty
  | leaf (symbol : Nat)
  | node (zeroSide oneSide : Tree)
  deriving Repr, DecidableEq

/-- The tree at `depth` for words in canonical order, and the words that do not fit into it. -/
def Tree.grow (levels depth : Nat) : List (Nat × Nat) → Tree × List (Nat × Nat)
  | [] => (.empty, [])
  | (length, symbol) :: rest =>
    if length = depth then (.leaf symbol, rest)
    else match levels with
      | 0 => (.empty, (length, symbol) :: rest)
      | levels + 1 =>
        let (l, words) := Tree.grow levels (depth + 1) ((length, symbol) :: rest)
        let (r, words) := Tree.grow levels (depth + 1) words
        (.node l r, words)

/-- The used symbols with the lengths of their words, in canonical order. -/
def canonicalWords (lengths : List Nat) : List (Nat × Nat) :=
  (lengths.zipIdx.filter (·.1 ≠ 0)).mergeSort fun a b => a.1 ≤ b.1

/-- The tree of a code; one bit is read before a code without words fails. -/
def Tree.ofLengths (lengths : List Nat) : Tree :=
  match canonicalWords lengths with
  | [] => .node .empty .empty
  | words => (Tree.grow maxBits 0 words).1

/-- The part of all long words that the code takes, in words of the greatest length. -/
def usedSpace (lengths : List Nat) : Nat :=
  (lengths.filter (· ≠ 0)).foldl (fun n length => n + Nat.pow 2 (maxBits - length)) 0

/-- Every long enough bit sequence starts with exactly one word. -/
def isComplete (lengths : List Nat) : Bool := usedSpace lengths = Nat.pow 2 maxBits

/-- The code has no words, or a single word of one bit. -/
def isSmall (lengths : List Nat) : Bool :=
  let used := lengths.filter (· ≠ 0)
  used.isEmpty || used = [1]

/-- A code for literals or distances may also be small. -/
def isUsable (lengths : List Nat) : Bool := isComplete lengths || isSmall lengths

/-- A code for code lengths may also be without words. -/
def isUsableForLengths (lengths : List Nat) : Bool := isComplete lengths || lengths.all (· = 0)

end ApkReport.Deflate

/-
What a decoder makes of compressed data that writes as much as it can. Each byte that it writes
is recorded together with the number of bytes of the input that it takes, and so is the end that
it comes to. So one record says what any part of the input yields.
-/

namespace ApkReport

/-- A byte that is written once `needs` bytes of the input are there. -/
structure Expanded where
  byte : UInt8
  needs : Nat
  deriving DecidableEq, Repr

/-- What a decoder comes to behind everything that it writes, and the bytes of the input that it has taken by then. -/
inductive Ending (Fault : Type) where
  /-- The input ends before the data do. -/
  | cut
  | complete (needs : Nat)
  | faulty (needs : Nat) (f : Fault)
  deriving DecidableEq, Repr

structure Expansion (Fault : Type) where
  written : List Expanded
  ending : Ending Fault
  deriving DecidableEq, Repr

namespace Expansion

variable {Fault : Type}

/-- Where a reader stands that has written everything it can. -/
inductive Position (Fault : Type) where
  | starved
  | finished
  | broken (f : Fault)
  deriving DecidableEq, Repr

/-- The bytes written for the first `available` bytes of the input. -/
def reached (x : Expansion Fault) (available : Nat) : List Expanded := x.written.takeWhile (·.needs ≤ available)

/-- Where a reader of the first `available` bytes stands once it has written what it can. -/
def position (x : Expansion Fault) (available : Nat) : Position Fault :=
  if (x.reached available).length < x.written.length then .starved
  else match x.ending with
    | .cut => .starved
    | .complete needs => if needs ≤ available then .finished else .starved
    | .faulty needs f => if needs ≤ available then .broken f else .starved

def bytes (x : Expansion Fault) : List UInt8 := x.written.map (·.byte)

end Expansion

end ApkReport

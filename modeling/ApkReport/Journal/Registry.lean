/-
The loggers of a program. Names with dots form a hierarchy, which is kept as a link from each
logger to the one above it. A record passes if its level reaches the nearest level that is not
zero on the way up, and then every handler on the way writes a line of its own.
-/
import ApkReport.Journal.Template

namespace ApkReport.Journal

/-- A logger, with the template of each of its handlers. -/
structure Logger where
  name : String
  level : Level := .number 0
  handlers : List Template := []
  deriving DecidableEq, Repr

/-- All loggers that there are, and the names of those that were set up to the end. The root above all of them is none of
them. The names that stand for it, `root` and the empty one, have no place here. -/
structure Registry where
  loggers : List Logger := []
  configured : List String := []
  /-- Loggers, each with the one above it. The first link of a name counts, and a name without one is right below the root. -/
  parents : List (String × String) := []
  /-- Names that were passed on the way up from a new logger because there was no logger yet, each with the new one. -/
  places : List (String × String) := []
  deriving DecidableEq, Repr

inductive Fault where
  | level (f : LevelFault)
  | format (text : String)
  | unknownLogger (name : String)
  /-- A level with more digits than can be written. -/
  | longLevel
  deriving Repr

def Fault.message : Fault → String
  | .level f => f.message
  | .format text => "Invalid format '" ++ text ++ "' for '%' style"
  | .unknownLogger name => Text.quoted name
  | .longLevel => Text.tooManyDigits

/-! ## Hierarchy -/

/-- The place of the last dot. -/
def lastDot? (s : List Char) : Option Nat :=
  match s.reverse.findIdx? (· = '.') with
  | none => none
  | some i => some (s.length - 1 - i)

theorem lastDot?_lt {s : List Char} {i : Nat} (h : lastDot? s = some i) : i < s.length := by
  unfold lastDot? at h
  split at h
  · contradiction
  · next j hj =>
    have := (List.findIdx?_eq_some_iff_getElem.1 hj).1
    simp only [Option.some.injEq, List.length_reverse] at h this
    omega

/-- The names above a name, nearest first: what stands before each dot but one at the very front. After a
dot, the one right before it is passed over. -/
def enclosing (s : List Char) : List (List Char) :=
  match _h : lastDot? s with
  | none | some 0 => []
  | some (i + 1) => s.take (i + 1) :: enclosing (s.take i)
  termination_by s.length
  decreasing_by
    have := lastDot?_lt _h
    simp only [List.length_take]
    omega

namespace Registry

def find? (r : Registry) (name : String) : Option Logger := r.loggers.find? (·.name = name)

def has (r : Registry) (name : String) : Bool := (r.find? name).isSome

/-- The logger above that of a name. -/
def parent? (r : Registry) (name : String) : Option Logger := (r.parents.lookup name).bind r.find?

/-- The loggers above a name, nearest first, at most `steps` of them. -/
def ancestors (r : Registry) : Nat → String → List Logger
  | 0, _ => []
  | steps + 1, name =>
    match r.parent? name with
    | none => []
    | some l => l :: r.ancestors steps l.name

/-- The logger of a name and those above it. -/
def chain (r : Registry) (name : String) : List Logger :=
  (r.find? name).toList ++ r.ancestors name.length name

/-- Loggers that were set up. -/
def registered (r : Registry) : List Logger := r.configured.filterMap r.find?

/-! ## Setting up -/

def rootName : String := "root"

/-- The loggers that passed a name and are to be put below its new logger. Where the name of what a logger is below starts
with the new name, a nearer one has come already. That is true of the root, too, for the names that its own starts with. -/
def adopted (r : Registry) (name : String) : List String :=
  ((r.places.filter (·.1 = name)).map (·.2)).filter fun n =>
    !name.toList.isPrefixOf ((r.parents.lookup n).getD rootName).toList

/-- Makes the logger of a name, if there is none, and links it to the nearest logger above. A new one has no level of its
own. -/
def obtain (r : Registry) (name : String) : Registry :=
  if r.has name then r
  else
    let above := (enclosing name.toList).map String.ofList
    { r with
      loggers := r.loggers ++ [{ name }]
      parents := ((above.find? r.has).map (name, ·)).toList ++ (r.adopted name).map (·, name) ++ r.parents
      places := (above.takeWhile (!r.has ·)).map (·, name) ++ r.places }

/-- Changes the logger of a name. -/
def update (r : Registry) (name : String) (change : Logger → Logger) : Registry :=
  { r with loggers := r.loggers.map fun l => if l.name = name then change l else l }

/-- Notes that the logger of a name was set up. -/
def register (r : Registry) (name : String) : Registry :=
  if r.configured.contains name then r else { r with configured := r.configured ++ [name] }

/-- The handlers of the logger of a name. -/
def handlers (r : Registry) (name : String) : List Template := ((r.find? name).map (·.handlers)).getD []

/-- The template that a format text gives; without a text it is the standard one. -/
def templateOf (format : Option String) : Except Fault Template :=
  match format with
  | none => .ok .standard
  | some "" => .ok .messageOnly
  | some text =>
    match Template.ofString? text with
    | none => .error (.format text)
    | some t => .ok t

/-- Sets up a logger. The level is replaced; a handler is added if there is none. A logger whose format is
refused keeps its new level all the same. -/
def setup (r : Registry) (name : String) (level : Value) (format : Option String) : Except Fault Unit × Registry :=
  let r := r.obtain name
  match Level.ofValue Level.ofName level with
  | .error f => (.error (.level f), r)
  | .ok level =>
    let r := r.update name fun l => { l with level }
    if !(r.handlers name).isEmpty then (.ok (), r.register name)
    else
      match templateOf format with
      | .error f => (.error f, r)
      | .ok t => (.ok (), (r.update name fun l => { l with handlers := l.handlers ++ [t] }).register name)

/-- Gives all loggers that were set up the same level. A name is read first; what is no level at all is refused
by the first logger, if there is one. -/
def setLevel (r : Registry) (level : Value) : Except Fault Registry :=
  match Level.ofValue Level.ofAnyName level with
  | .ok level => .ok { r with loggers := r.loggers.map fun l => if r.configured.contains l.name then { l with level } else l }
  | .error (.notALevel v) => if r.configured.isEmpty then .ok r else .error (.level (.notALevel v))
  | .error f => .error (.level f)

/-! ## Records -/

/-- The nearest level that is not zero; warnings pass if there is none. -/
def threshold (chain : List Logger) : Int :=
  ((chain.find? (·.level.value ≠ 0)).map (·.level.value)).getD warning

/-- Whether loggers pass a record of that level. -/
def passes (chain : List Logger) (level : Int) : Bool := 0 < level && threshold chain ≤ level

/-- The lines that a record leaves. -/
def lines (r : Registry) (record : Record) : List String :=
  let chain := r.chain record.name
  if passes chain record.level then (chain.flatMap (·.handlers)).filterMap (·.fill? record) else []

/-- The level has too many digits to be written. -/
def isTooLong (level : Int) : Bool := (Scalar.integer level).isTooLong

/-- Logs to a logger that was set up. A record that passes shows its level. -/
def log (r : Registry) (record : Record) : Except Fault (List String) :=
  if r.configured.contains record.name then
    if isTooLong record.level && passes (r.chain record.name) record.level then .error .longLevel else .ok (r.lines record)
  else .error (.unknownLogger record.name)

end Registry

end ApkReport.Journal

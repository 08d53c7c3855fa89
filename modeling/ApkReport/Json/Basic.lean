/-
JSON values and their indented text: two blanks a level, one item or member a line,
empty containers closed at once. Text stays as it is but for quotation marks,
backslashes and control characters.
-/
import ApkReport.Value

namespace ApkReport

open Text

inductive Json where
  | null
  | bool (b : Bool)
  | integer (i : Int)
  | decimal (x : Binary)
  | string (s : String)
  | array (items : List Json)
  | object (members : List (String × Json))
  deriving Repr, Inhabited

namespace Json

/-- The value of the first member of that name. -/
def member? (name : String) : Json → Option Json
  | .object members => members.lookup name
  | _ => none

/-! ## Text -/

def escapeChar (c : Char) : List Char :=
  match c with
  | '"' => ['\\', '"']
  | '\\' => ['\\', '\\']
  | '\n' => ['\\', 'n']
  | '\r' => ['\\', 'r']
  | '\t' => ['\\', 't']
  | '\x08' => ['\\', 'b']
  | '\x0c' => ['\\', 'f']
  | c => if c.toNat < 0x20 then '\\' :: 'u' :: hex 4 c.toNat else [c]

def quote (s : String) : List Char := '"' :: s.toList.flatMap escapeChar ++ ['"']

/-- A new line at the level. -/
def newLine (level : Nat) : List Char := '\n' :: List.replicate (2 * level) ' '

mutual

/-- The text of a value that starts at the level. -/
def render (level : Nat) : Json → List Char
  | .null => "null".toList
  | .bool true => "true".toList
  | .bool false => "false".toList
  | .integer i => (toString i).toList
  | .decimal x => x.shortest.toList
  | .string s => quote s
  | .array [] => ['[', ']']
  | .array (v :: rest) => '[' :: newLine (level + 1) ++ render (level + 1) v ++ renderItems level rest ++ newLine level ++ [']']
  | .object [] => ['\x7b', '\x7d']
  | .object ((k, v) :: rest) =>
    '\x7b' :: newLine (level + 1) ++ quote k ++ ':' :: ' ' :: render (level + 1) v ++ renderMembers level rest ++
      newLine level ++ ['\x7d']

/-- The items after the first. -/
def renderItems (level : Nat) : List Json → List Char
  | [] => []
  | v :: rest => ',' :: newLine (level + 1) ++ render (level + 1) v ++ renderItems level rest

/-- The members after the first. -/
def renderMembers (level : Nat) : List (String × Json) → List Char
  | [] => []
  | (k, v) :: rest => ',' :: newLine (level + 1) ++ quote k ++ ':' :: ' ' :: render (level + 1) v ++ renderMembers level rest

end

def text (v : Json) : String := String.ofList (render 0 v)

/-! ## Values -/

mutual

/-- The same value without the form of its text. -/
def toValue : Json → Value
  | .null => .scalar .null
  | .bool b => .scalar (.flag b)
  | .integer i => .scalar (.integer i)
  | .decimal x => .scalar (.decimal x)
  | .string s => .scalar (.text s)
  | .array items => .list (toValues items)
  | .object members => .mapping (toEntries members)

def toValues : List Json → List Value
  | [] => []
  | v :: rest => toValue v :: toValues rest

def toEntries : List (String × Json) → List (Value × Value)
  | [] => []
  | (k, v) :: rest => (.scalar (.text k), toValue v) :: toEntries rest

end

end Json

end ApkReport

/-
The words of a command line. A word that starts with a dash is an option, in any place; the
first run of other words names the files, and a later one is refused. An option may be
shortened as long as one option is meant, and after two dashes alone all words are plain.
-/
import ApkReport.Text.CharClass
import ApkReport.Text.Quoted
import ApkReport.Value

namespace ApkReport.CommandLine

open Text

/-! ## Options -/

inductive Flag where
  | help
  | json
  | csv
  | config
  | verbose
  deriving DecidableEq, Repr

/-- How the options are spelt. -/
def spellings : List (String × Flag) := [
  ("-h", .help), ("--help", .help), ("--json", .json), ("--csv", .csv), ("--config", .config),
  ("-v", .verbose), ("--verbose", .verbose)]

namespace Flag

/-- All spellings of an option. -/
def name (flag : Flag) : String := "/".intercalate ((spellings.filter (·.2 = flag)).map (·.1))

def takesArgument : Flag → Bool
  | .csv | .config => true
  | .help | .json | .verbose => false

end Flag

/-- Why a command line is refused. -/
inductive Fault where
  /-- A shortened option that may mean several. -/
  | ambiguous (word : String) (meanings : List String)
  /-- An argument attached to an option that takes none. -/
  | ignoredArgument (flag : Flag) (text : String)
  | missingArgument (flag : Flag)
  | unrecognized (words : List String)
  deriving DecidableEq, Repr

def Fault.message : Fault → String
  | .ambiguous word meanings =>
    "ambiguous option: " ++ word ++ " could match " ++ ", ".intercalate meanings
  | .ignoredArgument flag text =>
    "argument " ++ flag.name ++ ": ignored explicit argument " ++ Text.quoted text
  | .missingArgument flag => "argument " ++ flag.name ++ ": expected one argument"
  | .unrecognized words => "unrecognized arguments: " ++ " ".intercalate words

/-! ## Words -/

/-- An option as a word gives it: its full spelling and the text that is attached to it. -/
structure Mention where
  spelling : String
  flag : Flag
  attached : Option String
  deriving DecidableEq, Repr

/-- The spelling has one dash. -/
def Mention.isShort (m : Mention) : Bool := m.spelling.length = 2

inductive Word where
  | plain (text : String)
  /-- Two dashes alone. -/
  | endMark
  | mention (m : Mention)
  /-- A word that looks like an option and is none. -/
  | unknown (text : String)
  deriving DecidableEq, Repr

/-- A dash and digits, with a point among them or not; a line end may follow. -/
def isNegativeNumber (word : List Char) : Bool :=
  match word with
  | '-' :: rest =>
    let rest := if rest.getLast? = some '\n' then rest.dropLast else rest
    let whole := rest.takeWhile isDigit
    match rest.drop whole.length with
    | [] => !whole.isEmpty
    | '.' :: places => !places.isEmpty && places.all isDigit
    | _ => false
  | _ => false

/-- What stands before the first equals sign, and what stands after it. -/
def splitAttached (word : List Char) : List Char × Option String :=
  let name := word.takeWhile (· ≠ '=')
  (name, match word.drop name.length with
    | [] => none
    | _ :: text => some (String.ofList text))

/-- What a word may mean that spells no option in full. Two dashes start a shortened option; after
one dash a letter is the option, and the rest is attached to it. -/
def meanings (word : List Char) : List Mention :=
  match word with
  | '-' :: '-' :: _ =>
    let (name, attached) := splitAttached word
    (spellings.filter fun (s, _) => name.isPrefixOf s.toList).map fun (s, flag) => ⟨s, flag, attached⟩
  | '-' :: c :: rest =>
    (spellings.filter fun (s, _) => s.toList = ['-', c]).map fun (s, flag) => ⟨s, flag, some (String.ofList rest)⟩
  | _ => []

/-- The option that a word spells in full, with an attached text or without. -/
def spelled? (word : String) : Option Mention :=
  match spellings.lookup word with
  | some flag => some ⟨word, flag, none⟩
  | none =>
    match splitAttached word.toList with
    | (_, none) => none
    | (name, some text) => (spellings.lookup (String.ofList name)).map fun flag => ⟨String.ofList name, flag, some text⟩

/-- Reads one word. -/
def readWord (word : String) : Except Fault Word :=
  match word.toList with
  | '-' :: _ :: _ =>
    match spelled? word with
    | some m => .ok (.mention m)
    | none =>
      match meanings word.toList with
      | [m] => .ok (.mention m)
      | [] => .ok (if isNegativeNumber word.toList || word.toList.contains ' ' then .plain word else .unknown word)
      | several => .error (.ambiguous word (several.map (·.spelling)))
  | _ => .ok (.plain word)

/-- Reads the words of a command line; the first ambiguous one is refused. -/
def readWords : List String → Except Fault (List Word)
  | [] => .ok []
  | word :: rest =>
    if word = "--" then .ok (.endMark :: rest.map .plain)
    else do
      let first ← readWord word
      return first :: (← readWords rest)

/-! ## Arguments -/

structure Arguments where
  files : List String := []
  json : Bool := false
  csv : Option Value := none
  config : Option Value := none
  verbose : Bool := false
  deriving Repr

inductive Request where
  | help
  | inspect (arguments : Arguments)
  deriving Repr

/-- Where the run of words that name the files is. -/
inductive FilesRun where
  | ahead
  | here
  | over
  deriving DecidableEq, Repr

/-- A command line read halfway: what it gave, and the words that have no place in it. -/
structure Progress where
  arguments : Arguments := {}
  run : FilesRun := .ahead
  extra : List String := []
  deriving Repr

/-- The value of an attached or following text; two dashes alone are removed from it. -/
def argumentValue (text : String) : Value := if text = "--" then .list [] else .scalar (.text text)

namespace Progress

/-- Takes a plain word as a file, or as a word out of place. -/
def takePlain (p : Progress) (text : String) : Progress :=
  if p.run = .over then { p with extra := p.extra ++ [text] }
  else { p with arguments := { p.arguments with files := p.arguments.files ++ [text] }, run := .here }

/-- Takes the end mark, which belongs to the run of files. -/
def takeEndMark (p : Progress) : Progress :=
  if p.run = .over then { p with extra := p.extra ++ ["--"] } else { p with run := .here }

/-- Ends the run of files, if it has begun. -/
def leaveFiles (p : Progress) : Progress := if p.run = .here then { p with run := .over } else p

def takeUnknown (p : Progress) (text : String) : Progress :=
  { p.leaveFiles with extra := p.extra ++ [text] }

/-- Sets an option that takes no argument. -/
def switch (p : Progress) (flag : Flag) : Progress :=
  { p with arguments := match flag with
    | .json => { p.arguments with json := true }
    | .verbose => { p.arguments with verbose := true }
    | .help | .csv | .config => p.arguments }

/-- Sets an option with its argument; a later one replaces it. -/
def give (p : Progress) (flag : Flag) (text : String) : Progress :=
  { p.leaveFiles with arguments := match flag with
    | .csv => { p.arguments with csv := some (argumentValue text) }
    | .config => { p.arguments with config := some (argumentValue text) }
    | .help | .json | .verbose => p.arguments }

end Progress

/-- The options of a word that starts with one dash, one for each letter. -/
def cluster (flag : Flag) : List Char → Except Fault (List Flag)
  | [] => .ok [flag]
  | c :: rest =>
    match spellings.lookup (String.ofList ['-', c]) with
    | none => .error (.ignoredArgument flag (String.ofList (c :: rest)))
    | some next => do return flag :: (← cluster next rest)

/-- The options that a word sets, none of which takes an argument. -/
def Mention.flags (m : Mention) : Except Fault (List Flag) :=
  match m.attached with
  | none => .ok [m.flag]
  | some text =>
    if m.isShort && !text.isEmpty then cluster m.flag text.toList else .error (.ignoredArgument m.flag text)

/-- Reads on from word to word. The first fault ends the reading, and so does a call for help. -/
def requestFrom (p : Progress) : List Word → Except Fault Request
  | [] => if p.extra.isEmpty then .ok (.inspect p.arguments) else .error (.unrecognized p.extra)
  | .plain text :: rest => requestFrom (p.takePlain text) rest
  | .endMark :: rest => requestFrom p.takeEndMark rest
  | .unknown text :: rest => requestFrom (p.takeUnknown text) rest
  | .mention m :: rest =>
    if m.flag.takesArgument then
      match m.attached, rest with
      | some text, rest => requestFrom (p.give m.flag text) rest
      | none, .plain text :: rest => requestFrom (p.give m.flag text) rest
      | none, _ => .error (.missingArgument m.flag)
    else
      match m.flags with
      | .error f => .error f
      | .ok flags =>
        if flags.contains .help then .ok .help
        else requestFrom (flags.foldl Progress.switch p.leaveFiles) rest

/-- What a command line asks for. -/
def parse (words : List String) : Except Fault Request := do requestFrom {} (← readWords words)

end ApkReport.CommandLine

/-
The tree of a document. Elements nest as they open; an end closes the innermost element
whatever its name, and elements that are still open at the end of the document are closed
by it. Starts and ends without a name are skipped. A second root ends the reading.
-/
import ApkReport.BinaryXml.Name
import ApkReport.BinaryXml.TypedValue

namespace ApkReport.BinaryXml

/-- An element that is still open, with its content in reverse. -/
structure Open where
  tag : QName
  attributes : List (QName × String)
  content : List Xml

def Open.close (o : Open) : Element := ⟨o.tag, o.attributes, o.content.reverse⟩

def Open.add (o : Open) (x : Xml) : Open := { o with content := x :: o.content }

/-- What is read so far: the resource numbers, the namespaces declared, the open elements with the
innermost first, and the root once it is closed. -/
structure Building where
  resources : Array Nat := #[]
  spaces : List (Nat × Nat) := []
  opened : List Open := []
  root : Option Element := none

/-- Closes the innermost element. -/
def Building.closeOne (b : Building) : Building :=
  match b.opened with
  | [] => b
  | [o] => { b with opened := [], root := some o.close }
  | o :: parent :: others => { b with opened := parent.add (.element o.close) :: others }

/-- Closes elements, at most as many as `count`. -/
def Building.closeAll (b : Building) : Nat → Building
  | 0 => b
  | count + 1 => b.closeOne.closeAll count

/-- The root of the tree; open elements count as closed. -/
def Building.result (b : Building) : Option Element := (b.closeAll b.opened.length).root

/-- The attribute names of the platform, by their resource numbers. -/
def platformNames : List (Nat × String) := [
  (0x01010001, "label"), (0x01010003, "name"), (0x01010018, "authorities"), (0x01010026, "mimeType"),
  (0x01010027, "scheme"), (0x0101020C, "minSdkVersion"), (0x0101021B, "versionCode"), (0x0101021C, "versionName"),
  (0x01010270, "targetSdkVersion"), (0x01010271, "maxSdkVersion"), (0x01010281, "glEsVersion"), (0x0101028E, "required")]

/-- The name of an attribute: the platform's name of its resource, else the text, else a name made from
the number of the resource. -/
def attributeName (pool : StringPool) (resources : Array Nat) (name : Nat) : Except Fault String := do
  let text ← pool.get name
  let resource? := resources[name]?
  match resource?.bind (platformNames.lookup ·), resource? with
  | some known, _ => return known
  | none, resource? =>
    if !(text.isEmpty || text = ":") then return text
    match resource? with
    | some id => return "android:UNKNOWN_SYSTEM_ATTRIBUTE_" ++ String.ofList (Text.hex 8 id)
    | none => throw .unnamedAttribute

/-- The namespaces that are declared, by label. Empty labels and empty namespaces declare nothing, and
of two namespaces with one label the later counts. -/
def declaredSpaces (pool : StringPool) : List (Nat × Nat) → Except Fault Spaces
  | [] => .ok []
  | (label, uri) :: rest => do
    let label ← pool.get label
    let uri ← pool.get uri
    let others ← declaredSpaces pool rest
    if label.isEmpty || uri.isEmpty || (others.lookup label).isSome then return others
    else return (label, String.ofList (Text.trim uri.toList)) :: others

/-- A label that XML cannot hold stands for the platform; only one such label can be mended. -/
def mendLabels (spaces : Spaces) : Except Fault Spaces :=
  match spaces.find? fun (label, _) => !isValidName label.toList with
  | none => .ok spaces
  | some (bad, _) =>
    let mended := spaces.map fun (label, uri) => (if bad.toList.isPrefixOf label.toList then "android" else label, uri)
    if mended.all fun (label, _) => isValidName label.toList then .ok mended else .error .badNamespace

/-- A name that XML can hold. -/
def checkName (name : QName) : Except Fault Unit := do
  if !isValidName name.localName.toList then throw .badName
  match name.space with
  | none => return
  | some uri => if uri.toList.contains '\x7d' || !uri.toList.all isXmlChar then throw .badNamespace

/-- The namespace of an element, and every namespace that is declared around it, is an address. -/
def checkSpaces (spaces : Spaces) (tag : QName) : Except Fault Unit := do
  let mended ← mendLabels spaces
  if !(mended.all fun (_, uri) => isValidUri uri.toList) then throw .badNamespace
  if !isValidUri (tag.space.getD "").toList then throw .badNamespace

/-- No two dashes in a row, and none at the end. -/
def isComment : List Char → Bool
  | [] => true
  | '-' :: rest => !(rest.isEmpty || rest.head? = some '-') && isComment rest
  | c :: rest => isXmlChar c && isComment rest

def checkComment (text : String) : Except Fault Unit := if isComment text.toList then .ok () else .error .badComment

/-- The attributes of an element; of two with one name the later counts. -/
def buildAttributes (pool : StringPool) (resources : Array Nat) (spaces : Spaces) :
    List (QName × String) → List RawAttribute → Except Fault (List (QName × String))
  | done, [] => .ok done
  | done, a :: rest => do
    let uri ← pool.getOptional a.space
    let name ← attributeName pool resources a.name
    let name := mendName spaces uri name
    let value := legalText (← valueText pool a)
    checkName name
    buildAttributes pool resources spaces (setAttribute done name value) rest

/-- The comment in front of an element becomes a part of the open one. -/
def Building.comment (b : Building) (pool : StringPool) (comment : Nat) : Except Fault Building := do
  let text ← pool.getOptional comment
  if text.isEmpty || (b.opened.isEmpty && b.root.isNone) then return b
  match b.opened with
  | [] => throw .nothingOpen
  | o :: others =>
    checkComment text
    return { b with opened := o.add (.comment text) :: others }

/-- Opens an element; `none` for a second root. -/
def Building.start (b : Building) (pool : StringPool) (comment space : Nat) (name : String) (raw : List RawAttribute) :
    Except Fault (Option Building) := do
  let spaces ← declaredSpaces pool b.spaces
  let tag := mendName spaces (← pool.getOptional space) name
  let b ← b.comment pool comment
  checkName tag
  checkSpaces spaces tag
  let attributes ← buildAttributes pool b.resources spaces [] raw
  if b.opened.isEmpty && b.root.isSome then return none
  return some { b with opened := ⟨tag, attributes, []⟩ :: b.opened }

/-- One event after another; `none` for an event that ends the reading. -/
def Building.step (b : Building) (pool : StringPool) : Event → Except Fault (Option Building)
  | .resources ids => .ok (some { b with resources := b.resources ++ ids.toArray })
  | .openSpace comment label uri => do
    let _ ← pool.getOptional comment
    let _ ← pool.get label
    let _ ← pool.get uri
    return some { b with spaces := b.spaces ++ [(label, uri)] }
  | .closeSpace comment label uri => do
    let _ ← pool.getOptional comment
    return some { b with spaces := b.spaces.erase (label, uri) }
  | .start comment space name attributes => do
    let name ← pool.get name
    if name.isEmpty then return some b
    b.start pool comment space name attributes
  | .stop name => do
    if (← pool.get name).isEmpty then return some b
    if b.opened.isEmpty then throw .nothingOpen
    return some b.closeOne
  | .text content => do
    if b.opened.isEmpty then throw .nothingOpen
    let text ← pool.get content
    if text.toList.all isXmlChar then return some b else throw .badText

/-- The root that the events build; `none` if they do not end properly. -/
def build (pool : StringPool) (ending : Ending) (b : Building) : List Event → Except Fault (Option (Option Element))
  | [] =>
    match ending with
    | .complete => .ok (some b.result)
    | .notAChunk => .ok none
    | .faulty f => .error f
  | event :: rest => do
    match ← b.step pool event with
    | none => return some b.result
    | some b => build pool ending b rest

/-- The root of a document, which may have none; `none` if the data are no document. -/
def decode (data : Bytes) : Except Fault (Option (Option Element)) := do
  match ← readDocument? data with
  | none => return none
  | some (pool, events, ending) => build pool ending {} events

end ApkReport.BinaryXml

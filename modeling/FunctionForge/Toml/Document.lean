import FunctionForge.Toml.Scalar
import FunctionForge.Toml.Token
import FunctionForge.Toml.Table

/-!
# Documents

A document is read one token at a time. The state keeps the tables read so far, the arrays and
tables in braces that are open, and what may come next. No token is looked at twice, so reading ends
with the tokens.
-/

namespace FunctionForge.Toml

/-- What a key is read for. -/
inductive KeyUse where
  | entry
  | header
  | arrayHeader
  deriving DecidableEq, Repr

/-- An array or a table in braces that is open. -/
inductive Frame where
  /-- The items read, the last one first. -/
  | array (items : List Value)
  /-- The entries read, and the key whose value is read. -/
  | braces (entries : Entries) (key : List String)

/-- What may come next. -/
inductive Position where
  | lineStart
  | headerStart
  | segment (use : KeyUse) (path : List String)
  | segmentEnd (use : KeyUse) (path : List String)
  /-- On a later line than the key of an entry in braces. -/
  | keyEnd (path : List String)
  | headerEnd (path : List String)
  | lineEnd
  | value
  | item
  | entry
  /-- In a value without quotes, or behind it. The characters read and the blanks after them, the
  last ones first. -/
  | bare (read blanks : List Char)
  | valueEnd

/-- What has been read of a document: its tables, the header that entries now stand below, the key
of the entry that is read, and what is open. -/
structure Reader where
  root : Entries
  header : List String
  key : List String
  frames : List Frame
  position : Position

namespace Reader

def start : Reader := ⟨[], [], [], [], .lineStart⟩

/-- The greatest number of arrays and tables in braces inside each other. -/
def depthBound : Nat := 80

/-- The reader with something else to come next. -/
def goTo (reader : Reader) (position : Position) : Reader := { reader with position }

def segment? : Token → Option String
  | .bare text => if isBareKey text then some (String.ofList text) else none
  | .string text true => some text
  | _ => none

/-- Passes a path and its last key on. -/
def splitLast {α : Type} (path : List String) (use : List String → String → Option α) : Option α :=
  match path.getLast? with
  | none => none
  | some key => use path.dropLast key

/-- Takes a value that is complete to where it belongs. -/
def complete (reader : Reader) (value : Value) : Option Reader :=
  match reader.frames with
  | [] => do
    let root ← splitLast reader.key fun path key =>
      reader.root.insertBelow reader.header path key value
    return { reader with root, position := .lineEnd }
  | .array items :: rest =>
    some { reader with frames := .array (value :: items) :: rest, position := .valueEnd }
  | .braces entries key :: rest => do
    let entries ← splitLast key fun path key => entries.insert path key value
    return { reader with frames := .braces entries [] :: rest, position := .valueEnd }

/-- Opens an array or a table in braces. -/
def push (reader : Reader) (frame : Frame) (position : Position) : Option Reader :=
  if reader.frames.length < depthBound then
    some { reader with frames := frame :: reader.frames, position }
  else none

/-- Closes what was opened last, if it is closed by a mark. -/
def pop (reader : Reader) (mark : Char) : Option Reader :=
  match reader.frames, mark with
  | .array items :: rest, ']' => { reader with frames := rest }.complete (.array items.reverse)
  | .braces entries _ :: rest, '}' =>
    { reader with frames := rest }.complete (.table (completeEntries entries))
  | _, _ => none

/-- Whether what was opened last is a table in braces. -/
def inBraces (reader : Reader) : Bool :=
  match reader.frames with
  | .braces _ _ :: _ => true
  | _ => false

def startValue (reader : Reader) (path : List String) : Reader :=
  match reader.frames with
  | .braces entries _ :: rest =>
    { reader with frames := .braces entries path :: rest, position := .value }
  | _ => { reader with key := path, position := .value }

def takeHeader (reader : Reader) (path : List String)
    (change : List String → String → Entries → Option Entries) : Option Reader := do
  let root ← splitLast path fun above key => change above key reader.root
  return { reader with root, header := path, position := .lineEnd }

def lineStartStep (reader : Reader) (token : Token) : Option Reader :=
  match token with
  | .blank _ | .newline => some (reader.goTo .lineStart)
  | .mark '[' => some (reader.goTo .headerStart)
  | _ => (segment? token).map fun s => reader.goTo (.segmentEnd .entry [s])

/-- Reads a token where a segment of a key must stand. -/
def segmentStep (reader : Reader) (use : KeyUse) (path : List String) (token : Token) :
    Option Reader :=
  match token with
  | .blank _ => some reader
  | _ => (segment? token).map fun s => reader.goTo (.segmentEnd use (path ++ [s]))

/-- Reads a token after a segment of a key. In braces, the line may end behind the whole key. -/
def segmentEndStep (reader : Reader) (use : KeyUse) (path : List String) (token : Token) :
    Option Reader :=
  match token, use with
  | .blank _, _ => some reader
  | .newline, .entry => if reader.inBraces then some (reader.goTo (.keyEnd path)) else none
  | .mark '.', _ => some (reader.goTo (.segment use path))
  | .mark '=', .entry => some (reader.startValue path)
  | .mark ']', .header => reader.takeHeader path Entries.stateTable
  | .mark ']', .arrayHeader => some (reader.goTo (.headerEnd path))
  | _, _ => none

/-- Reads a token on a later line than the key of an entry in braces. -/
def keyEndStep (reader : Reader) (path : List String) (token : Token) : Option Reader :=
  match token with
  | .blank _ | .newline => some reader
  | .mark '=' => some (reader.startValue path)
  | _ => none

/-- Reads a token where a value must stand. -/
def valueStep (reader : Reader) (token : Token) : Option Reader :=
  match token with
  | .blank _ => some reader
  | .newline => if reader.inBraces then some reader else none
  | .string text _ => reader.complete (.string text)
  | .bare text => some (reader.goTo (.bare text.reverse []))
  | .mark '[' => reader.push (.array []) .item
  | .mark '{' => reader.push (.braces [] []) .entry
  | _ => none

/-- Reads a token where an item of an array may stand. -/
def itemStep (reader : Reader) (token : Token) : Option Reader :=
  match token with
  | .newline => some reader
  | .mark ']' => reader.pop ']'
  | _ => reader.valueStep token

/-- Reads a token where an entry of a table in braces may stand. -/
def entryStep (reader : Reader) (token : Token) : Option Reader :=
  match token with
  | .blank _ | .newline => some reader
  | .mark '}' => reader.pop '}'
  | _ => (segment? token).map fun s => reader.goTo (.segmentEnd .entry [s])

/-- Reads a token after a header or a value that is inside nothing. -/
def lineEndStep (reader : Reader) (token : Token) : Option Reader :=
  match token with
  | .blank _ => some reader
  | .newline => some (reader.goTo .lineStart)
  | _ => none

def valueEndStep (reader : Reader) (token : Token) : Option Reader :=
  match reader.frames, token with
  | [], _ => reader.lineEndStep token
  | _, .blank _ | _, .newline => some reader
  | .array _ :: _, .mark ',' => some (reader.goTo .item)
  | .braces _ _ :: _, .mark ',' => some (reader.goTo .entry)
  | _, .mark c => reader.pop c
  | _, _ => none

/-- Reads a token in a value without quotes or behind it. Another word goes on with the value, and
the blanks in between are a part of it: one blank may stand between a date and its time. -/
def bareStep (reader : Reader) (read blanks : List Char) (token : Token) : Option Reader :=
  match token, blanks with
  | .bare more, _ => some (reader.goTo (.bare (more.reverse ++ (blanks ++ read)) []))
  | .blank c, _ => some (reader.goTo (.bare read (c :: blanks)))
  | .mark '.', [] => some (reader.goTo (.bare ('.' :: read) []))
  | _, _ => do (← reader.complete (← scalar? read.reverse)).valueEndStep token

def step (reader : Reader) (token : Token) : Option Reader :=
  match reader.position with
  | .lineStart => reader.lineStartStep token
  | .headerStart =>
    if token = .mark '[' then some (reader.goTo (.segment .arrayHeader []))
    else (reader.goTo (.segment .header [])).segmentStep .header [] token
  | .segment use path => reader.segmentStep use path token
  | .segmentEnd use path => reader.segmentEndStep use path token
  | .keyEnd path => reader.keyEndStep path token
  | .headerEnd path =>
    if token = .mark ']' then reader.takeHeader path Entries.appendTable else none
  | .lineEnd => reader.lineEndStep token
  | .value => reader.valueStep token
  | .item => reader.itemStep token
  | .entry => reader.entryStep token
  | .bare read blanks => reader.bareStep read blanks token
  | .valueEnd => reader.valueEndStep token

/-- The entries of a document whose last line has been read. -/
def finish (reader : Reader) : Option (List (String × Value)) :=
  match reader.position with
  | .lineStart => some (completeEntries reader.root)
  | _ => none

end Reader

/-- The entries of a document, sorted by key, or none if the text is no document. -/
def parse (document : String) : Option (List (String × Value)) := do
  let reader ← (← scan document).foldlM Reader.step Reader.start
  (← reader.step .newline).finish

end FunctionForge.Toml

import RpcStubs.Store.FileError
import RpcStubs.Text.Alphabetic
import RpcStubs.Text.Blank
import RpcStubs.Text.Numeric
import RpcStubs.Text.Size

/-!
# Files of environment variables

A file assigns values to variables, one assignment a logical line. A logical line goes on over line
ends as long as a quote or an escape is open. Values may be quoted, may hold escapes, and may refer
to variables, which are looked up in the environment first and then among the earlier assignments of
the file.
-/

namespace RpcStubs

/-- The variables of a process with their values. -/
abbrev Environment := List (String × String)

/-- The rest of a text after a text that it begins with. -/
def restAfter? : (beginning : List Char) → List Char → Option (List Char)
  | [], cs => some cs
  | _ :: _, [] => none
  | b :: beginning, c :: cs => if b = c then restAfter? beginning cs else none

/-- What the environment has for a name. A variable stands there as its name and its value with an
equals sign between them, and the first one that begins with the name and an equals sign is taken,
even if that sign is part of its value. -/
def Environment.find? (environment : Environment) (name : List Char) : Option (List Char) :=
  if name.isEmpty then none
  else
    environment.findSome? fun (entry : String × String) =>
      restAfter? (name ++ ['=']) (entry.1.toList ++ '=' :: entry.2.toList)

namespace EnvFile

inductive Error where
  | unreadable (cause : FileError)
  | notText
  | badLine (text : String) (index : Nat)
  deriving DecidableEq, Repr

def Error.message : Error → String
  | .unreadable cause => cause.message
  | .notText => "stream did not contain valid UTF-8"
  | .badLine text index =>
    "Error parsing line: '" ++ text ++ "', error at line index: " ++ toString index

/-! ## Physical lines -/

/-- Splits bytes into physical lines, each with its line feed. -/
def splitBytes : List UInt8 → List (List UInt8)
  | [] => []
  | b :: rest =>
    if b = 10 then [b] :: splitBytes rest
    else
      match splitBytes rest with
      | [] => [[b]]
      | line :: others => (b :: line) :: others

/-- The text of a physical line, if it is UTF-8. -/
def decodeLine (bytes : List UInt8) : Option (List Char) :=
  (String.fromUTF8? ⟨bytes.toArray⟩).map String.toList

/-- The physical lines of a file; one that is no text is missing. -/
def physicalLines (content : ByteArray) : List (Option (List Char)) :=
  (splitBytes content.toList).map decodeLine

/-! ## Logical lines -/

/-- What is open at a place in a line. -/
inductive LineState where
  | complete
  | blank
  | escape
  | weak
  | weakEscape
  | strong
  | strongEscape
  | comment
  deriving DecidableEq, Repr

/-- What a character outside of quotes opens. -/
def LineState.opened (c : Char) : LineState :=
  if c = '\\' then .escape
  else if c = '"' then .weak
  else if c = '\x27' then .strong
  else .complete

/-- What is open after one more character. -/
def LineState.next : LineState → Char → LineState
  | .complete, c =>
    if Text.isBlank c && c ≠ '\n' && c ≠ '\r' then .blank else LineState.opened c
  | .blank, c => if c = '#' then .comment else LineState.opened c
  | .escape, _ => .complete
  | .weak, c => if c = '\\' then .weakEscape else if c = '"' then .complete else .weak
  | .weakEscape, _ => .weak
  | .strong, c => if c = '\\' then .strongEscape else if c = '\x27' then .complete else .strong
  | .strongEscape, _ => .strong
  | .comment, _ => .comment

/-- Goes through a physical line up to a comment: what comes before it, and what is open then. -/
def scanLine (state : LineState) : List Char → List Char × LineState
  | [] => ([], state)
  | c :: rest =>
    if state.next c = .comment then ([], .comment)
    else
      let (kept, last) := scanLine (state.next c) rest
      (c :: kept, last)

/-- A line without its line feed and a carriage return before that. -/
def withoutLineEnd (line : List Char) : List Char :=
  match line.reverse with
  | '\n' :: '\r' :: rest => rest.reverse
  | '\n' :: rest => rest.reverse
  | _ => line

/-- Joins physical lines to logical ones, after the text `before` of one that is not complete. -/
def joinLines (before : List Char) (state : LineState) :
    List (Option (List Char)) → List (Except Error (List Char))
  | [] =>
    if state = .complete then []
    else [.error (.badLine (String.ofList before) (Text.byteLength before))]
  | none :: _ => [.error .notText]
  | some line :: rest =>
    let whole := before ++ line
    if (Text.trimStart whole).head? = some '#' then .ok [] :: joinLines [] .complete rest
    else
      match scanLine state line with
      | (kept, .comment) => .ok (before ++ kept) :: joinLines [] .complete rest
      | (_, .complete) => .ok (withoutLineEnd whole) :: joinLines [] .complete rest
      | (_, open_) => joinLines whole open_ rest

def logicalLines (content : ByteArray) : List (Except Error (List Char)) :=
  joinLines [] .complete (physicalLines content)

/-! ## Values -/

/-- What is open at a place in a value: where a reference to a variable stands, its name so far, and
whether it stands within double quotes. -/
inductive ValueState where
  | plain (weak : Bool)
  | strong
  | escape (weak : Bool)
  | bareName (name : List Char) (weak : Bool)
  | bracedName (name : List Char) (weak : Bool)
  | ended
  | closed
  deriving DecidableEq, Repr

def isNameChar (c : Char) : Bool :=
  Text.isAlphabetic c || Text.isNumeric c

/-- One more character of a value outside of references: what is open then, and what the value
gains. Nothing if the character cannot stand there. -/
def plainStep (weak : Bool) (c : Char) : ValueState × List Char :=
  if c = '$' then (.bareName [] weak, [])
  else if c = '\\' then (.escape weak, [])
  else if c = '"' then (.plain !weak, [])
  else if weak then (.plain true, [c])
  else if c = '\x27' then (.strong, [])
  else if c = ' ' ∨ c = '\t' then (.ended, [])
  else (.plain false, [c])

/-- One more character of a value: what is open then, and what the value gains; nothing if the
character cannot stand there. -/
def valueStep (valueOf : List Char → List Char) :
    ValueState → Char → Option (ValueState × List Char)
  | .plain weak, c => some (plainStep weak c)
  | .strong, c => some (if c = '\x27' then (.plain false, []) else (.strong, [c]))
  | .escape weak, c =>
    if c = 'n' then some (.plain weak, ['\n'])
    else if ['\\', '\x27', '"', '$', ' '].contains c then some (.plain weak, [c])
    else none
  | .bareName name weak, c =>
    if isNameChar c then some (.bareName (name ++ [c]) weak, [])
    else if c = '{' ∧ name = [] then some (.bracedName [] weak, [])
    else if c = '$' then some (.bareName [] weak, valueOf name)
    else some (.plain weak, valueOf name ++ [c])
  | .bracedName name weak, c =>
    if c = '}' then some (.plain weak, valueOf name) else some (.bracedName (name ++ [c]) weak, [])
  | .ended, c =>
    if c = ' ' ∨ c = '\t' then some (.ended, [])
    else if c = '#' then some (.closed, [])
    else none
  | .closed, _ => some (.closed, [])

/-- What the end of a value adds to it; nothing if a quote or a brace is still open. -/
def valueEnd (valueOf : List Char → List Char) : ValueState → Option (List Char)
  | .strong => none
  | .bracedName _ _ => none
  | .plain weak => if weak then none else some []
  | .escape weak => if weak then none else some []
  | .bareName name weak => if weak then none else some (valueOf name)
  | .ended => some []
  | .closed => some []

/-- Reads a value from the place `index` on: the value, or the place where it fails. The end of the
value is the place `last`. -/
def readValue (valueOf : List Char → List Char) (last : Nat) :
    (index : Nat) → ValueState → List Char → Except Nat (List Char)
  | _, state, [] =>
    match valueEnd valueOf state with
    | some chars => .ok chars
    | none => .error last
  | index, state, c :: rest =>
    match valueStep valueOf state c with
    | none => .error index
    | some (state, chars) => (chars ++ ·) <$> readValue valueOf last (index + 1) state rest

/-! ## Assignments -/

def isKeyChar (c : Char) : Bool :=
  c.isAlphanum || c = '_' || c = '.'

/-- Reads a key; fails at the place where none begins. -/
def readKey (cs : List Char) : Except (List Char) (List Char × List Char) :=
  match cs with
  | [] => .error []
  | c :: _ =>
    if c.isAlpha || c = '_' then .ok (cs.takeWhile isKeyChar, cs.dropWhile isKeyChar) else .error cs

def readEquals : List Char → Except (List Char) (List Char)
  | '=' :: rest => .ok rest
  | rest => .error rest

/-- Reads a key and the equals sign after it. The word `export` before a key is passed over. -/
def readAssigned (cs : List Char) : Except (List Char) (List Char × List Char) := do
  let (key, rest) ← readKey cs
  let rest := Text.trimStart rest
  match readEquals rest with
  | .ok rest => return (key, rest)
  | .error rest =>
    if key = "export".toList then
      let (key, rest) ← readKey rest
      return (key, ← readEquals (Text.trimStart rest))
    else .error rest

/-- Whether the rest of a line has nothing to read. -/
def isOver (cs : List Char) : Bool :=
  cs.isEmpty || cs.head? = some '#'

/-- The value of a variable that a value refers to. -/
def valueOf (environment : Environment) (assigned : List (String × String)) (name : List Char) :
    List Char :=
  (environment.find? name).getD ((assigned.lookup (String.ofList name)).getD "").toList

/-- Reads a logical line: the assignment in it, if there is one. -/
def readLine (environment : Environment) (assigned : List (String × String)) (line : List Char) :
    Except Error (Option (String × String)) :=
  let trimmed := Text.trimEnd line
  let start := Text.trimStart trimmed
  if isOver start then .ok none
  else
    match readAssigned start with
    | .error rest =>
      .error (.badLine (String.ofList line) (Text.byteLength trimmed - Text.byteLength rest))
    | .ok (key, rest) =>
      let rest := Text.trimStart rest
      if isOver rest then .ok (some (String.ofList key, ""))
      else
        let last := Text.byteLength rest - 1
        match readValue (valueOf environment assigned) last 0 (.plain false) rest with
        | .error index => .error (.badLine (String.ofList rest) index)
        | .ok value => .ok (some (String.ofList key, String.ofList value))

/-! ## Files -/

/-- Reads the assignments of logical lines in order, each with the earlier ones at hand. -/
def readLines (environment : Environment) (assigned : List (String × String)) :
    List (Except Error (List Char)) → Except Error (List (String × String))
  | [] => .ok []
  | .error e :: _ => .error e
  | .ok line :: rest => do
    match ← readLine environment assigned line with
    | none => readLines environment assigned rest
    | some assignment =>
      return assignment :: (← readLines environment (assignment :: assigned) rest)

def read (environment : Environment) (content : ByteArray) :
    Except Error (List (String × String)) :=
  readLines environment [] (logicalLines content)

/-- The environment with a variable set, unless it is set already. -/
def adopt (environment : Environment) (assignment : String × String) : Environment :=
  if (environment.lookup assignment.1).isSome then environment else assignment :: environment

/-- Takes over the assignments of logical lines one by one, up to the first line that is bad. -/
def adoptLines (environment : Environment) (assigned : List (String × String)) :
    List (Except Error (List Char)) → Environment
  | [] => environment
  | .error _ :: _ => environment
  | .ok line :: rest =>
    match readLine environment assigned line with
    | .error _ => environment
    | .ok none => adoptLines environment assigned rest
    | .ok (some assignment) =>
      adoptLines (adopt environment assignment) (assignment :: assigned) rest

/-- The mark at the beginning of a file that says it is UTF-8. -/
def byteOrderMark : List UInt8 := [0xEF, 0xBB, 0xBF]

def withoutMark (content : ByteArray) : ByteArray :=
  if byteOrderMark.isPrefixOf content.toList then content.extract 3 content.size else content

/-- The environment with the variables of a file added. -/
def load (environment : Environment) (content : ByteArray) : Environment :=
  adoptLines environment [] (logicalLines (withoutMark content))

end EnvFile

end RpcStubs

import RpcStubs.Source

/-!
# Command-line arguments

The arguments are read from left to right. An option stands in a word of its own or, in its short
form, together with others; its value follows in the same word or as the next one. A word that
begins with a dash is never taken as the value of an option before it, a lone dash apart, and after
`--` no word is an option. Reading ends at the first thing that cannot be right, or at a request for
the version or for help.
-/

namespace RpcStubs.Command

/-- The options and the mode of a call, as far as they were given. -/
structure Arguments where
  mode : Option Mode
  schema : Option String
  output : Option String
  dryRun : Bool
  verbosity : Nat
  deriving DecidableEq, Repr

def Arguments.none : Arguments :=
  ⟨.none, .none, .none, false, 0⟩

/-- Why the arguments give no run. -/
inductive Stop where
  | usage
  | version
  | help
  deriving DecidableEq, Repr

/-- An option that takes a value. -/
inductive Valued where
  | schema
  | output
  deriving DecidableEq, Repr

/-- What a letter or a long name stands for. -/
inductive Switch where
  | valued (option : Valued)
  | dryRun
  | verbose
  | version
  | help
  deriving DecidableEq, Repr

def Switch.ofLetter? : Char → Option Switch
  | 's' => some (.valued .schema)
  | 'o' => some (.valued .output)
  | 'v' => some .verbose
  | 'V' => some .version
  | 'h' => some .help
  | _ => .none

def Switch.ofName? (name : String) : Option Switch :=
  if name = "schema" then some (.valued .schema)
  else if name = "output" then some (.valued .output)
  else if name = "dry-run" then some .dryRun
  else if name = "verbose" then some .verbose
  else if name = "version" then some .version
  else if name = "help" then some .help
  else .none

def readMode? (word : String) : Option Mode :=
  if word = "fetch" then some .fetch
  else if word = "open" then some .opened
  else .none

/-- The arguments with an option that has no value. None but the verbosity may be given twice. -/
def Arguments.set (arguments : Arguments) : Switch → Except Stop Arguments
  | .dryRun =>
    if arguments.dryRun then .error .usage else .ok { arguments with dryRun := true }
  | .verbose => .ok { arguments with verbosity := arguments.verbosity + 1 }
  | .version => .error .version
  | .help => .error .help
  | .valued _ => .error .usage

/-- The arguments with the value of an option. No option may be given twice, and the output must not
be empty. -/
def Arguments.setValue (arguments : Arguments) (option : Valued) (value : String) :
    Except Stop Arguments :=
  match option with
  | .schema =>
    if arguments.schema.isSome then .error .usage else .ok { arguments with schema := some value }
  | .output =>
    if arguments.output.isSome || value = "" then .error .usage
    else .ok { arguments with output := some value }

def Arguments.setMode (arguments : Arguments) (word : String) : Except Stop Arguments :=
  match arguments.mode, readMode? word with
  | .none, some mode => .ok { arguments with mode := some mode }
  | _, _ => .error .usage

/-- Reads letters that stand together. The first letter of an option with a value takes the rest of
the word as the value, after an equals sign or not; if nothing is left, the next word has to be it.
-/
def readLetters (arguments : Arguments) : List Char → Except Stop (Arguments × Option Valued)
  | [] => .ok (arguments, .none)
  | letter :: rest =>
    match Switch.ofLetter? letter, rest with
    | .none, _ => .error .usage
    | some (.valued option), [] => .ok (arguments, some option)
    | some (.valued option), '=' :: value => do
      return (← arguments.setValue option (String.ofList value), .none)
    | some (.valued option), value => do
      return (← arguments.setValue option (String.ofList value), .none)
    | some switch, rest => do readLetters (← arguments.set switch) rest

/-- Reads a long option, after its dashes. -/
def readLong (arguments : Arguments) (word : List Char) :
    Except Stop (Arguments × Option Valued) :=
  let name := String.ofList (word.takeWhile (· ≠ '='))
  match Switch.ofName? name, word.dropWhile (· ≠ '=') with
  | .none, _ => .error .usage
  | some (.valued option), [] => .ok (arguments, some option)
  | some (.valued option), _ :: value => do
    return (← arguments.setValue option (String.ofList value), .none)
  | some switch, [] => do return (← arguments.set switch, .none)
  | some _, _ :: _ => .error .usage

/-- Reads words that are no options. -/
def readPlain (arguments : Arguments) : List String → Except Stop Arguments
  | [] => .ok arguments
  | word :: rest => do readPlain (← arguments.setMode word) rest

/-- Reads words while an option may wait for its value. -/
def readWords (arguments : Arguments) (waiting : Option Valued) :
    List String → Except Stop Arguments
  | [] => if waiting.isSome then .error .usage else .ok arguments
  | word :: rest =>
    match word.toList, waiting with
    | '-' :: _ :: _, some _ => .error .usage
    | ['-', '-'], .none => readPlain arguments rest
    | '-' :: '-' :: long, .none => do
      let (arguments, waiting) ← readLong arguments long
      readWords arguments waiting rest
    | '-' :: c :: letters, .none => do
      let (arguments, waiting) ← readLetters arguments (c :: letters)
      readWords arguments waiting rest
    | _, some option => do readWords (← arguments.setValue option word) .none rest
    | _, .none => do readWords (← arguments.setMode word) .none rest

structure Call where
  mode : Mode
  schema : Option String
  output : Option String
  dryRun : Bool
  verbosity : Nat
  deriving DecidableEq, Repr

/-- Reads the arguments of a call, of which the mode must be among them. -/
def Call.read (words : List String) : Except Stop Call := do
  let arguments ← readWords Arguments.none .none words
  match arguments.mode with
  | .none => .error .usage
  | some mode =>
    return ⟨mode, arguments.schema, arguments.output, arguments.dryRun, arguments.verbosity⟩

end RpcStubs.Command

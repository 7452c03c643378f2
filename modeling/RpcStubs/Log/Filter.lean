import RpcStubs.Log.Entry
import RpcStubs.Log.Pattern
import RpcStubs.Text.Alphabetic
import RpcStubs.Text.Blank
import RpcStubs.Text.Count
import RpcStubs.Text.Numeric
import RpcStubs.Text.Size

/-!
# Log filters

A filter says up to which level messages are shown: all of them, those whose origin begins with a
name, or those that carry a value of a name. Of the rules that are about a message the most specific
one decides. Rules about named stretches of a run or about the text of a value can be written as
well, but no message here falls under them.
-/

namespace RpcStubs.Log

/-- The messages that a rule lets through: none, or those up to a level. -/
abbrev Threshold := Option Level

/-- What a rule asks of a message besides its origin. -/
inductive Condition where
  /-- Every message will do. -/
  | none
  /-- The message has to carry a value of the name. -/
  | carries (name : String)
  /-- No message will do. -/
  | never
  deriving DecidableEq, Repr

/-- A rule of a filter, for origins that begin with a name or for all. -/
structure Rule where
  origin : Option String
  condition : Condition
  threshold : Threshold
  deriving DecidableEq, Repr

/-- A filter: rules in the order in which they were given. -/
abbrev Filter := List Rule

def Condition.holds (condition : Condition) (entry : Entry) : Bool :=
  match condition with
  | .none => true
  | .carries name => entry.values.contains name
  | .never => false

def Rule.concerns (rule : Rule) (entry : Entry) : Bool :=
  rule.condition.holds entry &&
    match rule.origin with
    | none => true
    | some name => name.toList.isPrefixOf entry.origin.toList

/-- How specific a rule is about the origin. -/
def Rule.weight (rule : Rule) : Nat :=
  match rule.origin with
  | none => 0
  | some name => name.utf8ByteSize + 1

/-- Whether a condition is at most as specific as another one. Of two values that a message has to
carry, the one whose name comes later in the alphabet is the more specific. -/
def Condition.isAtMost : Condition → Condition → Bool
  | .carries name, .carries other => name ≤ other
  | .carries _, _ => false
  | _, _ => true

/-- Whether a rule is at most as specific as another one: a longer origin decides first. -/
def Rule.isAtMost (rule other : Rule) : Bool :=
  rule.weight < other.weight
    || (rule.weight = other.weight && rule.condition.isAtMost other.condition)

/-- The more specific of two rules, and the second of two that are as specific. -/
def Rule.prefer (chosen : Option Rule) (rule : Rule) : Option Rule :=
  match chosen with
  | none => some rule
  | some best => if best.isAtMost rule then some rule else some best

def Filter.rule? (filter : Filter) (entry : Entry) : Option Rule :=
  (filter.filter (·.concerns entry)).foldl Rule.prefer none

def Filter.shows (filter : Filter) (entry : Entry) : Bool :=
  match filter.rule? entry with
  | some ⟨_, _, some level⟩ => entry.level.rank ≤ level.rank
  | _ => false

def Filter.upTo (level : Level) : Filter :=
  [⟨none, .none, some level⟩]

/-! ## Reading thresholds -/

/-- The thresholds by rank. -/
def thresholdOfRank? : Nat → Option Threshold
  | 0 => some none
  | 1 => some (some .error)
  | 2 => some (some .warn)
  | 3 => some (some .info)
  | 4 => some (some .debug)
  | 5 => some (some .trace)
  | _ => none

/-- The thresholds by name, in upper or lower case. -/
def thresholdOfName? (cs : List Char) : Option Threshold :=
  let word := String.ofList (cs.map Char.toLower)
  if word = "off" then some none
  else if word = "error" then some (some .error)
  else if word = "warn" then some (some .warn)
  else if word = "info" then some (some .info)
  else if word = "debug" then some (some .debug)
  else if word = "trace" then some (some .trace)
  else none

/-- Reads a threshold: its rank or its name. -/
def readThreshold? (cs : List Char) : Option Threshold :=
  match (Text.readCount? cs).bind fun (rank : UInt64) => thresholdOfRank? rank.toNat with
  | some threshold => some threshold
  | none => thresholdOfName? cs

/-! ## Reading rules

The marks of a rule are looked for in its text without the blanks at the ends. What stands between
them is cut out of the whole text at the same places, so blanks before a rule move its parts. -/

/-- The part of a text between two places; nothing if a place is within a character. -/
def cut? (text : List Char) (first last : Nat) : Option String :=
  String.fromUTF8? ((String.ofList text).toUTF8.extract first last)

def mayBegin (c : Char) : Bool :=
  c = '-' || c = ':' || c = '_' || Text.isAlphabetic c || Text.isNumeric c

/-- Reads the level from a place to the end of a text. No level at all is every level. -/
def readLevel? (text : List Char) (place : Nat) : Option Threshold := do
  let level ← cut? text place (Text.byteLength text)
  if level.isEmpty then return some .trace else readThreshold? level.toList

/-- Reads what may follow brackets at a place: nothing, or an equals sign and a level. -/
def readAfterBrackets? (text : List Char) (place : Nat) : List Char → Option Threshold
  | [] => some (some .trace)
  | '=' :: _ => readLevel? text (place + 1)
  | _ :: _ => none

/-- Reads the inside of braces: the name of a value, and after an equals sign what its text has to
be, up to another such sign. -/
def readValue? (isNamed : Bool) (cs : List Char) : Option Condition :=
  match Text.pieces (· = '=') cs with
  | _ :: pattern :: _ => if Pattern.isReadable pattern then some .never else none
  | _ =>
    if cs.isEmpty then none
    else some (if isNamed then .never else .carries (String.ofList cs))

/-- Reads the brackets of a rule from the place after the first one: a name, and a value in braces.
-/
def readBrackets? (text : List Char) (origin : Option String) (place : Nat) (cs : List Char) :
    Option Rule :=
  let name := cs.takeWhile fun (c : Char) => c ≠ ']' && c ≠ '{'
  let place := place + Text.byteLength name
  match cs.drop name.length with
  | ']' :: rest => do
    return ⟨origin, .never, ← readAfterBrackets? text (place + 1) rest⟩
  | '{' :: rest =>
    let inner := rest.takeWhile (· ≠ '}')
    let last := place + 1 + Text.byteLength inner
    match rest.drop inner.length with
    | '}' :: ']' :: rest => do
      let value ← cut? text (place + 1) last
      return ⟨origin, ← readValue? (!name.isEmpty) value.toList,
        ← readAfterBrackets? text (last + 2) rest⟩
    | _ => none
  | _ => none

/-- Reads a rule: a level, or an origin with brackets and a level after it, each of which may be
missing. A rule without a level shows everything. -/
def readRule? (text : List Char) : Option Rule :=
  match Text.trim text with
  | [] => none
  | '[' :: rest => readBrackets? text none 1 rest
  | c :: rest =>
    if !mayBegin c then none
    else
      let name := (c :: rest).takeWhile fun (c : Char) => c ≠ '=' && c ≠ '['
      let place := Text.byteLength name
      match (c :: rest).drop name.length with
      | [] =>
        match readThreshold? text with
        | some threshold => some ⟨none, .none, threshold⟩
        | none => some ⟨some (String.ofList text), .none, some .trace⟩
      | '=' :: _ => do
        return ⟨some (← cut? text 0 place), .none, ← readLevel? text (place + 1)⟩
      | _ :: rest => do readBrackets? text (some (← cut? text 0 place)) (place + 1) rest

/-- Reads a filter: rules with commas between them. Without any rule it is the filter that shows
errors. -/
def Filter.read? (text : String) : Option Filter :=
  match (Text.pieces (· = ',') text.toList).filter (!·.isEmpty) with
  | [] => some (upTo .error)
  | rules => rules.mapM readRule?

end RpcStubs.Log

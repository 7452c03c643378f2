import RpcStubs.Text.Alphabetic
import RpcStubs.Text.Count
import RpcStubs.Text.Hexadecimal
import RpcStubs.Text.Numeric

/-!
# Patterns of values

A rule of a filter may ask that a value has a certain text, given by a regular expression. Here it
is only decided whether an expression is well-formed: every group and class is closed, every
repetition has something to repeat, and every escape stands for one character or a place. What would
need tables of characters (classes of letters or digits, words, either case) is not to be had, and
counted repetitions cannot be closed within the braces of a rule.
-/

namespace RpcStubs.Log.Pattern

/-- Where a class stands: at its beginning, after the mark of a negated one or after hyphens there,
between items, after a character that may begin a range, or after the hyphen of a range. -/
inductive ClassPlace where
  | opened
  | negated
  | hyphens
  | between
  | after (first : Char)
  | range (first : Char)
  deriving DecidableEq, Repr

inductive Place where
  /-- Where there is nothing to repeat. -/
  | start
  /-- After something that can be repeated. -/
  | item
  /-- After a parenthesis. -/
  | group
  /-- After a parenthesis and a question mark. -/
  | question
  /-- After the `P` of a name. -/
  | naming
  /-- Within a name, with what there is of it. -/
  | name (size : Nat)
  /-- Within flags. -/
  | flags (seen : List Char)
  /-- After a backslash, perhaps within classes. -/
  | escape (depth : Nat)
  /-- Within the digits of an escape, perhaps within classes. -/
  | digits (left value depth : Nat)
  /-- Within classes. -/
  | inClass (depth : Nat) (place : ClassPlace)
  deriving DecidableEq, Repr

/-- How far an expression has been read: the number of open groups and the place. -/
structure Reader where
  groups : Nat
  place : Place
  deriving DecidableEq, Repr

/-- The place after one escaped character, outside of classes or within. -/
def afterEscape (depth : Nat) : Place :=
  if depth = 0 then .item else .inClass depth .between

/-- The place after the character behind a backslash. Letters and digits stand for themselves
nowhere, and places cannot be part of a class. -/
def escaped? (depth : Nat) (c : Char) : Option Place :=
  if c = 'x' then some (.digits 2 0 depth)
  else if c = 'u' then some (.digits 4 0 depth)
  else if c = 'U' then some (.digits 8 0 depth)
  else if ['a', 'f', 't', 'n', 'r', 'v'].contains c then some (afterEscape depth)
  else if ['A', 'z'].contains c then if depth = 0 then some .item else none
  else if c.isAlphanum || c = '<' || c = '>' || 0x80 ≤ c.toNat then none
  else some (if depth = 0 then .item else .inClass depth (.after c))

/-- The place after one more digit of an escape, which has to give a character in the end. -/
def digit? (left value depth : Nat) (c : Char) : Option Place := do
  let value := 16 * value + (← Text.hexDigit? c)
  if 1 < left then some (.digits (left - 1) value depth)
  else if value.isValidChar then
    some (if depth = 0 then .item else .inClass depth (.after (Char.ofNat value)))
  else none

/-- The place after one more flag. Flags are not repeated. -/
def flag? (seen : List Char) (c : Char) : Option Place :=
  if ['m', 's', 'U', 'u', 'R', 'x', '-'].contains c && !seen.contains c then
    some (.flags (c :: seen))
  else none

/-- Whether a name can have a character after so many others. -/
def isNameChar (size : Nat) (c : Char) : Bool :=
  c = '_' || Text.isAlphabetic c
    || (0 < size && (Text.isNumeric c || ['.', '[', ']'].contains c))

def closeClass (depth : Nat) : Place :=
  if depth ≤ 1 then .item else .inClass (depth - 1) .between

/-- The place after a character that does not end or begin a class. -/
def classItem? (depth : Nat) (place : ClassPlace) (c : Char) : Option Place :=
  if c = '\\' then some (.escape depth)
  else
    match place with
    | .after first => some (.inClass depth (if c = '-' then .range first else .after c))
    | .range first =>
      if c = '-' then some (.inClass depth .between)
      else if first ≤ c then some (.inClass depth .between)
      else none
    | .opened =>
      some (.inClass depth (if c = '^' then .negated else if c = '-' then .hyphens else .after c))
    | .negated | .hyphens => some (.inClass depth (if c = '-' then .hyphens else .after c))
    | .between => some (.inClass depth (.after c))

/-- The place after one more character within classes. -/
def inClass? (depth : Nat) (place : ClassPlace) (c : Char) : Option Place :=
  if c = ']' ∧ place ≠ .opened ∧ place ≠ .negated then some (closeClass depth)
  else
    match c, place with
    | '[', .range _ => none
    | '[', _ => some (.inClass (depth + 1) .opened)
    | _, _ => classItem? depth place c

def Reader.plain? (reader : Reader) (c : Char) : Option Reader :=
  if c = '(' then some { reader with place := .group }
  else if c = ')' then if reader.groups = 0 then none else some ⟨reader.groups - 1, .item⟩
  else if c = '|' then some { reader with place := .start }
  else if ['*', '+', '?'].contains c then if reader.place = .item then some reader else none
  else if c = '[' then some { reader with place := .inClass 1 .opened }
  else if c = '\\' then some { reader with place := .escape 0 }
  else if c = '{' then none
  else some { reader with place := .item }

def Reader.next? (reader : Reader) (c : Char) : Option Reader :=
  let opened : Reader := ⟨reader.groups + 1, .start⟩
  match reader.place with
  | .start | .item => reader.plain? c
  | .group => if c = '?' then some { reader with place := .question } else opened.plain? c
  | .question =>
    if c = 'P' then some { reader with place := .naming }
    else if c = '<' then some { reader with place := .name 0 }
    else if c = ':' then some opened
    else (flag? [] c).map fun (place : Place) => { reader with place }
  | .naming => if c = '<' then some { reader with place := .name 0 } else none
  | .name size =>
    if c = '>' then if size = 0 then none else some opened
    else if isNameChar size c then some { reader with place := .name (size + 1) }
    else none
  | .flags seen =>
    if c = ':' ∨ c = ')' then
      if seen.head? = some '-' then none
      else some (if c = ':' then opened else { reader with place := .start })
    else (flag? seen c).map fun (place : Place) => { reader with place }
  | .escape depth => (escaped? depth c).map fun (place : Place) => { reader with place }
  | .digits left value depth =>
    (digit? left value depth c).map fun (place : Place) => { reader with place }
  | .inClass depth place =>
    (inClass? depth place c).map fun (place : Place) => { reader with place }

def Reader.isEnd (reader : Reader) : Bool :=
  reader.groups = 0 && [.start, .item].contains reader.place

/-- Whether a text says what a value has to be: it is a number or a well-formed expression. -/
def isReadable (cs : List Char) : Bool :=
  (Text.readCount? cs).isSome
    || ((cs.foldlM Reader.next? ⟨0, .start⟩).map Reader.isEnd).getD false

end RpcStubs.Log.Pattern

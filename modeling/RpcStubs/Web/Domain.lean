import RpcStubs.Text.Blank
import RpcStubs.Text.Composition
import RpcStubs.Text.Direction
import RpcStubs.Text.Joining
import RpcStubs.Web.DomainMapping
import RpcStubs.Web.Punycode

/-!
# Domain names

A domain name consists of labels with points between them. It is asked for in ASCII: labels with
other characters are written in Punycode behind the mark `xn--`. Whether a name is written that way
or in its own characters makes no difference, and it has to be a name that can be shown without
ambiguity: no label begins with a mark, unseen joiners stand where they change how letters are
drawn, and labels next to such of the other direction keep to the rule for mixed directions.
-/

namespace RpcStubs.Domain

open Text

/-- The mark of a label in Punycode. -/
def mark : List Char := "xn--".toList

/-- The longest text that is written in Punycode, in characters. -/
def writingLimit : Nat := 1000

/-- The longest text in Punycode that is read, in characters. -/
def readingLimit : Nat := 2000

/-- A domain name after mapping, in composed form. -/
def mapped (cs : List Char) : List Char :=
  composed (cs.flatMap mapChar)

/-! ## Labels -/

/-- Whether a joiner may stand between a reversed text and a text: after a mark that joins two
consonants, or, if it separates letters, between two letters that would join. -/
def mayJoin (before : List Char) (c : Char) (after : List Char) : Bool :=
  match before with
  | [] => false
  | last :: _ =>
    isVirama last ||
      (c.toNat = 0x200C
        && (before.dropWhile isTransparent).head?.any joinsNext
        && (after.dropWhile isTransparent).head?.any joinsPrevious)

/-- Whether all joiners of a text that follows a reversed text may stand where they do. -/
def joinersFit (before : List Char) : List Char → Bool
  | [] => true
  | c :: rest => (!isJoiner c || mayJoin before c rest) && joinersFit (c :: before) rest

/-- Whether a label can be shown on its own. -/
def isShowable (label : List Char) : Bool :=
  !label.head?.any isMark && joinersFit [] label

/-- Reads a label of a mapped name: its own characters, also if it is written in Punycode. Punycode
has to be needed, and what it stands for must be mapped already. -/
def readLabel? (label : List Char) : Option (List Char) :=
  if mark.isPrefixOf label then do
    let text := label.drop mark.length
    if readingLimit < text.length then none
    else
      let own ← Punycode.decode? text
      if own.all Punycode.isPlain || mapped own != own || !own.all isSuited then none
      else some own
  else some label

def writeLabel? (label : List Char) : Option (List Char) :=
  if label.all Punycode.isPlain then some label
  else if writingLimit < label.length then none
  else some (mark ++ Punycode.encode label)

/-! ## Directions -/

/-- Whether a character belongs to a text from right to left. -/
def isRightward (c : Char) : Bool :=
  [.rightToLeft, .arabicNumber].contains (direction c)

/-- Whether a label from left to right can stand among labels of the other direction, by the
directions of its characters. -/
def fitsLeftToRight (directions : List Direction) : Bool :=
  directions.all [.leftToRight, .europeanNumber, .neutral, .nonspacing].contains
    && (directions.reverse.dropWhile (· = .nonspacing)).head?.any
      [.leftToRight, .europeanNumber].contains

/-- Whether a label from right to left keeps to the rule, by the directions of its characters: it
ends in a letter or a number, and its numbers are of one kind. -/
def fitsRightToLeft (directions : List Direction) : Bool :=
  !directions.contains .leftToRight
    && (directions.reverse.dropWhile (· = .nonspacing)).head?.any
      [.rightToLeft, .europeanNumber, .arabicNumber].contains
    && !(directions.contains .europeanNumber && directions.contains .arabicNumber)

/-- Whether a label keeps to the rule for mixed directions. -/
def fitsDirections (label : List Char) : Bool :=
  let directions := label.map direction
  match directions with
  | [] => true
  | .leftToRight :: _ => fitsLeftToRight directions
  | .rightToLeft :: _ => fitsRightToLeft directions
  | _ => false

/-! ## Names -/

/-- The form of a name that it is asked for by; nothing if it is no domain name. -/
def ascii? (name : List Char) : Option (List Char) := do
  let name := mapped name
  if !name.all isSuited then none
  else
    let labels ← (pieces (· = '.') name).mapM readLabel?
    let mixed := labels.any (·.any isRightward)
    if labels.all isShowable && (!mixed || labels.all fitsDirections) then
      return joinWith ['.'] (← labels.mapM writeLabel?)
    else none

end RpcStubs.Domain

import RpcStubs.Text.Blank
import RpcStubs.Web.Percent

/-!
# Paths of addresses

A path is a list of segments. Those that consist of one dot stay in place, those of two dots go back
to the segment before, and neither is part of the path in the end. A segment that names a drive (a
letter and a colon or a bar, perhaps with a backslash and more after it) is never gone back from.
-/

namespace RpcStubs.AddressPath

def reserved : List Char :=
  [' ', '"', '<', '>', '\x60', '#', '?', '{', '}']

/-- A segment that stays in place. -/
def isSingleDot (segment : List Char) : Bool :=
  [".".toList, "%2e".toList].contains (segment.map Char.toLower)

/-- A segment that goes one up. -/
def isDoubleDot (segment : List Char) : Bool :=
  ["..".toList, ".%2e".toList, "%2e.".toList, "%2e%2e".toList].contains (segment.map Char.toLower)

/-- The name of a drive. -/
def isDrive : List Char → Bool
  | [c, mark] => c.isAlpha && (mark = ':' || mark = '|')
  | _ => false

/-- The segments, in reverse, that are left after going one up. -/
def goUp : List (List Char) → List (List Char)
  | [] => []
  | last :: above => if isDrive (last.takeWhile (· ≠ '\\')) then last :: above else above

/-- A segment after those before it. The drive that a path of a file begins with has a colon. -/
def withColon (isFile : Bool) (before : List (List Char)) (segment : List Char) : List Char :=
  if isFile && before.isEmpty && isDrive segment then segment.take 1 ++ [':'] else segment

/-- Adds segments to those before them, which come in reverse, and follows the dots. A dot segment
at the end leaves an empty one behind. -/
def followDots (isFile : Bool) (before : List (List Char)) : List (List Char) → List (List Char)
  | [] => before.reverse
  | segment :: rest =>
    let moved :=
      if isDoubleDot segment then goUp before
      else if isSingleDot segment then before
      else withColon isFile before segment :: before
    let dots := isDoubleDot segment || isSingleDot segment
    followDots isFile (if dots && rest.isEmpty then [] :: moved else moved) rest

/-- Segments without the empty ones at the beginning, apart from the last segment. -/
def withoutLeadingEmpty : List (List Char) → List (List Char)
  | [] :: next :: rest => withoutLeadingEmpty (next :: rest)
  | segments => segments

def text (segments : List (List Char)) : List Char :=
  segments.flatMap fun (segment : List Char) => '/' :: Percent.encode reserved segment

end RpcStubs.AddressPath

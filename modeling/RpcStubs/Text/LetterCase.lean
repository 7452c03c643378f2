import RpcStubs.Text.CaseMapping
import RpcStubs.Text.Casing

/-!
# Lower case of a whole text

Every character goes to its own lower case, except the capital sigma: it becomes the final form `ς`
when it ends a word, that is, when the nearest character before it that casing does not look through
is a cased letter and the nearest one after it is not.
-/

namespace RpcStubs.Text

/-- Whether the first character that casing does not look through is a cased letter. -/
def meetsCased (cs : List Char) : Bool :=
  match cs.dropWhile isCaseIgnorable with
  | [] => false
  | c :: _ => isCased c

/-- The lower case of `c` between the reversed text `before` and the text `after`. -/
def lowerCharIn (before : List Char) (c : Char) (after : List Char) : List Char :=
  if c = 'Σ' then
    if meetsCased before && !meetsCased after then ['ς'] else ['σ']
  else
    lowerChar c

/-- The lower case of a text that follows the reversed text `before`. -/
def lowercaseAfter (before : List Char) : List Char → List Char
  | [] => []
  | c :: rest => lowerCharIn before c rest ++ lowercaseAfter (c :: before) rest

def lowercase (cs : List Char) : List Char :=
  lowercaseAfter [] cs

end RpcStubs.Text

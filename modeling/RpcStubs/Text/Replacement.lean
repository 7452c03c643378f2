/-!
# Replacing parts of a text

Every occurrence of a text is replaced by another one, from the left and without overlaps.
-/

namespace RpcStubs.Text

/-- A text with every occurrence of `old` replaced, after as many characters as are still part of
the last occurrence. -/
def replaceAfter (old new : List Char) : (skipped : Nat) → List Char → List Char
  | _, [] => []
  | skipped + 1, _ :: rest => replaceAfter old new skipped rest
  | 0, c :: rest =>
    if old.isPrefixOf (c :: rest) then new ++ replaceAfter old new (old.length - 1) rest
    else c :: replaceAfter old new 0 rest

/-- A text with every occurrence of `old` replaced by `new`. -/
def replaceAll (old new : List Char) (text : List Char) : List Char :=
  replaceAfter old new 0 text

end RpcStubs.Text

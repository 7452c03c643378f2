/-!
# The size of a text

Places in a text are counted in bytes of its UTF-8 form.
-/

namespace RpcStubs.Text

/-- The number of bytes of a text in UTF-8. -/
def byteLength (cs : List Char) : Nat :=
  cs.foldr (fun (c : Char) (n : Nat) => c.utf8Size + n) 0

@[simp]
theorem byteLength_nil : byteLength [] = 0 :=
  rfl

@[simp]
theorem byteLength_cons (c : Char) (cs : List Char) :
    byteLength (c :: cs) = c.utf8Size + byteLength cs :=
  rfl

@[simp]
theorem byteLength_append (as bs : List Char) :
    byteLength (as ++ bs) = byteLength as + byteLength bs := by
  induction as with
  | nil => simp
  | cons c rest ih => simp [ih, Nat.add_assoc]

end RpcStubs.Text

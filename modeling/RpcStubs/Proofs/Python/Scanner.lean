import RpcStubs.Proofs.Python.Machine

/-! # Strings in Python source

A machine that reads Python source one character at a time and tells its code from its strings.  In
code a number sign begins a comment, three double quotes begin a triple-quoted string, and any other
double quote begins a string on one line.  Within a string a backslash takes the next character with
it.  A string on one line may not have a line end in it.

The machine knows nothing about the rest of the language, so what it finds does not depend on what
the code means.
-/

namespace RpcStubs.Python

inductive Quoting where
  | line
  | triple
  deriving DecidableEq, Repr

/-- What source text consists of once comments are left out: characters of code, and strings as they
are written between their quotes. -/
inductive Symbol where
  | code (c : Char)
  | string (quoting : Quoting) (body : List Char)
  deriving DecidableEq, Repr

/-- Where the machine stands.  Quotes that may still turn out to end a triple-quoted string are
counted, and only join its body when they do not. -/
inductive Mode where
  | code
  | comment
  | quote
  | twoQuotes
  | line (body : List Char)
  | lineEscape (body : List Char)
  | triple (body : List Char) (quotes : Nat)
  | tripleEscape (body : List Char)
  deriving DecidableEq, Repr

/-! ## The machine -/

def codeStep (c : Char) : List Symbol × Mode :=
  if c = '#' then ([], .comment)
  else if c = '"' then ([], .quote)
  else ([.code c], .code)

def lineStep (body : List Char) (c : Char) : Option (List Symbol × Mode) :=
  if c = '"' then some ([.string .line body], .code)
  else if c = '\\' then some ([], .lineEscape body)
  else if c = '\n' then none
  else some ([], .line (body ++ [c]))

def tripleStep (body : List Char) (quotes : Nat) (c : Char) : List Symbol × Mode :=
  if c = '"' then
    if quotes = 2 then ([.string .triple body], .code) else ([], .triple body (quotes + 1))
  -- quotes that were held back are part of the body after all
  else if c = '\\' then ([], .tripleEscape (body ++ List.replicate quotes '"'))
  else ([], .triple (body ++ List.replicate quotes '"' ++ [c]) 0)

/-- One character: what it completes, and where the machine stands after it. -/
def step : Machine Mode Char Symbol
  | .code, c => some (codeStep c)
  | .comment, c => some (if c = '\n' then ([.code c], .code) else ([], .comment))
  | .quote, c => if c = '"' then some ([], .twoQuotes) else lineStep [] c
  | .twoQuotes, c =>
    if c = '"' then some ([], .triple [] 0)
    -- two quotes were an empty string, and `c` is code behind it
    else some (.string .line [] :: (codeStep c).1, (codeStep c).2)
  | .line body, c => lineStep body c
  | .lineEscape body, c => some ([], .line (body ++ ['\\', c]))
  | .triple body quotes, c => some (tripleStep body quotes c)
  | .tripleEscape body, c => some ([], .triple (body ++ ['\\', c]) 0)

/-- The machine gets from one mode to another over a text, and finds the given symbols in it. -/
abbrev Scans (mode : Mode) (text : List Char) (symbols : List Symbol) (last : Mode) : Prop :=
  Machine.Runs step mode text symbols last

namespace Scans

open Machine.Runs

/-! ## Code -/

theorem code {text : List Char} (plain : ∀ c ∈ text, c ≠ '#' ∧ c ≠ '"') :
    Scans .code text (text.map .code) .code := by
  induction text with
  | nil => exact nil _
  | cons c rest inductionHypothesis =>
    have here := plain c (by simp)
    have stepped : step .code c = some ([.code c], .code) := by simp [step, codeStep, here]
    exact cons stepped (inductionHypothesis fun d member => plain d (by simp [member]))

/-- A comment is left out, but the end of its line is code. -/
theorem comment {text : List Char} (oneLine : '\n' ∉ text) :
    Scans .code ('#' :: text ++ ['\n']) [.code '\n'] .code := by
  have opened : step .code '#' = some ([], .comment) := rfl
  refine skip opened ?_
  induction text with
  | nil => rfl
  | cons c rest inductionHypothesis =>
    rw [List.mem_cons, not_or] at oneLine
    have stepped : step .comment c = some ([], .comment) := by simp [step, Ne.symm oneLine.1]
    exact skip stepped (inductionHypothesis oneLine.2)

end Scans

end RpcStubs.Python

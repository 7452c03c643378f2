import RpcStubs.Proofs.Python.Program
import Mathlib.Data.List.Forall2

/-! # Evaluation

What the programs of `RpcStubs.Proofs.Python.Program` do.  A name is looked up the way Python does:
the parameters of a function and the names that it binds anywhere are its own, every other name is one
of the module, and only then one of those that are built in.  What a module binds again it overwrites,
and so does a function.  Defaults are evaluated when their function is defined.

Nothing is known about imported objects, but that they can be called.  What comes of a call is up to
the *world*, and every call is recorded.  Where the meaning of a program depends on more than that,
evaluation is *stuck*.
-/

namespace RpcStubs.Python

variable {α ε β γ : Type}

/-! ## Values -/

/-- Values.  Those of `α` come from outside, with nothing known about them. -/
inductive Value (α : Type) where
  | nothing
  | foreign (a : α)
  | text (value : String)
  | number (value : Nat)
  | list (items : List (Value α))
  | dictionary (entries : List (String × Value α))
  | imported (path name : String)
  | builtin (name : String)
  /-- An error of a built-in kind. -/
  | exception (kind : String)
  | function (parameters : List (String × Option (Value α))) (body : List Statement)

/-- Names with their values, the newest first. -/
abbrev Frame (α : Type) : Type :=
  List (String × Value α)

/-- The call of an imported object. -/
structure Call (α : Type) where
  path : String
  name : String
  positional : List (Value α)
  keywords : List (String × Value α)

/-- What comes of calls: an error that is raised, or a value. -/
abbrev World (α : Type) : Type :=
  Call α → Except (Value α) (Value α)

/-! ## Runs -/

/-- What a piece of a program comes to, and the calls that it makes on the way. -/
structure Run (α ε β : Type) where
  result : Except ε β
  calls : List (Call α)

namespace Run

def stop (e : ε) : Run α ε β :=
  ⟨.error e, []⟩

def andThen (first : Run α ε β) (next : β → Run α ε γ) : Run α ε γ :=
  match first.result with
  | .error e => ⟨.error e, first.calls⟩
  | .ok b => ⟨(next b).result, first.calls ++ (next b).calls⟩

instance : Monad (Run α ε) where
  pure b := ⟨.ok b, []⟩
  bind := andThen

theorem bind_pure_eq (run : Run α ε β) : run.andThen pure = run := by
  obtain ⟨result, calls⟩ := run
  cases result with
  | error e => rfl
  | ok b => exact congrArg (Run.mk (.ok b)) (List.append_nil calls)

theorem bind_assoc_eq {δ : Type} (run : Run α ε β) (next : β → Run α ε γ) (last : γ → Run α ε δ) :
    (run.andThen next).andThen last = run.andThen fun b => (next b).andThen last := by
  obtain ⟨result, calls⟩ := run
  cases result with
  | error e => rfl
  | ok b =>
    -- only a second step that succeeds has a third one behind it
    change andThen ⟨(next b).result, calls ++ (next b).calls⟩ last =
      ⟨(andThen (next b) last).result, calls ++ (andThen (next b) last).calls⟩
    cases done : (next b).result with
    | error e => simp only [andThen, done]
    | ok c => simp only [andThen, done, List.append_assoc]

/-- Calls are recorded one after the other, however the pieces are put together. -/
instance : LawfulMonad (Run α ε) :=
  .mk' _ bind_pure_eq (fun _ _ => rfl) bind_assoc_eq

def mapError {δ : Type} (f : ε → δ) (run : Run α ε β) : Run α δ β :=
  ⟨run.result.mapError f, run.calls⟩

@[simp]
theorem stop_bind (e : ε) (next : β → Run α ε γ) : (stop e >>= next) = stop e :=
  rfl

theorem pure_inj {b b' : β} (same : (pure b : Run α ε β) = pure b') : b = b' :=
  Except.ok.inj (congrArg Run.result same)

theorem ok_bind (b : β) (calls : List (Call α)) (next : β → Run α ε γ) :
    ((⟨.ok b, calls⟩ : Run α ε β) >>= next) = ⟨(next b).result, calls ++ (next b).calls⟩ :=
  rfl

end Run

/-- Why the evaluation of an expression may come to no value. -/
inductive Halt (α : Type) where
  | raised (error : Value α)
  | stuck

def raiseError (kind : String) : Run α (Halt α) β :=
  .stop (.raised (.exception kind))

/-! ## Errors -/

/-- The kinds of error that a kind belongs to. -/
def kindsOf : String → List String
  | "KeyError" => ["KeyError", "LookupError", "Exception", "BaseException"]
  | "UnboundLocalError" => ["UnboundLocalError", "NameError", "Exception", "BaseException"]
  | kind => [kind, "Exception", "BaseException"]

/-- The built-in names: kinds of error. -/
def builtins : List String :=
  ["BaseException", "Exception", "KeyError", "LookupError", "NameError", "TypeError",
    "UnboundLocalError"]

/-- Whether an error is of a kind, as a handler asks.  Not everything is a kind of error. -/
def Value.matches : Value α → Value α → Run α (Halt α) Bool
  | .builtin name, .exception kind => pure ((kindsOf kind).contains name)
  -- what comes from outside may be of any kind, or be a kind itself
  | .builtin _, _ => .stop .stuck
  | .foreign _, _ => .stop .stuck
  | .imported _ _, _ => .stop .stuck
  | _, _ => raiseError "TypeError"

def Value.isRaisable : Value α → Bool
  | .foreign _ | .imported _ _ | .builtin _ | .exception _ => true
  | _ => false

/-! ## Expressions -/

/-- Where names are looked up: in a module, and within a function there. -/
structure Scope (α : Type) where
  globals : Frame α
  /-- The names that are the function's own. -/
  locals : List String
  frame : Frame α

def Scope.resolve (scope : Scope α) (name : String) : Run α (Halt α) (Value α) :=
  if name ∈ scope.locals then
    match scope.frame.lookup name with
    | some value => pure value
    | none => raiseError "UnboundLocalError"
  else
    match scope.globals.lookup name with
    | some value => pure value
    | none => if name ∈ builtins then pure (.builtin name) else raiseError "NameError"

namespace Scope

variable {scope : Scope α} {name : String} {value : Value α}

theorem resolve_local (own : name ∈ scope.locals) (bound : scope.frame.lookup name = some value) :
    scope.resolve name = pure value := by
  simp only [resolve, if_pos own, bound]

theorem resolve_global (free : name ∉ scope.locals) (bound : scope.globals.lookup name = some value) :
    scope.resolve name = pure value := by
  simp only [resolve, if_neg free, bound]

theorem resolve_builtin (free : name ∉ scope.locals) (unbound : scope.globals.lookup name = none)
    (known : name ∈ builtins) : scope.resolve name = pure (.builtin name) := by
  simp only [resolve, if_neg free, unbound, if_pos known]

end Scope

def Atom.eval (scope : Scope α) : Atom → Run α (Halt α) (Value α)
  | .name read => scope.resolve read
  | .text value => pure (.text value)
  | .number value => pure (.number value)

def evalKeywords (scope : Scope α) :
    List (String × Atom) → Run α (Halt α) (List (String × Value α))
  | [] => pure []
  | (keyword, atom) :: rest => do
    let value ← atom.eval scope
    let others ← evalKeywords scope rest
    pure ((keyword, value) :: others)

def evalAtoms (scope : Scope α) : List Atom → Run α (Halt α) (List (Value α))
  | [] => pure []
  | atom :: rest => do
    let value ← atom.eval scope
    let others ← evalAtoms scope rest
    pure (value :: others)

theorem evalAtoms_names {scope : Scope α} {names : List String} {values : List (Value α)}
    (bound : List.Forall₂ (fun name value => scope.resolve name = pure value) names values) :
    evalAtoms scope (names.map .name) = pure values := by
  induction bound with
  | nil => rfl
  | cons here _ inductionHypothesis =>
    simp only [List.map_cons, evalAtoms, Atom.eval, here, inductionHypothesis, pure_bind]

def Call.send (world : World α) (call : Call α) : Run α (Halt α) (Value α) :=
  ⟨(world call).mapError .raised, [call]⟩

theorem Call.send_of_ok {world : World α} {call : Call α} {value : Value α}
    (answer : world call = .ok value) : call.send world = ⟨.ok value, [call]⟩ := by
  rw [Call.send, answer]
  rfl

theorem Call.send_of_error {world : World α} {call : Call α} {error : Value α}
    (answer : world call = .error error) : call.send world = ⟨.error (.raised error), [call]⟩ := by
  rw [Call.send, answer]
  rfl

def Value.call (world : World α) (positional : List (Value α)) (keywords : List (String × Value α)) :
    Value α → Run α (Halt α) (Value α)
  | .imported path name => Call.send world ⟨path, name, positional, keywords⟩
  | .foreign _ | .builtin _ | .function _ _ => .stop .stuck
  | _ => raiseError "TypeError"

def Value.entry : Value α → Value α → Run α (Halt α) (Value α)
  | .dictionary entries, .text key =>
    match entries.lookup key with
    | some value => pure value
    | none => raiseError "KeyError"
  -- none of these has entries under texts
  | .nothing, .text _ | .text _, .text _ | .number _, .text _ | .list _, .text _ =>
    raiseError "TypeError"
  | _, _ => .stop .stuck

def Expression.eval (world : World α) (scope : Scope α) :
    Expression → Run α (Halt α) (Value α)
  | .atom value => value.eval scope
  | .list items => do
    let values ← evalAtoms scope items
    pure (.list values)
  | .call function positional keywords => do
    let callee ← scope.resolve function
    let positional ← evalAtoms scope positional
    let keywords ← evalKeywords scope keywords
    callee.call world positional keywords
  | .entry container key => do
    let container ← container.eval scope
    let key ← key.eval scope
    container.entry key

/-! ## Statements -/

/-- Why a statement may not be followed by the next.  An error leaves the function's names behind for a
handler. -/
inductive Interrupt (α : Type) where
  | returned (value : Value α)
  | raised (error : Value α) (frame : Frame α)
  | stuck

def Run.within (frame : Frame α) (run : Run α (Halt α) β) : Run α (Interrupt α) β :=
  run.mapError fun
    | .raised error => .raised error frame
    | .stuck => .stuck

@[simp]
theorem Run.within_pure (frame : Frame α) (b : β) : (pure b : Run α (Halt α) β).within frame = pure b :=
  rfl

@[simp]
theorem Run.within_ok (frame : Frame α) (b : β) (calls : List (Call α)) :
    (⟨.ok b, calls⟩ : Run α (Halt α) β).within frame = ⟨.ok b, calls⟩ :=
  rfl

@[simp]
theorem Run.within_raiseError (frame : Frame α) (kind : String) :
    (raiseError kind : Run α (Halt α) β).within frame = .stop (.raised (.exception kind) frame) :=
  rfl

def Simple.exec (world : World α) (globals : Frame α) (locals : List String) (frame : Frame α) :
    Simple → Run α (Interrupt α) (Frame α)
  | .docstring => pure frame
  | .assign target expression => do
    let value ← (expression.eval world ⟨globals, locals, frame⟩).within frame
    pure ((target, value) :: frame)
  -- a value that is returned leaves the body, as an error does
  | .return expression => do
    let value ← (expression.eval world ⟨globals, locals, frame⟩).within frame
    .stop (.returned value)
  | .raise error cause => do
    let error ← (error.eval world ⟨globals, locals, frame⟩).within frame
    let cause ← (cause.eval world ⟨globals, locals, frame⟩).within frame
    -- the cause only goes along with the error, but it has to be one too
    if error.isRaisable && cause.isRaisable then .stop (.raised error frame)
    else (raiseError "TypeError").within frame

def execAll (world : World α) (globals : Frame α) (locals : List String) :
    Frame α → List Simple → Run α (Interrupt α) (Frame α)
  | frame, [] => pure frame
  | frame, statement :: rest => do
    let frame ← statement.exec world globals locals frame
    execAll world globals locals frame rest

/-- A handler runs if an error was raised, after everything that was done before. -/
def Run.recover (attempt : Run α (Interrupt α) (Frame α))
    (handler : Value α → Frame α → Run α (Interrupt α) (Frame α)) : Run α (Interrupt α) (Frame α) :=
  match attempt.result with
  -- the calls of the attempt have been made all the same
  | .error (.raised error frame) =>
    ⟨(handler error frame).result, attempt.calls ++ (handler error frame).calls⟩
  | _ => attempt

/-- A handler is asked whether it is for an error.  The name that it binds the error to is gone at its
end. -/
def Statement.exec (world : World α) (globals : Frame α) (locals : List String) (frame : Frame α) :
    Statement → Run α (Interrupt α) (Frame α)
  | .simple statement => statement.exec world globals locals frame
  | .tryExcept tried caught bound handler =>
    (execAll world globals locals frame tried).recover fun error frame => do
      let kind ← (Scope.resolve ⟨globals, locals, frame⟩ caught).within frame
      if ← (kind.matches error).within frame then
        let frame ← execAll world globals locals ((bound, error) :: frame) handler
        pure (frame.filter (·.1 ≠ bound))
      else .stop (.raised error frame)

def execBody (world : World α) (globals : Frame α) (locals : List String) :
    Frame α → List Statement → Run α (Interrupt α) (Frame α)
  | frame, [] => pure frame
  | frame, statement :: rest => do
    let frame ← statement.exec world globals locals frame
    execBody world globals locals frame rest

section Steps

variable {world : World α} {globals frame : Frame α} {locals : List String}

theorem Simple.exec_assign {target : String} {expression : Expression} {value : Value α}
    (evaluated : expression.eval world ⟨globals, locals, frame⟩ = pure value) :
    (Simple.assign target expression).exec world globals locals frame =
      pure ((target, value) :: frame) := by
  simp only [Simple.exec, evaluated, Run.within_pure, pure_bind]

theorem execBody_cons {statement : Statement} {frame' : Frame α}
    (done : statement.exec world globals locals frame = pure frame') (rest : List Statement) :
    execBody world globals locals frame (statement :: rest) =
      execBody world globals locals frame' rest := by
  rw [execBody, done, pure_bind]

theorem Statement.exec_returned {tried : List Simple} {value : Value α}
    (attempt : execAll world globals locals frame tried = .stop (.returned value))
    (caught bound : String) (handler : List Simple) :
    (Statement.tryExcept tried caught bound handler).exec world globals locals frame =
      .stop (.returned value) := by
  rw [Statement.exec, attempt]
  rfl

/-- What is raised goes to the handler if it is of the kind that the handler's name stands for there
and then. -/
theorem Statement.exec_raised {tried : List Simple} {error kind : Value α} {frame' : Frame α}
    {caught : String}
    (attempt : execAll world globals locals frame tried = .stop (.raised error frame'))
    (resolved : Scope.resolve ⟨globals, locals, frame'⟩ caught = pure kind) (bound : String)
    (handler : List Simple) :
    (Statement.tryExcept tried caught bound handler).exec world globals locals frame =
      (kind.matches error).within frame' >>= fun isOfKind =>
        if isOfKind then
          execAll world globals locals ((bound, error) :: frame') handler >>= fun frame =>
            pure (frame.filter (·.1 ≠ bound))
        else .stop (.raised error frame') := by
  rw [Statement.exec, attempt]
  simp only [Run.recover, Run.stop, resolved, Run.within_pure, pure_bind, List.nil_append]

end Steps

/-! ## Functions -/

def Simple.targets : Simple → List String
  | .assign target _ => [target]
  | _ => []

def Statement.targets : Statement → List String
  | .simple statement => statement.targets
  | .tryExcept tried _ bound handler =>
    tried.flatMap Simple.targets ++ bound :: handler.flatMap Simple.targets

def localNames (parameters : List (String × Option (Value α))) (body : List Statement) : List String :=
  parameters.map (·.1) ++ body.flatMap Statement.targets

/-- Parameters get the arguments in their places, then those with their keywords, then their
defaults. -/
def bindParameters (keywords : List (String × Value α)) :
    Frame α → List (String × Option (Value α)) → List (Value α) → Option (Frame α)
  | frame, [], [] => some frame
  | _, [], _ :: _ => none
  | frame, (name, _) :: others, value :: rest =>
    -- given in its place and by keyword
    if (keywords.lookup name).isSome then none
    else bindParameters keywords ((name, value) :: frame) others rest
  | frame, (name, default) :: others, [] =>
    match (keywords.lookup name).or default with
    | some value => bindParameters keywords ((name, value) :: frame) others []
    | none => none

/-- A keyword is given once, and for a parameter. -/
def KeywordsFit (parameters : List (String × Option (Value α))) (keywords : List (String × Value α)) :
    Prop :=
  (keywords.map (·.1)).Nodup ∧ ∀ keyword ∈ keywords.map (·.1), keyword ∈ parameters.map (·.1)

instance (parameters : List (String × Option (Value α))) (keywords : List (String × Value α)) :
    Decidable (KeywordsFit parameters keywords) :=
  inferInstanceAs (Decidable (_ ∧ _))

def Run.finish (run : Run α (Interrupt α) (Frame α)) : Run α (Halt α) (Value α) :=
  match run.result with
  | .ok _ => ⟨.ok .nothing, run.calls⟩
  | .error (.returned value) => ⟨.ok value, run.calls⟩
  | .error (.raised error _) => ⟨.error (.raised error), run.calls⟩
  | .error .stuck => ⟨.error .stuck, run.calls⟩

/-- A function of the module is called from outside. -/
def Value.apply (world : World α) (globals : Frame α) (positional : List (Value α))
    (keywords : List (String × Value α)) : Value α → Run α (Halt α) (Value α)
  | .function parameters body =>
    if KeywordsFit parameters keywords then
      match bindParameters keywords [] parameters positional with
      | some frame => (execBody world globals (localNames parameters body) frame body).finish
      | none => raiseError "TypeError"
    else raiseError "TypeError"
  | _ => .stop .stuck

/-! ## Modules -/

/-- Defaults are evaluated in the module, as it is so far. -/
def evalParameters (globals : Frame α) :
    List (String × Option Atom) → Except (Halt α) (List (String × Option (Value α)))
  | [] => .ok []
  | (name, none) :: rest => do
    let others ← evalParameters globals rest
    .ok ((name, none) :: others)
  | (name, some atom) :: rest => do
    let value ← (atom.eval ⟨globals, [], []⟩).result
    let others ← evalParameters globals rest
    .ok ((name, some value) :: others)

def Item.exec (globals : Frame α) : Item → Except (Halt α) (Frame α)
  -- names are bound in the order of the import, so the last of two is the newest
  | .importFrom path names =>
    .ok (names.foldl (fun globals name => (name, .imported path name) :: globals) globals)
  | .assign target atom => do
    let value ← (atom.eval ⟨globals, [], []⟩).result
    .ok ((target, value) :: globals)
  | .define definition => do
    let parameters ← evalParameters globals definition.parameters
    .ok ((definition.name, .function parameters definition.body) :: globals)

/-- The names that a module binds, with their values at its end. -/
def globalsFrom : Frame α → List Item → Except (Halt α) (Frame α)
  | globals, [] => .ok globals
  | globals, item :: rest => do
    let globals ← item.exec globals
    globalsFrom globals rest

theorem globalsFrom_append {globals middle : Frame α} {items : List Item}
    (first : globalsFrom globals items = .ok middle) (rest : List Item) :
    globalsFrom globals (items ++ rest) = globalsFrom middle rest := by
  induction items generalizing globals with
  | nil =>
    cases first
    rfl
  | cons item others inductionHypothesis =>
    rw [globalsFrom] at first
    rw [List.cons_append, globalsFrom]
    cases done : item.exec globals with
    | error halt =>
      rw [done] at first
      cases first
    | ok next =>
      rw [done] at first
      exact inductionHypothesis first

def moduleOf? (text : String) : Option (Frame α) :=
  match program? text.toList with
  | none => none
  | some program =>
    match globalsFrom [] program with
    | .ok globals => some globals
    | .error _ => none

def callFunction (world : World α) (text function : String) (positional : List (Value α))
    (keywords : List (String × Value α)) : Run α (Halt α) (Value α) :=
  match moduleOf? text with
  | none => .stop .stuck
  | some globals =>
    match globals.lookup function with
    | none => .stop .stuck
    | some value => value.apply world globals positional keywords

structure IsFunction (text name : String) (globals : Frame α)
    (parameters : List (String × Option (Value α))) (body : List Statement) : Prop where
  module : moduleOf? text = some globals
  bound : globals.lookup name = some (.function parameters body)

namespace IsFunction

variable {text name : String} {globals : Frame α} {parameters : List (String × Option (Value α))}
  {body : List Statement}

theorem callFunction_eq (isFunction : IsFunction text name globals parameters body) (world : World α)
    (positional : List (Value α)) (keywords : List (String × Value α)) :
    callFunction world text name positional keywords =
      (Value.function parameters body).apply world globals positional keywords := by
  simp only [callFunction, isFunction.module, isFunction.bound]

theorem unique (isFunction : IsFunction text name globals parameters body) {globals' : Frame α}
    {parameters' : List (String × Option (Value α))} {body' : List Statement}
    (other : IsFunction text name globals' parameters' body') :
    globals = globals' ∧ parameters = parameters' ∧ body = body' := by
  -- a text makes one module, and a name stands for one value in it
  obtain rfl : globals = globals' := Option.some.inj (isFunction.module.symm.trans other.module)
  have same := Option.some.inj (isFunction.bound.symm.trans other.bound)
  cases same
  exact ⟨rfl, rfl, rfl⟩

end IsFunction

/-- In a function of a module a name stands for a value, whatever the names of the function itself are
bound to. -/
def StandsFor (text function name : String) (value : Value α) : Prop :=
  ∃ globals parameters body, IsFunction text function globals parameters body ∧
    ∀ frame, Scope.resolve ⟨globals, localNames parameters body, frame⟩ name = pure value

theorem IsFunction.standsFor_iff {text function name : String} {globals : Frame α}
    {parameters : List (String × Option (Value α))} {body : List Statement} {value : Value α}
    (isFunction : IsFunction text function globals parameters body) :
    StandsFor text function name value ↔
      ∀ frame, Scope.resolve ⟨globals, localNames parameters body, frame⟩ name = pure value := by
  constructor
  · rintro ⟨globals', parameters', body', other, resolved⟩
    obtain ⟨rfl, rfl, rfl⟩ := isFunction.unique other
    exact resolved
  · exact fun resolved => ⟨globals, parameters, body, isFunction, resolved⟩

end RpcStubs.Python

import RpcStubs.Proofs.Python.Evaluation

/-! # What a function calls

Looking up names, reading entries of dictionaries and asking for the kind of an error are no calls.  So
a function calls nothing but what the names that it calls stand for, and when these are not its own, the
module alone says which imported objects they are: whatever the arguments, and whatever comes of the
calls.
-/

namespace RpcStubs.Python

variable {α ε β γ : Type} {p : Call α → Prop}

/-! ## Runs -/

/-- Every call that a run makes is as the predicate says. -/
def Run.CallsOnly (p : Call α → Prop) (run : Run α ε β) : Prop :=
  ∀ call ∈ run.calls, p call

namespace Run.CallsOnly

theorem of_nil {run : Run α ε β} (none : run.calls = []) : run.CallsOnly p := by
  intro call member
  simp [none] at member

theorem bind {first : Run α ε β} {next : β → Run α ε γ} (before : first.CallsOnly p)
    (behind : ∀ b, (next b).CallsOnly p) : (first >>= next).CallsOnly p := by
  obtain ⟨result, calls⟩ := first
  cases result with
  | error e => exact before
  | ok b =>
    intro call member
    rcases List.mem_append.1 member with member | member
    · exact before call member
    · exact behind b call member

theorem recover {attempt : Run α (Interrupt α) (Frame α)}
    {handler : Value α → Frame α → Run α (Interrupt α) (Frame α)} (before : attempt.CallsOnly p)
    (behind : ∀ error frame, (handler error frame).CallsOnly p) :
    (attempt.recover handler).CallsOnly p := by
  unfold Run.recover
  split
  · intro call member
    rcases List.mem_append.1 member with member | member
    · exact before call member
    · exact behind _ _ call member
  · exact before

end Run.CallsOnly

/-- Where an imported object is called first, that call is recorded before all others. -/
theorem Call.send_bind_calls (world : World α) (frame : Frame α) (call : Call α)
    {next : Value α → Run α (Interrupt α) β} (behind : ∀ value, (next value).CallsOnly p) :
    ∃ after, ((call.send world).within frame >>= next).calls = call :: after ∧
      ∀ other ∈ after, p other := by
  cases answer : world call with
  | error error =>
    rw [Call.send_of_error answer]
    exact ⟨[], rfl, by simp⟩
  | ok value =>
    rw [Call.send_of_ok answer]
    exact ⟨(next value).calls, rfl, behind value⟩

@[simp]
theorem Run.finish_calls (run : Run α (Interrupt α) (Frame α)) : run.finish.calls = run.calls := by
  unfold Run.finish
  split <;> rfl

/-! ## What calls nothing -/

theorem Scope.resolve_callsOnly (scope : Scope α) (name : String) :
    (scope.resolve name).CallsOnly p := by
  refine .of_nil ?_
  unfold Scope.resolve
  split
  · split <;> rfl
  · split
    · rfl
    · split <;> rfl

theorem Atom.eval_callsOnly (scope : Scope α) (atom : Atom) : (atom.eval scope).CallsOnly p := by
  cases atom with
  | name read => exact scope.resolve_callsOnly read
  | text value => exact .of_nil rfl
  | number value => exact .of_nil rfl

theorem evalAtoms_callsOnly (scope : Scope α) (atoms : List Atom) :
    (evalAtoms scope atoms).CallsOnly p := by
  induction atoms with
  | nil => exact .of_nil rfl
  | cons atom rest inductionHypothesis =>
    exact (atom.eval_callsOnly scope).bind fun _ => inductionHypothesis.bind fun _ => .of_nil rfl

theorem evalKeywords_callsOnly (scope : Scope α) (keywords : List (String × Atom)) :
    (evalKeywords scope keywords).CallsOnly p := by
  induction keywords with
  | nil => exact .of_nil rfl
  | cons keyword rest inductionHypothesis =>
    exact (keyword.2.eval_callsOnly scope).bind fun _ => inductionHypothesis.bind fun _ => .of_nil rfl

theorem Value.entry_callsOnly (container key : Value α) : (container.entry key).CallsOnly p := by
  refine .of_nil ?_
  unfold Value.entry
  split
  · split <;> rfl
  all_goals rfl

theorem Value.matches_callsOnly (kind error : Value α) : (kind.matches error).CallsOnly p := by
  refine .of_nil ?_
  unfold Value.matches
  split <;> rfl

/-! ## What the names that are called stand for -/

/-- The names that an expression calls. -/
def Expression.callees : Expression → List String
  | .call function _ _ => [function]
  | .atom _ | .list _ | .entry _ _ => []

def Simple.callees : Simple → List String
  | .docstring => []
  | .assign _ expression | .return expression => expression.callees
  | .raise error cause => error.callees ++ cause.callees

def Statement.callees : Statement → List String
  | .simple statement => statement.callees
  | .tryExcept tried _ _ handler =>
    tried.flatMap Simple.callees ++ handler.flatMap Simple.callees

/-- A name that stands for an imported object, all calls of which are as the predicate says. -/
def CallsAs (p : Call α → Prop) (globals : Frame α) (locals : List String) (name : String) : Prop :=
  name ∉ locals ∧ ∃ path imported, globals.lookup name = some (.imported path imported) ∧
    ∀ positional keywords, p ⟨path, imported, positional, keywords⟩

section Statements

variable {world : World α} {globals : Frame α} {locals : List String} {frame : Frame α}

theorem Expression.eval_callsOnly {expression : Expression}
    (callees : ∀ name ∈ expression.callees, CallsAs p globals locals name) :
    (expression.eval world ⟨globals, locals, frame⟩).CallsOnly p := by
  cases expression with
  | atom value => exact value.eval_callsOnly _
  | list items => exact (evalAtoms_callsOnly _ items).bind fun _ => .of_nil rfl
  | call function positional keywords =>
    obtain ⟨free, path, imported, bound, allowed⟩ := callees function (by simp [Expression.callees])
    rw [Expression.eval, Scope.resolve_global free bound, pure_bind]
    refine (evalAtoms_callsOnly _ positional).bind fun values => ?_
    refine (evalKeywords_callsOnly _ keywords).bind fun named => ?_
    intro call member
    obtain rfl : call = ⟨path, imported, values, named⟩ := List.mem_singleton.1 member
    exact allowed values named
  | entry container key =>
    exact (container.eval_callsOnly _).bind fun _ =>
      (key.eval_callsOnly _).bind fun _ => Value.entry_callsOnly _ _

theorem Simple.exec_callsOnly {statement : Simple}
    (callees : ∀ name ∈ statement.callees, CallsAs p globals locals name) :
    (statement.exec world globals locals frame).CallsOnly p := by
  cases statement with
  | docstring => exact .of_nil rfl
  | assign target expression =>
    have evaluated : ((expression.eval world ⟨globals, locals, frame⟩).within frame).CallsOnly p :=
      Expression.eval_callsOnly callees
    exact evaluated.bind fun _ => .of_nil rfl
  | «return» expression =>
    have evaluated : ((expression.eval world ⟨globals, locals, frame⟩).within frame).CallsOnly p :=
      Expression.eval_callsOnly callees
    exact evaluated.bind fun _ => .of_nil rfl
  | raise error cause =>
    have raised : ((error.eval world ⟨globals, locals, frame⟩).within frame).CallsOnly p :=
      Expression.eval_callsOnly fun name member => callees name (List.mem_append_left _ member)
    have caused : ((cause.eval world ⟨globals, locals, frame⟩).within frame).CallsOnly p :=
      Expression.eval_callsOnly fun name member => callees name (List.mem_append_right _ member)
    refine raised.bind fun _ => caused.bind fun _ => ?_
    split <;> exact .of_nil rfl

theorem execAll_callsOnly {statements : List Simple}
    (callees : ∀ name ∈ statements.flatMap Simple.callees, CallsAs p globals locals name)
    (frame : Frame α) : (execAll world globals locals frame statements).CallsOnly p := by
  induction statements generalizing frame with
  | nil => exact .of_nil rfl
  | cons statement rest inductionHypothesis =>
    rw [List.flatMap_cons] at callees
    have here : (statement.exec world globals locals frame).CallsOnly p :=
      Simple.exec_callsOnly fun name member => callees name (List.mem_append_left _ member)
    exact here.bind fun _ =>
      inductionHypothesis (fun name member => callees name (List.mem_append_right _ member)) _

/-- A statement calls nothing but what the names that it calls stand for. -/
theorem Statement.exec_callsOnly {statement : Statement}
    (callees : ∀ name ∈ statement.callees, CallsAs p globals locals name) :
    (statement.exec world globals locals frame).CallsOnly p := by
  cases statement with
  | simple statement => exact Simple.exec_callsOnly callees
  | tryExcept tried caught bound handler =>
    have attempt : (execAll world globals locals frame tried).CallsOnly p :=
      execAll_callsOnly (fun name member => callees name (List.mem_append_left _ member)) frame
    have handled : ∀ frame, (execAll world globals locals frame handler).CallsOnly p :=
      execAll_callsOnly fun name member => callees name (List.mem_append_right _ member)
    -- whatever frame an error leaves behind, the callees are not looked up there
    refine attempt.recover fun error frame => ?_
    have kind : ((Scope.resolve ⟨globals, locals, frame⟩ caught).within frame).CallsOnly p :=
      Scope.resolve_callsOnly _ _
    refine kind.bind fun kind => ?_
    have asked : ((kind.matches error).within frame).CallsOnly p := Value.matches_callsOnly _ _
    refine asked.bind fun answer => ?_
    split
    · exact (handled _).bind fun _ => .of_nil rfl
    · exact .of_nil rfl

end Statements

end RpcStubs.Python

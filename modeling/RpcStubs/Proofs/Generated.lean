import RpcStubs.Module
import RpcStubs.Proofs.Names.Check

/-! # What a generated module is made of

Generation passes over the methods three times: it builds all stubs, checks all of them and prints
all of them.  Here the passes are taken apart once and for all.  `generate_eq_ok_iff` gives the text
of a generated module as that of its stubs, whose headings are those of the methods.
-/

namespace RpcStubs

/-! ## Settings -/

theorem Settings.check_eq_ok_iff {settings : Settings} :
    settings.check = .ok () ↔
      ModulePath settings.transportModule ∧ ModulePath settings.exceptionsModule := by
  unfold Settings.check
  rw [← isModulePath_iff, ← isModulePath_iff]
  cases isModulePath settings.transportModule <;>
    cases isModulePath settings.exceptionsModule <;> simp

theorem Settings.check_eq_error_iff {settings : Settings} {failure : Failure} :
    settings.check = .error failure ↔
      (¬ ModulePath settings.transportModule ∧
        failure = .settings (.badTransportModule settings.transportModule)) ∨
      (ModulePath settings.transportModule ∧ ¬ ModulePath settings.exceptionsModule ∧
        failure = .settings (.badExceptionsModule settings.exceptionsModule)) := by
  unfold Settings.check
  rw [← isModulePath_iff, ← isModulePath_iff]
  cases isModulePath settings.transportModule <;>
    cases isModulePath settings.exceptionsModule <;> simp [eq_comm]

/-! ## Stubs of methods -/

namespace Stub

variable {snakeCase : Bool} {method : Schema.Method}

theorem heading_of_ofMethod {stub : Stub} (built : ofMethod snakeCase method = .ok stub) :
    stub.heading = method.heading snakeCase ∧ method.Complete := by
  unfold ofMethod at built
  split at built
  next => cases built
  next => cases built
  next params result hasParams hasResult =>
    cases built
    refine ⟨?_, ⟨params, hasParams⟩, result, hasResult⟩
    simp [heading, Schema.Method.heading, Schema.Method.parameterNames, hasParams]

/-- The parameters that a stub documents are those that its function has. -/
theorem documented_of_ofMethod {stub : Stub} (built : ofMethod snakeCase method = .ok stub) :
    stub.parameterDocs.map (·.name) = stub.parameters := by
  unfold ofMethod at built
  split at built
  next => cases built
  next => cases built
  next =>
    cases built
    simp

theorem parameterDocs_of_ofMethod {stub : Stub} (built : ofMethod snakeCase method = .ok stub) :
    stub.parameterDocs =
      (method.params.getD []).map fun parameter => ⟨parameter.name, parameter.typeText⟩ := by
  unfold ofMethod at built
  split at built
  next => cases built
  next => cases built
  next params result hasParams hasResult =>
    cases built
    rw [hasParams, Option.getD_some]

theorem result_of_ofMethod {stub : Stub} (built : ofMethod snakeCase method = .ok stub) :
    method.result = some ⟨stub.result⟩ := by
  unfold ofMethod at built
  split at built
  next => cases built
  next => cases built
  next hasResult =>
    cases built
    exact hasResult

theorem exists_ofMethod (snakeCase : Bool) (complete : method.Complete) :
    ∃ stub, ofMethod snakeCase method = .ok stub := by
  obtain ⟨⟨params, hasParams⟩, result, hasResult⟩ := complete
  unfold ofMethod
  rw [hasParams, hasResult]
  exact ⟨_, rfl⟩

/-- A stub cannot be built for want of parameters or, only then, of a result. -/
theorem ofMethod_eq_error_iff {failure : Failure} :
    ofMethod snakeCase method = .error failure ↔
      (method.params = none ∧ failure = .schemaShape method.name (.missing "params")) ∨
      ((∃ params, method.params = some params) ∧ method.result = none ∧
        failure = .schemaShape method.name (.missing "result")) := by
  unfold ofMethod
  cases method.params <;> cases method.result <;> simp [eq_comm]

theorem headings_of_mapM {methods : List Schema.Method} {stubs : List Stub}
    (built : methods.mapM (ofMethod snakeCase) = .ok stubs) :
    stubs.map heading = methods.map (·.heading snakeCase) ∧
      ∀ method ∈ methods, method.Complete := by
  rw [mapM_eq_ok_iff] at built
  induction built with
  | nil => simp
  | cons here _ inductionHypothesis =>
    obtain ⟨sameHeading, complete⟩ := heading_of_ofMethod here
    simp only [List.map_cons, sameHeading, inductionHypothesis.1, List.forall_mem_cons, true_and]
    exact ⟨complete, inductionHypothesis.2⟩

theorem exists_of_mem_mapM {methods : List Schema.Method} {stubs : List Stub} {stub : Stub}
    (built : methods.mapM (ofMethod snakeCase) = .ok stubs) (member : stub ∈ stubs) :
    ∃ method ∈ methods, ofMethod snakeCase method = .ok stub := by
  rw [mapM_eq_ok_iff] at built
  induction built with
  | nil => simp at member
  | cons here _ inductionHypothesis =>
    rcases List.mem_cons.1 member with rfl | member
    · exact ⟨_, by simp, here⟩
    · obtain ⟨method, among, ofMethod⟩ := inductionHypothesis member
      exact ⟨method, List.mem_cons_of_mem _ among, ofMethod⟩

theorem exists_mapM_ofMethod (snakeCase : Bool) {methods : List Schema.Method}
    (complete : ∀ method ∈ methods, method.Complete) :
    ∃ stubs, methods.mapM (ofMethod snakeCase) = .ok stubs := by
  cases built : methods.mapM (ofMethod snakeCase) with
  | ok stubs => exact ⟨stubs, rfl⟩
  | error failure =>
    -- some stub was not built, but the method it is for is complete
    obtain ⟨before, method, after, rfl, -, failed⟩ := mapM_eq_error_iff.1 built
    obtain ⟨stub, passed⟩ := exists_ofMethod snakeCase (complete method (by simp))
    rw [passed] at failed
    cases failed

end Stub

/-! ## Modules -/

namespace Module

variable {settings : Settings} {document : Schema.Document}

theorem stubs_eq_ok_iff {snakeCase : Bool} {stubs : List Stub} :
    Module.stubs snakeCase document = .ok stubs ↔
      document.methods.mapM (Stub.ofMethod snakeCase) = .ok stubs ∧
        Stub.checkAll stubs = .ok () := by
  simp only [Module.stubs, bind_eq_ok_iff, pure, Except.pure, Except.ok.injEq]
  constructor
  · rintro ⟨built, building, _, checking, rfl⟩
    exact ⟨building, checking⟩
  · rintro ⟨building, checking⟩
    exact ⟨stubs, building, (), checking, rfl⟩

theorem stubs_eq_error_iff {snakeCase : Bool} {failure : Failure} :
    Module.stubs snakeCase document = .error failure ↔
      document.methods.mapM (Stub.ofMethod snakeCase) = .error failure ∨
        ∃ stubs, document.methods.mapM (Stub.ofMethod snakeCase) = .ok stubs ∧
          Stub.checkAll stubs = .error failure := by
  simp [Module.stubs, bind_eq_error_iff, pure, Except.pure]

/-- A generated module is the text of stubs that have passed all checks. -/
theorem generate_eq_ok_iff {text : String} :
    generate settings document = .ok text ↔
      settings.check = .ok () ∧ ∃ stubs, Module.stubs settings.snakeCase document = .ok stubs ∧
        text = settings.preamble ++ String.join (stubs.map (Stub.text settings.docLink)) := by
  simp only [generate, ofDocument, bind_eq_ok_iff, pure, Except.pure, Except.ok.injEq,
    Module.text]
  constructor
  · rintro ⟨_, checking, _, ⟨stubs, found, rfl⟩, rfl⟩
    exact ⟨checking, stubs, found, rfl⟩
  · rintro ⟨checking, stubs, found, rfl⟩
    exact ⟨(), checking, _, ⟨stubs, found, rfl⟩, rfl⟩

/-- What is known of the stubs that a generated module is the text of. -/
theorem stubs_of_generate {text : String} (generated : generate settings document = .ok text) :
    ModulePath settings.transportModule ∧ ModulePath settings.exceptionsModule ∧
      Heading.Accepted (document.methods.map (·.heading settings.snakeCase)) ∧
      ∃ stubs : List Stub,
        stubs.map Stub.heading = document.methods.map (·.heading settings.snakeCase) ∧
        (∀ stub ∈ stubs, stub.parameterDocs.map (·.name) = stub.parameters) ∧
        text = settings.preamble ++ String.join (stubs.map (Stub.text settings.docLink)) := by
  obtain ⟨checked, stubs, passed, rfl⟩ := generate_eq_ok_iff.1 generated
  obtain ⟨transport, exceptions⟩ := Settings.check_eq_ok_iff.1 checked
  obtain ⟨built, accepted⟩ := stubs_eq_ok_iff.1 passed
  have sameHeadings := (Stub.headings_of_mapM built).1
  rw [Stub.checkAll_eq_ok_iff, sameHeadings] at accepted
  refine ⟨transport, exceptions, accepted, stubs, sameHeadings, ?_, rfl⟩
  intro stub member
  obtain ⟨method, -, ofMethod⟩ := Stub.exists_of_mem_mapM built member
  exact Stub.documented_of_ofMethod ofMethod

theorem accepted_of_generate {text : String} (generated : generate settings document = .ok text) :
    Heading.Accepted (document.methods.map (·.heading settings.snakeCase)) := by
  obtain ⟨-, -, accepted, -⟩ := stubs_of_generate generated
  exact accepted

theorem wellNamed_of_generate {text : String} (generated : generate settings document = .ok text)
    {method : Schema.Method} (member : method ∈ document.methods) :
    (method.heading settings.snakeCase).WellNamed :=
  (accepted_of_generate generated).wellNamed _ (List.mem_map_of_mem member)

theorem generate_eq_error_iff {failure : Failure} :
    generate settings document = .error failure ↔
      settings.check = .error failure ∨
        (settings.check = .ok () ∧
          Module.stubs settings.snakeCase document = .error failure) := by
  cases checked : settings.check <;>
    simp [generate, ofDocument, bind_eq_error_iff, pure, Except.pure, checked]

end Module

end RpcStubs

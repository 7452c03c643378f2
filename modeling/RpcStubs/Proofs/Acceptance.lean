import RpcStubs.Proofs.Generated

/-! # Which documents are accepted

Generation succeeds exactly on the documents that `Module.Accepted` describes, and fails as
`Module.Rejected` says: first for the settings, then for the first method that leaves something out,
and only after that for the first method whose names are not fit or not its own.

The order matters.  Stubs are built for all methods before one of them is checked, so a method late
in the document without a result is reported before a bad name early in it; but among the names, what
comes first in the document is reported first.
-/

namespace RpcStubs.Module

/-- A document of which a module can be generated. -/
structure Accepted (settings : Settings) (document : Schema.Document) : Prop where
  transport : ModulePath settings.transportModule
  exceptions : ModulePath settings.exceptionsModule
  complete : ∀ method ∈ document.methods, method.Complete
  headings : Heading.Accepted (document.methods.map (·.heading settings.snakeCase))

/-- Why no module can be generated: the failure that is reported. -/
inductive Rejected (settings : Settings) (document : Schema.Document) : Failure → Prop where
  | transport : ¬ ModulePath settings.transportModule →
      Rejected settings document (.settings (.badTransportModule settings.transportModule))
  | exceptions : ModulePath settings.transportModule → ¬ ModulePath settings.exceptionsModule →
      Rejected settings document (.settings (.badExceptionsModule settings.exceptionsModule))
  | params {before after : List Schema.Method} {method : Schema.Method} :
      ModulePath settings.transportModule → ModulePath settings.exceptionsModule →
      document.methods = before ++ method :: after → (∀ other ∈ before, other.Complete) →
      method.params = none →
      Rejected settings document (.schemaShape method.name (.missing "params"))
  | result {before after : List Schema.Method} {method : Schema.Method} :
      ModulePath settings.transportModule → ModulePath settings.exceptionsModule →
      document.methods = before ++ method :: after → (∀ other ∈ before, other.Complete) →
      (∃ params, method.params = some params) → method.result = none →
      Rejected settings document (.schemaShape method.name (.missing "result"))
  | headings {failure : Failure} :
      ModulePath settings.transportModule → ModulePath settings.exceptionsModule →
      (∀ method ∈ document.methods, method.Complete) →
      Heading.Rejected (document.methods.map (·.heading settings.snakeCase)) failure →
      Rejected settings document failure

variable {settings : Settings} {document : Schema.Document}

theorem stubs_eq_ok_of_accepted (complete : ∀ method ∈ document.methods, method.Complete)
    (accepted : Heading.Accepted (document.methods.map (·.heading settings.snakeCase))) :
    ∃ stubs, Module.stubs settings.snakeCase document = .ok stubs := by
  obtain ⟨stubs, built⟩ := Stub.exists_mapM_ofMethod settings.snakeCase complete
  refine ⟨stubs, stubs_eq_ok_iff.2 ⟨built, Stub.checkAll_eq_ok_iff.2 ?_⟩⟩
  rw [(Stub.headings_of_mapM built).1]
  exact accepted

theorem accepted_iff :
    (∃ text, generate settings document = .ok text) ↔ Accepted settings document := by
  simp only [generate_eq_ok_iff, Settings.check_eq_ok_iff]
  constructor
  · rintro ⟨text, ⟨transport, exceptions⟩, stubs, passed, -⟩
    obtain ⟨built, checked⟩ := stubs_eq_ok_iff.1 passed
    obtain ⟨sameHeadings, complete⟩ := Stub.headings_of_mapM built
    exact ⟨transport, exceptions, complete, sameHeadings ▸ Stub.checkAll_eq_ok_iff.1 checked⟩
  · rintro ⟨transport, exceptions, complete, headings⟩
    obtain ⟨stubs, passed⟩ := stubs_eq_ok_of_accepted complete headings
    exact ⟨_, ⟨transport, exceptions⟩, stubs, passed, rfl⟩

/-- Building the stubs fails as the first incomplete method does. -/
theorem mapM_ofMethod_eq_error_iff {snakeCase : Bool} {methods : List Schema.Method}
    {failure : Failure} :
    methods.mapM (Stub.ofMethod snakeCase) = .error failure ↔
      ∃ before method after, methods = before ++ method :: after ∧
        (∀ other ∈ before, other.Complete) ∧
        ((method.params = none ∧ failure = .schemaShape method.name (.missing "params")) ∨
          ((∃ params, method.params = some params) ∧ method.result = none ∧
            failure = .schemaShape method.name (.missing "result"))) := by
  simp only [mapM_eq_error_iff, Stub.ofMethod_eq_error_iff]
  have built_iff : ∀ other : Schema.Method,
      (∃ stub, Stub.ofMethod snakeCase other = .ok stub) ↔ other.Complete := fun other =>
    ⟨fun ⟨_, built⟩ => (Stub.heading_of_ofMethod built).2, Stub.exists_ofMethod snakeCase⟩
  simp only [built_iff]

theorem rejected_iff {failure : Failure} :
    generate settings document = .error failure ↔ Rejected settings document failure := by
  rw [generate_eq_error_iff, Settings.check_eq_error_iff, Settings.check_eq_ok_iff,
    stubs_eq_error_iff, mapM_ofMethod_eq_error_iff]
  constructor
  -- the order of the alternatives is that of the passes
  · rintro ((⟨bad, rfl⟩ | ⟨transport, bad, rfl⟩) | ⟨⟨transport, exceptions⟩, failed⟩)
    · exact .transport bad
    · exact .exceptions transport bad
    · rcases failed with ⟨before, method, after, split, complete, shape⟩ | ⟨stubs, built, failed⟩
      · rcases shape with ⟨noParams, rfl⟩ | ⟨hasParams, noResult, rfl⟩
        · exact .params transport exceptions split complete noParams
        · exact .result transport exceptions split complete hasParams noResult
      · obtain ⟨sameHeadings, complete⟩ := Stub.headings_of_mapM built
        exact .headings transport exceptions complete
          (sameHeadings ▸ Stub.checkAll_eq_error_iff.1 failed)
  · intro rejected
    cases rejected with
    | transport bad => exact .inl (.inl ⟨bad, rfl⟩)
    | exceptions transport bad => exact .inl (.inr ⟨transport, bad, rfl⟩)
    | params transport exceptions split complete noParams =>
      exact .inr ⟨⟨transport, exceptions⟩, .inl ⟨_, _, _, split, complete, .inl ⟨noParams, rfl⟩⟩⟩
    | result transport exceptions split complete hasParams noResult =>
      exact .inr ⟨⟨transport, exceptions⟩,
        .inl ⟨_, _, _, split, complete, .inr ⟨hasParams, noResult, rfl⟩⟩⟩
    | headings transport exceptions complete rejected =>
      obtain ⟨stubs, built⟩ := Stub.exists_mapM_ofMethod settings.snakeCase complete
      refine .inr ⟨⟨transport, exceptions⟩, .inr ⟨stubs, built, Stub.checkAll_eq_error_iff.2 ?_⟩⟩
      rw [(Stub.headings_of_mapM built).1]
      exact rejected

/-- Generation accepts exactly the documents that can stand as a module, and reports exactly the
first thing that is wrong with any other. -/
theorem generate_outcome (settings : Settings) (document : Schema.Document) :
    ((∃ text, generate settings document = .ok text) ↔ Accepted settings document) ∧
      ∀ failure, generate settings document = .error failure ↔
        Rejected settings document failure :=
  ⟨accepted_iff, fun _ => rejected_iff⟩

end RpcStubs.Module

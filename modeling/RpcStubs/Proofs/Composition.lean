import RpcStubs.Proofs.Acceptance

/-! # Documents one after another

What generation makes of a document is put together from what it makes of its methods.  Nothing is
carried from one method to the next but the names of the functions before, and these decide only
whether the document is accepted: `Module.generate_eq_ok_iff_accepted` gives the text of a module by
the methods of the document alone, each with the text of its own function.

So a document can be cut anywhere, and the text of its module is cut with it
(`Module.generation_composes`).
-/

namespace RpcStubs

open Schema

/-! ## The function of a method -/

/-- The text of a method's function. -/
def Schema.Method.functionText (snakeCase : Bool) (docLink : String) (method : Method) : String :=
  match Stub.ofMethod snakeCase method with
  | .ok stub => stub.text docLink
  | .error _ => ""

theorem Stub.texts_of_mapM {snakeCase : Bool} {methods : List Method} {stubs : List Stub}
    (built : methods.mapM (ofMethod snakeCase) = .ok stubs) (docLink : String) :
    stubs.map (text docLink) = methods.map (Method.functionText snakeCase docLink) := by
  rw [mapM_eq_ok_iff] at built
  induction built with
  | nil => rfl
  | cons here _ inductionHypothesis =>
    rw [List.map_cons, List.map_cons, inductionHypothesis, Method.functionText, here]

namespace Module

variable {settings : Settings} {first second before after : List Method} {method : Method}
  {text : String}

def functionTexts (settings : Settings) (methods : List Method) : String :=
  String.join (methods.map (Method.functionText settings.snakeCase settings.docLink))

@[simp]
theorem functionTexts_singleton (settings : Settings) (method : Method) :
    functionTexts settings [method] = method.functionText settings.snakeCase settings.docLink := by
  simp [functionTexts]

theorem functionTexts_append (settings : Settings) (first second : List Method) :
    functionTexts settings (first ++ second) =
      functionTexts settings first ++ functionTexts settings second := by
  simp [functionTexts, String.join_append]

/-- The module of an accepted document is the preamble and, for each method, its own function. -/
theorem generate_eq_ok_iff_accepted {document : Document} :
    generate settings document = .ok text ↔ Accepted settings document ∧
      text = settings.preamble ++ functionTexts settings document.methods := by
  constructor
  · intro generated
    refine ⟨accepted_iff.1 ⟨text, generated⟩, ?_⟩
    obtain ⟨-, stubs, passed, rfl⟩ := generate_eq_ok_iff.1 generated
    rw [functionTexts, Stub.texts_of_mapM (stubs_eq_ok_iff.1 passed).1]
  · rintro ⟨accepted, rfl⟩
    obtain ⟨text, generated⟩ := accepted_iff.2 accepted
    obtain ⟨-, stubs, passed, rfl⟩ := generate_eq_ok_iff.1 generated
    rw [functionTexts, ← Stub.texts_of_mapM (stubs_eq_ok_iff.1 passed).1]
    exact generated

/-! ## Two documents -/

theorem accepted_append_iff :
    Accepted settings ⟨first ++ second⟩ ↔
      Accepted settings ⟨first⟩ ∧ Accepted settings ⟨second⟩ ∧
        ∀ earlier ∈ first, ∀ later ∈ second,
          Stub.functionNameOf settings.snakeCase earlier.name ≠
            Stub.functionNameOf settings.snakeCase later.name := by
  constructor
  · rintro ⟨transport, exceptions, complete, headings⟩
    obtain ⟨completeFirst, completeSecond⟩ := List.forall_mem_append.1 complete
    rw [List.map_append, Heading.accepted_append_iff] at headings
    obtain ⟨acceptedFirst, acceptedSecond, apart⟩ := headings
    refine ⟨⟨transport, exceptions, completeFirst, acceptedFirst⟩,
      ⟨transport, exceptions, completeSecond, acceptedSecond⟩, ?_⟩
    intro earlier among later follows
    exact apart _ (List.mem_map_of_mem among) _ (List.mem_map_of_mem follows)
  · rintro ⟨acceptedFirst, acceptedSecond, apart⟩
    refine ⟨acceptedFirst.transport, acceptedFirst.exceptions,
      List.forall_mem_append.2 ⟨acceptedFirst.complete, acceptedSecond.complete⟩, ?_⟩
    rw [List.map_append, Heading.accepted_append_iff]
    refine ⟨acceptedFirst.headings, acceptedSecond.headings, ?_⟩
    intro heading member other otherMember
    obtain ⟨earlier, among, rfl⟩ := List.mem_map.1 member
    obtain ⟨later, follows, rfl⟩ := List.mem_map.1 otherMember
    exact apart earlier among later follows

/-- What generation makes of two lists of methods, each on its own and one after the other. -/
structure Composes (settings : Settings) (first second : List Method) : Prop where
  /-- The whole is accepted just if both parts are and no function of both has the same name. -/
  accepted : (∃ whole, generate settings ⟨first ++ second⟩ = .ok whole) ↔
    (∃ text, generate settings ⟨first⟩ = .ok text) ∧
      (∃ text, generate settings ⟨second⟩ = .ok text) ∧
      ∀ earlier ∈ first, ∀ later ∈ second,
        Stub.functionNameOf settings.snakeCase earlier.name ≠
          Stub.functionNameOf settings.snakeCase later.name
  /-- Its text is then that of the first part, and after it that of the second without the preamble. -/
  text : ∀ whole, generate settings ⟨first ++ second⟩ = .ok whole →
    ∃ firstText functions, generate settings ⟨first⟩ = .ok firstText ∧
      generate settings ⟨second⟩ = .ok (settings.preamble ++ functions) ∧
      whole = firstText ++ functions

theorem composes (settings : Settings) (first second : List Method) :
    Composes settings first second where
  accepted := by
    rw [accepted_iff, accepted_iff, accepted_iff]
    exact accepted_append_iff
  text := by
    intro whole generated
    obtain ⟨accepted, rfl⟩ := generate_eq_ok_iff_accepted.1 generated
    obtain ⟨acceptedFirst, acceptedSecond, -⟩ := accepted_append_iff.1 accepted
    refine ⟨settings.preamble ++ functionTexts settings first, functionTexts settings second,
      generate_eq_ok_iff_accepted.2 ⟨acceptedFirst, rfl⟩,
      generate_eq_ok_iff_accepted.2 ⟨acceptedSecond, rfl⟩, ?_⟩
    rw [functionTexts_append, String.append_assoc]

/-! ## One method among others -/

/-- The text of a module has a function between the text of the methods before it and the functions
of those after it. -/
def Emits (settings : Settings) (before after : List Method) (text function : String) : Prop :=
  ∃ front back, generate settings ⟨before⟩ = .ok front ∧
    generate settings ⟨after⟩ = .ok (settings.preamble ++ back) ∧ text = front ++ function ++ back

theorem emits_functionText (generated : generate settings ⟨before ++ method :: after⟩ = .ok text) :
    Emits settings before after text
      (method.functionText settings.snakeCase settings.docLink) := by
  obtain ⟨accepted, rfl⟩ := generate_eq_ok_iff_accepted.1 generated
  -- two cuts, before the method and after it
  obtain ⟨acceptedBefore, acceptedRest, -⟩ := accepted_append_iff.1 accepted
  obtain ⟨-, acceptedAfter, -⟩ := accepted_append_iff.1
    (show Accepted settings ⟨[method] ++ after⟩ from acceptedRest)
  refine ⟨settings.preamble ++ functionTexts settings before, functionTexts settings after,
    generate_eq_ok_iff_accepted.2 ⟨acceptedBefore, rfl⟩,
    generate_eq_ok_iff_accepted.2 ⟨acceptedAfter, rfl⟩, ?_⟩
  rw [functionTexts_append, ← List.singleton_append, functionTexts_append, functionTexts_singleton]
  simp only [String.append_assoc]

/-- Of methods one after the other generation makes what it makes of each part.  The function of a
method is the same text among whatever other methods it stands, and under any two settings that agree
on how functions are named and on the reference in their docstrings. -/
theorem generation_composes :
    (∀ settings first second, Composes settings first second) ∧
    ∀ (settings other : Settings), settings.snakeCase = other.snakeCase →
      settings.docLink = other.docLink →
      ∀ (method : Method) (before after before' after' : List Method) (text text' : String),
        generate settings ⟨before ++ method :: after⟩ = .ok text →
        generate other ⟨before' ++ method :: after'⟩ = .ok text' →
        ∃ function, Emits settings before after text function ∧
          Emits other before' after' text' function := by
  refine ⟨composes, ?_⟩
  intro settings other sameCase sameLink method before after before' after' text text' generated
    generatedOther
  refine ⟨_, emits_functionText generated, ?_⟩
  rw [sameCase, sameLink]
  exact emits_functionText generatedOther

/-- Settings that differ from the built-in ones in all that is not about functions. -/
def elsewhere : Settings :=
  { Settings.default with endpoint := "http://else\"where", timeout := 1, transportModule := "wire" }

/-- A method with much to document. -/
def itemMethod : Method where
  name := "sui_getItem"
  description := some "Gets an \"\"\"item\"\"\".\n\nOr nothing."
  params := some [⟨"item", some ⟨some (.union ["string", "null"])⟩⟩]
  result := some ⟨"Item\\"⟩

theorem generation_composes_item :
    ∃ text text',
      generate .default ⟨[.complete "sui_ping" [] "u64"] ++ itemMethod :: []⟩ = .ok text ∧
      generate elsewhere ⟨[] ++ itemMethod :: [.complete "item" [] "R", .complete "x" [] "R"]⟩ =
        .ok text' ∧
      ∃ function, Emits .default [.complete "sui_ping" [] "u64"] [] text function ∧
        Emits elsewhere [] [.complete "item" [] "R", .complete "x" [] "R"] text' function := by
  obtain ⟨text, generated⟩ : ∃ text,
      generate .default ⟨[.complete "sui_ping" [] "u64"] ++ itemMethod :: []⟩ = .ok text :=
    exists_ok_of_isSome (by decide +kernel)
  obtain ⟨text', generatedOther⟩ : ∃ text',
      generate elsewhere ⟨[] ++ itemMethod :: [.complete "item" [] "R", .complete "x" [] "R"]⟩ =
        .ok text' :=
    exists_ok_of_isSome (by decide +kernel)
  exact ⟨text, text', generated, generatedOther,
    generation_composes.2 .default elsewhere rfl rfl _ _ _ _ _ _ _ generated generatedOther⟩

end Module

end RpcStubs

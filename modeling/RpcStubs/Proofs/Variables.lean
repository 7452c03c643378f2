import RpcStubs.Command.Run
import RpcStubs.Proofs.Carrying

/-! # Two ways of reading a file of variables

A call takes the variables of a file over into its environment one by one, and what is set stays: the
first assignment to a variable counts.  Settings that are read from the file itself look the variable up
among all assignments, and there the last one counts.  So the two agree on files that assign no
variable of the settings two different values (`Settings.agree_on_file`), and not on others.
-/

namespace RpcStubs

open Script

namespace EnvFile

variable {environment : Environment} {content : ByteArray}
  {assigned assignments : List (String × String)} {lines : List (Except Error (List Char))}

/-- Reads the assignments of logical lines in order, each in an environment that has taken over the
earlier ones. -/
def readAdopting (environment : Environment) (assigned : List (String × String)) :
    List (Except Error (List Char)) → Except Error (List (String × String))
  | [] => .ok []
  | .error e :: _ => .error e
  | .ok line :: rest => do
    match ← readLine environment assigned line with
    | none => readAdopting environment assigned rest
    | some assignment =>
      let environment := adopt environment assignment
      return assignment :: (← readAdopting environment (assignment :: assigned) rest)

theorem adoptLines_eq (read : readAdopting environment assigned lines = .ok assignments) :
    adoptLines environment assigned lines = assignments.foldl adopt environment := by
  induction lines generalizing environment assigned assignments with
  | nil =>
    cases read
    rfl
  | cons line rest inductionHypothesis =>
    cases line with
    | error e => cases read
    | ok line =>
      obtain ⟨assignment, here, onward⟩ := bind_eq_ok_iff.1 read
      simp only [adoptLines, here]
      cases assignment with
      | none => exact inductionHypothesis onward
      | some assignment =>
        obtain ⟨others, further, collected⟩ := bind_eq_ok_iff.1 onward
        cases collected
        exact inductionHypothesis further

theorem lookup_adopt (environment : Environment) (assignment : String × String) (key : String) :
    (adopt environment assignment).lookup key =
      (environment.lookup key).or ([assignment].lookup key) := by
  obtain ⟨name, value⟩ := assignment
  unfold adopt
  by_cases same : key = name
  · subst same
    cases was : environment.lookup key with
    | some held => simp [was]
    | none => simp
  · have other : (key == name) = false := beq_eq_false_iff_ne.2 same
    split_ifs <;> simp [List.lookup_cons, other]

/-- An assignment counts if nothing before it does. -/
theorem lookup_foldl_adopt (environment : Environment) (assignments : List (String × String))
    (key : String) :
    (assignments.foldl adopt environment).lookup key =
      (environment.lookup key).or (assignments.lookup key) := by
  induction assignments generalizing environment with
  | nil => simp
  | cons assignment rest inductionHypothesis =>
    rw [List.foldl_cons, inductionHypothesis, lookup_adopt, Option.or_assoc, ← List.lookup_append]
    rfl

theorem withoutMark_eq (noMark : byteOrderMark.isPrefixOf content.toList = false) :
    withoutMark content = content := by
  simp [withoutMark, noMark]

end EnvFile

namespace Settings

variable {environment : Environment} {content : ByteArray} {reply : Reply} {store : Store}
  {assignments : List (String × String)}

/-- The variables that settings are read from. -/
def keys : List String :=
  [endpointKey, timeoutKey, schemaUrlKey, schemaPathKey, outputPathKey, docLinkKey,
    transportModuleKey, exceptionsModuleKey, snakeCaseKey]

theorem lookUp_congr {α : Type} {lookup lookup' : String → Option String} {key : String}
    (same : lookup key = lookup' key) (read : String → Except SettingFault α) (unset : α) :
    lookUp lookup key read unset = lookUp lookup' key read unset := by
  rw [lookUp, same, lookUp]

/-- Settings depend on their own variables only. -/
theorem ofLookup_congr {lookup lookup' : String → Option String}
    (same : ∀ key ∈ keys, lookup key = lookup' key) : ofLookup lookup = ofLookup lookup' := by
  simp only [keys, List.forall_mem_cons] at same
  obtain ⟨endpoint, timeout, schemaUrl, schemaPath, outputPath, docLink, transportModule,
    exceptionsModule, snakeCase, -⟩ := same
  unfold ofLookup
  rw [lookUp_congr endpoint, lookUp_congr timeout, lookUp_congr schemaUrl, lookUp_congr schemaPath,
    lookUp_congr outputPath, lookUp_congr docLink, lookUp_congr transportModule,
    lookUp_congr exceptionsModule, lookUp_congr snakeCase]

/-- In an environment that has taken over a file the first assignment counts. -/
theorem ofEnvironment_load (noMark : EnvFile.byteOrderMark.isPrefixOf content.toList = false)
    (adopted : EnvFile.readAdopting environment [] (EnvFile.logicalLines content) =
      .ok assignments) :
    ofEnvironment (EnvFile.load environment content) =
      ofLookup fun key => (environment.lookup key).or (assignments.lookup key) := by
  rw [EnvFile.load, EnvFile.withoutMark_eq noMark, EnvFile.adoptLines_eq adopted]
  unfold ofEnvironment
  exact ofLookup_congr fun key _ => EnvFile.lookup_foldl_adopt environment assignments key

/-- In a file that is looked up the last assignment counts. -/
theorem ofFile_eq (path : String) (read : EnvFile.read environment content = .ok assignments) :
    ofFile environment path content =
      ofLookup fun key => (environment.lookup key).or (assignments.reverse.lookup key) := by
  unfold ofFile
  rw [read]
  refine ofLookup_congr fun key _ => ?_
  cases environment.lookup key with
  | some value => rfl
  | none => rfl

/-- A call finds the settings that are read from its file of variables, if both ways find the same
assignments in the file and no variable of the settings is given two different values there that
the environment leaves open. -/
theorem agree_on_file
    (there : store.readFile (Path.ofString Command.variablesFile) = .ok content)
    (noMark : EnvFile.byteOrderMark.isPrefixOf content.toList = false)
    (read : EnvFile.read environment content = .ok assignments)
    (adopted : EnvFile.readAdopting environment [] (EnvFile.logicalLines content) =
      .ok assignments)
    (steady : ∀ key ∈ keys, environment.lookup key = none →
      assignments.lookup key = assignments.reverse.lookup key) :
    (ofEnvironment ((Command.loadEnvironment environment).run reply store).value).mapError
        Failure.settings =
      ((load environment Command.variablesFile).run reply store).value := by
  have opening := Ends.read reply (Path.ofString Command.variablesFile) store
  rw [show Files.readFile store _ = _ from there] at opening
  have calling : Ends reply (Command.loadEnvironment environment) store
      (EnvFile.load environment content) store "" :=
    opening.bind_silent (.done reply _ store)
  have reading : Ends reply (load environment Command.variablesFile) store
      ((ofFile environment Command.variablesFile content).mapError .settings) store "" :=
    opening.bind_silent (.done reply _ store)
  rw [calling.eqs.1, reading.eqs.1, ofEnvironment_load noMark adopted, ofFile_eq _ read]
  refine congrArg (Except.mapError Failure.settings) (ofLookup_congr fun key member => ?_)
  cases held : environment.lookup key with
  | some value => rfl
  | none => exact steady key member held

/-! ## A variable that is assigned twice -/

/-- A file that assigns a variable of the settings twice. -/
def repeated : String :=
  "RPCGEN_OUTPUT_PATH=a\nRPCGEN_OUTPUT_PATH=b\n"

/-- A store with that file. -/
def withRepeated : Store :=
  ⟨[([Command.variablesFile], .file repeated.toUTF8)]⟩

/-- An environment that has the variable, so that neither assignment counts. -/
def decided : Environment :=
  [("RPCGEN_OUTPUT_PATH", "c")]

theorem agree_on_repeated :
    (ofEnvironment ((Command.loadEnvironment decided).run .refused withRepeated).value).mapError
        Failure.settings =
      ((load decided Command.variablesFile).run .refused withRepeated).value := by
  have there : withRepeated.readFile (Path.ofString Command.variablesFile) =
      .ok repeated.toUTF8 := by
    rfl
  have read : EnvFile.read decided repeated.toUTF8 =
      .ok [("RPCGEN_OUTPUT_PATH", "a"), ("RPCGEN_OUTPUT_PATH", "b")] := by
    decide +kernel
  have adopted : EnvFile.readAdopting decided [] (EnvFile.logicalLines repeated.toUTF8) =
      .ok [("RPCGEN_OUTPUT_PATH", "a"), ("RPCGEN_OUTPUT_PATH", "b")] := by
    decide +kernel
  exact agree_on_file there (by decide +kernel) read adopted (by decide)

/-- Where it is left to the file, a call goes by the first value and a reading of the file by the last. -/
theorem differ_on_repeated :
    (ofEnvironment ((Command.loadEnvironment []).run .refused withRepeated).value).toOption =
        some { default with outputPath := "a" } ∧
      ((load [] Command.variablesFile).run .refused withRepeated).value.toOption =
        some { default with outputPath := "b" } := by
  decide +kernel

end Settings

end RpcStubs

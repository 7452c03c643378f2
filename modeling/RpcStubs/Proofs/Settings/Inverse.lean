import RpcStubs.Proofs.Settings.Values
import RpcStubs.Proofs.Variables

/-! # Settings and variables are inverse

Settings that are written into their variables are read back the same, and for any variables at all
it is said exactly what they are read as: the settings that they give (`GivenBy`), or else the fault
of the first one that is refused (`FirstRefused`).

A reading is a chain of nine steps, one for each variable, that stops at the first fault.  What a
single step does is said by `lookUp_eq_ok_iff` and `refused_iff`, and how the faults of the steps
become that of the chain by `bind_refused_iff`, so no case is made of which step failed.
-/

namespace RpcStubs.Settings

variable {α : Type} {lookup : String → Option String} {key value : String} {fault : SettingFault}
  {settings : Settings} {Reads : String → α → Prop} {unset a : α}

/-! ## One variable -/

/-- What a variable gives: what its value reads as, or the built-in `unset` if it is not set. -/
inductive Given (lookup : String → Option String) (key : String) (Reads : String → α → Prop)
    (unset : α) : α → Prop where
  | unset : lookup key = none → Given lookup key Reads unset unset
  | set {value : String} {a : α} : lookup key = some value → ¬ Blank value → Reads value a →
      Given lookup key Reads unset a

theorem lookUp_eq_ok_iff {read : String → Except SettingFault α}
    (reads : ∀ {value a}, read value = .ok a ↔ Reads value a) :
    lookUp lookup key read unset = .ok a ↔ Given lookup key Reads unset a := by
  constructor
  · intro found
    unfold lookUp at found
    split at found
    next isUnset =>
      cases found
      exact .unset isUnset
    next value isSet =>
      split at found
      next => cases found
      next filled => exact .set isSet (mt blank_iff.2 filled) (reads.1 found)
  · intro given
    cases given with
    | unset isUnset => simp only [lookUp, isUnset]
    | set isSet filled value =>
      simp only [lookUp, isSet, mt blank_iff.1 filled, Bool.false_eq_true, if_false,
        reads.2 value]

theorem Given.reads (given : Given lookup key Reads unset a) (isSet : lookup key = some value) :
    Reads value a := by
  cases given with
  | unset isUnset =>
    rw [isUnset] at isSet
    cases isSet
  | set isSet' _ reads =>
    obtain rfl := Option.some.inj (isSet'.symm.trans isSet)
    exact reads

theorem Given.eq_unset (given : Given lookup key Reads unset a) (isUnset : lookup key = none) :
    a = unset := by
  cases given with
  | unset => rfl
  | set isSet =>
    rw [isUnset] at isSet
    cases isSet

/-! ## Variables that are read -/

/-- Settings that are what their variables give, each of them by itself. -/
structure GivenBy (lookup : String → Option String) (settings : Settings) : Prop where
  endpoint : Given lookup endpointKey Eq default.endpoint settings.endpoint
  timeout : Given lookup timeoutKey (fun value seconds => TimeoutText value seconds.toNat)
    default.timeout settings.timeout
  schemaUrl : Given lookup schemaUrlKey Eq default.schemaUrl settings.schemaUrl
  schemaPath : Given lookup schemaPathKey Eq default.schemaPath settings.schemaPath
  outputPath : Given lookup outputPathKey Eq default.outputPath settings.outputPath
  docLink : Given lookup docLinkKey Eq default.docLink settings.docLink
  transportModule :
    Given lookup transportModuleKey Eq default.transportModule settings.transportModule
  exceptionsModule :
    Given lookup exceptionsModuleKey Eq default.exceptionsModule settings.exceptionsModule
  snakeCase : Given lookup snakeCaseKey FlagText default.snakeCase settings.snakeCase

theorem text_given_iff {unset text : String} :
    lookUp lookup key .ok unset = .ok text ↔ Given lookup key Eq unset text :=
  lookUp_eq_ok_iff (Except.ok.injEq _ _).to_iff

theorem ofLookup_eq_ok_iff : ofLookup lookup = .ok settings ↔ GivenBy lookup settings := by
  simp only [ofLookup, bind_eq_ok_iff, text_given_iff, lookUp_eq_ok_iff readTimeout_eq_ok_iff,
    lookUp_eq_ok_iff readFlag_eq_ok_iff, pure, Except.pure, Except.ok.injEq]
  constructor
  · rintro ⟨_, endpoint, _, timeout, _, schemaUrl, _, schemaPath, _, outputPath, _, docLink, _,
      transportModule, _, exceptionsModule, _, snakeCase, rfl⟩
    exact ⟨endpoint, timeout, schemaUrl, schemaPath, outputPath, docLink, transportModule,
      exceptionsModule, snakeCase⟩
  · rintro ⟨endpoint, timeout, schemaUrl, schemaPath, outputPath, docLink, transportModule,
      exceptionsModule, snakeCase⟩
    exact ⟨_, endpoint, _, timeout, _, schemaUrl, _, schemaPath, _, outputPath, _, docLink, _,
      transportModule, _, exceptionsModule, _, snakeCase, rfl⟩

/-- Settings without blank texts, and with a timeout of at least a second. -/
structure Filled (settings : Settings) : Prop where
  endpoint : ¬ Blank settings.endpoint
  timeout : 1 ≤ settings.timeout.toNat
  schemaUrl : ¬ Blank settings.schemaUrl
  schemaPath : ¬ Blank settings.schemaPath
  outputPath : ¬ Blank settings.outputPath
  docLink : ¬ Blank settings.docLink
  transportModule : ¬ Blank settings.transportModule
  exceptionsModule : ¬ Blank settings.exceptionsModule

theorem Given.holds {p : α → Prop} (given : Given lookup key Reads unset a) (builtIn : p unset)
    (reads : ∀ value, ¬ Blank value → Reads value a → p a) : p a := by
  cases given with
  | unset => exact builtIn
  | set _ filled value => exact reads _ filled value

theorem Given.filled {unset text : String} (given : Given lookup key Eq unset text)
    (builtIn : ¬ Blank unset) : ¬ Blank text :=
  given.holds (p := fun text => ¬ Blank text) builtIn fun _ filled same => same ▸ filled

theorem GivenBy.filled (given : GivenBy lookup settings) : Filled settings where
  endpoint := given.endpoint.filled (by decide)
  timeout := given.timeout.holds (p := fun seconds => 1 ≤ seconds.toNat) (by decide)
    fun _ _ ⟨_, _, _, positive, _⟩ => positive
  schemaUrl := given.schemaUrl.filled (by decide)
  schemaPath := given.schemaPath.filled (by decide)
  outputPath := given.outputPath.filled (by decide)
  docLink := given.docLink.filled (by decide)
  transportModule := given.transportModule.filled (by decide)
  exceptionsModule := given.exceptionsModule.filled (by decide)

/-! ## Variables that are written -/

/-- The environment that has a variable for every setting, with the text of that setting. -/
def environment (settings : Settings) : Environment :=
  [(endpointKey, settings.endpoint), (timeoutKey, toString settings.timeout.toNat),
    (schemaUrlKey, settings.schemaUrl), (schemaPathKey, settings.schemaPath),
    (outputPathKey, settings.outputPath), (docLinkKey, settings.docLink),
    (transportModuleKey, settings.transportModule),
    (exceptionsModuleKey, settings.exceptionsModule),
    (snakeCaseKey, if settings.snakeCase then "true" else "false")]

theorem givenBy_environment (filled : Filled settings) :
    GivenBy (fun key => settings.environment.lookup key) settings where
  endpoint := .set rfl filled.endpoint rfl
  timeout :=
    have value := TimeoutText.of_toString filled.timeout settings.timeout.toNat_lt
    .set rfl value.filled value
  schemaUrl := .set rfl filled.schemaUrl rfl
  schemaPath := .set rfl filled.schemaPath rfl
  outputPath := .set rfl filled.outputPath rfl
  docLink := .set rfl filled.docLink rfl
  transportModule := .set rfl filled.transportModule rfl
  exceptionsModule := .set rfl filled.exceptionsModule rfl
  snakeCase :=
    have value := FlagText.of_flag settings.snakeCase
    .set rfl value.filled value

/-! ## Variables that are refused -/

/-- Why a value that is not blank cannot be read.  A text always can. -/
inductive Unreadable : String → String → SettingFault → Prop where
  | timeout {value : String} {fault : SettingFault} : NoTimeout value fault →
      Unreadable timeoutKey value fault
  | flag {value : String} : (∀ flag, ¬ FlagText value flag) →
      Unreadable snakeCaseKey value (.badFlag snakeCaseKey value)

/-- A variable is refused for a fault: its value is blank, or it cannot be read. -/
inductive Refused (lookup : String → Option String) (key : String) : SettingFault → Prop where
  | blank {value : String} : lookup key = some value → Blank value →
      Refused lookup key (.blank key)
  | unreadable {value : String} {fault : SettingFault} : lookup key = some value →
      ¬ Blank value → Unreadable key value fault → Refused lookup key fault

/-- The first of several variables that is refused. -/
inductive FirstRefused (lookup : String → Option String) :
    List String → String → SettingFault → Prop where
  | here {key : String} {others : List String} {fault : SettingFault} :
      Refused lookup key fault → FirstRefused lookup (key :: others) key fault
  | later {other key : String} {others : List String} {fault : SettingFault} :
      (∀ fault, ¬ Refused lookup other fault) → FirstRefused lookup others key fault →
      FirstRefused lookup (other :: others) key fault

theorem unreadable_text_iff (noTimeout : key ≠ timeoutKey) (noFlag : key ≠ snakeCaseKey)
    (value : String) (fault : SettingFault) :
    Except.ok value = .error fault ↔ Unreadable key value fault := by
  constructor
  · intro failed
    cases failed
  · intro unreadable
    cases unreadable with
    | timeout => exact absurd rfl noTimeout
    | flag => exact absurd rfl noFlag

theorem unreadable_timeout_iff (value : String) (fault : SettingFault) :
    readTimeout value = .error fault ↔ Unreadable timeoutKey value fault := by
  rw [readTimeout_eq_error_iff]
  constructor
  · exact .timeout
  -- with a variable for the key, the reasons can be told apart by it
  · generalize same : timeoutKey = key
    intro unreadable
    cases unreadable with
    | timeout noTimeout => exact noTimeout
    | flag => exact absurd same (by decide)

theorem unreadable_flag_iff (value : String) (fault : SettingFault) :
    readFlag snakeCaseKey value = .error fault ↔ Unreadable snakeCaseKey value fault := by
  rw [readFlag_eq_error_iff]
  constructor
  · rintro ⟨other, rfl⟩
    exact .flag other
  · generalize same : snakeCaseKey = key
    intro unreadable
    cases unreadable with
    | timeout => exact absurd same (by decide)
    | flag other => exact ⟨other, rfl⟩

theorem refused_iff {read : String → Except SettingFault α}
    (unread : ∀ value fault, read value = .error fault ↔ Unreadable key value fault)
    (fault : SettingFault) :
    lookUp lookup key read unset = .error fault ↔ Refused lookup key fault := by
  constructor
  · intro failed
    unfold lookUp at failed
    split at failed
    next => cases failed
    next value isSet =>
      split at failed
      next blank =>
        cases failed
        exact .blank isSet (blank_iff.1 blank)
      next filled =>
        exact .unreadable isSet (mt blank_iff.2 filled) ((unread value fault).1 failed)
  · intro refused
    cases refused with
    | blank isSet blank => simp only [lookUp, isSet, blank_iff.2 blank, if_true]
    | unreadable isSet filled unreadable =>
      simp only [lookUp, isSet, mt blank_iff.1 filled, Bool.false_eq_true, if_false]
      exact (unread _ fault).2 unreadable

/-- A step for one variable, and then the steps for others: the first variable that is refused
decides. -/
theorem bind_refused_iff {β : Type} {first : Except SettingFault α}
    {next : α → Except SettingFault β} {others : List String}
    (here : ∀ fault, first = .error fault ↔ Refused lookup key fault)
    (onward : ∀ a fault, next a = .error fault ↔ ∃ other, FirstRefused lookup others other fault)
    (fault : SettingFault) :
    first >>= next = .error fault ↔ ∃ other, FirstRefused lookup (key :: others) other fault := by
  rw [bind_eq_error_iff]
  constructor
  · rintro (failed | ⟨a, passed, failed⟩)
    · exact ⟨key, .here ((here fault).1 failed)⟩
    · obtain ⟨other, refused⟩ := (onward a fault).1 failed
      refine ⟨other, .later (fun fault' refused' => ?_) refused⟩
      rw [(here fault').2 refused'] at passed
      cases passed
  · rintro ⟨other, refused⟩
    cases refused with
    | here refused => exact .inl ((here fault).2 refused)
    | later notHere refused =>
      -- a step fails only for its own variable, so this one has passed
      cases outcome : first with
      | error fault' => exact absurd ((here fault').1 outcome) (notHere fault')
      | ok a => exact .inr ⟨a, rfl, (onward a fault).2 ⟨other, refused⟩⟩

theorem ofLookup_eq_error_iff :
    ofLookup lookup = .error fault ↔ ∃ key, FirstRefused lookup keys key fault := by
  have text {key unset : String} (noTimeout : key ≠ timeoutKey) (noFlag : key ≠ snakeCaseKey) :=
    @refused_iff _ lookup key unset .ok (unreadable_text_iff noTimeout noFlag)
  unfold ofLookup keys
  -- nine steps in the order of the keys, and nothing that can fail after them
  refine bind_refused_iff (text (by decide) (by decide)) (fun _ => ?_) fault
  refine bind_refused_iff (refused_iff unreadable_timeout_iff) fun _ => ?_
  refine bind_refused_iff (text (by decide) (by decide)) fun _ => ?_
  refine bind_refused_iff (text (by decide) (by decide)) fun _ => ?_
  refine bind_refused_iff (text (by decide) (by decide)) fun _ => ?_
  refine bind_refused_iff (text (by decide) (by decide)) fun _ => ?_
  refine bind_refused_iff (text (by decide) (by decide)) fun _ => ?_
  refine bind_refused_iff (text (by decide) (by decide)) fun _ => ?_
  refine bind_refused_iff (refused_iff unreadable_flag_iff) fun _ fault => ?_
  constructor
  · intro failed
    cases failed
  · rintro ⟨key, refused⟩
    cases refused

theorem exists_firstRefused_iff {keys : List String} :
    (∃ fault key, FirstRefused lookup keys key fault) ↔
      ∃ key ∈ keys, ∃ fault, Refused lookup key fault := by
  constructor
  · rintro ⟨fault, key, first⟩
    induction first with
    | here refused => exact ⟨_, List.mem_cons_self, _, refused⟩
    | later _ _ inductionHypothesis =>
      obtain ⟨key, member, refused⟩ := inductionHypothesis
      exact ⟨key, List.mem_cons_of_mem _ member, refused⟩
  · rintro ⟨key, member, fault, refused⟩
    induction keys with
    | nil => cases member
    | cons other others inductionHypothesis =>
      by_cases here : ∃ fault, Refused lookup other fault
      · obtain ⟨fault, refused⟩ := here
        exact ⟨fault, other, .here refused⟩
      · have later : key ∈ others := by
          refine (List.mem_cons.1 member).resolve_left ?_
          rintro rfl
          exact here ⟨fault, refused⟩
        obtain ⟨fault, key, first⟩ := inductionHypothesis later
        exact ⟨fault, key, .later (not_exists.1 here) first⟩

theorem FirstRefused.refused {keys : List String} (first : FirstRefused lookup keys key fault) :
    Refused lookup key fault := by
  induction first with
  | here refused => exact refused
  | later _ _ inductionHypothesis => exact inductionHypothesis

/-- A message names a variable: the name stands somewhere in it. -/
def Names (message key : String) : Prop :=
  ∃ before after, message = before ++ key ++ after

theorem Names.self (key : String) : Names key key :=
  ⟨"", "", by simp⟩

theorem Names.after {message : String} (named : Names message key) (before : String) :
    Names (before ++ message) key := by
  obtain ⟨opening, closing, rfl⟩ := named
  exact ⟨before ++ opening, closing, by simp only [String.append_assoc]⟩

theorem Names.before {message : String} (named : Names message key) (after : String) :
    Names (message ++ after) key := by
  obtain ⟨opening, closing, rfl⟩ := named
  exact ⟨opening, closing ++ after, by simp only [String.append_assoc]⟩

theorem Refused.names (refused : Refused lookup key fault) :
    Names (Failure.settings fault).message key := by
  unfold Failure.message
  refine Names.after ?_ _
  cases refused with
  | blank =>
    unfold SettingFault.message
    exact ((Names.self key).after _).before _
  | unreadable _ _ unreadable =>
    cases unreadable with
    | timeout noTimeout =>
      cases noTimeout with
      | zero =>
        unfold SettingFault.message
        exact (Names.self _).before _
      | unreadable =>
        unfold SettingFault.message
        exact (((Names.self _).before _).before _).before _
    | flag =>
      unfold SettingFault.message
      exact (((Names.self _).before _).before _).before _

/-! ## All variables -/

/-- Writing settings into variables is undone by reading them.  What is read, settings or a fault,
is told by the variables of the settings alone, each one by its own, and the first one that cannot
be read is reported by its name. -/
theorem ofLookup_outcome :
    (∀ settings, Filled settings →
      ofLookup (fun key => settings.environment.lookup key) = .ok settings) ∧
    ∀ lookup : String → Option String,
      (∀ lookup', (∀ key ∈ keys, lookup key = lookup' key) → ofLookup lookup = ofLookup lookup') ∧
      (∀ settings, ofLookup lookup = .ok settings → GivenBy lookup settings ∧ Filled settings) ∧
      ((∃ fault, ofLookup lookup = .error fault) ↔
        ∃ key ∈ keys, ∃ fault, Refused lookup key fault) ∧
      ∀ fault, ofLookup lookup = .error fault →
        ∃ key, FirstRefused lookup keys key fault ∧ Names (Failure.settings fault).message key := by
  refine ⟨?_, fun lookup => ⟨?_, ?_, ?_, ?_⟩⟩
  · intro settings filled
    exact ofLookup_eq_ok_iff.2 (givenBy_environment filled)
  · intro lookup' same
    exact ofLookup_congr same
  · intro settings read
    have given := ofLookup_eq_ok_iff.1 read
    exact ⟨given, given.filled⟩
  · simp only [ofLookup_eq_error_iff, exists_firstRefused_iff]
  · intro fault failed
    obtain ⟨key, first⟩ := ofLookup_eq_error_iff.1 failed
    exact ⟨key, first, first.refused.names⟩

/-- Settings with the longest timeout, and with blanks around the endpoint, which are kept. -/
def chosen : Settings :=
  { default with endpoint := " http://node ", timeout := 18446744073709551615, snakeCase := false }

/-- Variables of which two are refused: a timeout of zero, and a flag that is none. -/
def doubtful (key : String) : Option String :=
  [(snakeCaseKey, "maybe"), (timeoutKey, " +00")].lookup key

theorem ofLookup_outcome_chosen :
    ofLookup (fun key => chosen.environment.lookup key) = .ok chosen ∧
      GivenBy (fun key => chosen.environment.lookup key) chosen ∧
      ∃ key, FirstRefused doubtful keys key (.zeroTimeout timeoutKey) ∧
        Names (Failure.settings (.zeroTimeout timeoutKey)).message key := by
  have filled : Filled chosen := by constructor <;> decide
  have failed : ofLookup doubtful = .error (.zeroTimeout timeoutKey) := by decide +kernel
  obtain ⟨inverse, outcome⟩ := ofLookup_outcome
  have read := inverse chosen filled
  obtain ⟨-, given, -, -⟩ := outcome fun key => chosen.environment.lookup key
  obtain ⟨-, -, -, refused⟩ := outcome doubtful
  exact ⟨read, (given chosen read).1, refused _ failed⟩

end RpcStubs.Settings

import RpcStubs.Module
import RpcStubs.Proofs.Settings.Inverse

/-! # Timeouts, from a variable to a module

A timeout goes through three writings: that of its variable, with blanks, a sign and zeros in front,
the number of 64 bits among the settings, and the digits in the preamble of a module.  All three have
the same value, up to the largest number there is, and what is beyond it is not read at all.
-/

namespace RpcStubs.Settings

open Text (Numeral)

variable {value : String} {settings : Settings} {n : Nat}

/-! ## A variable by itself -/

/-- The variable of the timeout, and no other. -/
def onlyTimeout (value key : String) : Option String :=
  if key = timeoutKey then some value else none

/-- Settings without other variables are the built-in ones but for the timeout. -/
theorem ofLookup_onlyTimeout_iff :
    ofLookup (onlyTimeout value) = .ok settings ↔
      ∃ seconds : UInt64, TimeoutText value seconds.toNat ∧
        settings = { default with timeout := seconds } := by
  have isUnset {key : String} (other : key ≠ timeoutKey) : onlyTimeout value key = none :=
    if_neg other
  rw [ofLookup_eq_ok_iff]
  constructor
  · intro given
    refine ⟨settings.timeout, given.timeout.reads rfl, ?_⟩
    -- every other field is the built-in one, as its variable is not set
    simp only [← given.endpoint.eq_unset (isUnset (by decide)),
      ← given.schemaUrl.eq_unset (isUnset (by decide)),
      ← given.schemaPath.eq_unset (isUnset (by decide)),
      ← given.outputPath.eq_unset (isUnset (by decide)),
      ← given.docLink.eq_unset (isUnset (by decide)),
      ← given.transportModule.eq_unset (isUnset (by decide)),
      ← given.exceptionsModule.eq_unset (isUnset (by decide)),
      ← given.snakeCase.eq_unset (isUnset (by decide))]
  · rintro ⟨seconds, timeout, rfl⟩
    exact
      { endpoint := .unset (isUnset (by decide))
        timeout := .set rfl timeout.filled timeout
        schemaUrl := .unset (isUnset (by decide))
        schemaPath := .unset (isUnset (by decide))
        outputPath := .unset (isUnset (by decide))
        docLink := .unset (isUnset (by decide))
        transportModule := .unset (isUnset (by decide))
        exceptionsModule := .unset (isUnset (by decide))
        snakeCase := .unset (isUnset (by decide)) }

/-! ## Digits in a preamble -/

/-- The digits stand in the last line of a preamble, after the name that they are bound to. -/
def PrintsTimeout (preamble : String) (digits : List Char) : Prop :=
  ∃ opening, preamble = opening ++ "\n_default_timeout = " ++ String.ofList digits ++ "\n"

theorem printsTimeout_preamble (settings : Settings) :
    PrintsTimeout settings.preamble (toString settings.timeout.toNat).toList := by
  have line : "\n_default_timeout = " = "\n" ++ Identifier.defaultTimeout ++ " = " := by decide
  rw [PrintsTimeout, line, String.ofList_toList]
  simp only [← String.append_assoc]
  exact ⟨_, rfl⟩

/-! ## All three writings -/

theorem TimeoutText.unique {m : Nat} (first : TimeoutText value m) (second : TimeoutText value n) :
    m = n := by
  obtain ⟨core, stripped, counts, -, -⟩ := first
  obtain ⟨core', stripped', counts', -, -⟩ := second
  obtain rfl := stripped.unique stripped'
  exact counts.unique counts'

theorem TimeoutText.exists_toNat (timeout : TimeoutText value n) :
    ∃ seconds : UInt64, seconds.toNat = n := by
  obtain ⟨-, -, -, -, small⟩ := timeout
  exact ⟨.ofNat n, UInt64.toNat_ofNat_of_lt' small⟩

/-- A timeout is read if and only if it is written as a number of 64 bits that is not zero, and it
is printed as the same number, from which the same settings are read again. -/
theorem timeout_unaltered (value : String) :
    ((∃ settings, ofLookup (onlyTimeout value) = .ok settings) ↔ ∃ n, TimeoutText value n) ∧
      ∀ settings n, ofLookup (onlyTimeout value) = .ok settings → TimeoutText value n →
        settings.timeout.toNat = n ∧
          ∃ digits, PrintsTimeout settings.preamble digits ∧ Numeral digits n ∧
            ofLookup (onlyTimeout (String.ofList digits)) = .ok settings := by
  refine ⟨?_, fun settings n read timeout => ?_⟩
  · simp only [ofLookup_onlyTimeout_iff]
    constructor
    · rintro ⟨settings, seconds, timeout, -⟩
      exact ⟨_, timeout⟩
    · rintro ⟨n, timeout⟩
      obtain ⟨seconds, rfl⟩ := timeout.exists_toNat
      exact ⟨_, seconds, timeout, rfl⟩
  · obtain ⟨seconds, timeout', rfl⟩ := ofLookup_onlyTimeout_iff.1 read
    obtain rfl := timeout'.unique timeout
    refine ⟨rfl, _, printsTimeout_preamble _, .of_toString _, ?_⟩
    rw [String.ofList_toList]
    obtain ⟨-, -, -, positive, small⟩ := timeout
    exact ofLookup_onlyTimeout_iff.2 ⟨seconds, .of_toString positive small, rfl⟩

/-- The longest timeout, with everything around it that is not needed. -/
def longest : String :=
  "\u3000+0018446744073709551615\n"

theorem timeout_unaltered_longest :
    ∃ settings, ofLookup (onlyTimeout longest) = .ok settings ∧
      settings.timeout.toNat = 2 ^ 64 - 1 ∧
        ∃ digits, PrintsTimeout settings.preamble digits ∧ Numeral digits (2 ^ 64 - 1) ∧
          ofLookup (onlyTimeout (String.ofList digits)) = .ok settings := by
  have counted : readTimeout longest = .ok 18446744073709551615 := by decide +kernel
  have timeout : TimeoutText longest (2 ^ 64 - 1) := readTimeout_eq_ok_iff.1 counted
  obtain ⟨readable, unaltered⟩ := timeout_unaltered longest
  obtain ⟨settings, read⟩ := readable.2 ⟨_, timeout⟩
  exact ⟨settings, read, unaltered settings _ read timeout⟩

end RpcStubs.Settings

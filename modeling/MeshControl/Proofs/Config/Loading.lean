import Mathlib.Algebra.Group.Nat.Defs
import MeshControl.Config
import MeshControl.Proofs.Text.Numerals

/-!
What loading a configuration makes of the variables.

Only the two numbers can be at fault, and the refresh delay is read first. Whether a text is such a
number is told by how numbers are written, and not by the reader: some digits, any zeros in front of
them and at most one plus sign, with a value that fits into 64 bits. Everything else is taken as it
stands. No variable but the nine of `Config.keys` is looked at.

Main statement: `Config.ofVariables_reads`.
-/

namespace MeshControl.Config

/-! ## One number -/

/-- A number of 64 bits as it may be written in a variable. -/
def IsNumber (raw : String) (value : Nat) : Prop :=
  value < 2 ^ 64 ∧ Text.IsUnsigned raw.toList value

/-- A variable is there, and what is in it is no number. -/
def Offends (environment : Variables) (key raw : String) : Prop :=
  environment key = some raw ∧ ∀ value, ¬ IsNumber raw value

/-- The number that a variable stands for: the one in it, or the default if it is not there. -/
def Gives (environment : Variables) (key : String) (default value : Nat) : Prop :=
  environment key = none ∧ value = default ∨
    ∃ raw, environment key = some raw ∧ IsNumber raw value

theorem readUnsigned_eq_some_iff_isNumber {raw : String} {value : Fin 18446744073709551616} :
    Text.readUnsigned 18446744073709551616 raw.toList = some value ↔ IsNumber raw value.val := by
  rw [Text.readUnsigned_eq_some_iff]
  exact (and_iff_right value.isLt).symm

theorem isNumber_decimalText {value : Nat} (small : value < 2 ^ 64) :
    IsNumber (Text.decimalText value) value := by
  refine ⟨small, 0, .inl ?_⟩
  rw [Text.decimalText, String.toList_ofList]
  rfl

theorem readNumber_of_gives {environment : Variables} {key : String} {default value : Nat}
    (given : Gives environment key default value) :
    readNumber environment key default = .ok value := by
  rcases given with ⟨absent, rfl⟩ | ⟨raw, present, number⟩
  · rw [readNumber, absent]
  · have read : Text.readUnsigned 18446744073709551616 raw.toList = some ⟨value, number.1⟩ :=
      readUnsigned_eq_some_iff_isNumber.mpr number
    rw [readNumber, present]
    simp only [read]

theorem readNumber_of_offends {environment : Variables} {key raw : String} {default : Nat}
    (offends : Offends environment key raw) :
    readNumber environment key default = .error (.notANumber key raw) := by
  rw [readNumber, offends.1]
  cases read : Text.readUnsigned 18446744073709551616 raw.toList with
  | none => simp only [read]
  | some value => exact (offends.2 _ (readUnsigned_eq_some_iff_isNumber.mp read)).elim

theorem gives_or_offends (environment : Variables) (key : String) (default : Nat) :
    (∃ value, Gives environment key default value) ∨ ∃ raw, Offends environment key raw := by
  cases present : environment key with
  | none => exact .inl ⟨default, .inl ⟨present, rfl⟩⟩
  | some raw =>
      by_cases number : ∃ value, IsNumber raw value
      · rcases number with ⟨value, number⟩
        exact .inl ⟨value, .inr ⟨raw, present, number⟩⟩
      · exact .inr ⟨raw, present, fun value written => number ⟨value, written⟩⟩

theorem Gives.not_offends {environment : Variables} {key raw : String} {default value : Nat}
    (given : Gives environment key default value) : ¬ Offends environment key raw := by
  intro offends
  have failed : readNumber environment key default = .error (.notANumber key raw) :=
    readNumber_of_offends offends
  rw [readNumber_of_gives given] at failed
  cases failed

/-! ## The whole configuration -/

/-- The first of the two numbers, in the order in which they are read, that cannot be used, and what
is written there. -/
inductive FirstOffence (environment : Variables) : String → String → Prop where
  | refreshDelay {raw : String} : Offends environment refreshDelayKey raw →
      FirstOffence environment refreshDelayKey raw
  | maxMessageSize {raw : String} : (∀ raw, ¬ Offends environment refreshDelayKey raw) →
      Offends environment maxMessageSizeKey raw → FirstOffence environment maxMessageSizeKey raw

theorem ofVariables_congr {environment other : Variables}
    (same : ∀ key ∈ keys, other key = environment key) :
    ofVariables other = ofVariables environment := by
  have address (listener : Listener) :
      other (bindAddressKey.get listener) = environment (bindAddressKey.get listener) := by
    apply same
    cases listener <;> decide
  simp only [ofVariables, readNumber, address, same namespaceKey (by decide),
    same configDirKey (by decide), same certDirKey (by decide), same registriesKey (by decide),
    same refreshDelayKey (by decide), same maxMessageSizeKey (by decide)]

/-- Both numbers are given, and these are they. -/
def GivesBoth (environment : Variables) (delay size : Nat) : Prop :=
  Gives environment refreshDelayKey defaultRefreshDelayMs delay ∧
    Gives environment maxMessageSizeKey defaultMaxMessageSize size

theorem givesBoth_or_firstOffence (environment : Variables) :
    (∃ delay size, GivesBoth environment delay size) ∨
      ∃ key raw, FirstOffence environment key raw := by
  rcases gives_or_offends environment refreshDelayKey defaultRefreshDelayMs with
    ⟨delay, given⟩ | ⟨raw, offends⟩
  · rcases gives_or_offends environment maxMessageSizeKey defaultMaxMessageSize with
      ⟨size, given'⟩ | ⟨raw, offends⟩
    · exact .inl ⟨delay, size, given, given'⟩
    · exact .inr ⟨_, raw, .maxMessageSize (fun _ => given.not_offends) offends⟩
  · exact .inr ⟨_, raw, .refreshDelay offends⟩

theorem ofVariables_of_givesBoth {environment : Variables} {delay size : Nat}
    (given : GivesBoth environment delay size) :
    ∃ config, ofVariables environment = .ok config ∧ config.refreshDelayMs = delay ∧
      config.maxMessageSize = size := by
  rw [ofVariables, readNumber_of_gives given.1, readNumber_of_gives given.2]
  exact ⟨_, rfl, rfl, rfl⟩

theorem ofVariables_of_firstOffence {environment : Variables} {key raw : String}
    (offence : FirstOffence environment key raw) :
    ofVariables environment = .error (.notANumber key raw) := by
  cases offence with
  | refreshDelay offends =>
      rw [ofVariables, readNumber_of_offends offends]
      rfl
  | maxMessageSize passed offends =>
      rcases gives_or_offends environment refreshDelayKey defaultRefreshDelayMs with
        ⟨delay, given⟩ | ⟨other, offends'⟩
      · rw [ofVariables, readNumber_of_gives given, readNumber_of_offends offends]
        rfl
      · exact (passed other offends').elim

theorem ofVariables_eq_error_iff {environment : Variables} {error : ConfigError} :
    ofVariables environment = .error error ↔
      ∃ key raw, FirstOffence environment key raw ∧ error = .notANumber key raw := by
  constructor
  · intro failed
    rcases givesBoth_or_firstOffence environment with ⟨delay, size, given⟩ | ⟨key, raw, offence⟩
    · rcases ofVariables_of_givesBoth given with ⟨config, loaded, -⟩
      rw [loaded] at failed
      cases failed
    · rw [ofVariables_of_firstOffence offence] at failed
      cases failed
      exact ⟨key, raw, offence, rfl⟩
  · rintro ⟨key, raw, offence, rfl⟩
    exact ofVariables_of_firstOffence offence

theorem exists_ofVariables_iff {environment : Variables} {delay size : Nat} :
    (∃ config, ofVariables environment = .ok config ∧ config.refreshDelayMs = delay ∧
      config.maxMessageSize = size) ↔ GivesBoth environment delay size := by
  refine ⟨?_, ofVariables_of_givesBoth⟩
  rintro ⟨config, loaded, rfl, rfl⟩
  rcases givesBoth_or_firstOffence environment with ⟨delay, size, given⟩ | ⟨key, raw, offence⟩
  · rcases ofVariables_of_givesBoth given with ⟨config', loaded', rfl, rfl⟩
    rw [loaded] at loaded'
    cases loaded'
    exact given
  · rw [ofVariables_of_firstOffence offence] at loaded
    cases loaded

/-- There is a first offence if there is any. -/
theorem exists_firstOffence_iff {environment : Variables} :
    (∃ key raw, FirstOffence environment key raw) ↔
      ∃ key ∈ [refreshDelayKey, maxMessageSizeKey], ∃ raw, Offends environment key raw := by
  constructor
  · rintro ⟨key, raw, offence⟩
    cases offence with
    | refreshDelay offends => exact ⟨refreshDelayKey, by simp, raw, offends⟩
    | maxMessageSize _ offends => exact ⟨maxMessageSizeKey, by simp, raw, offends⟩
  · rintro ⟨key, listed, raw, offends⟩
    rcases givesBoth_or_firstOffence environment with ⟨delay, size, given⟩ | offence
    · simp only [List.mem_cons, List.not_mem_nil, or_false] at listed
      rcases listed with rfl | rfl
      · exact (given.1.not_offends offends).elim
      · exact (given.2.not_offends offends).elim
    · exact offence

/-- Loading looks at nine variables, and asks of two of them that they hold numbers.

Variables that agree on the nine load alike. Loading fails exactly if one of the two is there and holds
no number, and the error names the first such variable with what is written in it. Otherwise the two
numbers are those that are written there, or the defaults. The digits of any two numbers of 64 bits are
loaded as these numbers. -/
theorem ofVariables_reads (environment : Variables) :
    (∀ other : Variables, (∀ key ∈ keys, other key = environment key) →
      ofVariables other = ofVariables environment) ∧
    ((∃ error, ofVariables environment = .error error) ↔
      ∃ key ∈ [refreshDelayKey, maxMessageSizeKey], ∃ raw, Offends environment key raw) ∧
    (∀ error, ofVariables environment = .error error ↔
      ∃ key raw, FirstOffence environment key raw ∧ error = .notANumber key raw ∧
        error.message = "Invalid configuration value: " ++
          (key ++ "=" ++ Text.quoted raw ++ " is not a valid number")) ∧
    (∀ delay size,
      (∃ config, ofVariables environment = .ok config ∧ config.refreshDelayMs = delay ∧
        config.maxMessageSize = size) ↔ GivesBoth environment delay size) ∧
    ∀ delay < 2 ^ 64, ∀ size < 2 ^ 64, ∃ config,
      ofVariables (Function.update
        (Function.update environment refreshDelayKey (some (Text.decimalText delay)))
        maxMessageSizeKey (some (Text.decimalText size))) = .ok config ∧
      config.refreshDelayMs = delay ∧ config.maxMessageSize = size := by
  refine ⟨fun other same => ofVariables_congr same, ?_, ?_, ?_, ?_⟩
  · rw [← exists_firstOffence_iff]
    constructor
    · rintro ⟨error, failed⟩
      rcases ofVariables_eq_error_iff.mp failed with ⟨key, raw, offence, -⟩
      exact ⟨key, raw, offence⟩
    · rintro ⟨key, raw, offence⟩
      exact ⟨_, ofVariables_of_firstOffence offence⟩
  · intro error
    rw [ofVariables_eq_error_iff]
    constructor
    · rintro ⟨key, raw, offence, rfl⟩
      exact ⟨key, raw, offence, rfl, rfl⟩
    · rintro ⟨key, raw, offence, rfl, -⟩
      exact ⟨key, raw, offence, rfl⟩
  · intro delay size
    exact exists_ofVariables_iff
  · intro delay smallDelay size smallSize
    apply ofVariables_of_givesBoth
    constructor
    · refine .inr ⟨Text.decimalText delay, ?_, isNumber_decimalText smallDelay⟩
      rw [Function.update_of_ne (by decide), Function.update_self]
    · exact .inr ⟨Text.decimalText size, Function.update_self .., isNumber_decimalText smallSize⟩

/-- What is no number of 64 bits: nothing at all, a blank, another sign or a second one, and the number
that is just too large. -/
example : ∀ raw ∈ ["", "1 ", "-1", "++1", "18446744073709551616"],
    readNumber (fun _ => some raw) refreshDelayKey defaultRefreshDelayMs =
      .error (.notANumber refreshDelayKey raw) := by decide

end MeshControl.Config

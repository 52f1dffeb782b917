import SqlAssist.Text

/-! # Settings

How completion behaves, and how the settings are read from named values such as those of an
environment. A value that is empty counts as missing and gives the default. -/
namespace SqlAssist

structure Settings where
  maxSuggestions : Nat := 100
  /-- Whether columns are written behind the alias of their table where the query calls for it. -/
  qualifyColumns : Bool := true
  includeViews : Bool := true
deriving DecidableEq, Repr

inductive NumberFault where
  | empty
  | invalidDigit
  | tooLarge
deriving DecidableEq, Repr

inductive SettingFault where
  | notNumber (value : Text) (fault : NumberFault)
  | notBool (value : Text)
deriving DecidableEq, Repr

/-- A value that is not accepted, with the setting and the name it was found under. -/
structure SettingError where
  field : Text
  variableName : Text
  fault : SettingFault
deriving DecidableEq, Repr

namespace Settings

def largest : Nat := 0xFFFFFFFFFFFFFFFF

/-- Adds ASCII digits to a number read so far. -/
def readDigits (sum : Nat) : Text → Except NumberFault Nat
  | [] => .ok sum
  | c :: t =>
    if c.isDigit then
      let sum := sum * 10 + (c.toNat - '0'.toNat)
      if sum ≤ largest then readDigits sum t else .error .tooLarge
    else .error .invalidDigit

def readNumber (value : Text) : Except NumberFault Nat :=
  match value with
  | [] => .error .empty
  | ['+'] => .error .invalidDigit
  | '+' :: digits => readDigits 0 digits
  | digits => readDigits 0 digits

def readBool? (value : Text) : Option Bool :=
  if ["1", "true", "yes"].any (fun word => Text.eqIgnoreCase word.toList value) then some true
  else if ["0", "false", "no"].any (fun word => Text.eqIgnoreCase word.toList value) then some false
  else none

def readSetting {α : Type} (values : Text → Option Text) (field variableName : Text) (default : α)
    (read : Text → Except SettingFault α) : Except SettingError α :=
  match values variableName with
  | none | some [] => .ok default
  | some value =>
    match read (Text.trim value) with
    | .ok a => .ok a
    | .error fault => .error ⟨field, variableName, fault⟩

def numberSetting (value : Text) : Except SettingFault Nat :=
  (readNumber value).mapError (.notNumber value)

def boolSetting (value : Text) : Except SettingFault Bool :=
  match readBool? value with
  | some b => .ok b
  | none => .error (.notBool value)

/-- Reads the settings from named values; the first value that is not accepted is the error. -/
def ofValues (values : Text → Option Text) : Except SettingError Settings := do
  let maxSuggestions ←
    readSetting values "max_suggestions".toList "SQLINTEL_MAX_SUGGESTIONS".toList 100 numberSetting
  let qualifyColumns ←
    readSetting values "qualify_columns".toList "SQLINTEL_QUALIFY_COLUMNS".toList true boolSetting
  let includeViews ←
    readSetting values "include_views".toList "SQLINTEL_INCLUDE_VIEWS".toList true boolSetting
  return { maxSuggestions, qualifyColumns, includeViews }

end Settings

def NumberFault.message : NumberFault → Text
  | .empty => "cannot parse integer from empty string".toList
  | .invalidDigit => "invalid digit found in string".toList
  | .tooLarge => "number too large to fit in target type".toList

def SettingFault.message : SettingFault → Text
  | .notNumber value fault =>
    "invalid value '".toList ++ value ++ "' for type u64: ".toList ++ fault.message
  | .notBool value => "invalid value for bool: '".toList ++ value ++ ['\'']

def SettingError.message (error : SettingError) : Text :=
  "Configuration error: failed to deserialize value `Config::".toList ++ error.field ++
    "` from environment variable `".toList ++ error.variableName ++ "`: ".toList ++
    error.fault.message

end SqlAssist

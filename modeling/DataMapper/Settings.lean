import DataMapper.Text.Blank
import DataMapper.Text.Bytes
import DataMapper.Text.Inspect
/-!
# Settings

Switches of the whole library, and their values in the variables of an environment. A variable that
is no text counts as unset.
-/

namespace DataMapper

open Text

structure Settings where
  /-- Whether sessions cache. -/
  cacheEnabled : Bool := true
  /-- Whether parameters without an explicit name are called as in their declaration. -/
  useActualParamName : Bool := true
  /-- The environment that enters every cache key. -/
  environmentId : String := "development"
  /-- The mode of sessions that are opened without a choice of their own. -/
  defaultAutoCommit : Bool := false
  deriving DecidableEq, Repr

/-- The variables that settings are read from, as the bytes that they hold. -/
structure SettingsVariables where
  cacheEnabled : Option (List UInt8) := none
  useActualParamName : Option (List UInt8) := none
  environmentId : Option (List UInt8) := none
  autoCommit : Option (List UInt8) := none

namespace Settings

def lowerCase (s : String) : String :=
  String.ofList (s.toList.map Char.toLower)

/-- A flag is on for three spellings, in either case and between blanks, and off for any other. -/
def readFlag (text : String) : Bool :=
  ["true", "1", "yes"].contains (lowerCase (trim text))

def flag (bytes : Option (List UInt8)) (unset : Bool) : Bool :=
  match bytes.bind ofUtf8? with
  | some text => readFlag text
  | none => unset

/-- A blank environment counts as unset. -/
def environment (bytes : Option (List UInt8)) (unset : String) : String :=
  match (bytes.bind ofUtf8?).map trim with
  | some text => if text = "" then unset else text
  | none => unset

def ofVariables (v : SettingsVariables) : Settings :=
  let unset : Settings := {}
  { cacheEnabled := flag v.cacheEnabled unset.cacheEnabled
    useActualParamName := flag v.useActualParamName unset.useActualParamName
    environmentId := environment v.environmentId unset.environmentId
    defaultAutoCommit := flag v.autoCommit unset.defaultAutoCommit }

def inspect (s : Settings) : String :=
  inspectRecord "Settings"
    [("cache_enabled", inspectBool s.cacheEnabled),
      ("use_actual_param_name", inspectBool s.useActualParamName),
      ("environment_id", quoted s.environmentId),
      ("default_auto_commit", inspectBool s.defaultAutoCommit)]

end Settings

/-- Where a volume lies and how large it may grow. -/
structure VolumeConfig where
  path : String
  maxSizeMb : Nat := 64
  deriving DecidableEq, Repr

end DataMapper

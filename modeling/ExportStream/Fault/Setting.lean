import ExportStream.Status
/-!
# Faults of settings

A setting has a value that it cannot have, or the settings cannot be loaded at all.
-/

namespace ExportStream

/-- Why settings are refused. -/
inductive SettingFault where
  /-- A setting has a value that it cannot have. -/
  | invalid (field reason : String)
  /-- The settings cannot be loaded. -/
  | load (reason : String)
  deriving DecidableEq

namespace SettingFault

/-- The wording of a fault. -/
def message : SettingFault → String
  | .invalid field reason => "invalid value for '" ++ field ++ "': " ++ reason
  | .load reason => "failed to load settings: " ++ reason

end SettingFault

end ExportStream

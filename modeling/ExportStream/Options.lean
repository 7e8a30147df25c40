import ExportStream.Fault.Setting
import ExportStream.Settings.Dialect
/-!
# Options

What can be chosen about an import.
-/

namespace ExportStream

/-- What becomes of a deletion in an old export that names no key. -/
inductive DeletionPolicy where
  /-- It is passed over and not counted. -/
  | ignore
  /-- It is rejected. -/
  | countAsError
  deriving DecidableEq

namespace DeletionPolicy

/-- The name of a policy. -/
def name : DeletionPolicy → String
  | .ignore => "ignore"
  | .countAsError => "count_as_error"

/-- The policy with a name. -/
def ofName? (n : String) : Option DeletionPolicy := [ignore, countAsError].find? fun p => p.name = n

end DeletionPolicy

/-- What can be chosen about an import. -/
structure Options where
  /-- The size of the buffer for reading. -/
  bufferSize : Nat := 32768
  /-- The size of the buffer for payloads. -/
  writeBufferSize : Nat := 32768
  /-- Are the versions kept that old exports state? -/
  readLegacyEtag : Bool := false
  /-- What becomes of a deletion without a key. -/
  deletionPolicy : DeletionPolicy := .ignore
  /-- How many of the last bytes of input a message can show. -/
  diagnosticWindow : Nat := 4096
  /-- How many arrays and objects may be open in an element. -/
  maxDepth : Nat := 256
  /-- How many characters of a rejected element a warning shows. -/
  maxWarningSnapshot : Nat := 1024
  /-- Is a payload compared with the hash that its marker declares? -/
  verifyAttachmentHashes : Bool := true
  deriving DecidableEq

namespace Options

/-- Refuses a size of zero. -/
def positive (field : String) (n : Nat) : Except SettingFault Unit :=
  if n = 0 then .error (.invalid field "must be greater than zero") else .ok ()

/-- Refuses options that no import can run with. -/
def validate (o : Options) : Except SettingFault Unit := do
  positive "buffer_size" o.bufferSize
  positive "write_buffer_size" o.writeBufferSize
  positive "max_depth" o.maxDepth

/-- Options are valid when no size is zero that may not be. -/
theorem validate_eq_ok_iff (o : Options) :
    o.validate = .ok () ↔ 0 < o.bufferSize ∧ 0 < o.writeBufferSize ∧ 0 < o.maxDepth := by
  unfold validate positive
  by_cases h1 : o.bufferSize = 0 <;> by_cases h2 : o.writeBufferSize = 0 <;>
    by_cases h3 : o.maxDepth = 0 <;> simp [h1, h2, h3, bind, Except.bind, Nat.pos_iff_ne_zero]

/-- The names of the options, in the order of their declaration. -/
def names : List String :=
  ["buffer_size", "write_buffer_size", "read_legacy_etag", "legacy_deletion_policy",
    "diagnostic_window", "max_depth", "max_warning_snapshot", "verify_attachment_hashes"]

/-- The options that a value states; those that are left out have their defaults. -/
def read? {α : Type} (d : Dialect α) (v : α) : Option Options := do
  let part ← d.parts? names v
  let o : Options := {}
  return {
    bufferSize := ← Dialect.partOr d.size? o.bufferSize (part "buffer_size")
    writeBufferSize := ← Dialect.partOr d.size? o.writeBufferSize (part "write_buffer_size")
    readLegacyEtag := ← Dialect.partOr d.bool? o.readLegacyEtag (part "read_legacy_etag")
    deletionPolicy := ←
      Dialect.partOr (d.choice DeletionPolicy.ofName?) o.deletionPolicy
        (part "legacy_deletion_policy")
    diagnosticWindow := ← Dialect.partOr d.size? o.diagnosticWindow (part "diagnostic_window")
    maxDepth := ← Dialect.partOr d.size? o.maxDepth (part "max_depth")
    maxWarningSnapshot := ←
      Dialect.partOr d.size? o.maxWarningSnapshot (part "max_warning_snapshot")
    verifyAttachmentHashes := ←
      Dialect.partOr d.bool? o.verifyAttachmentHashes (part "verify_attachment_hashes") }

/-- The options as a JSON object, in the order of their declaration. -/
def toJson (o : Options) : Json :=
  .object
    [("buffer_size", .nat o.bufferSize), ("write_buffer_size", .nat o.writeBufferSize),
      ("read_legacy_etag", .bool o.readLegacyEtag),
      ("legacy_deletion_policy", .string o.deletionPolicy.name),
      ("diagnostic_window", .nat o.diagnosticWindow), ("max_depth", .nat o.maxDepth),
      ("max_warning_snapshot", .nat o.maxWarningSnapshot),
      ("verify_attachment_hashes", .bool o.verifyAttachmentHashes)]

end Options

end ExportStream

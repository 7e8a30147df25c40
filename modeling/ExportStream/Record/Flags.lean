import ExportStream.Json.Printer
import ExportStream.Text.Blank
import ExportStream.Text.Search
/-!
# Flags of documents

The flags that are kept with a document are written as names between commas, or as a number whose
bits are the flags; bits that stand for no flag are dropped. The flags of processing tell where a
document comes from and are not kept.
-/

namespace ExportStream

/-- A set of flags that are kept with a document. -/
structure DocumentFlags where
  /-- The flags as bits. -/
  bits : Nat
  deriving DecidableEq

namespace DocumentFlags

/-- No flag. -/
def empty : DocumentFlags := ⟨0⟩

/-- The flag of documents with attachments. -/
def hasAttachments : DocumentFlags := ⟨4⟩

/-- The flags by name. -/
def named : List (String × Nat) :=
  [("None", 0), ("HasRevisions", 1), ("Revision", 2), ("HasAttachments", 4), ("DeleteRevision", 8),
    ("Conflicted", 16), ("Resolved", 32), ("Artificial", 64), ("HasCounters", 128),
    ("FromClusterTransaction", 256), ("Reverted", 512), ("HasTimeSeries", 1024)]

/-- All flags. -/
def allBits : Nat := 2047

/-- Adds named flags to a set, or answers the first name that is none. -/
def addNames (flags : DocumentFlags) : List String → Except String DocumentFlags
  | [] => .ok flags
  | name :: names =>
    match named.lookup name with
    | some bit => addNames ⟨flags.bits ||| bit⟩ names
    | none => .error name

/-- The names in a text: the pieces between commas, without blanks around them; empty ones do not
count. -/
def namesIn (text : String) : List String :=
  ((Text.pieces ',' text.toList).map Text.trimmed).filterMap fun cs =>
    if cs.isEmpty then none else some (String.ofList cs)

/-- The flags that a text names, or the first name that is none. -/
def ofNames (text : String) : Except String DocumentFlags := addNames empty (namesIn text)

/-- The flags that a value states, or the text of what is refused. -/
def ofJson : Json → Except String DocumentFlags
  | .string s => ofNames s
  | .null => .ok empty
  | .number n =>
    match n.toNat64? with
    | some bits =>
      if bits < 0x100000000 then .ok ⟨bits &&& allBits⟩ else .error (Json.number n).compact
    | none => .error (Json.number n).compact
  | v => .error v.compact

end DocumentFlags

/-- Where a document comes from. -/
structure Origin where
  /-- The document comes from an import. -/
  fromImport : Bool := true
  /-- The document was read by the rules of the old format. -/
  legacy : Bool := false
  deriving DecidableEq

/-- The origin as bits. -/
def Origin.bits (o : Origin) : Nat := (if o.fromImport then 1 else 0) + (if o.legacy then 2 else 0)

end ExportStream

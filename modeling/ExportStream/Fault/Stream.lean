import ExportStream.Kind
import ExportStream.Status
import ExportStream.Token.Scanner
/-!
# Faults of the stream

The failures after which nothing behind them can be read: the stream is not well formed
(`Malformation` names the cause), it ends too soon, it holds a section that nobody knows, or it
exceeds a limit. Each knows its place in the stream.
-/

namespace ExportStream

/-- Why a stream is not well formed. -/
inductive Malformation where
  /-- The bytes of a token cannot be read. -/
  | token (f : Scanner.Fault)
  /-- An object ends behind a name. -/
  | propertyWithoutValue (name : String)
  /-- A brace closes what it did not open. -/
  | endOfObject
  /-- A bracket closes what it did not open. -/
  | endOfArray
  /-- Something other than a text stands where a name is due. -/
  | propertyName
  /-- The export does not begin with an object. -/
  | envelope (got : Token)
  /-- Something other than a text stands where a label is due. -/
  | label (got : Token)
  /-- The build is not an integer. -/
  | buildNumber (got : Token)
  /-- The records of a kind are not in an array. -/
  | records (kind : Option Kind) (got : Token)
  /-- A section that is passed over closes what it did not open. -/
  | unbalanced (label : String)
  /-- A marker of an attachment does not tell the size of the payload. -/
  | markerSize
  /-- A cause that the caller words. -/
  | stated (reason : String)
  deriving DecidableEq

/-- The wording of a cause. -/
def Malformation.reason : Malformation → String
  | .token f => f.message
  | .propertyWithoutValue name => "Property '" ++ name ++ "' has no value"
  | .endOfObject => "Unexpected end of object"
  | .endOfArray => "Unexpected end of array"
  | .propertyName => "Expected property name"
  | .envelope got => "Expected start of the export envelope, got " ++ got.describe
  | .label got => "Expected record kind label, got " ++ got.describe
  | .buildNumber got => "Expected integer BuildVersion, got " ++ got.describe
  | .records kind got =>
    "Expected start array for " ++ Kind.nameOrNone kind ++ ", got " ++ got.describe
  | .unbalanced name => "Unbalanced value in section '" ++ name ++ "'"
  | .markerSize => "Attachment stream marker has no valid Size"
  | .stated reason => reason

/-- Where a stream ends that should not end there. -/
inductive Shortage where
  /-- Inside a token. -/
  | insideToken
  /-- Where a token is due. -/
  | beforeToken
  /-- Inside the payload of an attachment. -/
  | payload
  /-- A place that the caller words. -/
  | stated (context : String)
  deriving DecidableEq

/-- The wording of a place. -/
def Shortage.context : Shortage → String
  | .insideToken => "stream ended in the middle of a token"
  | .beforeToken => "stream ended while a token was expected"
  | .payload => "attachment payload is shorter than declared"
  | .stated context => context

/-- A failure that ends the import. -/
inductive StreamFault where
  /-- The stream is not well formed. -/
  | malformed (cause : Malformation) (position : Option Nat) (window : Option String)
  /-- The stream ends too soon; for a payload, with the bytes that were due and that came. -/
  | ended (shortage : Shortage) (position : Nat) (expected got : Option Nat)
  /-- A label that nobody knows. -/
  | unknownLabel (label : String) (position : Nat)
  /-- A limit is exceeded. -/
  | limit (what : String) (bound : Nat) (position : Option Nat)
  deriving DecidableEq

namespace StreamFault

/-- A fault of form that does not know its place yet. -/
def unplaced (cause : Malformation) : StreamFault := .malformed cause none none

/-- The fault at a position. -/
def withPosition (p : Nat) : StreamFault → StreamFault
  | .malformed cause _ window => .malformed cause (some p) window
  | .ended shortage _ expected got => .ended shortage p expected got
  | .unknownLabel label _ => .unknownLabel label p
  | .limit what bound _ => .limit what bound (some p)

/-- The fault with the last input before it; only faults of form show it. -/
def withWindow (recent : String) : StreamFault → StreamFault
  | .malformed cause position _ => .malformed cause position (some recent)
  | f => f

/-- The place as messages append it. -/
def atByte (p : Nat) : String := s!" (at byte {p})"

/-- The place, if it is known, as messages append it. -/
def atByte? : Option Nat → String
  | some p => atByte p
  | none => ""

/-- The wording of a fault. -/
def message : StreamFault → String
  | .malformed cause position window =>
    let recent :=
      match window with
      | some w => ", recent input: " ++ Text.quoted w
      | none => ""
    "Invalid export format: " ++ cause.reason ++ atByte? position ++ recent
  | .ended shortage position expected got =>
    let missing :=
      match expected, got with
      | some e, some g => s!" (expected {e} bytes, got {g})"
      | _, _ => ""
    "Unexpected end of stream: " ++ shortage.context ++ missing ++ atByte position
  | .unknownLabel label position =>
    "Got unexpected property name '" ++ label ++ "'" ++ atByte position
  | .limit what bound position => what ++ s!" exceeds limit {bound}" ++ atByte? position

/-- The status of a fault. -/
def status : StreamFault → Status
  | .malformed .. => .invalidFormat
  | .ended .. => .unexpectedEof
  | .unknownLabel .. => .unknownRecordKind
  | .limit .. => .depthLimit

/-- What the operator can do. -/
def hint : StreamFault → String
  | .malformed .. => "The export stream is not valid; re-export it"
  | .ended .. => "The export stream is truncated; check the transfer and retry from the start"
  | .unknownLabel .. => "The stream was produced by a newer exporter; upgrade the importer"
  | .limit .. => "Increase the limit in the import options"

end StreamFault

end ExportStream

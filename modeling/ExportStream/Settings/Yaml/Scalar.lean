import ExportStream.Settings.Value
import ExportStream.Settings.Yaml.Tag
/-!
# Words of YAML texts

A plain text can stand for nothing, for a truth value or for a number, and stands for itself if it
does not look like one of these. A tag can say what a plain text has to be; a text in quotes always
stands for itself.
-/

namespace ExportStream.Settings.Yaml

/-- What a text stands for. A double is kept as it is written. -/
inductive Scalar where
  /-- Nothing. -/
  | absent
  /-- A truth value. -/
  | flag (b : Bool)
  /-- An integer. -/
  | integer (i : Int)
  /-- A double. -/
  | real (written : String)
  /-- The text itself. -/
  | text (s : String)
  deriving DecidableEq

namespace Scalar

/-- The integer of 64 bits that digits behind a sign or none write. -/
def integerIn? (base : Nat) (cs : List Char) : Option Int :=
  (Text.intIn? base cs).bind Decimal.fit64

/-- The integer that a plain text stands for. -/
def integer? (cs : List Char) : Option Int :=
  match cs with
  | '0' :: 'x' :: ds => integerIn? 16 ds
  | '0' :: 'o' :: ds => integerIn? 8 ds
  | '+' :: ds => (integerIn? 10 ds).orElse fun _ => integerIn? 10 cs
  | _ => integerIn? 10 cs

/-- The words for doubles that are not finite. -/
def beyondFinite : List String :=
  [".inf", ".Inf", ".INF", "+.inf", "+.Inf", "+.INF", "-.inf", "-.Inf", "-.INF", ".nan", ".NaN",
    ".NAN"]

/-- The double that a text with a digit in it writes. -/
def extended? (s : String) : Option Extended :=
  if s.toList.any Char.isDigit then Extended.read? (Text.Utf8.bytesOf s) else none

/-- Does a plain text stand for a double? -/
def isReal (s : String) : Bool := beyondFinite.contains s || (extended? s).isSome

/-- What a plain text stands for. -/
def ofPlain (s : String) : Scalar :=
  if ["", "~", "null"].contains s then .absent
  else if s = "true" then .flag true
  else if s = "false" then .flag false
  else
    match integer? s.toList with
    | some i => .integer i
    | none => if isReal s then .real s else .text s

/-- What the tags of the format begin with. -/
def coreHandle : String := "tag:yaml.org,2002:"

/-- What a plain text stands for by a tag of the format, if it is of that kind. -/
def ofCore? (kind s : String) : Option Scalar :=
  match kind with
  | "bool" => if s = "true" then some (.flag true) else if s = "false" then some (.flag false)
    else none
  | "int" => (integerIn? 10 s.toList).map .integer
  | "float" => if isReal s then some (.real s) else none
  | "null" => if s = "~" ∨ s = "null" then some .absent else none
  | _ => some (.text s)

/-- What a text stands for, which may have a tag and be plain. -/
def ofText? (tag : Option Tag) (plain : Bool) (s : String) : Option Scalar :=
  match plain, tag with
  | true, none => some (ofPlain s)
  | true, some t => if t.handle = coreHandle then ofCore? t.suffix s else some (.text s)
  | false, _ => some (.text s)

/-- The value of a setting. A double that is not finite is none by its word. -/
def value? : Scalar → Option Value
  | .absent => some .nothing
  | .flag b => some (.flag b)
  | .integer i => some (.integer i)
  | .real written => (extended? written).map .real
  | .text s => some (.text s)

/-- The name that a key stands for. -/
def name? : Scalar → Option String
  | .absent => none
  | .flag b => some (if b then "true" else "false")
  | .integer i => some (toString i)
  | .real written => some written
  | .text s => some s

end Scalar

end ExportStream.Settings.Yaml

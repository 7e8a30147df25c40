import ExportStream.Decimal.Literal
import ExportStream.Options
import ExportStream.Settings.Environment
import ExportStream.Text.Utf8
/-!
# Arguments

What the program is asked to do. A line of arguments is first read as words (`Word`): operands,
settings with a value, and switches. A setting takes its value from behind an equals sign or from
the next argument; what stands behind two hyphens alone is an operand. The words then make up the
arguments, if there is exactly one operand and no setting or switch is written twice.
-/

namespace ExportStream.CommandLine

/-- A setting, which has a value. -/
inductive Parameter where
  /-- The file of settings. -/
  | config
  /-- The size of the buffer for reading. -/
  | bufferSize
  /-- The directory for payloads. -/
  | attachmentsDirectory
  deriving DecidableEq

/-- A switch, which has none. -/
inductive Switch where
  /-- Keep the versions that old exports state. -/
  | readLegacyEtag
  /-- Write the result as JSON. -/
  | json
  /-- Keep payloads in files. -/
  | keepAttachments
  deriving DecidableEq

/-- A part of a line of arguments. -/
inductive Word where
  /-- An operand. -/
  | operand (text : String)
  /-- A setting and its value. -/
  | parameter (p : Parameter) (value : String)
  /-- A switch. -/
  | switch (s : Switch)
  deriving DecidableEq

/-! ### Words -/

/-- What an argument is by its form. -/
inductive Form where
  /-- An operand, or the value of the setting in front of it. -/
  | plain
  /-- A setting with its value. -/
  | attached (p : Parameter) (value : String)
  /-- A setting whose value comes next. -/
  | awaiting (p : Parameter)
  /-- A switch. -/
  | switch (s : Switch)
  /-- The end of settings and switches. -/
  | divider
  /-- Nothing that there is. -/
  | unknown
  deriving DecidableEq

namespace Form

/-- The settings by name. -/
def parameters : List (String × Parameter) :=
  [("config", .config), ("buffer-size", .bufferSize), ("attachments-dir", .attachmentsDirectory)]

/-- The switches by name. -/
def switches : List (String × Switch) :=
  [("read-legacy-etag", .readLegacyEtag), ("json", .json), ("keep-attachments", .keepAttachments)]

/-- The form of what stands behind two hyphens. -/
def ofLong (cs : List Char) : Form :=
  let name := cs.takeWhile (· ≠ '=')
  match parameters.lookup (String.ofList name), switches.lookup (String.ofList name),
      cs.drop name.length with
  | some p, _, [] => .awaiting p
  | some p, _, _ :: value => .attached p (String.ofList value)
  | none, some s, [] => .switch s
  | _, _, _ => .unknown

/-- The form of what stands behind one hyphen: the letter of a setting, and perhaps its value. -/
def ofShort : List Char → Form
  | ['c'] => .awaiting .config
  | 'c' :: '=' :: value => .attached .config (String.ofList value)
  | 'c' :: value => .attached .config (String.ofList value)
  | _ => .unknown

/-- The form of an argument. A hyphen alone is an operand. -/
def of (argument : String) : Form :=
  match argument.toList with
  | ['-', '-'] => .divider
  | '-' :: '-' :: cs => ofLong cs
  | ['-'] => .plain
  | '-' :: cs => ofShort cs
  | _ => .plain

end Form

/-- The words of a line of arguments. -/
def words? : List String → Option (List Word)
  | [] => some []
  | argument :: rest =>
    match Form.of argument with
    | .plain => (words? rest).map (.operand argument :: ·)
    | .attached p value => (words? rest).map (.parameter p value :: ·)
    | .switch s => (words? rest).map (.switch s :: ·)
    | .divider => some (rest.map .operand)
    | .unknown => none
    | .awaiting p =>
      match rest with
      | [] => none
      | value :: rest =>
        if Form.of value = .plain then (words? rest).map (.parameter p value :: ·) else none

namespace Word

/-- The operand, if the word is one. -/
def operand? : Word → Option String
  | .operand text => some text
  | _ => none

/-- The value, if the word gives one to the setting. -/
def valueOf? (p : Parameter) : Word → Option String
  | .parameter q value => if q = p then some value else none
  | _ => none

end Word

/-! ### Arguments -/

/-- What the program is asked to do. -/
structure Arguments where
  /-- The export. -/
  file : String
  /-- The file of settings. -/
  config : Option String := none
  /-- The size of the buffer for reading. -/
  bufferSize : Option Nat := none
  /-- Are the versions kept that old exports state? -/
  readLegacyEtag : Bool := false
  /-- Is the result written as JSON? -/
  json : Bool := false
  /-- Are payloads kept in files? -/
  keepAttachments : Bool := false
  /-- The directory for these files. -/
  attachmentsDirectory : Option String := none
  deriving DecidableEq

namespace Arguments

/-- The only item of a list that has one, or none of a list that is empty. -/
def atMostOne {α : Type} : List α → Option (Option α)
  | [] => some none
  | [a] => some (some a)
  | _ => none

/-- A path that is not empty. -/
def path? (text : String) : Option String := if text.isEmpty then none else some text

/-- Reads the value of a setting, if there is one. -/
def valueWith {α : Type} (read : String → Option α) : Option String → Option (Option α)
  | none => some none
  | some text => (read text).map some

/-- The value of a setting among words. -/
def given {α : Type} (p : Parameter) (read : String → Option α) (ws : List Word) :
    Option (Option α) := do
  valueWith read (← atMostOne (ws.filterMap (Word.valueOf? p)))

/-- Is a switch among words? It may not be twice. -/
def switched (s : Switch) (ws : List Word) : Option Bool :=
  if ws.count (.switch s) ≤ 1 then some (ws.contains (.switch s)) else none

/-- The arguments that words make up. A directory for payloads is only named when they are kept. -/
def ofWords? (ws : List Word) : Option Arguments := do
  let file ← (← atMostOne (ws.filterMap Word.operand?)).bind path?
  let config ← given .config path? ws
  let bufferSize ← given .bufferSize (fun s => Decimal.nat64? (Text.Utf8.bytesOf s)) ws
  let attachmentsDirectory ← given .attachmentsDirectory path? ws
  let keepAttachments ← switched .keepAttachments ws
  guard (keepAttachments || attachmentsDirectory.isNone)
  return {
    file, config, bufferSize, attachmentsDirectory, keepAttachments
    readLegacyEtag := ← switched .readLegacyEtag ws
    json := ← switched .json ws }

/-- The arguments of a line; a file of settings may also be named in the environment. -/
def read? (e : Environment) (line : List String) : Option Arguments := do
  let a ← ofWords? (← words? line)
  match a.config with
  | some _ => return a
  | none => return { a with config := ← valueWith path? (e.value? "DOCPORT_CONFIG") }

/-- The options under the arguments, which go before what the settings say. -/
def adjust (a : Arguments) (o : Options) : Options :=
  { o with
    bufferSize := a.bufferSize.getD o.bufferSize
    readLegacyEtag := a.readLegacyEtag || o.readLegacyEtag }

end Arguments

end ExportStream.CommandLine

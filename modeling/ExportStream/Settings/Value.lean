import ExportStream.Decimal.Literal
import ExportStream.Settings.Dialect
import ExportStream.Text.Ascii
import ExportStream.Text.Utf8
/-!
# Values of settings

What a file or the environment can say about a setting. Values of settings are read more kindly than
those of an export (`dialect`): a number may be written as a text or as a truth value, a truth value
as a number or as one of a few words. Values lie one upon the other (`upon`): a table is merged with
the one below it, and anything else hides what is there.
-/

namespace ExportStream.Settings

/-- A value of a setting. -/
inductive Value where
  /-- Nothing. -/
  | nothing
  /-- A truth value. -/
  | flag (b : Bool)
  /-- An integer. -/
  | integer (i : Int)
  /-- A double. -/
  | real (x : Extended)
  /-- A text. -/
  | text (s : String)
  /-- A sequence of values. -/
  | list (items : List Value)
  /-- Named values. -/
  | table (fields : List (String × Value))

namespace Value

/-! ### Reading values kindly -/

/-- The truth value that a word stands for. -/
def wordFlag? (word : String) : Option Bool :=
  if word ∈ ["true", "on", "yes"] then some true
  else if word ∈ ["false", "off", "no"] then some false
  else none

/-- A truth value. -/
def flag? : Value → Option Bool
  | .flag b => some b
  | .integer i => some (i ≠ 0)
  | .real x => some (!x.isZero)
  | .text s =>
    let word := Text.lower s
    if word = "1" then some true else if word = "0" then some false else wordFlag? word
  | _ => none

/-- A natural number of 64 bits. -/
def size? : Value → Option Nat
  | .integer i => if 0 ≤ i ∧ i < 0x10000000000000000 then some i.toNat else none
  | .flag b => some b.toNat
  | .real x => some x.toNat64
  | .text s =>
    match wordFlag? (Text.lower s) with
    | some b => some b.toNat
    | none => Decimal.nat64? (Text.Utf8.bytesOf s)
  | _ => none

/-- A text. -/
def text? : Value → Option String
  | .text s => some s
  | .flag b => some (if b then "true" else "false")
  | .integer i => some (toString i)
  | .real x => some x.write
  | _ => none

/-- One of several names: a text, or a table whose only part has the name. -/
def name? : Value → Option String
  | .text s => some s
  | .table [(name, _)] => some name
  | _ => none

/-- Does the value stand for nothing? -/
def isNothing : Value → Bool
  | .nothing => true
  | _ => false

/-- The parts of a structure: a table, or a list, of which more items than there are parts do not
matter. -/
def parts? (names : List String) : Value → Option (String → Option Value)
  | .table fields => some fun name => fields.lookup name
  | .list items => some fun name => items[names.idxOf name]?
  | _ => none

/-- The dialect of settings, which is kind. -/
def dialect : Dialect Value where
  size? := size?
  bool? := flag?
  text? := text?
  name? := name?
  isAbsent := isNothing
  parts? := parts?

/-! ### Laying values upon one another -/

/-- The named values of a table; anything else has none. -/
def fieldsOf : Value → List (String × Value)
  | .table fields => fields
  | _ => []

/-- The items of a list; anything else has none. -/
def itemsOf : Value → List Value
  | .list items => items
  | _ => []

/-- Named values with one of them changed or added. -/
def setField (name : String) (v : Value) : List (String × Value) → List (String × Value)
  | [] => [(name, v)]
  | (k, w) :: rest => if k = name then (k, v) :: rest else (k, w) :: setField name v rest

/-- A table with a named value; what is no table becomes one. -/
def withField (root : Value) (name : String) (v : Value) : Value :=
  .table (setField name v root.fieldsOf)

/-- What is under a name. -/
def under (root : Value) (name : String) : Value := (root.fieldsOf.lookup name).getD .nothing

mutual

/-- Lays a value upon another: a table is merged with what is below, anything else hides it. -/
def upon (below : Value) : Value → Value
  | .table incoming => uponAll (.table below.fieldsOf) incoming
  | v => v

/-- Lays each of several named values upon what is below. -/
def uponAll (below : Value) : List (String × Value) → Value
  | [] => below
  | (k, v) :: rest => uponAll (below.withField k (upon (below.under k) v)) rest

end

end Value

end ExportStream.Settings

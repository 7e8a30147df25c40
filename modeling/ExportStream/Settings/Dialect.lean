import ExportStream.Json.Basic
/-!
# Dialects

Settings and reports are written in more than one notation, and each has its own idea of what stands
for a number or a name. A dialect says how the values of a notation are read as the plain types that
settings are made of; a structure of settings is then read the same way in every dialect, part by
part, from an object with named parts or from an array with the parts in their order.
-/

namespace ExportStream

/-- How the values of a notation are read as plain types. -/
structure Dialect (α : Type) where
  /-- A number of 64 bits that counts something. -/
  size? : α → Option Nat
  /-- A truth value. -/
  bool? : α → Option Bool
  /-- A text. -/
  text? : α → Option String
  /-- One of several names. -/
  name? : α → Option String
  /-- Does the value stand for nothing? -/
  isAbsent : α → Bool
  /-- The parts of a structure with the given names. -/
  parts? : List String → α → Option (String → Option α)

namespace Dialect

variable {α β : Type}

/-- A part that may be missing and then has a default. -/
def partOr (read : α → Option β) (default : β) : Option α → Option β
  | none => some default
  | some v => read v

/-- A value that may stand for nothing. -/
def optionally (d : Dialect α) (read : α → Option β) (v : α) : Option (Option β) :=
  if d.isAbsent v then some none else (read v).map some

/-- A name of one of several things. -/
def choice (d : Dialect α) (ofName? : String → Option β) (v : α) : Option β :=
  (d.name? v).bind ofName?

end Dialect

namespace Json

/-- The value of a part of an object, by its name. -/
def partOfObject (fields : Fields) (name : String) : Option Json := Fields.find? name fields

/-- The value of a part of an array, by the place of its name. -/
def partOfArray (names : List String) (items : List Json) (name : String) : Option Json :=
  items[names.idxOf name]?

/-- Is every name that matters written at most once? -/
def namesOnce (names : List String) (fields : Fields) : Bool :=
  names.all fun n => (fields.map Prod.fst).count n ≤ 1

/-- The parts of a structure: an object that writes none of them twice, or an array that has no more
items than there are parts. -/
def parts? (names : List String) : Json → Option (String → Option Json)
  | .object fields => if namesOnce names fields then some (partOfObject fields) else none
  | .array items => if items.length ≤ names.length then some (partOfArray names items) else none
  | _ => none

/-- One of several names: a text, or an object whose only part has the name and is null. -/
def choiceName? : Json → Option String
  | .string s => some s
  | .object [(name, .null)] => some name
  | _ => none

/-- The dialect of JSON, which is strict. -/
def dialect : Dialect Json where
  size? := nat64?
  bool? := bool?
  text? := text?
  name? := choiceName?
  isAbsent := isNull
  parts? := parts?

end Json

end ExportStream

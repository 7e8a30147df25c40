import ExportStream.Decimal.Literal
import ExportStream.Log.Notice
import ExportStream.Log.Pattern
import ExportStream.Text.Blank
import ExportStream.Text.Letter
import ExportStream.Text.Search
import ExportStream.Text.Utf8
/-!
# Filters of notices

A filter says which notices are logged. It is written as directives between commas; a directive has
a level, the beginning of the names of the parts of the program that it is for, and the names of
values that a notice has to have. Of the directives that a notice falls under the most special one
decides, the one with the longest beginning. A directive may also be for spans of work, of which
this program has none, so that it lets nothing through; a value that is asked for by a number or a
pattern is one of a span.
-/

namespace ExportStream

/-- A part of a filter. -/
structure Directive where
  /-- The last level that passes, or none if nothing does. -/
  level : Option Level := some .trace
  /-- The beginning of the parts of the program it is for. -/
  target : Option String := none
  /-- The span of work it is for. -/
  span : Option String := none
  /-- The values that a notice has to have, and whether a certain one is asked for. -/
  fields : List (String × Bool) := []
  deriving DecidableEq

namespace Directive

/-! ### Reading directives -/

/-- The levels by name. -/
def levelNames : List (String × Option Level) :=
  [("", some .error), ("off", none), ("error", some .error), ("warn", some .warn),
    ("info", some .info), ("debug", some .debug), ("trace", some .trace)]

/-- The levels by number. -/
def levelNumbers : List (Option Level) :=
  [none, some .error, some .warn, some .info, some .debug, some .trace]

/-- The level that a text names or numbers. -/
def level? (text : String) : Option (Option Level) :=
  let byNumber := (Decimal.nat64? (Text.Utf8.bytesOf text)).bind fun n => levelNumbers[n]?
  byNumber.or (levelNames.lookup (Text.lower text))

/-- A directive while it is read. Its end is found in the text without the blanks around it, but its
parts are cut out of the text with them: behind blanks at the front every part is cut out as many
places too early. -/
structure Source where
  /-- The bytes of the text with its blanks. -/
  bytes : List UInt8

/-- A source without an end. -/
def Source.from (s : Source) (start : Nat) : String := Text.Utf8.lossy (s.bytes.drop start)

/-- A part of a source. -/
def Source.cut (s : Source) (start stop : Nat) : String :=
  Text.Utf8.lossy ((s.bytes.drop start).take (stop - start))

/-- The number of bytes of characters. -/
def width (cs : List Char) : Nat := (Text.Utf8.encode cs).length

/-- A level, or a beginning of names for which everything passes. -/
def ofWord (word : String) : Directive :=
  match level? word with
  | some level => { level }
  | none => { target := some word }

/-- The level behind the equals sign; without one everything passes. -/
def withLevel (d : Directive) (text : String) : Option Directive :=
  if text = "" then some d else (level? text).map fun level => { d with level }

/-- What may follow a span, at a place: nothing, or a level. -/
def afterSpan (s : Source) (d : Directive) (place : Nat) : List Char → Option Directive
  | [] => some d
  | '=' :: _ => d.withLevel (s.from (place + 1))
  | _ => none

/-- The kinds of values that are asked for as such, and not by a pattern: truth values and
numbers. -/
def isPlainValue (cs : List Char) : Bool :=
  let bytes := Text.Utf8.encode cs
  cs = "true".toList || cs = "false".toList || (Decimal.int64? bytes).isSome ||
    (Decimal.nat64? bytes).isSome || (Extended.read? bytes).isSome

/-- A value that a notice has to have, and whether a certain one is asked for. -/
def field? (text : String) : Option (String × Bool) :=
  match Text.pieces '=' text.toList with
  | [] => none
  | [name] => if name.isEmpty then none else some (String.ofList name, false)
  | name :: value :: _ =>
    if isPlainValue value || isPattern value then some (String.ofList name, true) else none

/-- What stands behind the opening bracket of a span, at a place. -/
def inSpan (s : Source) (d : Directive) (place : Nat) (cs : List Char) : Option Directive :=
  let name := cs.takeWhile fun c => c ≠ ']' ∧ c ≠ '\x7b'
  let stop := place + width name
  let named := s.cut place stop
  match cs.drop name.length with
  | ']' :: rest => ({ d with span := some named } : Directive).afterSpan s (stop + 1) rest
  | '\x7b' :: rest =>
    let inner := rest.takeWhile (· ≠ '\x7d')
    let stop' := stop + 1 + width inner
    match rest.drop inner.length with
    | '\x7d' :: ']' :: rest => do
      let f ← field? (s.cut (stop + 1) stop')
      let span := if named = "" then none else some named
      ({ d with span, fields := [f] } : Directive).afterSpan s (stop' + 2) rest
    | _ => none
  | _ => none

/-- May a directive start with the character? -/
def mayStart (c : Char) : Bool := c = '-' || c = ':' || c = '_' || Text.isLetterOrNumber c

/-- Reads a directive. -/
def read? (cs : List Char) : Option Directive :=
  let s : Source := ⟨Text.Utf8.encode cs⟩
  match Text.trimmed cs with
  | [] => none
  | '[' :: rest => ({} : Directive).inSpan s 1 rest
  | c :: rest =>
    if mayStart c then
      let cs := c :: rest
      let front := cs.takeWhile fun c => c ≠ '=' ∧ c ≠ '['
      let stop := width front
      let d : Directive := { target := some (s.cut 0 stop) }
      match cs.drop front.length with
      | '=' :: _ => d.withLevel (s.from (stop + 1))
      | '[' :: rest => d.inSpan s (stop + 1) rest
      | _ => some (ofWord (s.from 0))
    else none

/-! ### What a directive is for -/

/-- Is the directive for spans of work only? -/
def isForSpans (d : Directive) : Bool := d.span.isSome || d.fields.any Prod.snd

/-- Does a notice fall under the directive? -/
def covers (d : Directive) (n : Notice) : Bool :=
  d.target.all (fun t => t.toList.isPrefixOf n.target.toList) &&
    d.fields.all fun f => n.names.contains f.1

/-- How special a directive is: the length of its beginning, and the names of the values. -/
def rank (d : Directive) : Nat × List String :=
  (d.target.elim 0 fun t => t.utf8ByteSize + 1, d.fields.map Prod.fst)

/-- Are the names of one list at most those of another, the first that differ deciding? -/
def namesUpTo : List String → List String → Bool
  | [], _ => true
  | _ :: _, [] => false
  | x :: xs, y :: ys => if x = y then namesUpTo xs ys else x < y

/-- Does the second directive decide over the first? More values go before fewer, then the greater
name, and a later directive decides over its equal. -/
def yieldsTo (a b : Directive) : Bool :=
  let (m, xs) := a.rank
  let (n, ys) := b.rank
  m < n || (m = n && (xs.length < ys.length || (xs.length = ys.length && namesUpTo xs ys)))

/-- Does the directive let a notice through? -/
def admits (d : Directive) (n : Notice) : Bool :=
  d.level.any fun l => n.level.rank ≤ l.rank

end Directive

/-- Which notices are logged. -/
structure Filter where
  /-- The directives, in order. -/
  directives : List Directive
  deriving DecidableEq

namespace Filter

/-- Reads a filter; an empty one lets errors through. -/
def read? (text : String) : Option Filter := do
  let parts := (Text.pieces ',' text.toList).filter fun p => !p.isEmpty
  let directives ← parts.mapM Directive.read?
  return ⟨if directives.isEmpty then [{ level := some .error }] else directives⟩

/-- The directive that decides over a notice. -/
def deciding? (f : Filter) (n : Notice) : Option Directive :=
  (f.directives.filter fun d => !d.isForSpans && d.covers n).foldl
    (fun best d =>
      match best with
      | some b => if b.yieldsTo d then some d else some b
      | none => some d)
    none

/-- Does the filter let a notice through? -/
def admits (f : Filter) (n : Notice) : Bool := (f.deciding? n).any fun d => d.admits n

/-- The filter that a text of the environment asks for, or else the one of the settings. -/
def choose (requested : Option String) (directive : String) : Filter :=
  match requested.bind read? with
  | some f => f
  | none => (read? directive).getD ⟨[{ level := some .info }]⟩

end Filter

end ExportStream

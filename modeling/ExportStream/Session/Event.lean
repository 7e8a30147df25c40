import ExportStream.Fault.Failure
import ExportStream.Record.Basic
/-!
# Events

What a whole import tells whoever asked for it: the header, each record, and the end. A handler
takes the events with a state of its own; it can refuse an event, which ends the import.
-/

namespace ExportStream

/-- What an import tells. -/
inductive Event where
  /-- The beginning of the export is read. -/
  | header (build : Int) (generation : Generation)
  /-- A record that is told as one of a kind. -/
  | record (kind : Kind) (r : Record)
  /-- The last brace of the export is read. -/
  | finish

/-- The kind of records that an event belongs to. -/
def Event.kind : Event → Option Kind
  | .record k r => some (r.kindAs k)
  | _ => none

/-- Whoever asked for an import, with a state of its own. -/
structure Handler (σ : Type) where
  /-- Takes an event. -/
  handle : Event → σ → Except Failure Unit × σ
  /-- Are the records of a kind wanted? -/
  wants : Kind → σ → Bool := fun _ _ => true
  /-- What is done when all went well. -/
  finalize : σ → Except Failure Unit × σ := fun st => (.ok (), st)

namespace Handler

/-- A handler that takes every event. -/
def ofFold {σ : Type} (f : Event → σ → σ) : Handler σ := { handle := fun e st => (.ok (), f e st) }

end Handler

/-! ### Collecting records -/

/-- All records of an import, and whether it came to its end. -/
structure Collection where
  /-- The build, if the header was seen. -/
  build : Option Int := none
  /-- The records with their kinds, in order. -/
  records : Array (Kind × Record) := #[]
  /-- Did the import come to its end? -/
  finished : Bool := false

namespace Collection

/-- Keeps what an event tells. -/
def add (e : Event) (c : Collection) : Collection :=
  match e with
  | .header build _ => { c with build := some build }
  | .record k r => { c with records := c.records.push (r.kindAs k, r) }
  | .finish => { c with finished := true }

/-- A handler that keeps all records. -/
def handler : Handler Collection := .ofFold add

/-- The records of a kind, in order. -/
def ofKind (c : Collection) (k : Kind) : List Record :=
  (c.records.toList.filter fun r => r.1 = k).map Prod.snd

end Collection

/-! ### Counting records -/

/-- How many records of each kind an import had. -/
structure Census where
  /-- The kinds of the records, last first. -/
  kinds : List Kind := []
  /-- The attachments that came with documents. -/
  attachments : Nat := 0
  /-- Did the import come to its end? -/
  finished : Bool := false
  deriving DecidableEq

namespace Census

/-- Counts what an event tells. -/
def add (e : Event) (c : Census) : Census :=
  match e with
  | .header .. => c
  | .record k r =>
    { c with kinds := r.kindAs k :: c.kinds, attachments := c.attachments + r.attachmentCount }
  | .finish => { c with finished := true }

/-- A handler that counts records. -/
def handler : Handler Census := .ofFold add

/-- The number of records of a kind. -/
def count (c : Census) (k : Kind) : Nat := c.kinds.count k

/-- The numbers of the kinds that had records, in the order of the kinds. -/
def counts (c : Census) : List (Kind × Nat) :=
  (Kind.all.map fun k => (k, c.count k)).filter fun p => p.2 ≠ 0

end Census

end ExportStream

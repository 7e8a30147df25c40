import ExportStream.Fault.Failure
/-!
# Sinks

Where the payload of an attachment goes. A payload can be written to anything that takes some of the
bytes that it is offered, or fails, and that can be flushed (`Writer`). An offer that is only
interrupted is repeated, so that the answer is that of the first one which is not. A write is
complete when all bytes are taken, and fails when none of an offer are.

The sinks of an import (`Sink`) take and refuse by the bytes that they hold and those that they are
offered. They are made one for each payload (`Sinks`), by a maker that is given the tag of the
payload and the number of sinks that it was asked for before.
-/

namespace ExportStream

/-! ### Writers -/

/-- What bytes are written to. -/
class Writer (ω : Type) where
  /-- Offers bytes; the answer is how many of them were taken, from the front. -/
  offer : ω → List UInt8 → Except DeviceFault Nat × ω
  /-- Has what was taken put in its place. -/
  flush : ω → Except DeviceFault Unit × ω

namespace Writer

variable {ω : Type} [Writer ω]

/-- The fault of a write that took nothing. -/
def nothingTaken : DeviceFault := ⟨.writeZero, "failed to write whole buffer"⟩

/-- Offers bytes until all are taken. -/
def write (w : ω) : List UInt8 → Except DeviceFault Unit × ω
  | [] => (.ok (), w)
  | b :: bs =>
    match offer w (b :: bs) with
    | (.error f, w) => (.error f, w)
    | (.ok 0, w) => (.error nothingTaken, w)
    | (.ok (n + 1), w) => write w (bs.drop n)
termination_by bytes => bytes.length
decreasing_by simp only [List.length_drop, List.length_cons]; omega

end Writer

/-! ### Sinks -/

/-- A sink. -/
structure Sink where
  /-- Are the bytes kept? -/
  keeps : Bool := true
  /-- How many bytes of an offer are taken, given the bytes held, by a write that is not
  interrupted. -/
  accepts : List UInt8 → List UInt8 → Except DeviceFault Nat := fun _ offer => .ok offer.length
  /-- The outcome of flushing. -/
  flushing : Except DeviceFault Unit := .ok ()
  /-- The bytes held. -/
  held : List UInt8 := []

namespace Sink

/-- A sink that keeps all bytes. -/
def memory : Sink := {}

/-- A sink that takes all bytes and keeps none. -/
def discard : Sink := { keeps := false }

/-- The sink with more bytes. -/
def take (s : Sink) (bytes : List UInt8) : Sink :=
  if s.keeps then { s with held := s.held ++ bytes } else s

instance : Writer Sink where
  offer s bytes :=
    match s.accepts s.held bytes with
    | .error f => (.error f, s)
    | .ok n => (.ok n, s.take (bytes.take n))
  flush s := (s.flushing, s)

/-- What is taken of an offer is at its front. -/
theorem offer_eq {s : Sink} {bytes : List UInt8} {n : Nat} (h : s.accepts s.held bytes = .ok n) :
    Writer.offer s bytes = (.ok n, s.take (bytes.take n)) := by
  simp only [Writer.offer, h]

/-- The bytes that the sink kept, if it keeps any. -/
def content? (s : Sink) : Option (List UInt8) := if s.keeps then some s.held else none

end Sink

/-- A maker of sinks. -/
structure Sinks where
  /-- The sink for a tag, given the number of sinks asked for before. -/
  make : Nat → String → Except Failure Sink
  /-- The number of sinks asked for. -/
  asked : Nat := 0

namespace Sinks

/-- Asks for the sink of a tag. -/
def create (s : Sinks) (tag : String) : Except Failure Sink × Sinks :=
  (s.make s.asked tag, { s with asked := s.asked + 1 })

/-- Sinks that keep all bytes. -/
def memory : Sinks := { make := fun _ _ => .ok Sink.memory }

/-- Sinks that keep nothing. -/
def discard : Sinks := { make := fun _ _ => .ok Sink.discard }

/-- Sinks in the files of a directory that is there. -/
def files : Sinks := memory

/-- Sinks in files that cannot be made. -/
def unavailable (f : DeviceFault) : Sinks :=
  { make := fun _ tag =>
      .error ((Failure.ofDevice f).within ("Creating temp file for attachment '" ++ tag ++ "'")) }

/-- Sinks in the files of a directory that is missing. -/
def missingDirectory : Sinks := unavailable .missing

/-- What a maker of faulty sinks gets wrong. -/
structure Defects where
  /-- The most bytes that a write takes. -/
  short : Option Nat := none
  /-- The bytes that a sink can hold. -/
  limit : Option Nat := none
  /-- The fault of a write to a full sink; without one it takes nothing. -/
  full : Option DeviceFaultKind := none
  /-- The fault of flushing. -/
  flush : Option DeviceFaultKind := none
  /-- The tag that no sink is made for. -/
  refuse : Option String := none

/-- How many bytes of an offer a faulty sink takes. -/
def Defects.accepts (d : Defects) (held offer : List UInt8) : Except DeviceFault Nat :=
  let n := d.short.elim offer.length (min offer.length)
  match d.limit with
  | none => .ok n
  | some limit =>
    if limit ≤ held.length then
      match d.full with
      | some kind => .error ⟨kind, "sink is full"⟩
      | none => .ok 0
    else .ok (min n (limit - held.length))

/-- Sinks with defects. -/
def faulty (d : Defects) : Sinks :=
  { make := fun _ tag =>
      if d.refuse = some tag then
        .error (.general .permissionDenied ("sink refused '" ++ tag ++ "'"))
      else
        .ok
          { accepts := d.accepts
            flushing :=
              match d.flush with
              | some kind => .error ⟨kind, "flush failed"⟩
              | none => .ok () } }

end Sinks

end ExportStream

import ExportStream.Fault.Device
/-!
# Supplies of bytes

Where the bytes of a stream come from, and in what portions. A read asks for a number of bytes and
gets fewer where the supply has fewer, where the next portion is smaller, or where a fault is due
before. A fault that is due is reported once, in place of bytes; only the first of the faults is
watched for, so that one whose place is already passed holds back those behind it.
-/

namespace ExportStream

/-- A fault that is due when so many bytes are given. -/
structure DueFault where
  /-- The bytes given before it. -/
  offset : Nat
  /-- The fault. -/
  fault : DeviceFault
  deriving DecidableEq

/-- A supply of bytes. -/
structure Supply where
  /-- The bytes that are left. -/
  rest : List UInt8
  /-- The number of bytes given. -/
  given : Nat := 0
  /-- The sizes of the portions, over and over; without any, a portion is as large as wanted. -/
  portions : List Nat := []
  /-- The number of reads that succeeded. -/
  reads : Nat := 0
  /-- The faults, in the order in which they are watched for. -/
  faults : List DueFault := []
  deriving DecidableEq

namespace Supply

/-- The size of the next portion. -/
def portion? (s : Supply) : Option Nat :=
  (s.portions[s.reads % s.portions.length]?).map (max 1)

/-- The bytes before the first fault, if that is still ahead. -/
def beforeFault? (s : Supply) : Option Nat :=
  match s.faults with
  | f :: _ => if s.given < f.offset then some (f.offset - s.given) else none
  | [] => none

/-- How many bytes a read may get that wants `n`. -/
def allowance (s : Supply) (n : Nat) : Nat :=
  let n := (s.portion?).elim n (min n)
  (s.beforeFault?).elim n (min n)

/-- The supply after giving `n` bytes. -/
def give (s : Supply) (n : Nat) : List UInt8 × Supply :=
  (s.rest.take n,
    { s with
      rest := s.rest.drop n
      given := s.given + (s.rest.take n).length
      reads := s.reads + 1 })

/-- Reads at most `n` bytes; none are read at the end only, or where none are wanted. -/
def read (s : Supply) (n : Nat) : Except DeviceFault (List UInt8) × Supply :=
  match s.faults with
  | f :: faults =>
    if f.offset = s.given then (.error f.fault, { s with faults })
    else
      let (bytes, s) := s.give (s.allowance n)
      (.ok bytes, s)
  | [] =>
    let (bytes, s) := s.give (s.allowance n)
    (.ok bytes, s)

/-- Does the fault ask for the read to be repeated here? -/
def interruptsAt (given : Nat) (f : DueFault) : Bool :=
  f.offset = given && f.fault.kind = .interrupted

/-- The supply behind the interruptions that are due. -/
def settled (s : Supply) : Supply :=
  { s with faults := s.faults.dropWhile (interruptsAt s.given) }

@[simp] theorem rest_settled (s : Supply) : s.settled.rest = s.rest := rfl

/-- Reads at most `n` bytes, repeating a read that is interrupted. -/
def readPatiently (s : Supply) (n : Nat) : Except DeviceFault (List UInt8) × Supply :=
  s.settled.read n

/-- Giving bytes takes exactly them from what is left. -/
theorem give_append (s : Supply) (n : Nat) : (s.give n).1 ++ (s.give n).2.rest = s.rest :=
  List.take_append_drop n s.rest

/-- What a read gives and what it leaves make up what there was. -/
theorem read_append {s s' : Supply} {n : Nat} {bytes : List UInt8}
    (h : s.read n = (.ok bytes, s')) : bytes ++ s'.rest = s.rest := by
  unfold read at h
  split at h
  · split at h
    · simp at h
    · simp only [Prod.mk.injEq, Except.ok.injEq] at h
      rw [← h.1, ← h.2]; exact give_append s _
  · simp only [Prod.mk.injEq, Except.ok.injEq] at h
    rw [← h.1, ← h.2]; exact give_append s _

/-- A read that fails gives nothing away. -/
theorem read_error {s s' : Supply} {n : Nat} {f : DeviceFault} (h : s.read n = (.error f, s')) :
    s'.rest = s.rest := by
  unfold read at h
  split at h
  · split at h
    · simp only [Prod.mk.injEq, Except.error.injEq] at h; rw [← h.2]
    · simp at h
  · simp at h

/-- What a patient read gives and what it leaves make up what there was. -/
theorem readPatiently_append {s s' : Supply} {n : Nat} {bytes : List UInt8}
    (h : s.readPatiently n = (.ok bytes, s')) : bytes ++ s'.rest = s.rest := by
  rw [← rest_settled s]; exact read_append h

/-- A patient read that fails gives nothing away. -/
theorem readPatiently_error {s s' : Supply} {n : Nat} {f : DeviceFault}
    (h : s.readPatiently n = (.error f, s')) : s'.rest = s.rest := by
  rw [← rest_settled s]; exact read_error h

end Supply

end ExportStream

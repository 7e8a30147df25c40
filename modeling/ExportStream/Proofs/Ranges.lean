import ExportStream.Proofs.Journeys
import ExportStream.Proofs.Memories
/-!
# Nothing is out of range

A machine reads tokens and copies payloads by indices, in any order. What it does is a row of readings
(`Indexed.Machine.Course`). Wherever it has come to, it is safe (`Indexed.Machine.Safe`): its indices
are in order, and whatever it reads next no access is out of range. It has read no more tokens than
there are bytes, and called the supply no more often, apart from one call for each failure and from
those that were interrupted (`Indexed.Machine.Course.inRange`).

Every import is such a machine. Its session takes a course, without a failure if it succeeds and with
one at most if it fails (`Import.journey_run`); readings of a session are readings of a machine that
stands for it (`Indexed.Machine.exists_course`). So an import comes to its end in range and within
these bounds (**`Import.run_in_range`**). That it comes to an end at all is in the definition of
`Import.run`: each of its loops is a recursion on what is left of the stream (`Session.fuel`), and so
are those of the machine.
-/

namespace ExportStream

namespace Indexed

namespace Machine

/-- The machine at the start, with buffers of zeros. -/
def start (supply : Supply) (options : Options) : Machine where
  memory := .start supply options.bufferSize options.diagnosticWindow
  copier := .start options.writeBufferSize
  buffer := List.replicate (Copier.start options.writeBufferSize).bufferSize 0

/-- What a machine stands for. -/
def intake (x : Machine) : Intake := ⟨x.memory.cursor, x.copier⟩

/-- The machine at work on a payload. -/
def porter (x : Machine) (sink : Sink) : Porter := { x with sink }

/-- A reading, with the number of tokens that it brings and of failures: no access of it is out of
range. -/
inductive Reading : Nat → Nat → Machine → Machine → Prop where
  /-- A token is read, or fails to be. -/
  | token {x : Machine} {m : Memory} {r : Except Failure Token} :
      x.memory.readToken = some (r, m) → Reading (found r) (lost r) x { x with memory := m }
  /-- A payload is copied, or fails to be. -/
  | payload {x : Machine} {sink : Sink} {size : Nat} {r : Except Failure String} {w : Porter} :
      (x.porter sink).copy size = some (r, w) → Reading 0 (lost r) x w.toMachine
  /-- Something is noted. -/
  | noted (x : Machine) (n : Notice) : Reading 0 0 x { x with memory := x.memory.note n }

/-- Readings, one after the other. -/
inductive Course : Nat → Nat → Machine → Machine → Prop where
  /-- There is none. -/
  | refl (x : Machine) : Course 0 0 x x
  /-- One more is taken. -/
  | tail {tokens failures tokens' failures' : Nat} {x y z : Machine} :
      Course tokens failures x y → Reading tokens' failures' y z →
      Course (tokens + tokens') (failures + failures') x z

/-- The indices are in order and whatever is read next, no access is out of range; and it is read as
the cursor and the copier read it. -/
structure Safe (x : Machine) : Prop where
  /-- No more is used than was filled. -/
  pos_le : x.memory.pos ≤ x.memory.len
  /-- No more was filled than the buffer holds. -/
  len_le : x.memory.len ≤ x.memory.buffer.length
  /-- A token can be read. -/
  token : ∃ r m, x.memory.readToken = some (r, m) ∧ x.memory.cursor.readToken = (r, m.cursor)
  /-- A payload of any size can be copied. -/
  payload : ∀ sink size, ∃ r w, (x.porter sink).copy size = some (r, w) ∧
    (x.porter sink).copying.copy size = (r, w.copying)

/-- What holds wherever a machine has come to that started with a supply: it is safe, and has read and
called no more than the bytes allow. -/
structure InRange (supply : Supply) (tokens failures : Nat) (x : Machine) : Prop where
  /-- Nothing that it reads next is out of range. -/
  safe : x.Safe
  /-- Every token used a byte. -/
  tokens_le : tokens ≤ supply.rest.length
  /-- Every read that was not interrupted brought a byte or belongs to a failure. -/
  calls_le : supply.Steady → x.memory.calls ≤ supply.rest.length + failures

/-! ### Machines are safe -/

variable {s : Supply} {x y : Machine} {tokens failures : Nat}

theorem Sound.safe (h : x.Sound s) : x.Safe where
  pos_le := h.memory.pos_le
  len_le := h.memory.len_le
  token := by
    obtain ⟨r, m, hread, -, hcursor⟩ := Memory.readToken_spec h.memory
    exact ⟨r, m, hread, hcursor⟩
  payload := by
    intro sink size
    obtain ⟨r, w, hcopy, -, hcopying⟩ := Porter.copy_spec (w := x.porter sink) h size
    exact ⟨r, w, hcopy, hcopying⟩

theorem sound_start (supply : Supply) (options : Options) : (start supply options).Sound supply where
  memory :=
    { pos_le := Nat.le_refl _
      len_le := Nat.zero_le _
      window_le := Nat.zero_le _
      known := by simp [start, Memory.start]
      calls_eq := fun hs => ⟨hs, rfl⟩ }
  length_eq := List.length_replicate

theorem intake_start (supply : Supply) (options : Options) (tally : Tally) :
    (start supply options).intake = (Session.start supply options tally).intake := by
  simp [start, Memory.start, intake, Session.intake, Session.start, Memory.cursor, Cursor.start,
    WatchedSupply.start, Watched.start, scannerOf]

/-- A reading keeps the machine in order, and is one of what it stands for. -/
theorem Reading.sound (h : Reading tokens failures x y) (hx : x.Sound s) :
    y.Sound s ∧ x.intake.Reading tokens failures y.intake := by
  cases h with
  | token hread =>
    obtain ⟨r, m, hread', hsound, hcursor⟩ := Memory.readToken_spec hx.memory
    cases hread'.symm.trans hread
    exact ⟨⟨hsound, hx.length_eq⟩, .token x.copier hcursor⟩
  | @payload _ sink size r w hcopy =>
    obtain ⟨r, w', hcopy', hsound, hcopying⟩ := Porter.copy_spec (w := x.porter sink) hx size
    cases hcopy'.symm.trans hcopy
    exact ⟨hsound, .payload hcopying⟩
  | noted _ n =>
    have hm := hx.memory
    exact ⟨⟨⟨hm.pos_le, hm.len_le, hm.window_le, hm.known, hm.calls_eq⟩, hx.length_eq⟩,
      .noted _ x.copier n⟩

theorem Course.sound (h : Course tokens failures x y) (hx : x.Sound s) :
    y.Sound s ∧ x.intake.Course tokens failures y.intake := by
  induction h with
  | refl x => exact ⟨hx, .refl _⟩
  | tail _ hreading ih =>
    obtain ⟨hsound, hcourse⟩ := ih hx
    obtain ⟨hsound', hreading'⟩ := hreading.sound hsound
    exact ⟨hsound', hcourse.tail hreading'⟩

/-- **Wherever a machine has come to, it is in range.** -/
theorem Course.inRange {supply : Supply} {options : Options}
    (h : Course tokens failures (start supply options) x) : x.InRange supply tokens failures := by
  obtain ⟨hsound, hcourse⟩ := h.sound (sound_start supply options)
  rw [intake_start supply options {}] at hcourse
  obtain ⟨htokens, hreads, hposition, hbytes⟩ := hcourse.bounds
  have hcount : x.intake.cursor.reads = x.memory.supply.reads := rfl
  refine ⟨hsound.safe, by omega, ?_⟩
  intro hs
  obtain ⟨-, hcalls⟩ := hsound.memory.calls_eq hs
  omega

/-! ### Readings of a session are those of a machine -/

theorem exists_reading {u v : Intake} (h : u.Reading tokens failures v) (hx : x.Sound s)
    (hu : x.intake = u) : ∃ y, Reading tokens failures x y ∧ y.intake = v := by
  cases h with
  | token p hread =>
    cases hu
    obtain ⟨r, m, hread', -, hcursor⟩ := Memory.readToken_spec hx.memory
    cases hcursor.symm.trans hread
    exact ⟨_, .token hread', rfl⟩
  | @payload w w' size r hcopy =>
    obtain ⟨r', v, hcopy', -, hcopying⟩ := Porter.copy_spec (w := x.porter w.sink) hx size
    have hcursor : x.memory.cursor = w.cursor := congrArg Intake.cursor hu
    have hcopier : x.copier = w.copier := congrArg Intake.copier hu
    have hw : (x.porter w.sink).copying = w := by
      rw [porter, Porter.copying, hcursor, hcopier]
    rw [hw, hcopy] at hcopying
    cases hcopying
    exact ⟨_, .payload hcopy', rfl⟩
  | noted c p n =>
    cases hu
    exact ⟨_, .noted x n, rfl⟩

theorem exists_course {u v : Intake} (h : u.Course tokens failures v) (hx : x.Sound s)
    (hu : x.intake = u) : ∃ y, Course tokens failures x y ∧ y.intake = v := by
  induction h with
  | refl u => exact ⟨x, .refl x, hu⟩
  | tail _ hreading ih =>
    obtain ⟨y, hcourse, hy⟩ := ih hu
    obtain ⟨z, hreading', hz⟩ := exists_reading hreading (hcourse.sound hx).1 hy
    exact ⟨z, hcourse.tail hreading', hz⟩

end Machine

end Indexed

namespace Import

open Indexed

variable {σ : Type}

/-- **Imports end in range.** Whatever is read by indices from a stream, in portions of any size, no
access is out of range. And an import of the stream, with any options, sinks and handler, takes its
readings as a machine does up to where it ends, none of them failed if it succeeds and at most one if
it fails. So it reads at most as many tokens as there are bytes, and calls a supply that is at most
interrupted once more than that at most, besides the calls that are interrupted. -/
theorem run_in_range (supply : Supply) (options : Options) (tally : Tally) (sinks : Sinks)
    (h : Handler σ) (state : σ) :
    (∀ tokens failures x, Machine.Course tokens failures (.start supply options) x →
      x.InRange supply tokens failures) ∧
    ∃ tokens failures x, Machine.Course tokens failures (.start supply options) x ∧
      failures ≤ lost (run supply options tally sinks h state).1 ∧
      x.intake = (run supply options tally sinks h state).2.session.intake ∧
      tokens ≤ supply.rest.length ∧
      (supply.Steady → x.memory.calls ≤ supply.rest.length + 1) := by
  refine ⟨fun _ _ _ hcourse => hcourse.inRange, ?_⟩
  rcases hr : run supply options tally sinks h state with ⟨r, j⟩
  obtain ⟨tokens, failures, hcourse, hlost⟩ := (journey_run hr).course
  obtain ⟨x, hmachine, hx⟩ := Machine.exists_course hcourse (Machine.sound_start supply options)
    (Machine.intake_start supply options tally)
  have hrange := hmachine.inRange
  have hone := lost_le_one r
  refine ⟨tokens, failures, x, hmachine, hlost, hx, hrange.tokens_le, ?_⟩
  intro hs
  have hcalls := hrange.calls_le hs
  omega

/-- The bytes `{"Docs":[1,tru]` one by one, with two interruptions: the last word is cut off, so the
closing bracket is refused, after as many calls as there are bytes. -/
theorem run_in_range_of_interrupted :
    let supply : Supply :=
      { rest := [123, 34, 68, 111, 99, 115, 34, 58, 91, 49, 44, 116, 114, 117, 93]
        portions := [1]
        faults := [⟨0, .interrupted, "again"⟩, ⟨4, .interrupted, "again"⟩] }
    let options : Options := { bufferSize := 4, diagnosticWindow := 8 }
    supply.Steady ∧
      ∃ tokens failures x, Machine.Course tokens failures (.start supply options) x ∧
        x.intake = (run supply options {} .memory Collection.handler {}).2.session.intake ∧
        tokens ≤ 15 ∧ x.memory.calls ≤ 16 ∧ x.memory.supply.reads = 15 := by
  intro supply options
  have hsteady : supply.Steady := by simp [Supply.Steady, supply]
  obtain ⟨-, tokens, failures, x, hcourse, -, hx, htokens, hcalls⟩ :=
    run_in_range supply options {} .memory Collection.handler {}
  have hreads : (run supply options {} .memory Collection.handler {}).2.session.intake.cursor.reads =
      15 := by decide +kernel
  rw [← hx] at hreads
  exact ⟨hsteady, tokens, failures, x, hcourse, hx, htokens, hcalls hsteady, hreads⟩

end Import

end ExportStream

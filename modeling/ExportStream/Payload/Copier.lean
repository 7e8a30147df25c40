import ExportStream.Digest.ContentHash
import ExportStream.Payload.Sink
import ExportStream.Stream.Cursor
/-!
# Copying payloads

The payload of an attachment stands in the stream right behind its marker, as raw bytes. A copier
moves exactly the declared number of bytes into a writer, through a buffer of its own, and answers
the hash of what it moved.
-/

namespace ExportStream

/-- A copier of payloads. -/
structure Copier where
  /-- The size of the buffer, which is not zero. -/
  bufferSize : Nat
  /-- Was the buffer ever needed? -/
  allocated : Bool := false
  /-- The number of bytes moved. -/
  copied : Nat := 0
  deriving DecidableEq

/-- A copy at work. -/
structure Copying (ω : Type := Sink) where
  /-- The copier. -/
  copier : Copier
  /-- Where the bytes come from. -/
  cursor : Cursor
  /-- Where they go. -/
  sink : ω

namespace Copier

/-- A copier with a buffer of the given size. -/
def start (bufferSize : Nat) : Copier := { bufferSize := max bufferSize 1 }

end Copier

namespace Copying

variable {ω : Type}

/-- The failure of a payload that is shorter than declared. -/
def tooShort (w : Copying ω) (size left : Nat) : Failure :=
  .ofStream (.ended .payload w.cursor.position (some size) (some (size - left)))

variable [Writer ω]

/-- Moves the bytes that are left of a payload; `moved` are the parts moved before, last first. -/
def move (w : Copying ω) (size left : Nat) (moved : List (List UInt8)) :
    Except Failure (List (List UInt8)) × Copying ω :=
  if left = 0 then (.ok moved, w)
  else
    match w.cursor.readRaw (min left w.copier.bufferSize) with
    | (.error f, cursor) => (.error f, { w with cursor })
    | (.ok [], cursor) =>
      let w := { w with cursor }
      (.error (w.tooShort size left), w)
    | (.ok (b :: bs), cursor) =>
      match Writer.write w.sink (b :: bs) with
      | (.error f, sink) =>
        (.error ((Failure.ofDevice f).within "Writing attachment payload"), { w with cursor, sink })
      | (.ok (), sink) =>
        let copier := { w.copier with copied := w.copier.copied + (b :: bs).length }
        move { copier, cursor, sink } size (left - (b :: bs).length) ((b :: bs) :: moved)
termination_by left
decreasing_by simp only [List.length_cons]; omega

/-- Moves a payload of the declared size and answers its hash. -/
def copy (w : Copying ω) (size : Nat) : Except Failure String × Copying ω :=
  match { w with copier := { w.copier with allocated := true } }.move size size [] with
  | (.error f, w) => (.error f, w)
  | (.ok moved, w) =>
    match Writer.flush w.sink with
    | (.error f, sink) =>
      (.error ((Failure.ofDevice f).within "Flushing attachment sink"), { w with sink })
    | (.ok (), sink) => (.ok (Digest.contentHashOfParts moved.reverse), { w with sink })

/-- Moving bytes does not raise the fuel of the cursor. -/
theorem fuel_move {w w' : Copying ω} {size left : Nat} {moved parts : List (List UInt8)}
    (h : w.move size left moved = (.ok parts, w')) : w'.cursor.fuel ≤ w.cursor.fuel := by
  fun_induction move w size left moved with
  | case1 => simp only [Prod.mk.injEq] at h; exact Nat.le_of_eq (by rw [← h.2])
  | case2 => simp at h
  | case3 => simp at h
  | case4 => simp at h
  | case5 _ _ _ _ _ _ _ hr _ _ _ ih => exact Nat.le_trans (ih h) (Cursor.fuel_readRaw hr)

/-- Copying a payload does not raise the fuel of the cursor. -/
theorem fuel_copy {w w' : Copying ω} {size : Nat} {hash : String}
    (h : w.copy size = (.ok hash, w')) : w'.cursor.fuel ≤ w.cursor.fuel := by
  unfold copy at h
  split at h
  · simp at h
  · next moved v hm =>
    split at h
    · simp at h
    · simp only [Prod.mk.injEq] at h
      rw [← h.2]
      have hf := fuel_move hm
      exact hf

end Copying

end ExportStream

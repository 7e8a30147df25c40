import ExportStream.Stream.Supply
import ExportStream.Text.Utf8
/-!
# The window on the last input

A window keeps the last bytes that a source gave, up to a number of them, so that a message can show
the input around a fault. It changes nothing about the bytes that are read.

The bytes that come are cut to the number first; then as many of those kept make room, the oldest
first, as would be too many. While no more are kept than may be, that leaves the last bytes of all
(`Window.slide_eq`).
-/

namespace ExportStream

/-- The last bytes of what was read. -/
structure Window where
  /-- The most bytes to keep. -/
  capacity : Nat
  /-- The bytes kept, in order. -/
  bytes : List UInt8 := []
  /-- The number of all bytes read. -/
  total : Nat := 0
  deriving DecidableEq

namespace Window

/-- The last `n` items of a list. -/
def lastOf (n : Nat) (bytes : List UInt8) : List UInt8 := bytes.drop (bytes.length - n)

/-- Puts the last of the bytes that came behind those kept, of which the oldest make room. -/
def slide (capacity : Nat) (kept data : List UInt8) : List UInt8 :=
  if capacity = 0 then kept
  else
    let part := lastOf capacity data
    kept.drop (kept.length + part.length - capacity) ++ part

/-- Notes bytes that were read. -/
def push (w : Window) (data : List UInt8) : Window :=
  { w with
    bytes := slide w.capacity w.bytes data
    total := w.total + data.length }

/-- The bytes kept, as text. -/
def recent (w : Window) : String := Text.Utf8.lossy w.bytes

@[simp] theorem total_push (w : Window) (data : List UInt8) :
    (w.push data).total = w.total + data.length := rfl

@[simp] theorem capacity_push (w : Window) (data : List UInt8) :
    (w.push data).capacity = w.capacity := rfl

theorem length_lastOf (n : Nat) (data : List UInt8) :
    (lastOf n data).length = min n data.length := by
  rw [lastOf, List.length_drop]
  omega

/-- What is last of both is what is last of what came, behind those kept that fit in before. -/
theorem lastOf_append (n : Nat) (kept data : List UInt8) :
    lastOf n (kept ++ data) = kept.drop (kept.length + data.length - n) ++ lastOf n data := by
  rw [lastOf, lastOf, List.drop_append, List.length_append]
  congr 2
  omega

/-- What is last does not depend on what was forgotten. -/
theorem lastOf_lastOf_append (n : Nat) (data more : List UInt8) :
    lastOf n (lastOf n data ++ more) = lastOf n (data ++ more) := by
  rw [lastOf_append, lastOf_append, length_lastOf, lastOf, List.drop_drop]
  congr 2
  omega

/-- While no more is kept than may be, what is kept then is the last of all. -/
theorem slide_eq {capacity : Nat} {kept : List UInt8} (h : kept.length ≤ capacity)
    (data : List UInt8) : slide capacity kept data = lastOf capacity (kept ++ data) := by
  unfold slide
  split
  · next hzero =>
    subst hzero
    rw [List.eq_nil_of_length_eq_zero (Nat.le_zero.mp h), lastOf, Nat.sub_zero, List.drop_length]
  · show kept.drop (kept.length + (lastOf capacity data).length - capacity) ++ _ = _
    rw [lastOf_append, length_lastOf]
    -- bytes that fill the window alone leave none of those kept
    by_cases hfull : data.length ≤ capacity
    · rw [Nat.min_eq_right hfull]
    · rw [List.drop_eq_nil_of_le (by omega), List.drop_eq_nil_of_le (by omega)]

/-- A window on the last bytes stays one. -/
theorem bytes_push {w : Window} {data : List UInt8} (h : w.bytes = lastOf w.capacity data)
    (more : List UInt8) : (w.push more).bytes = lastOf w.capacity (data ++ more) := by
  have hle : w.bytes.length ≤ w.capacity := by
    rw [h, length_lastOf]
    exact Nat.min_le_left ..
  show slide w.capacity w.bytes more = _
  rw [slide_eq hle, h, lastOf_lastOf_append]

end Window

/-- A source of bytes under a window. -/
structure Watched (σ : Type) where
  /-- The source. -/
  supply : σ
  /-- The window on what it gave. -/
  window : Window
  deriving DecidableEq

namespace Watched

variable {σ : Type}

/-- A source under an empty window. -/
def start (supply : σ) (capacity : Nat) : Watched σ := ⟨supply, { capacity }⟩

/-- Reads at most `n` bytes, in the way in which the source is read; a failed read leaves the window
as it is. -/
def readBy (read : σ → Nat → Except DeviceFault (List UInt8) × σ) (w : Watched σ) (n : Nat) :
    Except DeviceFault (List UInt8) × Watched σ :=
  match read w.supply n with
  | (.ok bytes, supply) => (.ok bytes, ⟨supply, w.window.push bytes⟩)
  | (.error f, supply) => (.error f, { w with supply })

variable {read : σ → Nat → Except DeviceFault (List UInt8) × σ} {w w' : Watched σ} {n : Nat}

/-- A read that succeeds is one of the source, and its bytes go into the window. -/
theorem readBy_ok {bytes : List UInt8} (h : w.readBy read n = (.ok bytes, w')) :
    ∃ supply, read w.supply n = (.ok bytes, supply) ∧ w' = ⟨supply, w.window.push bytes⟩ := by
  unfold readBy at h
  rcases hr : read w.supply n with ⟨f | bytes', supply⟩
  · rw [hr] at h
    cases h
  · rw [hr] at h
    cases h
    exact ⟨supply, rfl, rfl⟩

/-- A read that fails is one of the source. -/
theorem readBy_error {f : DeviceFault} (h : w.readBy read n = (.error f, w')) :
    ∃ supply, read w.supply n = (.error f, supply) ∧ w' = { w with supply } := by
  unfold readBy at h
  rcases hr : read w.supply n with ⟨g | bytes, supply⟩
  · rw [hr] at h
    cases h
    exact ⟨supply, rfl, rfl⟩
  · rw [hr] at h
    cases h

end Watched

/-- A supply under a window. -/
abbrev WatchedSupply := Watched Supply

namespace WatchedSupply

/-- A supply under an empty window. -/
def start (supply : Supply) (capacity : Nat) : WatchedSupply := Watched.start supply capacity

/-- Reads at most `n` bytes. -/
def read (w : WatchedSupply) (n : Nat) : Except DeviceFault (List UInt8) × WatchedSupply :=
  w.readBy Supply.read n

/-- Reads at most `n` bytes, repeating a read that is interrupted. -/
def readPatiently (w : WatchedSupply) (n : Nat) :
    Except DeviceFault (List UInt8) × WatchedSupply :=
  w.readBy Supply.readPatiently n

/-- What a patient read gives and what it leaves make up what there was. -/
theorem readPatiently_append {w w' : WatchedSupply} {n : Nat} {bytes : List UInt8}
    (h : w.readPatiently n = (.ok bytes, w')) : bytes ++ w'.supply.rest = w.supply.rest := by
  obtain ⟨supply, hread, rfl⟩ := Watched.readBy_ok h
  exact Supply.readPatiently_append hread

/-- A patient read that fails gives nothing away. -/
theorem readPatiently_error {w w' : WatchedSupply} {n : Nat} {f : DeviceFault}
    (h : w.readPatiently n = (.error f, w')) : w'.supply.rest = w.supply.rest := by
  obtain ⟨supply, hread, rfl⟩ := Watched.readBy_error h
  exact Supply.readPatiently_error hread

end WatchedSupply

end ExportStream

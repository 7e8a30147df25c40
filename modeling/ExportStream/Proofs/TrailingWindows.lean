import ExportStream.Stream.Window
/-!
# Windows that trail a source

A window can be put on any source, and a read through it is a read of the source. Such a read may
bring less than is wanted, nothing at all, or more than the window keeps, and it may fail; the
window sees only what is brought, and cuts and slides it as it comes.

Whatever the reads come to, the window trails what they handed over (`Window.Trails`): it counts all
of it, and keeps its end, as much as it may. One read keeps it so (`Watched.trails_readBy`), and
hands over what the source gives (`Watched.readBy_eq`); so do reads one after the other
(`Watched.readEach_watched`), and that is said of each read of a source, behind any others, by
**`Watched.trails_behind_read`**.
-/

namespace ExportStream

/-! ### Reads one after the other -/

/-- Reads of a source, each of at most so many bytes: what they come to, and what they leave of the
source. -/
def readEach {σ : Type} (read : σ → Nat → Except DeviceFault (List UInt8) × σ) (s : σ) :
    List Nat → List (Except DeviceFault (List UInt8)) × σ
  | [] => ([], s)
  | n :: wanted =>
    let (r, s) := read s n
    let (more, s) := readEach read s wanted
    (r :: more, s)

/-- The bytes that reads handed over, in order. A read that fails hands over none. -/
def handedOver (outcomes : List (Except DeviceFault (List UInt8))) : List UInt8 :=
  outcomes.flatMap fun r => r.toOption.getD []

theorem handedOver_append (outcomes more : List (Except DeviceFault (List UInt8))) :
    handedOver (outcomes ++ more) = handedOver outcomes ++ handedOver more :=
  List.flatMap_append

/-! ### What a window keeps -/

namespace Window

/-- The window is on the end of some bytes. -/
structure Trails (capacity : Nat) (data : List UInt8) (w : Window) : Prop where
  /-- How many it may keep. -/
  capacity_eq : w.capacity = capacity
  /-- It keeps the last of them, in their order. -/
  suffix : w.bytes <:+ data
  /-- It keeps as many as there are and it may. -/
  length_eq : w.bytes.length = min capacity data.length
  /-- It counts all of them. -/
  total_eq : w.total = data.length

variable {capacity : Nat} {data : List UInt8} {w : Window}

theorem trails_start (capacity : Nat) : Trails capacity [] { capacity } :=
  ⟨rfl, List.suffix_refl _, (Nat.min_zero capacity).symm, rfl⟩

theorem Trails.length_le (h : w.Trails capacity data) : w.bytes.length ≤ capacity := by
  rw [h.length_eq]
  exact Nat.min_le_left ..

theorem Trails.bytes_eq (h : w.Trails capacity data) : w.bytes = lastOf w.capacity data := by
  have hdrop := List.suffix_iff_eq_drop.mp h.suffix
  have hlength := h.length_eq
  rw [hdrop, lastOf, h.capacity_eq]
  congr 1
  omega

/-- Bytes that come are trailed with the others. -/
theorem Trails.push (h : w.Trails capacity data) (more : List UInt8) :
    (w.push more).Trails capacity (data ++ more) := by
  have hbytes := bytes_push h.bytes_eq more
  rw [h.capacity_eq] at hbytes
  refine ⟨h.capacity_eq, ?_, ?_, ?_⟩
  · rw [hbytes]
    exact List.drop_suffix ..
  · rw [hbytes, length_lastOf]
  · rw [total_push, h.total_eq, List.length_append]

end Window

/-! ### Reads through a window -/

namespace Watched

variable {σ : Type} (read : σ → Nat → Except DeviceFault (List UInt8) × σ)
variable {capacity : Nat} {data : List UInt8} {w : Watched σ}

/-- A read through a window hands over what the source gives, and leaves of the source what the
source leaves. -/
theorem readBy_eq (w : Watched σ) (n : Nat) :
    (w.readBy read n).1 = (read w.supply n).1 ∧
      (w.readBy read n).2.supply = (read w.supply n).2 := by
  rcases hr : w.readBy read n with ⟨f | bytes, w'⟩
  · obtain ⟨s, hread, rfl⟩ := readBy_error hr
    rw [hread]
    exact ⟨rfl, rfl⟩
  · obtain ⟨s, hread, rfl⟩ := readBy_ok hr
    rw [hread]
    exact ⟨rfl, rfl⟩

/-- One that fails leaves the window alone. -/
theorem window_readBy_error {n : Nat} {f : DeviceFault} (h : (w.readBy read n).1 = .error f) :
    (w.readBy read n).2.window = w.window := by
  rcases hr : w.readBy read n with ⟨r, w'⟩
  rw [hr] at h
  cases h
  obtain ⟨s, -, rfl⟩ := readBy_error hr
  rfl

/-- The window trails what a read hands over, whatever that comes to. -/
theorem trails_readBy (h : w.window.Trails capacity data) (n : Nat) :
    (w.readBy read n).2.window.Trails capacity (data ++ handedOver [(read w.supply n).1]) := by
  rcases hr : w.readBy read n with ⟨f | bytes, w'⟩
  · obtain ⟨s, hread, rfl⟩ := readBy_error hr
    have hnone : handedOver [.error f] = [] := rfl
    rw [hread, hnone, List.append_nil]
    exact h
  · obtain ⟨s, hread, rfl⟩ := readBy_ok hr
    have hbytes : handedOver [.ok bytes] = bytes := List.append_nil bytes
    rw [hread, hbytes]
    exact h.push bytes

/-- So it does behind reads one after the other, which hand over what the source gives. -/
theorem readEach_watched (h : w.window.Trails capacity data) (wanted : List Nat) :
    let bare := readEach read w.supply wanted
    let watched := readEach (readBy read) w wanted
    watched.1 = bare.1 ∧ watched.2.supply = bare.2 ∧
      watched.2.window.Trails capacity (data ++ handedOver bare.1) := by
  induction wanted generalizing w data with
  | nil => exact ⟨rfl, rfl, (List.append_nil data).symm ▸ h⟩
  | cons n wanted ih =>
    obtain ⟨houtcome, hsupply⟩ := readBy_eq read w n
    obtain ⟨houtcomes, hleft, htrails⟩ := ih (trails_readBy read h n)
    rw [hsupply] at houtcomes hleft htrails
    rw [List.append_assoc, ← handedOver_append] at htrails
    exact ⟨congr (congrArg List.cons houtcome) houtcomes, hleft, htrails⟩

/-- **A window is on the end of what its source gave.** Put a window on a source of any kind, let it
keep any number of bytes, and read through it any numbers of times, of any sizes. Then each further
read hands over what the source gives when it is read alone, and fails as the source fails; behind
it the window counts all bytes that were handed over so far, and keeps the last of them, as many as
it may. If the read fails, the window is as it was. -/
theorem trails_behind_read (s : σ) (capacity : Nat) (wanted : List Nat) (n : Nat) :
    let bare := readEach read s wanted
    let watched := readEach (readBy read) (start s capacity) wanted
    let given := read bare.2 n
    let handed := watched.2.readBy read n
    watched.1 = bare.1 ∧ handed.1 = given.1 ∧ handed.2.supply = given.2 ∧
      handed.2.window.Trails capacity (handedOver (bare.1 ++ [given.1])) ∧
      handed.2.window.bytes.length ≤ capacity ∧
      ∀ f, given.1 = .error f → handed.2.window = watched.2.window := by
  intro bare watched given handed
  obtain ⟨houtcomes, hsupply, htrails⟩ :=
    readEach_watched (w := start s capacity) read (Window.trails_start capacity) wanted
  obtain ⟨houtcome, hleft⟩ := readBy_eq read watched.2 n
  have hbehind := trails_readBy read htrails n
  rw [hsupply] at houtcome hleft hbehind
  rw [List.nil_append, ← handedOver_append] at hbehind
  refine ⟨houtcomes, houtcome, hleft, hbehind, hbehind.length_le, ?_⟩
  intro f hf
  exact window_readBy_error read (houtcome.trans hf)

/-- Ten bytes through a window of four, by reads of which one is cut short, one fails, one wants no
bytes, and the last one brings more than the window keeps. -/
example :
    let supply : Supply :=
      { rest := [48, 49, 50, 51, 52, 53, 54, 55, 56, 57], faults := [⟨3, .missing⟩] }
    let reads := readEach WatchedSupply.read (.start supply 4) [2, 2, 9, 0, 9]
    handedOver reads.1 = supply.rest ∧ reads.2.window.bytes = [54, 55, 56, 57] ∧
      reads.2.window.total = 10 := by
  decide

end Watched

end ExportStream

import ExportStream.Fault.Failure
import ExportStream.Log.Notice
import ExportStream.Stream.Window
/-!
# Cursors

A cursor stands at a position of a stream and reads tokens or raw bytes from there, in any order. It
reads from its supply through a working buffer, which it fills again when all bytes of it are used:
it keeps what the last filling brought and how many bytes of that are used, and counts the bytes
used since the start.

The number of bytes that a cursor has left, in its buffer and in its supply, never grows, and a
token takes at least one byte or ends one that had begun (`fuel`): that is what bounds every loop
over tokens.
-/

namespace ExportStream

/-- A position in a stream. -/
structure Cursor where
  /-- The supply, under the window that messages show. -/
  source : WatchedSupply
  /-- The size of the working buffer, which is not zero. -/
  capacity : Nat
  /-- The bytes that the last filling of the working buffer brought. -/
  loaded : List UInt8 := []
  /-- How many of them are used. -/
  used : Nat := 0
  /-- What is known of a token that has begun. -/
  scanner : Scanner := .idle
  /-- The number of bytes used since the start. -/
  position : Nat := 0
  /-- What happened so far. -/
  journal : Journal := []

namespace Cursor

/-- A cursor at the start of a supply. -/
def start (supply : Supply) (bufferSize window : Nat) : Cursor :=
  { source := .start supply window, capacity := max bufferSize 1 }

/-- The number of bytes read from the supply. -/
def bytesRead (c : Cursor) : Nat := c.source.window.total

/-- The bytes read from the supply and not used. -/
def buffer (c : Cursor) : List UInt8 := c.loaded.drop c.used

/-- The bytes that are left. -/
def remaining (c : Cursor) : List UInt8 := c.buffer ++ c.source.supply.rest

/-- A number that every token lowers: twice the bytes left, and one for a token that has begun. -/
def fuel (c : Cursor) : Nat :=
  2 * c.remaining.length + (if c.scanner.isPartial then 1 else 0)

/-- Notes what happened. -/
def note (c : Cursor) (n : Notice) : Cursor := { c with journal := n :: c.journal }

/-- A fault with the place of the cursor and the last input. -/
def locate (c : Cursor) (f : StreamFault) : StreamFault :=
  (f.withPosition c.position).withWindow c.source.window.recent

/-- The failure of a stream that is not well formed here. -/
def malformed (c : Cursor) (cause : Malformation) : Failure :=
  .ofStream (c.locate (.unplaced cause))

/-- The cursor with so many more bytes of its buffer used, and so much known of the next token. -/
def advance (c : Cursor) (n : Nat) (s : Scanner) : Cursor :=
  { c with used := c.used + n, position := c.position + n, scanner := s }

@[simp] theorem buffer_advance (c : Cursor) (n : Nat) (s : Scanner) :
    (c.advance n s).buffer = c.buffer.drop n := by
  simp [advance, buffer]

@[simp] theorem source_advance (c : Cursor) (n : Nat) (s : Scanner) :
    (c.advance n s).source = c.source := rfl

@[simp] theorem scanner_advance (c : Cursor) (n : Nat) (s : Scanner) :
    (c.advance n s).scanner = s := rfl

/-- Fills the buffer, all bytes of which are used, and tells how many bytes came; none come at the
end of the stream only. -/
def refill (c : Cursor) : Except Failure Nat × Cursor :=
  match c.source.readPatiently c.capacity with
  | (.ok bytes, source) =>
    (.ok bytes.length,
      { c with source, loaded := bytes, used := 0 }.note (.refilled bytes.length c.position))
  | (.error f, source) =>
    (.error ((Failure.ofDevice f).within "Reading import stream"),
      { c with source, loaded := [], used := 0 })

/-- The failure of a stream that ends where a token is due. -/
def endedInToken (c : Cursor) : Failure :=
  .ofStream
    (.ended (if c.scanner.isPartial then .insideToken else .beforeToken) c.position none none)

/-- A refill that succeeds is a patient read of the supply, and the bytes that came fill the
buffer. -/
theorem refill_eq_ok {c c' : Cursor} {n : Nat} (h : c.refill = (.ok n, c')) :
    ∃ bytes supply, c.source.supply.readPatiently c.capacity = (.ok bytes, supply) ∧
      n = bytes.length ∧
      c' = { c with
        source := ⟨supply, c.source.window.push bytes⟩, loaded := bytes, used := 0 }.note
          (.refilled bytes.length c.position) := by
  unfold refill at h
  split at h
  · next bytes source heq =>
    obtain ⟨supply, hread, rfl⟩ := Watched.readBy_ok heq
    cases h
    exact ⟨bytes, supply, hread, rfl, rfl⟩
  · cases h

/-- A refill that fails is one that the supply failed, and leaves the buffer empty. -/
theorem refill_eq_error {c c' : Cursor} {f : Failure} (h : c.refill = (.error f, c')) :
    ∃ fault supply, c.source.supply.readPatiently c.capacity = (.error fault, supply) ∧
      f = (Failure.ofDevice fault).within "Reading import stream" ∧
      c' = { c with source := { c.source with supply }, loaded := [], used := 0 } := by
  unfold refill at h
  split at h
  · cases h
  · next fault source heq =>
    obtain ⟨supply, hread, rfl⟩ := Watched.readBy_error heq
    cases h
    exact ⟨fault, supply, hread, rfl, rfl⟩

/-- Bytes that came on a refill were left in the supply before. -/
theorem refill_append {c c' : Cursor} {n : Nat} (h : c.refill = (.ok n, c')) :
    c'.buffer.length = n ∧ c'.buffer ++ c'.source.supply.rest = c.source.supply.rest ∧
      c'.scanner = c.scanner ∧ c'.capacity = c.capacity := by
  obtain ⟨bytes, supply, hread, rfl, rfl⟩ := refill_eq_ok h
  exact ⟨rfl, Supply.readPatiently_append hread, rfl, rfl⟩

/-- A refill that fails leaves the supply's bytes as they are. -/
theorem refill_error {c c' : Cursor} {f : Failure} (h : c.refill = (.error f, c')) :
    c'.buffer = [] ∧ c'.source.supply.rest = c.source.supply.rest ∧ c'.scanner = c.scanner := by
  obtain ⟨fault, supply, hread, rfl, rfl⟩ := refill_eq_error h
  exact ⟨rfl, Supply.readPatiently_error hread, rfl⟩

/-- The cursor with all bytes of its buffer used, and so much known of the next token. -/
def useUp (c : Cursor) (s : Scanner) : Cursor := c.advance c.buffer.length s

@[simp] theorem buffer_useUp (c : Cursor) (s : Scanner) : (c.useUp s).buffer = [] := by
  simp only [useUp, buffer_advance]
  exact List.drop_length

@[simp] theorem source_useUp (c : Cursor) (s : Scanner) : (c.useUp s).source = c.source := rfl

@[simp] theorem scanner_useUp (c : Cursor) (s : Scanner) : (c.useUp s).scanner = s := rfl

/-- Reads the next token. A stream that ends here has lost its alignment. -/
def readToken (c : Cursor) : Except Failure Token × Cursor :=
  match c.scanner.scan c.buffer with
  | .token t rest => (.ok t, c.advance (c.buffer.length - rest.length) .idle)
  | .fail f => (.error (c.malformed (.token f)), { c with scanner := .idle })
  | .more s =>
    match _h : (c.useUp s).refill with
    | (.error f, c') => (.error f, c')
    | (.ok 0, c') => (.error c'.endedInToken, c')
    | (.ok (_ + 1), c') => readToken c'
termination_by c.source.supply.rest.length
decreasing_by
  obtain ⟨h1, h2, -⟩ := refill_append _h
  have := congrArg List.length h2
  simp only [List.length_append, source_useUp] at this
  omega

/-- Reads at most `n` raw bytes from where the cursor stands; none are read at the end of the stream
only, or where none are wanted. -/
def readRaw (c : Cursor) (n : Nat) : Except Failure (List UInt8) × Cursor :=
  if n = 0 then (.ok [], c)
  else
    match if c.buffer.isEmpty then c.refill else (.ok c.buffer.length, c) with
    | (.error f, c) => (.error f, c)
    | (.ok _, c) =>
      (.ok (c.buffer.take n), c.advance (min n c.buffer.length) c.scanner)

/-! ### What reading leaves -/

/-- A token lowers the fuel. -/
theorem fuel_readToken {c c' : Cursor} {t : Token} (h : c.readToken = (.ok t, c')) :
    c'.fuel < c.fuel := by
  fun_induction readToken c with
  | case1 c t' rest hs =>
    simp only [Prod.mk.injEq, Except.ok.injEq] at h
    obtain ⟨-, rfl⟩ := h
    have hlen := Scanner.length_of_scan hs
    simp only [fuel, remaining, List.length_append, buffer_advance, List.length_drop,
      source_advance, scanner_advance] at hlen ⊢
    simp only [Scanner.isPartial, ne_eq, not_true_eq_false, decide_false, Bool.false_eq_true,
      if_false] at hlen ⊢
    omega
  | case2 => simp at h
  | case3 => simp at h
  | case4 => simp at h
  | case5 c s hs n c'' hr ih =>
    have ih := ih h
    obtain ⟨h1, h2, h3, -⟩ := refill_append hr
    have h4 := congrArg List.length h2
    have h5 := Scanner.isPartial_of_scan_more hs
    simp only [fuel, remaining, source_useUp, scanner_useUp, List.length_append, h3] at ih h4 ⊢
    omega

/-- A refill that succeeds keeps the fuel of a cursor whose bytes are all used. -/
theorem fuel_refill {c c' : Cursor} {n : Nat} (hb : c.buffer = []) (h : c.refill = (.ok n, c')) :
    c'.fuel = c.fuel := by
  obtain ⟨-, h2, h3, -⟩ := refill_append h
  simp [fuel, remaining, h3, hb, ← h2]

/-- Using bytes of the buffer does not raise the fuel. -/
theorem fuel_advance_le (c : Cursor) (n : Nat) : (c.advance n c.scanner).fuel ≤ c.fuel := by
  have hb : (c.advance n c.scanner).buffer.length ≤ c.buffer.length := by simp
  unfold fuel remaining
  simp only [List.length_append, source_advance]
  exact Nat.add_le_add_right (by omega) _

/-- Raw bytes do not raise the fuel. -/
theorem fuel_readRaw {c c' : Cursor} {n : Nat} {bytes : List UInt8}
    (h : c.readRaw n = (.ok bytes, c')) : c'.fuel ≤ c.fuel := by
  unfold readRaw at h
  split at h
  · simp only [Prod.mk.injEq] at h; exact Nat.le_of_eq (by rw [← h.2])
  · split at h
    · simp at h
    · next m d hd =>
      have hf : d.fuel ≤ c.fuel := by
        split at hd
        · next he => exact Nat.le_of_eq (fuel_refill (List.isEmpty_iff.mp he) hd)
        · simp only [Prod.mk.injEq] at hd; exact Nat.le_of_eq (by rw [← hd.2])
      simp only [Prod.mk.injEq, Except.ok.injEq] at h
      rw [← h.2]
      exact Nat.le_trans (fuel_advance_le d _) hf

end Cursor

end ExportStream

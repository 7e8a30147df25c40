import ExportStream.Proofs.Courses
import ExportStream.Proofs.Tokenizing
/-!
# Reading by indices

A program that reads a stream has a buffer of a fixed size, into which the supply writes, and two
indices into it: up to which byte the buffer is filled, and from which byte on its bytes are not yet
used. It repeats a read that is interrupted, hands the bytes between its indices to the scanner,
copies some of them where raw bytes are wanted, and keeps the last bytes that came for messages.
`Indexed.Memory` is the state of such a program, and every access of it that may be out of range
answers `none` if it is.

While the indices are in order (`Indexed.Memory.Sound`) none is, and what the program does is what a
cursor does: each of its operations answers, keeps the indices in order, and is the operation of the
cursor that the memory stands for (`Indexed.Memory.cursor`). Payloads go through a second buffer
(`Indexed.Machine`), part by part, and are moved as a copier moves them.
-/

namespace ExportStream

/-! ### Interrupted reads -/

namespace Supply

variable {s s' : Supply} {n : Nat}

/-- A fault that is reported is not watched for any more. -/
theorem faults_read_error {f : DeviceFault} (h : s.read n = (.error f, s')) :
    ∃ d, s.faults = d :: s'.faults ∧ d.offset = s.given ∧ d.fault = f ∧
      s' = { s with faults := s'.faults } := by
  unfold read at h
  split at h
  · next d faults hfaults =>
    split_ifs at h with hdue
    · cases h
      exact ⟨d, hfaults, hdue, rfl, rfl⟩
    · cases h
  · cases h

/-- A patient read begins with a read, and goes on if that is interrupted. -/
theorem readPatiently_of_interrupted {f : DeviceFault} (h : s.read n = (.error f, s'))
    (hf : f.kind = .interrupted) : s.readPatiently n = s'.readPatiently n := by
  obtain ⟨d, hfaults, hdue, rfl, hs'⟩ := faults_read_error h
  have hinterrupts : interruptsAt s.given d = true := by
    rw [interruptsAt, Bool.and_eq_true]
    exact ⟨decide_eq_true hdue, decide_eq_true hf⟩
  have hsettled : s.settled = s'.settled := by
    rw [settled, settled, hfaults, List.dropWhile_cons_of_pos hinterrupts, hs']
  rw [readPatiently, readPatiently, hsettled]

/-- It ends with a read that is not interrupted. -/
theorem readPatiently_of_read {r : Except DeviceFault (List UInt8)} (h : s.read n = (r, s'))
    (hr : ∀ f, r = .error f → f.kind ≠ .interrupted) : s.readPatiently n = (r, s') := by
  have hsettled : s.settled = s := by
    rcases hfaults : s.faults with _ | ⟨d, faults⟩
    · rw [settled, hfaults, List.dropWhile_nil, ← hfaults]
    · have hnot : ¬interruptsAt s.given d = true := by
        intro hinterrupts
        rw [interruptsAt, Bool.and_eq_true] at hinterrupts
        have hdue := of_decide_eq_true hinterrupts.1
        rw [read, hfaults] at h
        simp only [if_pos hdue] at h
        cases h
        exact hr d.fault rfl (of_decide_eq_true hinterrupts.2)
      rw [settled, hfaults, List.dropWhile_cons_of_neg hnot, ← hfaults]
  rw [readPatiently, hsettled, h]

/-- A read of a steady supply is counted, or it is interrupted. -/
theorem Steady.read (hs : s.Steady) {r : Except DeviceFault (List UInt8)} (h : s.read n = (r, s')) :
    s'.Steady ∧ ∀ f, r = .error f → f.kind = .interrupted := by
  rcases r with f | bytes
  · obtain ⟨d, hfaults, -, rfl, -⟩ := faults_read_error h
    refine ⟨?_, ?_⟩
    · intro e he
      exact hs e (hfaults ▸ List.mem_cons_of_mem _ he)
    · intro f hf
      cases hf
      exact hs d (hfaults ▸ List.mem_cons_self ..)
  · refine ⟨?_, by simp⟩
    have hfaults : s'.faults = s.faults := by
      unfold Supply.read at h
      split at h
      · split_ifs at h
        · cases h
        · cases h
          rfl
      · cases h
        rfl
    intro e he
    exact hs e (hfaults ▸ he)

end Supply

namespace Cursor

variable {c d : Cursor} {s : Scanner}

/-! ### What a token comes to -/

theorem readToken_token {t : Token} {rest : List UInt8}
    (h : c.scanner.scan c.buffer = .token t rest) :
    c.readToken = (.ok t, c.advance (c.buffer.length - rest.length) .idle) := by
  rw [readToken]
  simp only [h]

theorem readToken_fail {f : Scanner.Fault} (h : c.scanner.scan c.buffer = .fail f) :
    c.readToken = (.error (c.malformed (.token f)), { c with scanner := .idle }) := by
  rw [readToken]
  simp only [h]

theorem readToken_more_error {f : Failure} (h : c.scanner.scan c.buffer = .more s)
    (hr : (c.useUp s).refill = (.error f, d)) : c.readToken = (.error f, d) := by
  rw [readToken]
  simp only [h]
  split
  · next hr' => cases hr.symm.trans hr'; rfl
  · next hr' => cases hr.symm.trans hr'
  · next hr' => cases hr.symm.trans hr'

theorem readToken_more_end (h : c.scanner.scan c.buffer = .more s)
    (hr : (c.useUp s).refill = (.ok 0, d)) : c.readToken = (.error d.endedInToken, d) := by
  rw [readToken]
  simp only [h]
  split
  · next hr' => cases hr.symm.trans hr'
  · next hr' => cases hr.symm.trans hr'; rfl
  · next hr' => cases hr.symm.trans hr'

theorem readToken_more {n : Nat} (h : c.scanner.scan c.buffer = .more s)
    (hr : (c.useUp s).refill = (.ok (n + 1), d)) : c.readToken = d.readToken := by
  rw [readToken]
  simp only [h]
  split
  · next hr' => cases hr.symm.trans hr'
  · next hr' => cases hr.symm.trans hr'
  · next hr' => cases hr.symm.trans hr'; rfl

end Cursor

namespace Indexed

/-! ### The window -/

/-- Bytes written over a slot from its start on; they have to fit. -/
def write? (slot bytes : List UInt8) : Option (List UInt8) :=
  if bytes.length ≤ slot.length then some (bytes ++ slot.drop bytes.length) else none

theorem write?_eq {slot bytes : List UInt8} (h : bytes.length ≤ slot.length) :
    write? slot bytes = some (bytes ++ slot.drop bytes.length) := if_pos h

/-- The last bytes, not more than so many. -/
def lastPart (n : Nat) (data : List UInt8) : Option (List UInt8) :=
  if n < data.length then do slice? data (← sub? data.length n) data.length else some data

/-- Notes bytes that were read: those that are too many are dropped from the front. -/
def mirror (w : Window) (data : List UInt8) : Option Window :=
  if w.capacity = 0 then some { w with total := w.total + data.length }
  else do
    let part ← lastPart w.capacity data
    let kept ← slice? w.bytes (w.bytes.length + part.length - w.capacity) w.bytes.length
    some { w with bytes := kept ++ part, total := w.total + data.length }

theorem lastPart_eq (n : Nat) (data : List UInt8) :
    lastPart n data = some (Window.lastOf n data) := by
  unfold lastPart Window.lastOf
  by_cases h : n < data.length
  · rw [if_pos h, sub?_eq (Nat.le_of_lt h)]
    exact slice?_to_end (Nat.sub_le ..)
  · rw [if_neg h, Nat.sub_eq_zero_of_le (Nat.le_of_not_lt h), List.drop_zero]

/-- **A window is mirrored by indices that are in range.** -/
theorem mirror_eq (w : Window) (data : List UInt8) : mirror w data = some (w.push data) := by
  unfold mirror Window.push Window.slide
  by_cases hzero : w.capacity = 0
  · rw [if_pos hzero, if_pos hzero]
  · have hpart := Window.length_lastOf w.capacity data
    rw [if_neg hzero, if_neg hzero, lastPart_eq]
    simp only [bind, Option.bind]
    rw [slice?_to_end (by omega)]

theorem length_push {w : Window} (h : w.bytes.length ≤ w.capacity) (data : List UInt8) :
    (w.push data).bytes.length ≤ (w.push data).capacity := by
  show (Window.slide w.capacity w.bytes data).length ≤ w.capacity
  rw [Window.slide_eq h, Window.length_lastOf]
  exact Nat.min_le_left ..

/-! ### The memory -/

/-- The state of a program that reads a stream. -/
structure Memory where
  /-- The supply. -/
  supply : Supply
  /-- The window on what it gave. -/
  window : Window
  /-- The buffer, the size of which does not change. -/
  buffer : List UInt8
  /-- The index of the first byte that is not used. -/
  pos : Nat := 0
  /-- The index behind the last byte that was filled. -/
  len : Nat := 0
  /-- What is known of the next token. -/
  known : Option Begun := none
  /-- The number of bytes used since the start. -/
  consumed : Nat := 0
  /-- The number of reads of the supply that were not interrupted. -/
  calls : Nat := 0
  /-- What happened so far. -/
  journal : Journal := []

namespace Memory

/-- The memory at the start, with a buffer of zeros. -/
def start (supply : Supply) (bufferSize window : Nat) : Memory :=
  { supply, window := { capacity := window }, buffer := List.replicate (max bufferSize 1) 0 }

/-- The cursor that a memory stands for. -/
def cursor (m : Memory) : Cursor :=
  { source := ⟨m.supply, m.window⟩
    capacity := m.buffer.length
    loaded := m.buffer.take m.len
    used := m.pos
    scanner := scannerOf m.known
    position := m.consumed
    journal := m.journal }

/-- The indices of a memory are in order; `s` is the supply that it started with. -/
structure Sound (s : Supply) (m : Memory) : Prop where
  /-- No more is used than was filled. -/
  pos_le : m.pos ≤ m.len
  /-- No more was filled than the buffer holds. -/
  len_le : m.len ≤ m.buffer.length
  /-- The window keeps no more than it may. -/
  window_le : m.window.bytes.length ≤ m.window.capacity
  /-- Of a word that has begun a letter is due. -/
  known : ∀ b ∈ m.known, b.Sound
  /-- Every read of a steady supply that is not interrupted succeeds. -/
  calls_eq : s.Steady → m.supply.Steady ∧ s.reads + m.calls = m.supply.reads

/-- Notes what happened. -/
def note (m : Memory) (n : Notice) : Memory := { m with journal := n :: m.journal }

/-- So many more bytes are used, and so much is known of the next token. -/
def use (m : Memory) (n : Nat) (known : Option Begun) : Memory :=
  { m with pos := m.pos + n, consumed := m.consumed + n, known }

/-- Takes bytes that came into the buffer, and notes them in the window. -/
def take (m : Memory) (bytes : List UInt8) (supply : Supply) : Option Memory := do
  let buffer ← write? m.buffer bytes
  let window ← mirror m.window (← slice? buffer 0 bytes.length)
  return { m with supply, buffer, window, calls := m.calls + 1 }

/-- One read of the supply into the buffer. -/
def load (m : Memory) : Option (Except DeviceFault Nat × Memory) :=
  match m.supply.read m.buffer.length with
  | (.error f, supply) =>
    some (.error f,
      { m with supply, calls := if f.kind = .interrupted then m.calls else m.calls + 1 })
  | (.ok bytes, supply) => (m.take bytes supply).map fun m => (.ok bytes.length, m)

theorem supply_take {m m' : Memory} {bytes : List UInt8} {supply : Supply}
    (h : m.take bytes supply = some m') : m'.supply = supply := by
  simp only [take, bind, Option.bind_eq_some_iff, pure, Option.some.injEq] at h
  obtain ⟨buffer, -, part, -, window, -, rfl⟩ := h
  rfl

theorem load_error {m m' : Memory} {f : DeviceFault} (h : m.load = some (.error f, m')) :
    ∃ supply, m.supply.read m.buffer.length = (.error f, supply) ∧
      m' = { m with
        supply, calls := if f.kind = .interrupted then m.calls else m.calls + 1 } := by
  unfold load at h
  rcases hr : m.supply.read m.buffer.length with ⟨g | bytes, supply⟩
  · rw [hr] at h
    cases h
    exact ⟨supply, rfl, rfl⟩
  · rw [hr] at h
    obtain ⟨m₁, -, hm⟩ := Option.map_eq_some_iff.mp h
    cases hm

theorem load_ok {m m' : Memory} {n : Nat} (h : m.load = some (.ok n, m')) :
    ∃ bytes supply, m.supply.read m.buffer.length = (.ok bytes, supply) ∧ n = bytes.length ∧
      m.take bytes supply = some m' := by
  unfold load at h
  rcases hr : m.supply.read m.buffer.length with ⟨g | bytes, supply⟩
  · rw [hr] at h
    cases h
  · rw [hr] at h
    obtain ⟨m₁, htake, hm⟩ := Option.map_eq_some_iff.mp h
    cases hm
    exact ⟨bytes, supply, rfl, rfl, htake⟩

theorem faults_load {m m' : Memory} {f : DeviceFault} (h : m.load = some (.error f, m')) :
    m'.supply.faults.length < m.supply.faults.length := by
  obtain ⟨supply, hread, rfl⟩ := load_error h
  obtain ⟨d, hfaults, -⟩ := Supply.faults_read_error hread
  rw [hfaults]
  exact Nat.lt_succ_self _

/-- Reads of the supply into the buffer, until one is not interrupted. -/
def fill (m : Memory) : Option (Except Failure Nat × Memory) :=
  match _h : m.load with
  | none => none
  | some (.ok n, m) => some (.ok n, { m with len := n }.note (.refilled n m.consumed))
  | some (.error f, m) =>
    if f.kind = .interrupted then fill m
    else some (.error ((Failure.ofDevice f).within "Reading import stream"), m)
termination_by m.supply.faults.length
decreasing_by exact faults_load _h

/-- Fills the buffer again, whatever is in it. -/
def refill (m : Memory) : Option (Except Failure Nat × Memory) :=
  ({ m with pos := 0, len := 0 } : Memory).fill

theorem rest_fill {m m' : Memory} {n : Nat} (h : m.fill = some (.ok n, m')) :
    n + m'.supply.rest.length = m.supply.rest.length := by
  fun_induction fill m with
  | case1 => cases h
  | case2 m n m₁ hload =>
    cases h
    obtain ⟨bytes, supply, hread, rfl, htake⟩ := load_ok hload
    rw [← Supply.read_append hread, List.length_append, ← supply_take htake]
    rfl
  | case3 m f m₁ hload hf ih =>
    obtain ⟨supply, hread, rfl⟩ := load_error hload
    rw [ih h, Supply.read_error hread]
  | case4 => cases h

/-- Reads the next token. -/
def readToken (m : Memory) : Option (Except Failure Token × Memory) :=
  match slice? m.buffer m.pos m.len with
  | none => none
  | some input =>
    match nextToken m.known input with
    | none => none
    | some (.error f, known) =>
      some (.error (({ m with known } : Memory).cursor.malformed (.token f)), { m with known })
    | some (.ok (n, some t), known) => some (.ok t, m.use n known)
    | some (.ok (n, none), known) =>
      match _h : (m.use n known).refill with
      | none => none
      | some (.error f, m') => some (.error f, m')
      | some (.ok 0, m') => some (.error m'.cursor.endedInToken, m')
      | some (.ok (_ + 1), m') => readToken m'
termination_by m.supply.rest.length
decreasing_by
  have hrest := rest_fill _h
  simp only [use] at hrest
  omega

/-- Are there bytes to copy? The buffer is filled again if all its bytes are used. -/
def waits (m : Memory) : Option (Except Failure Bool × Memory) :=
  if m.pos = m.len then
    match m.refill with
    | none => none
    | some (.error f, m) => some (.error f, m)
    | some (.ok n, m) => some (.ok (n ≠ 0), m)
  else some (.ok true, m)

/-- Copies raw bytes into a slot, as many as wait and fit, and answers how many. -/
def readRaw (m : Memory) (slot : List UInt8) :
    Option (Except Failure Nat × Memory × List UInt8) :=
  if slot.length = 0 then some (.ok 0, m, slot)
  else
    match m.waits with
    | none => none
    | some (.error f, m) => some (.error f, m, slot)
    | some (.ok false, m) => some (.ok 0, m, slot)
    | some (.ok true, m) => do
      let n := min slot.length (← sub? m.len m.pos)
      let part ← slice? m.buffer m.pos (m.pos + n)
      let slot ← write? slot part
      return (.ok n, m.use n m.known, slot)

/-! ### No access is out of range -/

variable {s : Supply} {m : Memory}

theorem take_spec {bytes : List UInt8} {supply : Supply}
    (hr : m.supply.read m.buffer.length = (.ok bytes, supply)) :
    m.take bytes supply = some
      { m with
        supply, buffer := bytes ++ m.buffer.drop bytes.length, window := m.window.push bytes
        calls := m.calls + 1 } := by
  have hlength := (Supply.reads_read hr).2
  rw [take, write?_eq hlength]
  simp only [bind, Option.bind, slice?_front, mirror_eq]
  rfl

/-- What comes from a read fits into the buffer. -/
theorem exists_load (m : Memory) : ∃ r m', m.load = some (r, m') := by
  unfold load
  rcases hr : m.supply.read m.buffer.length with ⟨f | bytes, supply⟩
  · exact ⟨_, _, rfl⟩
  · simp only [take_spec hr]
    exact ⟨_, _, rfl⟩

/-- A read that fails changes nothing but the supply. -/
theorem Sound.of_load_error (h : m.Sound s) {f : DeviceFault} {supply : Supply}
    (hr : m.supply.read m.buffer.length = (.error f, supply)) :
    Sound s { m with
      supply, calls := if f.kind = .interrupted then m.calls else m.calls + 1 } := by
  refine ⟨h.pos_le, h.len_le, h.window_le, h.known, ?_⟩
  intro hs
  obtain ⟨hsteady, hcalls⟩ := h.calls_eq hs
  obtain ⟨hsteady', hinterrupted⟩ := hsteady.read hr
  refine ⟨hsteady', ?_⟩
  rw [if_pos (hinterrupted f rfl), Supply.reads_read_error hr]
  exact hcalls

/-- Filling the buffer is a refill of the cursor, whose patient read is the loop over the reads that
are interrupted. -/
theorem fill_spec (h : m.Sound s) (hpos : m.pos = 0) (hlen : m.len = 0) :
    ∃ r m', m.fill = some (r, m') ∧ m'.Sound s ∧ m.cursor.refill = (r, m'.cursor) := by
  fun_induction fill m with
  | case1 m hload =>
    obtain ⟨r, m', hsome⟩ := exists_load m
    cases hload.symm.trans hsome
  | case2 m n m₁ hload =>
    obtain ⟨bytes, supply, hread, rfl, htake⟩ := load_ok hload
    rw [take_spec hread] at htake
    cases htake
    obtain ⟨hreads, hlength⟩ := Supply.reads_read hread
    refine ⟨_, _, rfl, ⟨?_, ?_, length_push h.window_le bytes, h.known, ?_⟩, ?_⟩
    · show m.pos ≤ bytes.length
      omega
    · show bytes.length ≤ (bytes ++ m.buffer.drop bytes.length).length
      rw [List.length_append]
      exact Nat.le_add_right ..
    · intro hs
      obtain ⟨hsteady, hcalls⟩ := h.calls_eq hs
      refine ⟨(hsteady.read hread).1, ?_⟩
      show s.reads + (m.calls + 1) = supply.reads
      omega
    · have hpatient := Supply.readPatiently_of_read hread (by simp)
      have hcapacity : (bytes ++ m.buffer.drop bytes.length).length = m.buffer.length := by
        rw [List.length_append, List.length_drop]
        omega
      simp only [Cursor.refill, WatchedSupply.readPatiently, cursor, hpatient, Watched.readBy,
        note, Cursor.note, List.take_left, hcapacity, hpos]
  | case3 m f m₁ hload hf ih =>
    obtain ⟨supply, hread, rfl⟩ := load_error hload
    have hsound := h.of_load_error hread
    obtain ⟨r, m', hfill, hsound', hrefill⟩ := ih hsound hpos hlen
    refine ⟨r, m', hfill, hsound', ?_⟩
    rw [← hrefill]
    simp only [Cursor.refill, WatchedSupply.readPatiently, cursor, Watched.readBy,
      Supply.readPatiently_of_interrupted hread hf]
  | case4 m f m₁ hload hf =>
    obtain ⟨supply, hread, rfl⟩ := load_error hload
    refine ⟨_, _, rfl, h.of_load_error hread, ?_⟩
    have hpatient := Supply.readPatiently_of_read hread (by rintro g ⟨⟩; exact hf)
    simp only [Cursor.refill, WatchedSupply.readPatiently, cursor, hpatient, Watched.readBy,
      hlen, hpos, List.take_zero]

theorem refill_spec (h : m.Sound s) :
    ∃ r m', m.refill = some (r, m') ∧ m'.Sound s ∧ m.cursor.refill = (r, m'.cursor) :=
  fill_spec (m := { m with pos := 0, len := 0 })
    ⟨Nat.le_refl _, Nat.zero_le _, h.window_le, h.known, h.calls_eq⟩ rfl rfl

/-- The bytes between the indices are those in the buffer of the cursor. -/
theorem slice?_buffer (h : m.Sound s) : slice? m.buffer m.pos m.len = some m.cursor.buffer :=
  slice?_eq h.pos_le h.len_le

theorem length_cursor_buffer (h : m.Sound s) : m.cursor.buffer.length = m.len - m.pos := by
  have hlen := h.len_le
  show ((m.buffer.take m.len).drop m.pos).length = m.len - m.pos
  rw [List.length_drop, List.length_take, Nat.min_eq_left hlen]

/-- Bytes that wait are used. -/
theorem Sound.use (h : m.Sound s) {n : Nat} (hn : n ≤ m.cursor.buffer.length)
    {known : Option Begun} (hknown : ∀ b ∈ known, b.Sound) : (m.use n known).Sound s := by
  have hpos := h.pos_le
  rw [length_cursor_buffer h] at hn
  refine ⟨?_, h.len_le, h.window_le, hknown, h.calls_eq⟩
  show m.pos + n ≤ m.len
  omega

/-- **A token is read by indices that are in range**, and as the cursor reads it: by induction on the
bytes that are left in the supply, one step for each refill. -/
theorem readToken_spec (h : m.Sound s) :
    ∃ r m', m.readToken = some (r, m') ∧ m'.Sound s ∧ m.cursor.readToken = (r, m'.cursor) := by
  induction hn : m.supply.rest.length using Nat.strongRecOn generalizing m with
  | ind n ih =>
    subst hn
    obtain ⟨a, hnext, hanswers⟩ := nextToken_spec h.known m.cursor.buffer
    rw [readToken, slice?_buffer h]
    simp only [hnext]
    generalize hscan : (scannerOf m.known).scan m.cursor.buffer = scanned at hanswers
    cases hanswers with
    | token t hsize =>
      have hknown : ∀ b ∈ (none : Option Begun), b.Sound := by simp
      refine ⟨_, _, rfl, h.use (by omega) hknown, ?_⟩
      rw [Cursor.readToken_token hscan, ← hsize, Nat.add_sub_cancel]
      rfl
    | fail f =>
      refine ⟨_, _, rfl, ⟨h.pos_le, h.len_le, h.window_le, by simp, h.calls_eq⟩, ?_⟩
      rw [Cursor.readToken_fail hscan]
      rfl
    | @more s' known hknown hs' =>
      -- all bytes are used, so that a refill loses none; if it brings some, fewer are left
      subst hs'
      obtain ⟨r, m', hrefill, hsound, hcursor⟩ := refill_spec (h.use (Nat.le_refl _) hknown)
      have huse : (m.use m.cursor.buffer.length known).cursor =
          m.cursor.useUp (scannerOf known) := rfl
      rw [huse] at hcursor
      simp only
      split
      · next hnone => cases hrefill.symm.trans hnone
      · next f d hd =>
        cases hrefill.symm.trans hd
        exact ⟨_, _, rfl, hsound, Cursor.readToken_more_error hscan hcursor⟩
      · next d hd =>
        cases hrefill.symm.trans hd
        exact ⟨_, _, rfl, hsound, Cursor.readToken_more_end hscan hcursor⟩
      · next n d hd =>
        cases hrefill.symm.trans hd
        have hrest := rest_fill hrefill
        simp only [Memory.use] at hrest
        rw [Cursor.readToken_more hscan hcursor]
        exact ih _ (by omega) hsound rfl

/-! ### Raw bytes -/

/-- Whether bytes wait is what the cursor finds out. -/
theorem waits_spec (h : m.Sound s) {n : Nat} (hn : n ≠ 0) :
    ∃ r m', m.waits = some (r, m') ∧ m'.Sound s ∧
      (∀ f, r = .error f → m.cursor.readRaw n = (.error f, m'.cursor)) ∧
      ∀ b, r = .ok b →
        m.cursor.readRaw n = (.ok (m'.cursor.buffer.take n),
          m'.cursor.advance (min n m'.cursor.buffer.length) m'.cursor.scanner) ∧
        (b = false → m'.cursor.buffer = []) := by
  have hlength := length_cursor_buffer h
  by_cases hall : m.pos = m.len
  · obtain ⟨r, m', hrefill, hsound, hcursor⟩ := refill_spec h
    have hempty : m.cursor.buffer.isEmpty = true := by
      rw [List.isEmpty_iff]
      exact List.eq_nil_of_length_eq_zero (by omega)
    rw [waits, if_pos hall, Cursor.readRaw, if_neg hn, if_pos hempty, hrefill, hcursor]
    rcases r with f | k
    · exact ⟨_, _, rfl, hsound, by simp, by simp⟩
    · refine ⟨_, _, rfl, hsound, by simp, ?_⟩
      intro b hb
      refine ⟨rfl, ?_⟩
      rintro rfl
      have hzero : k = 0 := by simpa using hb
      have hloaded := (Cursor.reads_refill hcursor).2.2.2.2.2.1
      rw [Cursor.buffer, List.eq_nil_of_length_eq_zero (hloaded.trans hzero), List.drop_nil]
  · have hempty : ¬m.cursor.buffer.isEmpty = true := by
      have hpos := h.pos_le
      rw [List.isEmpty_iff]
      intro hnil
      rw [hnil, List.length_nil] at hlength
      omega
    rw [waits, if_neg hall, Cursor.readRaw, if_neg hn, if_neg hempty]
    refine ⟨_, _, rfl, h, by simp, ?_⟩
    intro b hb
    cases hb
    exact ⟨rfl, by simp⟩

/-- The bytes that wait, as many as wanted. -/
theorem slice?_part (h : m.Sound s) (n : Nat) :
    slice? m.buffer m.pos (m.pos + min n (m.len - m.pos)) = some (m.cursor.buffer.take n) := by
  have hpos := h.pos_le
  have hlen := h.len_le
  have hbuffer : m.cursor.buffer = (m.buffer.take m.len).drop m.pos := rfl
  rw [slice?_eq (Nat.le_add_right ..) (by omega), hbuffer, List.drop_take, List.drop_take,
    List.take_take, Nat.add_sub_cancel_left]

/-- **Raw bytes are copied by indices that are in range**, and as the cursor reads them. -/
theorem readRaw_spec (h : m.Sound s) (slot : List UInt8) :
    ∃ r m' slot', m.readRaw slot = some (r.map List.length, m', slot') ∧ m'.Sound s ∧
      m.cursor.readRaw slot.length = (r, m'.cursor) ∧ slot'.length = slot.length ∧
      ∀ bytes, r = .ok bytes → ∃ more, slot' = bytes ++ more := by
  by_cases hzero : slot.length = 0
  · rw [readRaw, if_pos hzero, Cursor.readRaw, if_pos hzero]
    refine ⟨.ok [], m, slot, rfl, h, rfl, rfl, ?_⟩
    intro bytes hbytes
    cases hbytes
    exact ⟨slot, rfl⟩
  · obtain ⟨r, m', hwaits, hsound, herror, hok⟩ := waits_spec h hzero
    rw [readRaw, if_neg hzero, hwaits]
    rcases r with f | b
    · exact ⟨.error f, m', slot, rfl, hsound, herror f rfl, rfl, by simp⟩
    · obtain ⟨hread, hend⟩ := hok b rfl
      cases b with
      | false =>
        refine ⟨.ok [], m', slot, rfl, hsound, ?_, rfl, ?_⟩
        · rw [hread, hend rfl, List.take_nil, List.length_nil, Nat.min_zero]
          rfl
        · intro bytes hbytes
          cases hbytes
          exact ⟨slot, rfl⟩
      | true =>
        have hlength := length_cursor_buffer hsound
        have htake : (m'.cursor.buffer.take slot.length).length =
            min slot.length (m'.len - m'.pos) := by
          rw [List.length_take, hlength]
        have hfits : (m'.cursor.buffer.take slot.length).length ≤ slot.length := by omega
        have hused := hsound.use (n := min slot.length (m'.len - m'.pos)) (by omega) hsound.known
        simp only [sub?_eq hsound.pos_le, slice?_part hsound, bind, Option.bind, write?_eq hfits]
        refine ⟨.ok (m'.cursor.buffer.take slot.length), _, m'.cursor.buffer.take slot.length ++
          slot.drop (m'.cursor.buffer.take slot.length).length, ?_, hused, ?_, ?_, ?_⟩
        · rw [Except.map, htake]
          rfl
        · rw [hread, hlength]
          rfl
        · rw [List.length_append, List.length_drop]
          omega
        · intro bytes hbytes
          cases hbytes
          exact ⟨_, rfl⟩

end Memory

/-! ### Payloads -/

/-- A program that reads a stream by indices, and copies payloads through another buffer. -/
structure Machine where
  /-- What it reads with. -/
  memory : Memory
  /-- What payloads are copied with. -/
  copier : Copier
  /-- The buffer of the copier. -/
  buffer : List UInt8

/-- The indices of a machine are in order, and the buffer of its copier is as large as that wants it;
`s` is the supply that it started with. -/
structure Machine.Sound (s : Supply) (x : Machine) : Prop where
  /-- The indices are in order. -/
  memory : x.memory.Sound s
  /-- The size of the buffer. -/
  length_eq : x.buffer.length = x.copier.bufferSize

/-- A machine at work on a payload. -/
structure Porter extends Machine where
  /-- Where the bytes go. -/
  sink : Sink

namespace Porter

/-- The copy that a porter is at. -/
def copying (w : Porter) : Copying := ⟨w.copier, w.memory.cursor, w.sink⟩

/-- Moves the bytes that are left of a payload, through the buffer. -/
def move (w : Porter) (size left : Nat) (moved : List (List UInt8)) :
    Option (Except Failure (List (List UInt8)) × Porter) :=
  if left = 0 then some (.ok moved, w)
  else
    match slice? w.buffer 0 (min left w.buffer.length) with
    | none => none
    | some slot =>
      match w.memory.readRaw slot with
      | none => none
      | some (.error f, memory, slot) =>
        some (.error f,
          { w with memory, buffer := slot ++ w.buffer.drop (min left w.buffer.length) })
      | some (.ok 0, memory, slot) =>
        (sub? size left).map fun done =>
          (.error (.ofStream (.ended .payload memory.cursor.position (some size) (some done))),
            { w with memory, buffer := slot ++ w.buffer.drop (min left w.buffer.length) })
      | some (.ok (n + 1), memory, slot) =>
        let buffer := slot ++ w.buffer.drop (min left w.buffer.length)
        match slice? buffer 0 (n + 1) with
        | none => none
        | some part =>
          match Writer.write w.sink part with
          | (.error f, sink) =>
            some (.error ((Failure.ofDevice f).within "Writing attachment payload"),
              { w with memory, sink, buffer })
          | (.ok (), sink) =>
            match _h : sub? left (n + 1) with
            | none => none
            | some left' =>
              let copier := { w.copier with copied := w.copier.copied + (n + 1) }
              move { memory, copier, buffer, sink } size left' (part :: moved)
termination_by left
decreasing_by
  unfold sub? at _h
  split_ifs at _h
  cases _h
  omega

/-- Moves a payload of the declared size and answers its hash. -/
def copy (w : Porter) (size : Nat) : Option (Except Failure String × Porter) :=
  match ({ w with copier := { w.copier with allocated := true } } : Porter).move size size [] with
  | none => none
  | some (.error f, w) => some (.error f, w)
  | some (.ok moved, w) =>
    match Writer.flush w.sink with
    | (.error f, sink) =>
      some (.error ((Failure.ofDevice f).within "Flushing attachment sink"), { w with sink })
    | (.ok (), sink) => some (.ok (Digest.contentHashOfParts moved.reverse), { w with sink })

variable {s : Supply} {w : Porter} {size left : Nat}

/-- **A payload is moved by indices and differences that are in range**, and as the copier moves it: by
induction on the bytes that are left of it. -/
theorem move_spec (h : w.toMachine.Sound s) (hleft : left ≤ size) (moved : List (List UInt8)) :
    ∃ r w', w.move size left moved = some (r, w') ∧ w'.toMachine.Sound s ∧
      w.copying.move size left moved = (r, w'.copying) := by
  induction hn : left using Nat.strongRecOn generalizing w left moved with
  | ind n ih =>
    subst hn
    by_cases hzero : left = 0
    · rw [move, if_pos hzero, Copying.move, if_pos hzero]
      exact ⟨_, _, rfl, h, rfl⟩
    have hslot : slice? w.buffer 0 (min left w.buffer.length) =
        some (w.buffer.take (min left w.buffer.length)) :=
      slice?_eq (Nat.zero_le _) (Nat.min_le_right ..)
    obtain ⟨r, memory, slot, hread, hsound, hcursor, hlength, hbytes⟩ :=
      Memory.readRaw_spec h.memory (w.buffer.take (min left w.buffer.length))
    rw [List.length_take, Nat.min_eq_left (Nat.min_le_right ..)] at hcursor hlength
    have hcopying : w.copying.cursor.readRaw (min left w.copying.copier.bufferSize) =
        (r, memory.cursor) := by
      show w.memory.cursor.readRaw (min left w.copier.bufferSize) = (r, memory.cursor)
      rw [← h.length_eq]
      exact hcursor
    -- the slot is put back into the buffer, whose size stays
    have hbuffer : (slot ++ w.buffer.drop (min left w.buffer.length)).length =
        w.copier.bufferSize := by
      rw [List.length_append, List.length_drop, hlength, ← h.length_eq]
      omega
    rw [move, if_neg hzero, hslot]
    simp only [hread]
    rw [Copying.move, if_neg hzero, hcopying]
    rcases r with f | _ | ⟨b, bs⟩
    · exact ⟨_, _, rfl, ⟨hsound, hbuffer⟩, rfl⟩
    · simp only [Except.map, List.length_nil, sub?_eq hleft]
      exact ⟨_, _, rfl, ⟨hsound, hbuffer⟩, rfl⟩
    · obtain ⟨more, rfl⟩ := hbytes (b :: bs) rfl
      have hpart : slice? (b :: bs ++ more ++ w.buffer.drop (min left w.buffer.length)) 0
          (bs.length + 1) = some (b :: bs) := by
        rw [List.append_assoc]
        exact slice?_front (b :: bs) _
      have hle : bs.length + 1 ≤ left := by
        simp only [List.length_append, List.length_cons] at hlength
        omega
      simp only [Except.map, List.length_cons, hpart]
      have hsink : w.copying.sink = w.sink := rfl
      rw [hsink]
      rcases Writer.write w.sink (b :: bs) with ⟨f | _, sink⟩
      · exact ⟨_, _, rfl, ⟨hsound, hbuffer⟩, rfl⟩
      · simp only
        split
        · next hnone => cases (sub?_eq hle).symm.trans hnone
        · next left' hsome =>
          cases (sub?_eq hle).symm.trans hsome
          have hnext := ih (left - (bs.length + 1)) (by omega)
            (w := ⟨⟨memory, { w.copier with copied := w.copier.copied + (bs.length + 1) },
              b :: bs ++ more ++ w.buffer.drop (min left w.buffer.length)⟩, sink⟩) ⟨hsound, hbuffer⟩
            (by omega) ((b :: bs) :: moved) rfl
          exact hnext

theorem copy_spec (h : w.toMachine.Sound s) (size : Nat) :
    ∃ r w', w.copy size = some (r, w') ∧ w'.toMachine.Sound s ∧ w.copying.copy size = (r, w'.copying) := by
  obtain ⟨r, w', hmove, hsound, hcopying⟩ :=
    move_spec (w := { w with copier := { w.copier with allocated := true } })
      ⟨h.memory, h.length_eq⟩ (Nat.le_refl size) []
  have hcopy : ({ w.copying with copier := { w.copying.copier with allocated := true } } :
      Copying).move size size [] = (r, w'.copying) := hcopying
  rw [copy, hmove, Copying.copy, hcopy]
  rcases r with f | moved
  · exact ⟨_, _, rfl, hsound, rfl⟩
  · have hsink : w'.copying.sink = w'.sink := rfl
    simp only [hsink]
    rcases Writer.flush w'.sink with ⟨f | _, sink⟩
    · exact ⟨_, _, rfl, hsound, rfl⟩
    · exact ⟨_, _, rfl, hsound, rfl⟩

end Porter

end Indexed

end ExportStream

import ExportStream.Proofs.Spelling
import ExportStream.Stream.Cursor
import Mathlib.Logic.Relation
/-!
# Reading from a position

A cursor reads through a working buffer that its supply fills in portions of any size. What it reads
depends on nothing of this: it stands at a position of the bytes that the supply holds, and reads
from there as if they were one string.

`Cursor.Sound` is what holds of the buffer along every run over a supply that is at most interrupted
(`Supply.Steady`), and `Cursor.Ahead` what one reading does to the position. `readToken` and
`readRaw` each have one specification in these terms (`Cursor.readToken_spec`,
`Cursor.readRaw_spec`), and **`Cursor.plain_of_reached`** states them for every cursor that any
sequence of readings leads to.

A refill overwrites the whole buffer. No byte is lost by this since scanning asks for more only when
it used every byte that was there; the proof of `readToken_spec` is an induction on the refills that
carries what is known of the token that has begun.
-/

namespace ExportStream

/-! ### Supplies that do not fail -/

namespace Supply

/-- A supply whose faults are interruptions, so that a patient read never fails. -/
def Steady (s : Supply) : Prop := ∀ f ∈ s.faults, f.fault.kind = .interrupted

theorem allowance_le (s : Supply) (n : Nat) : s.allowance n ≤ n := by
  have hmin (x : Option Nat) (m : Nat) : x.elim m (min m) ≤ m := by
    cases x with
    | none => exact Nat.le_refl m
    | some j => exact Nat.min_le_left m j
  exact Nat.le_trans (hmin _ _) (hmin _ _)

theorem portion?_pos {s : Supply} {n : Nat} (h : s.portion? = some n) : 0 < n := by
  obtain ⟨m, -, rfl⟩ := Option.map_eq_some_iff.mp h
  omega

theorem beforeFault?_pos {s : Supply} {n : Nat} (h : s.beforeFault? = some n) : 0 < n := by
  unfold beforeFault? at h
  split at h
  · split_ifs at h with hlt
    simp only [Option.some.injEq] at h
    omega
  · cases h

/-- Whoever wants bytes is allowed at least one. -/
theorem allowance_pos (s : Supply) {n : Nat} (hn : 0 < n) : 0 < s.allowance n := by
  unfold allowance
  cases hp : s.portion? <;> cases hf : s.beforeFault? <;>
    simp only [Option.elim_none, Option.elim_some]
  · exact hn
  · have := beforeFault?_pos hf
    omega
  · have := portion?_pos hp
    omega
  · have := beforeFault?_pos hf
    have := portion?_pos hp
    omega

/-- The first fault behind the interruptions that are due is not due. -/
theorem settled_not_due {s : Supply} (hs : s.Steady) {f : DueFault} {fs : List DueFault}
    (h : s.settled.faults = f :: fs) : f.offset ≠ s.settled.given := by
  intro hdue
  change f.offset = s.given at hdue
  have hmem : f ∈ s.faults := by
    have hf : f ∈ s.settled.faults := h ▸ List.mem_cons_self ..
    exact (List.dropWhile_sublist _).mem hf
  have hnot := List.head?_dropWhile_not (interruptsAt s.given) s.faults
  have hhead : (s.faults.dropWhile (interruptsAt s.given)).head? = some f := by
    change s.settled.faults.head? = some f
    rw [h]
    rfl
  rw [hhead] at hnot
  simp [interruptsAt, hdue, hs f hmem] at hnot

/-- A patient read of a steady supply gives what is left in part, and nothing only at the end. -/
theorem readPatiently_steady {s : Supply} (hs : s.Steady) {n : Nat} (hn : 0 < n) :
    ∃ bytes s', s.readPatiently n = (.ok bytes, s') ∧ bytes ++ s'.rest = s.rest ∧
      bytes.length ≤ n ∧ (bytes = [] → s.rest = []) ∧ s'.Steady := by
  have hread : s.readPatiently n =
      (.ok (s.settled.give (s.settled.allowance n)).1, (s.settled.give (s.settled.allowance n)).2) := by
    unfold readPatiently read
    split
    · next f fs hf => rw [if_neg (settled_not_due hs hf)]
    · rfl
  refine ⟨_, _, hread, give_append .., ?_, ?_, ?_⟩
  · simp only [give, List.length_take]
    have := allowance_le s.settled n
    omega
  · intro hnil
    have hpos := allowance_pos s.settled hn
    simp only [give, List.take_eq_nil_iff] at hnil
    exact hnil.resolve_left (by omega)
  · intro f hf
    exact hs f ((List.dropWhile_sublist _).mem hf)

/-- A supply that gives as much as is wanted. -/
structure Whole (s : Supply) : Prop where
  /-- There are no portions. -/
  portions_eq : s.portions = []
  /-- There are no faults. -/
  faults_eq : s.faults = []

theorem Whole.readPatiently {s : Supply} (h : s.Whole) (n : Nat) :
    ∃ s', s.readPatiently n = (.ok (s.rest.take n), s') ∧ s'.Whole ∧ s'.rest = s.rest.drop n := by
  obtain ⟨rest, given, portions, reads, faults⟩ := s
  obtain ⟨rfl, rfl⟩ := h
  exact ⟨_, rfl, ⟨rfl, rfl⟩, rfl⟩

end Supply

/-! ### Cursors in order -/

namespace Cursor

/-- A cursor over a steady supply whose buffer and counts fit each other. -/
structure Sound (c : Cursor) : Prop where
  /-- The supply never fails. -/
  steady : c.source.supply.Steady
  /-- The working buffer can hold something. -/
  capacity_pos : 0 < c.capacity
  /-- No more of the buffer is used than was filled. -/
  used_le : c.used ≤ c.loaded.length
  /-- No more was filled than the buffer can hold. -/
  loaded_le : c.loaded.length ≤ c.capacity
  /-- What was read is what was used and what waits. -/
  bytesRead_eq : c.bytesRead = c.position + (c.loaded.length - c.used)

/-- From `c` to `c'` exactly `n` bytes were read. -/
structure Ahead (c : Cursor) (n : Nat) (c' : Cursor) : Prop where
  /-- The buffer is in order. -/
  sound : c'.Sound
  /-- There were that many bytes. -/
  le_length : n ≤ c.remaining.length
  /-- The other bytes are left. -/
  remaining_eq : c'.remaining = c.remaining.drop n
  /-- The position counts them. -/
  position_eq : c'.position = c.position + n

theorem Ahead.trans {c d e : Cursor} {m n : Nat} (h : c.Ahead m d) (h' : d.Ahead n e) :
    c.Ahead (m + n) e := by
  have hle := h'.le_length
  rw [h.remaining_eq, List.length_drop] at hle
  refine ⟨h'.sound, ?_, ?_, ?_⟩
  · have := h.le_length
    omega
  · rw [h'.remaining_eq, h.remaining_eq, List.drop_drop]
  · rw [h'.position_eq, h.position_eq, Nat.add_assoc]

theorem length_buffer (c : Cursor) : c.buffer.length = c.loaded.length - c.used := by
  simp [buffer]

/-- A cursor at the start of a steady supply is in order. -/
theorem sound_start {supply : Supply} (hs : supply.Steady) (bufferSize window : Nat) :
    (start supply bufferSize window).Sound where
  steady := hs
  capacity_pos := by simp only [start]; omega
  used_le := Nat.le_refl _
  loaded_le := Nat.zero_le _
  bytesRead_eq := rfl

theorem Sound.note {c : Cursor} (h : c.Sound) (n : Notice) : (c.note n).Sound :=
  ⟨h.steady, h.capacity_pos, h.used_le, h.loaded_le, h.bytesRead_eq⟩

/-- Using bytes of the buffer leaves it in order. -/
theorem Sound.advance {c : Cursor} (h : c.Sound) {n : Nat} (hn : n ≤ c.buffer.length)
    (s : Scanner) : c.Ahead n (c.advance n s) := by
  rw [length_buffer] at hn
  have hused := h.used_le
  refine ⟨⟨h.steady, h.capacity_pos, ?_, h.loaded_le, ?_⟩, ?_, ?_, rfl⟩
  · change c.used + n ≤ c.loaded.length
    omega
  · change c.bytesRead = c.position + n + (c.loaded.length - (c.used + n))
    have := h.bytesRead_eq
    omega
  · rw [remaining, List.length_append, length_buffer]
    omega
  · rw [remaining, remaining, buffer_advance, source_advance,
      List.drop_append_of_le_length (by rw [length_buffer]; exact hn)]

/-- A refill of a cursor whose bytes are all used brings bytes unless the stream ends. -/
theorem Sound.refill {c : Cursor} (h : c.Sound) (hb : c.buffer = []) :
    ∃ n c', c.refill = (.ok n, c') ∧ c.Ahead 0 c' ∧ c'.buffer.length = n ∧
      (n = 0 → c.remaining = []) ∧ c'.scanner = c.scanner := by
  obtain ⟨bytes, supply, hread, happ, hlen, hnil, hsteady⟩ :=
    Supply.readPatiently_steady h.steady h.capacity_pos
  have hwait : c.loaded.length - c.used = 0 := by
    rw [← length_buffer, hb]
    rfl
  have hrefill : c.refill = (.ok bytes.length,
      { c with source := ⟨supply, c.source.window.push bytes⟩, loaded := bytes, used := 0 }.note
        (.refilled bytes.length c.position)) := by
    simp [Cursor.refill, WatchedSupply.readPatiently, Watched.readBy, hread]
  refine ⟨_, _, hrefill, ⟨⟨hsteady, h.capacity_pos, Nat.zero_le _, hlen, ?_⟩, Nat.zero_le _, ?_,
    rfl⟩, rfl, ?_, rfl⟩
  · change c.bytesRead + bytes.length = c.position + (bytes.length - 0)
    have := h.bytesRead_eq
    omega
  · change bytes ++ supply.rest = c.buffer ++ c.source.supply.rest
    rw [happ, hb]
    rfl
  · intro hzero
    rw [remaining, hb, List.nil_append]
    exact hnil (List.length_eq_zero_iff.mp hzero)

/-- A refill from a supply that gives as much as is wanted fills the buffer, or brings all that is
left. -/
theorem refill_whole {c : Cursor} {front more : List UInt8} (h : c.source.supply.Whole)
    (hfront : c.source.supply.rest.take c.capacity = front)
    (hmore : c.source.supply.rest.drop c.capacity = more) :
    ∃ c', c.refill = (.ok front.length, c') ∧ c'.buffer = front ∧ c'.source.supply.rest = more ∧
      c'.source.supply.Whole ∧ c'.capacity = c.capacity ∧ c'.scanner = c.scanner ∧
      c'.position = c.position ∧ c'.bytesRead = c.bytesRead + front.length := by
  obtain ⟨supply, hread, hwhole, hrest⟩ := h.readPatiently c.capacity
  rw [hfront] at hread
  rw [hmore] at hrest
  simp only [refill, WatchedSupply.readPatiently, Watched.readBy, hread]
  exact ⟨_, rfl, rfl, hrest, hwhole, rfl, rfl, rfl, rfl⟩

/-! ### Reading a token -/

/-- What reading a token comes to, said by scanning all bytes that are left at once. -/
def TokenOutcome (c : Cursor) (r : Except Failure Token × Cursor) : Scanner.Scan → Prop
  | .token t rest => ∃ c', r = (.ok t, c') ∧ c.Ahead (c.remaining.length - rest.length) c' ∧
      c'.remaining = rest ∧ c'.scanner = .idle
  | .fail f => ∃ p w c', r =
      (.error (.ofStream (.malformed (.token f) (some p) (some w))), c')
  | .more s => ∃ c', r =
      (.error (.ofStream (.ended (if s.isPartial then .insideToken else .beforeToken)
        (c.position + c.remaining.length) none none)), c')

/-- What comes of a token further on comes of it from here. -/
theorem TokenOutcome.before {c d : Cursor} {n : Nat} (h : c.Ahead n d)
    {r : Except Failure Token × Cursor} {x : Scanner.Scan} (hx : d.TokenOutcome r x) :
    c.TokenOutcome r x := by
  have hlen : d.remaining.length = c.remaining.length - n := by
    rw [h.remaining_eq, List.length_drop]
  have hle := h.le_length
  cases x with
  | token t rest =>
    obtain ⟨c', hr, hahead, hrest, hidle⟩ := hx
    have hshort : rest.length ≤ d.remaining.length := by
      rw [← hrest, hahead.remaining_eq, List.length_drop]
      omega
    refine ⟨c', hr, ?_, hrest, hidle⟩
    have hcount : c.remaining.length - rest.length = n + (d.remaining.length - rest.length) := by
      omega
    rw [hcount]
    exact h.trans hahead
  | fail f => exact hx
  | more s =>
    obtain ⟨c', hr⟩ := hx
    have hpos : d.position + d.remaining.length = c.position + c.remaining.length := by
      rw [h.position_eq, hlen]
      omega
    exact ⟨c', by rw [hr, hpos]⟩

/-- Reading a token is scanning the bytes that are left, however the supply portions them. -/
theorem readToken_spec {c : Cursor} (h : c.Sound) :
    c.TokenOutcome c.readToken (c.scanner.scan c.remaining) := by
  fun_induction readToken c with
  | case1 c t rest hs =>
    rw [remaining, Scanner.scan_append, hs]
    obtain ⟨front, hfront⟩ := Scanner.suffix_of_scan hs
    have hlen : rest.length ≤ c.buffer.length := by simp [hfront]
    have hahead := h.advance (Nat.sub_le c.buffer.length rest.length) .idle
    have hcount : c.remaining.length - (rest ++ c.source.supply.rest).length =
        c.buffer.length - rest.length := by
      simp only [remaining, List.length_append]
      omega
    refine ⟨_, rfl, ?_, ?_, rfl⟩
    · rw [hcount]
      exact hahead
    · have hdrop : c.buffer.drop (c.buffer.length - rest.length) = rest := by
        rw [hfront, List.length_append, Nat.add_sub_cancel, List.drop_left]
      rw [remaining, buffer_advance, source_advance, hdrop]
  | case2 c f hs =>
    rw [remaining, Scanner.scan_append, hs]
    exact ⟨_, _, _, rfl⟩
  | case3 c s hs f c' hr =>
    obtain ⟨n, d, hd, -⟩ := (h.advance (Nat.le_refl _) s).sound.refill (buffer_useUp c s)
    rw [useUp, hd] at hr
    cases hr
  | case4 c s hs c' hr =>
    -- the stream ends here: what is known of the token is all that there will be
    have hused := h.advance (Nat.le_refl c.buffer.length) s
    obtain ⟨n, d, hd, hahead, -, hend, hscanner⟩ := hused.sound.refill (buffer_useUp c s)
    rw [useUp, hd] at hr
    cases hr
    have hrest : c.source.supply.rest = [] := by
      have hnone := hend rfl
      rw [remaining] at hnone
      exact (List.append_eq_nil_iff.mp hnone).2
    have hpos : c'.position = c.position + c.remaining.length := by
      rw [hahead.position_eq, hused.position_eq, remaining, hrest, List.append_nil, Nat.add_zero]
    rw [remaining, Scanner.scan_append, hs, hrest]
    refine ⟨c', ?_⟩
    rw [endedInToken, hscanner, hpos, remaining, hrest]
    rfl
  | case5 c s hs n c' hr ih =>
    have hused := h.advance (Nat.le_refl c.buffer.length) s
    obtain ⟨m, d, hd, hahead, -, -, hscanner⟩ := hused.sound.refill (buffer_useUp c s)
    rw [useUp, hd] at hr
    cases hr
    have hrest : c'.remaining = c.source.supply.rest := by
      rw [hahead.remaining_eq, List.drop_zero, remaining, buffer_advance, List.drop_length]
      rfl
    have hscan : c.scanner.scan c.remaining = c'.scanner.scan c'.remaining := by
      rw [hscanner, hrest, remaining, Scanner.scan_append, hs]
      rfl
    rw [hscan]
    exact (ih hahead.sound).before (hused.trans hahead)

theorem readToken_of_token {c : Cursor} (h : c.Sound) {t : Token} {rest : List UInt8}
    (hs : c.scanner.scan c.remaining = .token t rest) :
    ∃ c', c.readToken = (.ok t, c') ∧ c.Ahead (c.remaining.length - rest.length) c' ∧
      c'.remaining = rest ∧ c'.scanner = .idle := by
  have hspec := readToken_spec h
  rw [hs] at hspec
  exact hspec

theorem readToken_of_fail {c : Cursor} (h : c.Sound) {f : Scanner.Fault}
    (hs : c.scanner.scan c.remaining = .fail f) :
    ∃ p w c', c.readToken = (.error (.ofStream (.malformed (.token f) (some p) (some w))), c') := by
  have hspec := readToken_spec h
  rw [hs] at hspec
  exact hspec

theorem readToken_of_more {c : Cursor} (h : c.Sound) {s : Scanner}
    (hs : c.scanner.scan c.remaining = .more s) :
    ∃ c', c.readToken =
      (.error (.ofStream (.ended (if s.isPartial then .insideToken else .beforeToken)
        (c.position + c.remaining.length) none none)), c') := by
  have hspec := readToken_spec h
  rw [hs] at hspec
  exact hspec

/-! ### Reading raw bytes -/

/-- What is taken of the buffer is taken of all bytes that are left. -/
theorem take_buffer (c : Cursor) (n : Nat) :
    c.buffer.take n = c.remaining.take (min n c.buffer.length) := by
  rw [remaining, List.take_append_of_le_length (Nat.min_le_right ..), ← List.take_take,
    List.take_length]

/-- Reading raw bytes takes some of those that are left, and none only if there are none. -/
theorem readRaw_spec {c : Cursor} (h : c.Sound) {n : Nat} (hn : 0 < n) :
    ∃ m c', c.readRaw n = (.ok (c.remaining.take m), c') ∧ c.Ahead m c' ∧ m ≤ n ∧
      (m = 0 → c.remaining = []) ∧ c'.scanner = c.scanner := by
  have htake {d : Cursor} (hd : c.Ahead 0 d) (hscanner : d.scanner = c.scanner)
      (hread : c.readRaw n =
        (.ok (d.buffer.take n), d.advance (min n d.buffer.length) d.scanner))
      (hend : d.buffer = [] → c.remaining = []) :
      ∃ m c', c.readRaw n = (.ok (c.remaining.take m), c') ∧ c.Ahead m c' ∧ m ≤ n ∧
        (m = 0 → c.remaining = []) ∧ c'.scanner = c.scanner := by
    have hsame : d.remaining = c.remaining := hd.remaining_eq
    have hahead := hd.trans (hd.sound.advance (Nat.min_le_right n d.buffer.length) d.scanner)
    rw [Nat.zero_add] at hahead
    refine ⟨_, _, ?_, hahead, Nat.min_le_left .., ?_, hscanner⟩
    · rw [hread, take_buffer, hsame]
    · intro hzero
      exact hend (List.length_eq_zero_iff.mp (by omega))
  by_cases hb : c.buffer = []
  · obtain ⟨k, d, hd, hahead, hlen, hend, hscanner⟩ := h.refill hb
    refine htake hahead hscanner ?_ ?_
    · simp [readRaw, Nat.ne_of_gt hn, hb, hd]
    · intro hnil
      exact hend (by rw [← hlen, hnil]; rfl)
  · have hself : c.Ahead 0 c := ⟨h, Nat.zero_le _, rfl, rfl⟩
    refine htake hself rfl ?_ (fun hnil => absurd hnil hb)
    simp [readRaw, Nat.ne_of_gt hn, hb]

/-! ### Any sequence of readings -/

/-- A reading that succeeded. -/
inductive Step : Cursor → Cursor → Prop where
  /-- A token was read. -/
  | token {c c' : Cursor} {t : Token} : c.readToken = (.ok t, c') → Step c c'
  /-- Raw bytes were read. -/
  | raw {c c' : Cursor} {n : Nat} {bytes : List UInt8} : c.readRaw n = (.ok bytes, c') → Step c c'

/-- The cursor stands in the bytes `data` after any readings that succeeded, over any supply that
portions these bytes in any way, with any buffer. -/
def Reached (data : List UInt8) (c : Cursor) : Prop :=
  ∃ supply bufferSize window, supply.rest = data ∧ supply.Steady ∧
    Relation.ReflTransGen Step (start supply bufferSize window) c

/-- The cursor reads as from its position in the bytes `data`. -/
structure Plain (data : List UInt8) (c : Cursor) : Prop where
  /-- No more of the buffer is used than was filled. -/
  used_le : c.used ≤ c.loaded.length
  /-- No more was filled than the buffer can hold. -/
  loaded_le : c.loaded.length ≤ c.capacity
  /-- What was read from the supply is what was used and what waits. -/
  bytesRead_eq : c.bytesRead = c.position + (c.loaded.length - c.used)
  /-- What waits in the buffer stands between the position and what was read. -/
  buffer_eq : c.buffer = (data.take c.bytesRead).drop c.position
  /-- Raw bytes are those at the position, and none come at the end only. -/
  raw : ∀ n, 0 < n → ∃ m c', c.readRaw n = (.ok ((data.drop c.position).take m), c') ∧
    m ≤ n ∧ c'.position = c.position + m ∧ c'.position ≤ data.length ∧
    (m = 0 → c.position = data.length)
  /-- A token is the first one at the position, and takes the separators before it and its own
  bytes; behind a number a byte is left that ends it. -/
  token : ∀ t rest, Scanner.scan .idle (data.drop c.position) = .token t rest →
    ∃ c' gap text, c.readToken = (.ok t, c') ∧ data.drop c.position = gap ++ (text ++ rest) ∧
      gap.all Scanner.isSeparator ∧ t.Spells text ∧ t.EndsBefore rest ∧
      c'.position = c.position + (gap.length + text.length) ∧ data.drop c'.position = rest
  /-- Bytes that are refused at the position are refused. -/
  fail : ∀ f, Scanner.scan .idle (data.drop c.position) = .fail f →
    ∃ p w c', c.readToken = (.error (.ofStream (.malformed (.token f) (some p) (some w))), c')
  /-- Where neither holds the stream ends too soon, behind its last byte. -/
  ended : ∀ s, Scanner.scan .idle (data.drop c.position) = .more s →
    ∃ c', c.readToken = (.error (.ofStream (.ended
      (if s.isPartial then .insideToken else .beforeToken) data.length none none)), c')

/-- What every sequence of readings that succeeded keeps: the cursor is in order, no token has begun,
and the bytes that are left are those behind the position. -/
structure Within (data : List UInt8) (c : Cursor) : Prop where
  /-- The buffer is in order. -/
  sound : c.Sound
  /-- No token has begun. -/
  idle : c.scanner = .idle
  /-- The position lies within the bytes. -/
  position_le : c.position ≤ data.length
  /-- The bytes behind it are left. -/
  remaining_eq : c.remaining = data.drop c.position

theorem Within.ahead {data : List UInt8} {c c' : Cursor} {n : Nat} (h : c.Within data)
    (ha : c.Ahead n c') (hidle : c'.scanner = .idle) : c'.Within data := by
  have hle := ha.le_length
  rw [h.remaining_eq, List.length_drop] at hle
  have := h.position_le
  refine ⟨ha.sound, hidle, ?_, ?_⟩
  · rw [ha.position_eq]
    omega
  · rw [ha.remaining_eq, h.remaining_eq, List.drop_drop, ha.position_eq]

/-- One reading that succeeds keeps it. -/
theorem Within.step {data : List UInt8} {c c' : Cursor} (h : c.Within data) (hs : Step c c') :
    c'.Within data := by
  cases hs with
  | @token t hr =>
    cases hscan : c.scanner.scan c.remaining with
    | token u rest =>
      obtain ⟨d, hd, hahead, -, hidle⟩ := readToken_of_token h.sound hscan
      rw [hd] at hr
      cases hr
      exact h.ahead hahead hidle
    | fail f =>
      obtain ⟨p, w, d, hd⟩ := readToken_of_fail h.sound hscan
      rw [hd] at hr
      cases hr
    | more s =>
      obtain ⟨d, hd⟩ := readToken_of_more h.sound hscan
      rw [hd] at hr
      cases hr
  | @raw n bytes hr =>
    rcases Nat.eq_zero_or_pos n with rfl | hn
    · simp only [readRaw, if_true, Prod.mk.injEq] at hr
      rw [← hr.2]
      exact h
    · obtain ⟨m, d, hd, hahead, -, -, hscanner⟩ := readRaw_spec h.sound hn
      rw [hd] at hr
      cases hr
      exact h.ahead hahead (hscanner.trans h.idle)

/-- Every sequence of readings that succeed keeps it. -/
theorem within_of_reached {data : List UInt8} {c : Cursor} (h : c.Reached data) :
    c.Within data := by
  obtain ⟨supply, bufferSize, window, hdata, hsteady, hsteps⟩ := h
  induction hsteps with
  | refl =>
    exact ⟨sound_start hsteady bufferSize window, rfl, Nat.zero_le _, hdata⟩
  | tail _ hs ih => exact ih.step hs

/-- **A cursor is a position.** After any readings that succeeded, over any portions of the bytes and
with any buffer, a cursor reads as from its position in the bytes as a whole. -/
theorem plain_of_reached {data : List UInt8} {c : Cursor} (h : c.Reached data) : c.Plain data := by
  have hw := within_of_reached h
  have hsound := hw.sound
  have hleft : c.remaining.length = data.length - c.position := by
    rw [hw.remaining_eq, List.length_drop]
  have hple := hw.position_le
  refine ⟨hsound.used_le, hsound.loaded_le, hsound.bytesRead_eq, ?_, ?_, ?_, ?_, ?_⟩
  · have hwait : c.bytesRead = c.position + c.buffer.length := by
      rw [hsound.bytesRead_eq, length_buffer]
    rw [List.drop_take, hwait, Nat.add_sub_cancel_left, ← hw.remaining_eq, remaining,
      List.take_left]
  · intro n hn
    obtain ⟨m, c', hread, hahead, hmn, hend, -⟩ := readRaw_spec hsound hn
    have hle := hahead.le_length
    refine ⟨m, c', by rw [hread, hw.remaining_eq], hmn, hahead.position_eq, ?_, ?_⟩
    · rw [hahead.position_eq]
      omega
    · intro hzero
      have hnone := congrArg List.length (hend hzero)
      rw [hleft, List.length_nil] at hnone
      omega
  · intro t rest hscan
    obtain ⟨gap, text, hbytes, hgap, htext, hends⟩ := Scanner.scan_idle_iff.mp hscan
    rw [← hw.remaining_eq, ← hw.idle] at hscan
    obtain ⟨c', hread, hahead, hrest, hidle⟩ := readToken_of_token hsound hscan
    have hthere := hw.ahead hahead hidle
    refine ⟨c', gap, text, hread, hbytes, hgap, htext, hends, ?_, ?_⟩
    · rw [hahead.position_eq, hw.remaining_eq, hbytes]
      simp only [List.length_append]
      omega
    · rw [← hthere.remaining_eq, hrest]
  · intro f hscan
    rw [← hw.remaining_eq, ← hw.idle] at hscan
    exact readToken_of_fail hsound hscan
  · intro s hscan
    rw [← hw.remaining_eq, ← hw.idle] at hscan
    obtain ⟨c', hread⟩ := readToken_of_more hsound hscan
    have hend : c.position + c.remaining.length = data.length := by omega
    exact ⟨c', by rw [hread, hend]⟩

/-- The bytes `{12 ` that come one by one, after their brace is read: the number is read across three
refills, and the space behind it is left. -/
theorem plain_behind_brace :
    ∃ c : Cursor, c.Reached [123, 49, 50, 32] ∧ c.Plain [123, 49, 50, 32] ∧ c.position = 1 ∧
      ∃ c', c.readToken = (.ok (.integer 12), c') ∧ c'.position = 3 := by
  let data : List UInt8 := [123, 49, 50, 32]
  let supply : Supply := { rest := data, portions := [1] }
  have hsteady : supply.Steady := by simp [Supply.Steady, supply]
  have hstart : (start supply 1 0).Reached data := ⟨supply, 1, 0, rfl, hsteady, .refl⟩
  obtain ⟨c, gap, text, hread, hbytes, -, -, -, hpos, -⟩ :=
    (plain_of_reached hstart).token .startObject [49, 50, 32] rfl
  have hlen := congrArg List.length hbytes
  have hone : c.position = 1 := by
    simp [start, data] at hlen hpos
    omega
  have hc : c.Reached data := ⟨supply, 1, 0, rfl, hsteady, .single (.token hread)⟩
  have hplain := plain_of_reached hc
  obtain ⟨c', gap', text', hread', hbytes', -, -, -, hpos', -⟩ :=
    hplain.token (.integer 12) [32] (by rw [hone]; decide)
  have hlen' := congrArg List.length hbytes'
  refine ⟨c, hc, hplain, hone, c', hread', ?_⟩
  simp [hone, data] at hlen' hpos'
  omega

end Cursor

end ExportStream

import ExportStream.Proofs.Bounds
import ExportStream.Proofs.FaultPlaces
import ExportStream.Proofs.Memories
/-!
# The input that messages show

The message of a fault of form names a position and shows the last input. The input is what the
window under the stream holds, and that is always the end of what was read so far
(`WatchedSupply.Mirrors`), however it was read: no reading changes it but a read of the supply. The
position counts what was used. Between the two lies what waits in the working buffer, and that is at
most one filling.

So what a message shows begins and ends where it should: it is the last part of the input that was
read, which reaches to the position and up to one filling beyond it
(**`Session.form_fault_shows`**). Whether the byte before the position is still in it is a matter of
the sizes. If the buffer is smaller than the window it always is. If it is not, there are inputs
that push the byte out (`Session.always_shown_iff`), and a small export in one portion is enough for
that (`Session.place_not_shown`).
-/

namespace ExportStream

/-! ### The last bytes -/

namespace Window

variable {n p : Nat} {data : List UInt8}

/-- The byte before a position, and all that was read behind it, is among the last `n` bytes. -/
def Reaches (n : Nat) (data : List UInt8) (p : Nat) : Prop :=
  data.drop (p - 1) <:+ lastOf n data

/-- It is where the position is less than `n` bytes behind the end. -/
theorem reaches_iff (hpos : 0 < p) (hp : p ≤ data.length) :
    Reaches n data p ↔ data.length < p + n := by
  unfold Reaches lastOf
  constructor
  · intro h
    have hlength := h.length_le
    rw [List.length_drop, List.length_drop] at hlength
    omega
  · intro h
    have hsplit : p - 1 = data.length - n + (p - 1 - (data.length - n)) := by omega
    rw [hsplit, ← List.drop_drop]
    exact List.drop_suffix _ _

end Window

/-! ### What the window holds -/

namespace WatchedSupply

/-- So many of some bytes were read, the others are left, and the window holds the last of those
that were read. -/
structure Mirrors (data : List UInt8) (s : WatchedSupply) : Prop where
  /-- The window holds the last bytes. -/
  bytes_eq : s.window.bytes = Window.lastOf s.window.capacity (data.take s.window.total)
  /-- The others are left. -/
  rest_eq : s.supply.rest = data.drop s.window.total

variable {data : List UInt8} {s s' : WatchedSupply} {n : Nat}

theorem mirrors_start (supply : Supply) (capacity : Nat) :
    (start supply capacity).Mirrors supply.rest where
  bytes_eq := by
    show [] = Window.lastOf capacity []
    exact List.drop_nil.symm
  rest_eq := rfl

/-- Whatever a read comes to. -/
theorem Mirrors.readPatiently (h : s.Mirrors data) {r : Except DeviceFault (List UInt8)}
    (hr : s.readPatiently n = (r, s')) :
    s'.Mirrors data ∧ s'.window.capacity = s.window.capacity := by
  obtain ⟨hbytes, hrest⟩ := h
  cases r with
  | error f =>
    have hleft := readPatiently_error hr
    obtain ⟨supply, -, rfl⟩ := Watched.readBy_error hr
    exact ⟨⟨hbytes, hleft.trans hrest⟩, rfl⟩
  | ok bytes =>
    have hleft := readPatiently_append hr
    obtain ⟨supply, -, rfl⟩ := Watched.readBy_ok hr
    rw [hrest] at hleft
    refine ⟨⟨?_, ?_⟩, rfl⟩
    · show (s.window.push bytes).bytes =
        Window.lastOf s.window.capacity (data.take (s.window.total + bytes.length))
      rw [Window.bytes_push hbytes, List.take_add, ← hleft, List.take_left]
    · show _ = data.drop (s.window.total + bytes.length)
      rw [← List.drop_drop, ← hleft, List.drop_left]

end WatchedSupply

namespace Cursor

/-- A cursor of the given sizes whose window holds the last bytes that were read. -/
structure Watches (data : List UInt8) (size window : Nat) (c : Cursor) : Prop where
  /-- The window holds the last bytes. -/
  mirrors : c.source.Mirrors data
  /-- The size of the buffer. -/
  capacity_eq : c.capacity = size
  /-- The size of the window. -/
  window_eq : c.source.window.capacity = window

theorem watches_start (supply : Supply) (bufferSize window : Nat) :
    (start supply bufferSize window).Watches supply.rest (max bufferSize 1) window :=
  ⟨WatchedSupply.mirrors_start supply window, rfl, rfl⟩

theorem lasting_watches (data : List UInt8) (size window : Nat) :
    Lasting (Watches data size window) where
  note h _ := ⟨h.mirrors, h.capacity_eq, h.window_eq⟩
  advance h _ _ := ⟨h.mirrors, h.capacity_eq, h.window_eq⟩
  refill {c d r} h _ hr := by
    unfold Cursor.refill at hr
    rcases hs : c.source.readPatiently c.capacity with ⟨f | bytes, source⟩
    all_goals
      obtain ⟨hmirrors, hcapacity⟩ := h.mirrors.readPatiently hs
      rw [hs] at hr
      cases hr
      exact ⟨hmirrors, h.capacity_eq, hcapacity.trans h.window_eq⟩

end Cursor

namespace Session

variable {supply : Supply} {options : Options} {tally : Tally} {f : Failure} {s t : Session}

/-! ### Failures -/

/-- What an export fails with, and where that leaves the session: it fails when it is opened, or
when the session is used, after any other uses. -/
inductive FailsWith (supply : Supply) (options : Options) (tally : Tally) :
    Failure → Session → Prop where
  /-- When it is opened. -/
  | opened {f : Failure} {t : Session} :
      (start supply options tally).begin = (.error f, t) → FailsWith supply options tally f t
  /-- When it is used. -/
  | used {f : Failure} {s t : Session} :
      (start supply options tally).begin.2.Uses s → s.Failing f t →
      FailsWith supply options tally f t

theorem Failing.use (h : s.Failing f t) : s.Use t := by
  cases h with
  | nextKind h =>
    have ht : s.nextKind.2 = t := by rw [h]
    exact ht ▸ Use.nextKind s
  | @skipKind _ _ kind _ _ h =>
    have ht : (s.skipKind kind).2.2 = t := by rw [h]
    exact ht ▸ Use.skipKind s kind
  | @poll _ _ r _ _ _ h =>
    have ht : (r.poll s).2.2 = t := by rw [h]
    exact ht ▸ Use.poll s r
  | @drive _ i j handler _ _ _ h =>
    have ht : (i.drive handler).2.session = j.session := by rw [h]
    exact ht ▸ Use.drive i handler

namespace FailsWith

theorem foundAt (h : FailsWith supply options tally f t) : f.FoundAt t.cursor := by
  cases h with
  | opened h => exact (finds_begin h).foundAt
  | used _ h => exact h.foundAt

theorem journey (h : FailsWith supply options tally f t) :
    ∃ failures, (start supply options tally).Journey failures 0 t := by
  cases h with
  | opened h => exact ⟨_, journey_begin h⟩
  | used huses h =>
    have hall : (start supply options tally).begin.2.Uses t := huses.tail h.use
    obtain ⟨failures, hjourney⟩ := hall.journey
    exact ⟨_, (journey_begin rfl).trans hjourney⟩

end FailsWith

/-- What imports fail with. -/
theorem failsWith_run {σ : Type} {sinks : Sinks} {h : Handler σ} {state : σ} {i : Import σ}
    (hh : h.Plain) (hsinks : sinks.Plain)
    (hr : Import.run supply options tally sinks h state = (.error f, i)) :
    FailsWith supply options tally f i.session := by
  unfold Import.run at hr
  split at hr
  · next hb =>
    cases hr
    exact .opened hb
  · next s hb =>
    have hs : (start supply options tally).begin.2 = s := congrArg Prod.snd hb
    refine .used (s := s) ?_ (.drive hh hsinks hr)
    rw [hs]

/-! ### What is shown -/

/-- A fault at a position shows the input around it: the text is the end of the bytes that were
read, which are of some bytes and reach to the position and at most one filling of the buffer
beyond. -/
structure ShowsInput (data : List UInt8) (options : Options) (position read : Nat) (text : String) :
    Prop where
  /-- The last bytes that were read. -/
  text_eq : text = Text.Utf8.lossy (Window.lastOf options.diagnosticWindow (data.take read))
  /-- No more are read than there are. -/
  read_le_length : read ≤ data.length
  /-- The position is among them. -/
  position_le : position ≤ read
  /-- At most one filling is beyond it. -/
  read_le : read ≤ position + max options.bufferSize 1
  /-- The byte before the position is shown just where fewer bytes were read behind the position
  than are shown. -/
  reaches_iff : 0 < position →
    (Window.Reaches options.diagnosticWindow (data.take read) position ↔
      read < position + options.diagnosticWindow)
  /-- It is if the buffer is smaller than the window. -/
  reaches : max options.bufferSize 1 < options.diagnosticWindow → 0 < position →
    Window.Reaches options.diagnosticWindow (data.take read) position

/-- Where an export fails, the window holds the input around the position. -/
theorem FailsWith.showsInput (h : FailsWith supply options tally f t) :
    ShowsInput supply.rest options t.position t.bytesRead t.cursor.source.window.recent := by
  obtain ⟨failures, hjourney⟩ := h.journey
  obtain ⟨tokens, lost, hcourse, -⟩ := hjourney.course
  obtain ⟨-, hle, hlength⟩ := hjourney.within
  have hwatches := hcourse.lasting (Cursor.lasting_watches ..) (Cursor.watches_start ..)
  have htidy := hcourse.gains.tidy _ (Cursor.tidy_start ..)
  have hread : t.bytesRead ≤ t.position + max options.bufferSize 1 := by
    have hloaded : t.cursor.loaded.length ≤ max options.bufferSize 1 :=
      hwatches.capacity_eq ▸ htidy.loaded_le
    have hbytes : t.bytesRead = t.position + (t.cursor.loaded.length - t.cursor.used) :=
      htidy.bytesRead_eq
    omega
  have hiff : 0 < t.position →
      (Window.Reaches options.diagnosticWindow (supply.rest.take t.bytesRead) t.position ↔
        t.bytesRead < t.position + options.diagnosticWindow) := by
    intro hpos
    have htake : (supply.rest.take t.bytesRead).length = t.bytesRead :=
      List.length_take_of_le hlength
    have hreaches := Window.reaches_iff (n := options.diagnosticWindow) hpos
      (Nat.le_trans hle (Nat.le_of_eq htake.symm))
    rw [htake] at hreaches
    exact hreaches
  refine ⟨?_, hlength, hle, hread, hiff, ?_⟩
  · have hbytes := hwatches.mirrors.bytes_eq
    rw [hwatches.window_eq] at hbytes
    exact congrArg Text.Utf8.lossy hbytes
  · intro hsmall hpos
    exact (hiff hpos).mpr (by omega)

/-- **Faults of form show the input around them.** Whatever fails with one, when the export is
opened or used, the fault names the position of the session, and shows the last of the bytes that
were read up to then. These reach to the position, and at most one filling of the buffer beyond it;
so the byte before the position is shown if the buffer is smaller than the window. -/
theorem form_fault_shows {cause : Malformation} {p : Option Nat} {text : Option String}
    (h : FailsWith supply options tally f t) (hf : f.cause = .stream (.malformed cause p text)) :
    ∃ shown, p = some t.position ∧ text = some shown ∧
      ShowsInput supply.rest options t.position t.bytesRead shown := by
  obtain ⟨hposition, htext⟩ := h.foundAt cause p text hf
  exact ⟨_, hposition, htext, h.showsInput⟩

/-- An export begins with a brace; one that begins with another token is refused behind that. -/
theorem begin_of_other {u : Token} {rest : List UInt8} (hvalid : s.options.validate = .ok ())
    (hs : s.cursor.Sound) (hscan : s.cursor.scanner.scan s.cursor.remaining = .token u rest)
    (hu : u ≠ .startObject) :
    s.begin = (.error (s.readToken.2.malformed (.envelope u)), s.readToken.2) := by
  obtain ⟨c, hc, -⟩ := Cursor.readToken_of_token hs hscan
  have hread : s.readToken = (.ok u, s.readToken.2) := by
    unfold readToken
    rw [hc]
  unfold begin
  rw [hvalid, hread]
  cases u <;> first | rfl | exact absurd rfl hu

/-- The bytes `[1]` through a buffer of two: opening fails behind the bracket, and shows it with the
digit that is in the buffer. -/
theorem form_fault_shows_bracket :
    let supply : Supply := { rest := [91, 49, 93] }
    let options : Options := { bufferSize := 2 }
    ∃ f t, FailsWith supply options {} f t ∧
      f.cause = .stream (.malformed (.envelope .startArray) (some 1) (some "[1")) ∧
      ShowsInput supply.rest options 1 2 "[1" := by
  intro supply options
  let s := start supply options {}
  have hsound : s.cursor.Sound := Cursor.sound_start (by simp [Supply.Steady, supply]) _ _
  have hfails := FailsWith.opened
    (begin_of_other (s := s) (u := .startArray) rfl hsound rfl (by decide))
  have hposition : s.readToken.2.position = 1 := by decide +kernel
  have hshown : s.readToken.2.cursor.source.window.recent = "[1" := by decide +kernel
  have hbytes : s.readToken.2.bytesRead = 2 := by decide +kernel
  have hcause : (s.readToken.2.malformed (.envelope .startArray)).cause =
      .stream (.malformed (.envelope .startArray) (some 1) (some "[1")) := by
    rw [← hposition, ← hshown]
    rfl
  obtain ⟨shown, -, htext, hshows⟩ := form_fault_shows hfails hcause
  rw [hposition, hbytes, ← Option.some.inj htext] at hshows
  exact ⟨_, _, hfails, hcause, hshows⟩

/-! ### What is pushed out -/

theorem scan_blanks (n : Nat) :
    Scanner.scan .idle (List.replicate n 32) = .more .idle := by
  induction n with
  | zero => rfl
  | succ n ih => simpa [Scanner.scan, Scanner.isSeparator, List.replicate_succ] using ih

/-- Behind as many blanks as the buffer holds, as many bytes with which no token begins are refused
when the buffer is full of them. -/
theorem readToken_behind_blanks {size : Nat} (hsize : 0 < size) (window : Nat) :
    let supply : Supply := { rest := List.replicate size 32 ++ List.replicate size 64 }
    ∃ c d : Cursor, (Cursor.start supply size window).readToken =
        (.error (c.malformed (.token (.byte 64))), d) ∧
      d.position = size ∧ d.bytesRead = size + size := by
  intro supply
  obtain ⟨n, rfl⟩ := Nat.exists_eq_add_of_lt hsize
  have hcapacity : (Cursor.start supply (0 + n + 1) window).capacity = 0 + n + 1 :=
    Nat.max_eq_left (Nat.le_add_left ..)
  -- the blanks fill the buffer, and are used
  obtain ⟨c, hc, hblanks, hrest, hwhole, hc_capacity, hc_scanner, hc_position, hc_bytes⟩ :=
    Cursor.refill_whole (c := (Cursor.start supply (0 + n + 1) window).useUp .idle) ⟨rfl, rfl⟩
      (List.take_left' (List.length_replicate.trans hcapacity.symm))
      (List.drop_left' (List.length_replicate.trans hcapacity.symm))
  rw [List.length_replicate] at hc hc_bytes
  have hscan : c.scanner.scan c.buffer = .more .idle := by
    rw [hc_scanner, hblanks]
    exact scan_blanks _
  -- so do the bytes behind them, and the first of them is refused
  have hsize : (c.useUp .idle).source.supply.rest.length = (c.useUp .idle).capacity := by
    rw [Cursor.source_useUp, hrest, List.length_replicate]
    exact (hc_capacity.trans hcapacity).symm
  obtain ⟨d, hd, hsigns, -, -, -, hd_scanner, hd_position, hd_bytes⟩ :=
    Cursor.refill_whole (c := c.useUp .idle) hwhole
      ((List.take_of_length_le (Nat.le_of_eq hsize)).trans hrest) rfl
  rw [List.length_replicate] at hd hd_bytes
  have hrefused : d.scanner.scan d.buffer = .fail (.byte 64) := by
    rw [hd_scanner, hsigns, List.replicate_succ]
    rfl
  refine ⟨d, { d with scanner := .idle }, ?_, ?_, ?_⟩
  · rw [Cursor.readToken_more rfl hc, Cursor.readToken_more hscan hd,
      Cursor.readToken_fail hrefused]
  · show d.position = _
    have hused : (c.useUp .idle).position = c.position + c.buffer.length := rfl
    have hnone : ((Cursor.start supply (0 + n + 1) window).useUp .idle).position = 0 := rfl
    rw [hd_position, hused, hc_position, hnone, hblanks, List.length_replicate, Nat.zero_add]
  · show d.bytesRead = _
    have hnone : ((Cursor.start supply (0 + n + 1) window).useUp .idle).bytesRead = 0 := rfl
    have hused : (c.useUp .idle).bytesRead = c.bytesRead := rfl
    rw [hd_bytes, hused, hc_bytes, hnone, Nat.zero_add]

/-- If the buffer is not smaller than the window, there is an export that fails at a byte before
which nothing is shown. -/
theorem exists_hidden (hvalid : options.validate = .ok ())
    (hsize : options.diagnosticWindow ≤ options.bufferSize) :
    ∃ supply cause p text f t, FailsWith supply options tally f t ∧
      f.cause = .stream (.malformed cause p text) ∧ 0 < t.position ∧
      t.position + options.diagnosticWindow ≤ t.bytesRead := by
  obtain ⟨hpos, -, -⟩ := (Options.validate_eq_ok_iff options).mp hvalid
  obtain ⟨c, d, hread, hposition, hbytes⟩ := readToken_behind_blanks hpos options.diagnosticWindow
  let supply : Supply :=
    { rest := List.replicate options.bufferSize 32 ++ List.replicate options.bufferSize 64 }
  let s := start supply options tally
  have hbegin : s.begin = (.error (c.malformed (.token (.byte 64))), { s with cursor := d }) := by
    have hs : s.options.validate = .ok () := hvalid
    have hr : s.cursor.readToken = _ := hread
    unfold begin readToken
    simp only [hs, hr]
  refine ⟨supply, _, _, _, _, { s with cursor := d }, .opened hbegin, rfl, ?_, ?_⟩
  · show 0 < d.position
    omega
  · show d.position + _ ≤ d.bytesRead
    omega

/-- **The byte before the position of a fault is always shown just if the buffer is smaller than the
window.** -/
theorem always_shown_iff (hvalid : options.validate = .ok ()) :
    (∀ supply cause p text f t, FailsWith supply options tally f t →
      f.cause = .stream (.malformed cause p text) → 0 < t.position →
      Window.Reaches options.diagnosticWindow (supply.rest.take t.bytesRead) t.position) ↔
    options.bufferSize < options.diagnosticWindow := by
  constructor
  · intro hall
    refine Nat.lt_of_not_le fun hsize => ?_
    obtain ⟨supply, cause, p, text, f, t, hfails, hf, hpos, hfar⟩ := exists_hidden hvalid hsize
    have hnear := (hfails.showsInput.reaches_iff hpos).mp (hall _ _ _ _ _ _ hfails hf hpos)
    omega
  · intro hsize supply cause p text f t hfails hf hpos
    obtain ⟨hbuffer, -, -⟩ := (Options.validate_eq_ok_iff options).mp hvalid
    exact hfails.showsInput.reaches (by omega) hpos

/-- The bytes `[1,2,3,4,5,6,7,8,9]` with a window of four: opening fails behind the first byte,
which should have been a brace, when all nineteen are read, and what is shown is `8,9]`. -/
theorem place_not_shown :
    let supply : Supply :=
      { rest := [91, 49, 44, 50, 44, 51, 44, 52, 44, 53, 44, 54, 44, 55, 44, 56, 44, 57, 93] }
    let options : Options := { diagnosticWindow := 4 }
    options.validate = .ok () ∧
      ∃ cause f t, FailsWith supply options {} f t ∧
        f.cause = .stream (.malformed cause (some 1) (some "8,9]")) ∧
        t.position = 1 ∧ t.bytesRead = 19 ∧
        ¬Window.Reaches options.diagnosticWindow (supply.rest.take t.bytesRead) t.position ∧
        ¬t.bytesRead - options.diagnosticWindow < t.position := by
  intro supply options
  let s := start supply options {}
  have hsound : s.cursor.Sound := Cursor.sound_start (by simp [Supply.Steady, supply]) _ _
  have hfails := FailsWith.opened
    (begin_of_other (s := s) (u := .startArray) rfl hsound rfl (by decide))
  have hposition : s.readToken.2.position = 1 := by decide +kernel
  have hshown : s.readToken.2.cursor.source.window.recent = "8,9]" := by decide +kernel
  have hbytes : s.readToken.2.bytesRead = 19 := by decide +kernel
  have hcause : (s.readToken.2.malformed (.envelope .startArray)).cause =
      .stream (.malformed (.envelope .startArray) (some 1) (some "8,9]")) := by
    rw [← hposition, ← hshown]
    rfl
  refine ⟨rfl, _, _, _, hfails, hcause, hposition, hbytes, ?_, ?_⟩
  · rw [hposition, hbytes, Window.reaches_iff (by decide) (by decide)]
    decide
  · rw [hposition, hbytes]
    decide

end Session

end ExportStream

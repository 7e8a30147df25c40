import ExportStream.Proofs.Memories
import ExportStream.Proofs.Twins
import Mathlib.Data.List.Forall2
/-!
# Reads that fail

A supply may fail in the middle of anything: between two tokens, inside of one, and at the end of
the stream. A cursor that asked it for more has used every byte of its buffer by then, and keeps
what it knows of the token that has begun, so whoever makes the call again reads on as if nothing
had happened.

What a cursor will read is told by the scan of all bytes that it has left and by where these end. A
call that fails because of its supply changes neither of the two (`Cursor.Still`), and one that
reads a token takes it off their front (`Cursor.CallEnd`). Therefore a caller who repeats such calls
(`Cursor.calls`) is told the course of the bytes and nothing else (`Scanner.course`), and
**`Cursor.calls_of_failing`** compares it with what a supply tells that never fails.
-/

namespace ExportStream

/-! ### Supplies that fail -/

namespace Supply

variable {s s' : Supply} {n : Nat}

/-- A patient read that succeeds gives what is left in part, and nothing only at the end. -/
theorem readPatiently_ok {bytes : List UInt8} (h : s.readPatiently n = (.ok bytes, s')) :
    bytes ++ s'.rest = s.rest ∧ (0 < n → bytes = [] → s.rest = []) ∧
      s'.given = s.given + bytes.length ∧ s'.faults <:+ s.faults := by
  have hgive : bytes = (s.settled.give (s.settled.allowance n)).1 ∧
      s' = (s.settled.give (s.settled.allowance n)).2 := by
    unfold readPatiently read at h
    split at h
    · split_ifs at h
      · cases h
      · cases h
        exact ⟨rfl, rfl⟩
    · cases h
      exact ⟨rfl, rfl⟩
  refine ⟨readPatiently_append h, ?_, ?_, ?_⟩
  · intro hn hnil
    have hpos := allowance_pos s.settled hn
    rw [hgive.1] at hnil
    simp only [give, List.take_eq_nil_iff] at hnil
    exact hnil.resolve_left (by omega)
  · rw [hgive.1, hgive.2]
    rfl
  · rw [hgive.2]
    exact List.dropWhile_suffix _

/-- A patient read that fails reports the first fault that does not only interrupt it, where this is
due, and keeps those behind it. -/
theorem readPatiently_fault {f : DeviceFault} (h : s.readPatiently n = (.error f, s')) :
    ∃ due : DueFault, due :: s'.faults <:+ s.faults ∧ due.offset = s.given ∧ due.fault = f ∧
      f.kind ≠ .interrupted ∧ s'.rest = s.rest ∧ s'.given = s.given := by
  obtain ⟨due, hfaults, hdue, rfl, hs'⟩ := faults_read_error h
  have hsuffix : s.settled.faults <:+ s.faults := List.dropWhile_suffix _
  refine ⟨due, hfaults ▸ hsuffix, hdue, rfl, ?_, readPatiently_error h, by rw [hs']; rfl⟩
  intro hkind
  have hnot := List.head?_dropWhile_not (interruptsAt s.given) s.faults
  have hhead : (s.faults.dropWhile (interruptsAt s.given)).head? = some due := by
    change s.settled.faults.head? = some due
    rw [hfaults]
    rfl
  rw [hhead] at hnot
  change due.offset = s.given at hdue
  simp [interruptsAt, hdue, hkind] at hnot

end Supply

/-! ### What a call changes -/

/-- Does a failure come from what the stream holds? -/
def Failure.isOfStream (f : Failure) : Bool :=
  match f.cause with
  | .stream _ => true
  | _ => false

namespace Cursor

/-- The failure of a call for which the supply had a fault. -/
def failureOf (f : DeviceFault) : Failure := (Failure.ofDevice f).within "Reading import stream"

/-- A cursor whose buffer and counts fit each other, over any supply. -/
structure Counted (c : Cursor) : Prop where
  /-- The working buffer can hold something. -/
  capacity_pos : 0 < c.capacity
  /-- What was read is what was used and what waits. -/
  bytesRead_eq : c.bytesRead = c.position + c.buffer.length
  /-- It is what the supply gave. -/
  given_eq : c.source.supply.given = c.bytesRead

theorem counted_start {supply : Supply} (h : supply.given = 0) (bufferSize window : Nat) :
    (start supply bufferSize window).Counted where
  capacity_pos := by simp only [start]; omega
  bytesRead_eq := rfl
  given_eq := h

/-- What `c'` will read is what `c` would. -/
structure Still (c c' : Cursor) : Prop where
  /-- The buffer is in order. -/
  counted : c'.Counted
  /-- The bytes that are left end at the same position. -/
  end_eq : c'.position + c'.remaining.length = c.position + c.remaining.length
  /-- The same token is due. -/
  scan_eq : c'.scanner.scan c'.remaining = c.scanner.scan c.remaining
  /-- The faults that are watched for are the last ones. -/
  faults_suffix : c'.source.supply.faults <:+ c.source.supply.faults

variable {c d e : Cursor}

theorem Still.trans (h : c.Still d) (h' : d.Still e) : c.Still e where
  counted := h'.counted
  end_eq := h'.end_eq.trans h.end_eq
  scan_eq := h'.scan_eq.trans h.scan_eq
  faults_suffix := h'.faults_suffix.trans h.faults_suffix

/-- Using bytes of the buffer keeps the counts, and where the bytes that are left end. -/
theorem Counted.advance (h : c.Counted) {n : Nat} (hn : n ≤ c.buffer.length) (s : Scanner) :
    (c.advance n s).Counted ∧ (c.advance n s).position + (c.advance n s).remaining.length =
      c.position + c.remaining.length := by
  have hread := h.bytesRead_eq
  refine ⟨⟨h.capacity_pos, ?_, h.given_eq⟩, ?_⟩
  · change c.bytesRead = c.position + n + (c.advance n s).buffer.length
    rw [buffer_advance, List.length_drop]
    omega
  · change c.position + n + _ = _
    simp only [remaining, buffer_advance, source_advance, List.length_append, List.length_drop]
    omega

/-- Scanning the buffer to its end without finding a token changes nothing about the token. -/
theorem Counted.useUp (h : c.Counted) {s : Scanner} (hs : c.scanner.scan c.buffer = .more s) :
    c.Still (c.useUp s) where
  counted := (h.advance (Nat.le_refl _) s).1
  end_eq := (h.advance (Nat.le_refl _) s).2
  scan_eq := by
    rw [remaining, buffer_useUp, source_useUp, List.nil_append, scanner_useUp, remaining,
      Scanner.scan_append, hs]
    rfl
  faults_suffix := List.suffix_refl _

/-- A refill that succeeds takes bytes off the supply, and none at the end only. -/
theorem refill_ok {n : Nat} (hr : c.refill = (.ok n, d)) :
    d.buffer.length = n ∧ d.buffer ++ d.source.supply.rest = c.source.supply.rest ∧
      (0 < c.capacity → n = 0 → c.source.supply.rest = []) ∧
      d.source.supply.given = c.source.supply.given + n ∧ d.bytesRead = c.bytesRead + n ∧
      d.position = c.position ∧ d.scanner = c.scanner ∧ d.capacity = c.capacity ∧
      d.source.supply.faults <:+ c.source.supply.faults := by
  obtain ⟨bytes, supply, hread, rfl, rfl⟩ := refill_eq_ok hr
  obtain ⟨happ, hnil, hgiven, hfaults⟩ := Supply.readPatiently_ok hread
  refine ⟨rfl, happ, ?_, hgiven, rfl, rfl, rfl, rfl, hfaults⟩
  intro hpos hzero
  exact hnil hpos (List.length_eq_zero_iff.mp hzero)

/-- One that fails takes none, and reports a fault. -/
theorem refill_fault {f : Failure} (hr : c.refill = (.error f, d)) :
    ∃ due : DueFault, f = failureOf due.fault ∧
      due :: d.source.supply.faults <:+ c.source.supply.faults ∧
      due.offset = d.source.supply.given ∧ due.fault.kind ≠ .interrupted ∧ d.buffer = [] ∧
      d.source.supply.rest = c.source.supply.rest ∧
      d.source.supply.given = c.source.supply.given ∧ d.bytesRead = c.bytesRead ∧
      d.position = c.position ∧ d.scanner = c.scanner ∧ d.capacity = c.capacity := by
  obtain ⟨fault, supply, hread, rfl, rfl⟩ := refill_eq_error hr
  obtain ⟨due, hbehind, hdue, rfl, hkind, hrest, hgiven⟩ := Supply.readPatiently_fault hread
  exact ⟨due, rfl, hbehind, hdue.trans hgiven.symm, hkind, rfl, hrest, hgiven, rfl, rfl, rfl, rfl⟩

/-- A refill of a cursor whose bytes are all used keeps what is due. -/
theorem Counted.refill (h : c.Counted) (hb : c.buffer = []) {r : Except Failure Nat}
    (hr : c.refill = (r, d)) : c.Still d := by
  have hread := h.bytesRead_eq
  rw [hb, List.length_nil, Nat.add_zero] at hread
  have hleft : c.remaining = c.source.supply.rest := by rw [remaining, hb, List.nil_append]
  cases r with
  | error f =>
    obtain ⟨due, -, hbehind, -, -, hbuffer, hrest, hgiven, hcount, hpos, hscanner, hcapacity⟩ :=
      refill_fault hr
    have hsame : d.remaining = c.remaining := by
      rw [hleft, remaining, hbuffer, hrest, List.nil_append]
    refine ⟨⟨hcapacity ▸ h.capacity_pos, ?_, by rw [hgiven, hcount, h.given_eq]⟩,
      by rw [hpos, hsame], by rw [hscanner, hsame], (List.suffix_cons ..).trans hbehind⟩
    rw [hcount, hbuffer, hpos, hread, List.length_nil, Nat.add_zero]
  | ok n =>
    obtain ⟨hlength, hrest, -, hgiven, hcount, hpos, hscanner, hcapacity, hfaults⟩ := refill_ok hr
    have hsame : d.remaining = c.remaining := by rw [hleft, remaining, hrest]
    refine ⟨⟨hcapacity ▸ h.capacity_pos, ?_, by rw [hgiven, hcount, h.given_eq]⟩,
      by rw [hpos, hsame], by rw [hscanner, hsame], hfaults⟩
    rw [hcount, hlength, hpos, hread]

/-- What a call comes to, over any supply, said by scanning all bytes that are left at once. -/
inductive CallEnd (c : Cursor) : Except Failure Token × Cursor → Prop where
  /-- The token is read. -/
  | token {t : Token} {rest : List UInt8} {c' : Cursor}
      (scan_eq : c.scanner.scan c.remaining = .token t rest) (counted : c'.Counted)
      (idle : c'.scanner = .idle) (remaining_eq : c'.remaining = rest)
      (end_eq : c'.position + c'.remaining.length = c.position + c.remaining.length)
      (faults_suffix : c'.source.supply.faults <:+ c.source.supply.faults) :
      CallEnd c (.ok t, c')
  /-- The bytes are refused. -/
  | refused {f : Scanner.Fault} {p : Nat} {w : String} {c' : Cursor}
      (scan_eq : c.scanner.scan c.remaining = .fail f) :
      CallEnd c (.error (.ofStream (.malformed (.token f) (some p) (some w))), c')
  /-- The stream ends. -/
  | ended {s : Scanner} {c' : Cursor} (scan_eq : c.scanner.scan c.remaining = .more s) :
      CallEnd c (.error (.ofStream (.ended (if s.isPartial then .insideToken else .beforeToken)
        (c.position + c.remaining.length) none none)), c')
  /-- The supply fails, and the same is due as before. -/
  | failed {due : DueFault} {c' : Cursor} (still : c.Still c')
      (behind : due :: c'.source.supply.faults <:+ c.source.supply.faults)
      (offset_eq : due.offset = c'.source.supply.given)
      (kind_ne : due.fault.kind ≠ .interrupted) :
      CallEnd c (.error (failureOf due.fault), c')

/-- What a call comes to further on it comes to here. -/
theorem CallEnd.before (h : c.Still d) {r : Except Failure Token × Cursor} (hr : d.CallEnd r) :
    c.CallEnd r := by
  cases hr with
  | token scan_eq counted idle remaining_eq end_eq faults_suffix =>
    exact .token (h.scan_eq.symm.trans scan_eq) counted idle remaining_eq (end_eq.trans h.end_eq)
      (faults_suffix.trans h.faults_suffix)
  | refused scan_eq => exact .refused (h.scan_eq.symm.trans scan_eq)
  | ended scan_eq =>
    rw [h.end_eq]
    exact .ended (h.scan_eq.symm.trans scan_eq)
  | failed still behind offset_eq kind_ne =>
    exact .failed (h.trans still) (behind.trans h.faults_suffix) offset_eq kind_ne

/-- **A call over any supply** comes to one of these: the induction is on the refills that succeed,
none of which changes what is due. -/
theorem readToken_call (h : c.Counted) : c.CallEnd c.readToken := by
  fun_induction readToken c with
  | case1 c t rest hs =>
    obtain ⟨front, hfront⟩ := Scanner.suffix_of_scan hs
    obtain ⟨hcounted, hend⟩ := h.advance (Nat.sub_le c.buffer.length rest.length) .idle
    have hdrop : c.buffer.drop (c.buffer.length - rest.length) = rest := by
      rw [hfront, List.length_append, Nat.add_sub_cancel, List.drop_left]
    have hscan : c.scanner.scan c.remaining = .token t (rest ++ c.source.supply.rest) := by
      rw [remaining, Scanner.scan_append, hs]
      rfl
    refine .token hscan hcounted rfl ?_ hend (List.suffix_refl _)
    · rw [remaining, buffer_advance, source_advance, hdrop]
  | case2 c f hs =>
    refine .refused ?_
    rw [remaining, Scanner.scan_append, hs]
    rfl
  | case3 c s hs f d hr =>
    have hstill := h.useUp hs
    obtain ⟨due, rfl, hbehind, hdue, hkind, -⟩ := refill_fault hr
    exact .failed (hstill.trans (hstill.counted.refill (buffer_useUp c s) hr)) hbehind hdue hkind
  | case4 c s hs d hr =>
    have hstill := h.useUp hs
    obtain ⟨-, -, hnone, -, -, hpos, hscanner, -⟩ := refill_ok hr
    have hrest : (c.useUp s).remaining = [] := by
      rw [remaining, buffer_useUp, hnone h.capacity_pos rfl]
      rfl
    have hscan : c.scanner.scan c.remaining = .more s := by
      rw [← hstill.scan_eq, hrest]
      rfl
    have hend := hstill.end_eq
    rw [hrest, List.length_nil, Nat.add_zero] at hend
    rw [endedInToken, hpos, hscanner, hend]
    exact .ended hscan
  | case5 c s hs n d hr ih =>
    have hstill := h.useUp hs
    have hall := hstill.trans (hstill.counted.refill (buffer_useUp c s) hr)
    exact (ih hall.counted).before hall

/-! ### Calls that are made again -/

/-- A call leaves no more faults than there were, and fewer if one of them is reported. -/
theorem faults_readToken {r : Except Failure Token} (h : c.readToken = (r, d)) :
    d.source.supply.faults.length ≤ c.source.supply.faults.length ∧
      ∀ f, r = .error f → f.isOfStream = false →
        d.source.supply.faults.length < c.source.supply.faults.length := by
  fun_induction readToken c with
  | case1 c t rest hs =>
    cases h
    exact ⟨Nat.le_refl _, by simp⟩
  | case2 c f hs =>
    cases h
    refine ⟨Nat.le_refl _, ?_⟩
    intro f' hf hdevice
    cases hf
    cases hdevice
  | case3 c s hs f c' hr =>
    cases h
    obtain ⟨due, -, hbehind, -⟩ := refill_fault hr
    have hfewer := hbehind.length_le
    rw [List.length_cons] at hfewer
    exact ⟨Nat.le_of_lt hfewer, fun _ _ _ => hfewer⟩
  | case4 c s hs c' hr =>
    cases h
    obtain ⟨-, -, -, -, -, -, -, -, hfaults⟩ := refill_ok hr
    refine ⟨hfaults.length_le, ?_⟩
    intro f' hf hdevice
    cases hf
    cases hdevice
  | case5 c s hs n c' hr ih =>
    obtain ⟨-, -, -, -, -, -, -, -, hfaults⟩ := refill_ok hr
    obtain ⟨hle, hfewer⟩ := ih h
    exact ⟨Nat.le_trans hle hfaults.length_le,
      fun f hf hdevice => Nat.lt_of_lt_of_le (hfewer f hf hdevice) hfaults.length_le⟩

/-- All calls of `readToken` by a caller who reads on until the stream itself fails, and makes a
call again if the supply had a fault: their outcomes, and the cursors that they left. -/
def calls (c : Cursor) : List (Except Failure Token × Cursor) :=
  match _h : c.readToken with
  | (.ok t, d) => (.ok t, d) :: d.calls
  | (.error f, d) => if _hf : f.isOfStream then [(.error f, d)] else (.error f, d) :: d.calls
termination_by (c.source.supply.faults.length, c.fuel)
decreasing_by
  · exact Prod.Lex.right' _ (faults_readToken _h).1 (fuel_readToken _h)
  · exact Prod.Lex.left _ _ ((faults_readToken _h).2 f rfl (eq_false_of_ne_true _hf))

/-- What such a caller is told by a call: a token and the position behind it, or the failure of the
stream, and nothing by one that is made again. -/
def told : Except Failure Token × Cursor → Option (Except Failure (Token × Nat))
  | (.ok t, c) => some (.ok (t, c.position))
  | (.error f, _) => if f.isOfStream then some (.error f.blurred) else none

/-- The failure of a call that is made again, and the cursor that it left. -/
def failed? : Except Failure Token × Cursor → Option (Failure × Cursor)
  | (.ok _, _) => none
  | (.error f, c) => if f.isOfStream then none else some (f, c)

end Cursor

namespace Scanner

/-- The tokens of bytes that end at a position, each with the position behind it, and the failure at
which they end, if `x` is the scan of these bytes. -/
def course (last : Nat) (x : Scan) : List (Except Failure (Token × Nat)) :=
  match x with
  | .token t rest => .ok (t, last - rest.length) :: course last (scan .idle rest)
  | .fail f => [.error (.ofStream (.malformed (.token f) none none))]
  | .more s =>
    [.error (.ofStream
      (.ended (if s.isPartial then .insideToken else .beforeToken) last none none))]
termination_by match x with
  | .token _ rest => rest.length + 1
  | _ => 0
decreasing_by
  split
  · next h =>
    have := length_of_scan h
    simp [isPartial] at this
    omega
  · omega

end Scanner

namespace Cursor

/-- **Nothing is lost**: whatever its supply fails with, a caller who makes failed calls again is
told the course of the bytes that are left. -/
theorem told_calls {c : Cursor} (h : c.Counted) :
    c.calls.filterMap told =
      Scanner.course (c.position + c.remaining.length) (c.scanner.scan c.remaining) := by
  fun_induction calls c with
  | case1 c t d hr ih =>
    have hcall := readToken_call h
    rw [hr] at hcall
    cases hcall with
    | token scan_eq counted idle remaining_eq end_eq =>
      subst remaining_eq
      have htold : told (.ok t, d) = some (.ok (t, d.position)) := rfl
      rw [scan_eq, Scanner.course, List.filterMap_cons_some htold, ih counted, end_eq, idle,
        ← end_eq, Nat.add_sub_cancel]
  | case2 c f d hr hstream =>
    have hcall := readToken_call h
    rw [hr] at hcall
    cases hcall with
    | refused scan_eq =>
      rw [scan_eq, Scanner.course]
      rfl
    | ended scan_eq =>
      rw [scan_eq, Scanner.course]
      rfl
    | failed => cases hstream
  | case3 c f d hr hdevice ih =>
    have hcall := readToken_call h
    rw [hr] at hcall
    cases hcall with
    | refused scan_eq => exact absurd rfl hdevice
    | ended scan_eq => exact absurd rfl hdevice
    | @failed due _ still =>
      have htold : told (.error (failureOf due.fault), d) = none := rfl
      rw [List.filterMap_cons_none htold, ih still.counted, still.end_eq, still.scan_eq]

theorem told_calls_start (data : List UInt8) (portions : List Nat) (faults : List DueFault)
    (bufferSize window : Nat) :
    (start { rest := data, portions, faults } bufferSize window).calls.filterMap told =
      Scanner.course data.length (Scanner.idle.scan data) := by
  rw [told_calls (counted_start rfl bufferSize window)]
  change Scanner.course (0 + data.length) (Scanner.idle.scan data) = _
  rw [Nat.zero_add]

/-- A call that is made again reports a fault: it failed where the fault is due, with all bytes that
came counted, and the failure tells the fault under one context. -/
structure Reports (due : DueFault) (call : Failure × Cursor) : Prop where
  /-- The fault is due behind the bytes that came. -/
  offset_eq : due.offset = call.2.bytesRead
  /-- They are used, or wait in the buffer. -/
  bytesRead_eq : call.2.position + call.2.buffer.length = call.2.bytesRead
  /-- It does not only interrupt a read. -/
  kind_ne : due.fault.kind ≠ .interrupted
  /-- Its kind has a status. -/
  status_eq : call.1.status = due.fault.kind.status
  /-- It has a wording. -/
  message_eq : call.1.message = "Reading import stream: " ++ due.fault.message
  /-- One context was passed. -/
  contexts_eq : call.1.contexts = ["Reading import stream"]

/-- The calls that are made again report faults of the supply, each at most once and in their
order. -/
theorem failed_calls {c : Cursor} (h : c.Counted) :
    ∃ reported, reported.Sublist c.source.supply.faults ∧
      List.Forall₂ Reports reported (c.calls.filterMap failed?) := by
  fun_induction calls c with
  | case1 c t d hr ih =>
    have hcall := readToken_call h
    rw [hr] at hcall
    cases hcall with
    | token scan_eq counted idle remaining_eq end_eq faults_suffix =>
      obtain ⟨reported, hsub, hall⟩ := ih counted
      exact ⟨reported, hsub.trans faults_suffix.sublist, hall⟩
  | case2 c f d hr hstream =>
    refine ⟨[], List.nil_sublist _, ?_⟩
    have hnone : failed? (.error f, d) = none := if_pos hstream
    rw [List.filterMap_cons_none hnone]
    exact .nil
  | case3 c f d hr hdevice ih =>
    have hcall := readToken_call h
    rw [hr] at hcall
    cases hcall with
    | refused scan_eq => exact absurd rfl hdevice
    | ended scan_eq => exact absurd rfl hdevice
    | @failed due _ still behind offset_eq kind_ne =>
      obtain ⟨reported, hsub, hall⟩ := ih still.counted
      have hsome : failed? (.error (failureOf due.fault), d) = some (failureOf due.fault, d) := rfl
      refine ⟨due :: reported, (hsub.cons_cons due).trans behind.sublist, ?_⟩
      rw [List.filterMap_cons_some hsome]
      exact .cons ⟨offset_eq.trans still.counted.given_eq, still.counted.bytesRead_eq.symm, kind_ne,
        rfl, rfl, rfl⟩ hall

/-- **A failed read loses nothing.** Over the same bytes, with any portions, buffers, windows and
faults, a caller who makes each call again that failed because of the supply is told what a supply
without faults tells, the course of the bytes: the same tokens, each with the same position behind
it, and the same failure at the end. The calls that are made again report faults of the supply. -/
theorem calls_of_failing (data : List UInt8) (portions portions' : List Nat)
    (faults : List DueFault) (bufferSize bufferSize' window window' : Nat) :
    let c := start { rest := data, portions, faults } bufferSize window
    let d := start { rest := data, portions := portions' } bufferSize' window'
    c.calls.filterMap told = d.calls.filterMap told ∧ d.calls.filterMap failed? = [] ∧
      d.calls.filterMap told = Scanner.course data.length (Scanner.idle.scan data) ∧
      ∃ reported, reported.Sublist faults ∧
        List.Forall₂ Reports reported (c.calls.filterMap failed?) := by
  intro c d
  have hc : c.Counted := counted_start rfl bufferSize window
  have hd : d.Counted := counted_start rfl bufferSize' window'
  have hcourse : d.calls.filterMap told = _ := told_calls_start ..
  have hnone : d.calls.filterMap failed? = [] := by
    obtain ⟨reported, hsub, hall⟩ := failed_calls hd
    rw [List.sublist_nil.mp hsub] at hall
    exact List.forall₂_nil_left_iff.mp hall
  exact ⟨(told_calls_start ..).trans hcourse.symm, hnone, hcourse, failed_calls hc⟩

end Cursor

end ExportStream

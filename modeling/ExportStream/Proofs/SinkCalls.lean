import ExportStream.Proofs.Copying
import ExportStream.Proofs.Rounds
/-!
# What a writer is asked

A copier writes the parts of a payload as they come, and flushes behind the last of them. A writer
may take less than it is offered, refuse an offer, or refuse to be flushed, and may do so by
whatever it has gone through before. A recorded writer (`Writer.Recorded`) answers as the writer in it does
and writes down every call with its answer. So the calls of a copy are not told beside it: they are
what the same copy leaves written down when its writer is recorded (`Copying.calls`), and recording
changes nothing else about it (`Copying.copy_recorded`). `Writer.Called` says that a writer answers
these calls like this, one after the other, and how they leave it.

**`Copying.copy_account`** says of every copy what it answered, what the writer took, how far the
stream was read and what was counted, whichever of the four ends it came to: the payload moved, cut
off, refused in an offer, or moved and not flushed. In each of them the writer has a front of the
payload, of which no more is counted than the writer took, and no more taken than was read.
-/

namespace ExportStream

/-! ### Calls -/

/-- A call of a writer, and its answer. -/
inductive WriterCall where
  /-- It was offered bytes. -/
  | offer (bytes : List UInt8) (answer : Except DeviceFault Nat)
  /-- It was to be flushed. -/
  | flush (answer : Except DeviceFault Unit)

namespace WriterCall

/-- The bytes that the writer took in a call. -/
def taken : WriterCall → List UInt8
  | .offer bytes (.ok n) => bytes.take n
  | .offer _ (.error _) => []
  | .flush _ => []

/-- The bytes that the writer took in some calls. -/
def received (calls : List WriterCall) : List UInt8 := calls.flatMap taken

@[simp] theorem received_cons (call : WriterCall) (calls : List WriterCall) :
    received (call :: calls) = call.taken ++ received calls := rfl

@[simp] theorem received_append (calls calls' : List WriterCall) :
    received (calls ++ calls') = received calls ++ received calls' := by
  simp [received]

/-- An offer of which the writer took some. -/
def Took (call : WriterCall) : Prop := ∃ bytes n, call = .offer bytes (.ok (n + 1))

/-- The fault of a write to which an offer is answered like this, if it is one. -/
def refusal? : Except DeviceFault Nat → Option DeviceFault
  | .error f => some f
  | .ok 0 => some Writer.nothingTaken
  | .ok (_ + 1) => none

/-- An offer that is a fault took nothing. -/
theorem taken_of_refusal {bytes : List UInt8} {answer : Except DeviceFault Nat} {f : DeviceFault}
    (h : refusal? answer = some f) : (offer bytes answer).taken = [] := by
  cases answer with
  | error => rfl
  | ok n =>
    cases n with
    | zero => rfl
    | succ n => cases h

/-- The calls end in an offer that is a fault, and the writer took some of each offer before. -/
inductive EndsRefused (f : DeviceFault) : List WriterCall → Prop where
  /-- There are some offers, and the one that is refused. -/
  | intro (offers : List WriterCall) (took : ∀ call ∈ offers, call.Took) (bytes : List UInt8)
      (offered : bytes ≠ []) (answer : Except DeviceFault Nat)
      (refused : refusal? answer = some f) :
      EndsRefused f (offers ++ [.offer bytes answer])

/-- Offers that succeeded can be put before. -/
theorem EndsRefused.append {f : DeviceFault} {calls : List WriterCall} (h : EndsRefused f calls)
    {offers : List WriterCall} (hw : ∀ call ∈ offers, call.Took) :
    EndsRefused f (offers ++ calls) := by
  obtain ⟨offers', took, bytes, offered, answer, refused⟩ := h
  rw [← List.append_assoc]
  refine ⟨offers ++ offers', ?_, bytes, offered, answer, refused⟩
  intro call hcall
  exact (List.mem_append.mp hcall).elim (hw call) (took call)

end WriterCall

open WriterCall (received)

namespace Writer

variable {ω ω' : Type} [Writer ω] [Writer ω']

/-- The writer gives these answers to these calls, one after the other, and is left as `w'`. -/
inductive Called : ω → List WriterCall → ω → Prop where
  /-- Nothing was asked. -/
  | done (w : ω) : Called w [] w
  /-- Bytes were offered. -/
  | offer {w w' : ω} (bytes : List UInt8) {calls : List WriterCall}
      (rest : Called (Writer.offer w bytes).2 calls w') :
      Called w (.offer bytes (Writer.offer w bytes).1 :: calls) w'
  /-- The writer was to be flushed. -/
  | flush {w w' : ω} {calls : List WriterCall} (rest : Called (Writer.flush w).2 calls w') :
      Called w (.flush (Writer.flush w).1 :: calls) w'

variable {w w' w'' : ω} {calls calls' : List WriterCall}

theorem Called.append (h : Called w calls w') (h' : Called w' calls' w'') :
    Called w (calls ++ calls') w'' := by
  induction h with
  | done w => exact h'
  | offer bytes rest ih => exact .offer bytes (ih h')
  | flush rest ih => exact .flush (ih h')

/-- Between two calls the writer is in some state. -/
theorem Called.split (h : Called w (calls ++ calls') w') :
    ∃ u, Called w calls u ∧ Called u calls' w' := by
  induction calls generalizing w with
  | nil => exact ⟨w, .done w, h⟩
  | cons call calls ih =>
    cases h with
    | offer bytes rest =>
      obtain ⟨u, hu, hrest⟩ := ih rest
      exact ⟨u, .offer bytes hu, hrest⟩
    | flush rest =>
      obtain ⟨u, hu, hrest⟩ := ih rest
      exact ⟨u, .flush hu, hrest⟩

/-- A writer that takes some of everything that it is offered, whatever it went through. -/
def Obliging (w : ω) : Prop :=
  ∀ calls w', Called w calls w' → ∀ bytes ≠ [], ∃ n, (offer w' bytes).1 = .ok (n + 1)

/-- Such a writer refuses no offer. -/
theorem Called.not_refused (h : Called w calls w') (ho : Obliging w) {f : DeviceFault} :
    ¬ WriterCall.EndsRefused f calls := by
  rintro ⟨offers, -, bytes, offered, answer, refused⟩
  obtain ⟨u, hu, hlast⟩ := h.split
  obtain ⟨n, hn⟩ := ho offers u hu bytes offered
  cases hlast
  rw [hn] at refused
  cases refused

/-- What can be seen of the bytes that the writer has: what it takes is put behind them. -/
structure Shows (content : ω → Option (List UInt8)) : Prop where
  /-- An offer adds what is taken of it. -/
  offer_eq : ∀ w bytes, content (offer w bytes).2 =
    (content w).map (· ++ (WriterCall.offer bytes (offer w bytes).1).taken)
  /-- Flushing adds nothing. -/
  flush_eq : ∀ w, content (flush w).2 = content w

/-- What the writer has now are the bytes that it had and those that it received. -/
theorem Called.content_eq (h : Called w calls w') {content : ω → Option (List UInt8)}
    (hs : Shows content) : content w' = (content w).map (· ++ received calls) := by
  induction h with
  | done w => simp [received]
  | offer bytes rest ih => simp [ih, hs.offer_eq, Function.comp_def]
  | flush rest ih => simp [ih, hs.flush_eq, WriterCall.taken]

/-! ### Writers that are recorded -/

/-- The second writer answers as the first one does, in the states that stand for its states. -/
structure Maps (f : ω → ω') : Prop where
  /-- Offers. -/
  offer_eq : ∀ w bytes, offer (f w) bytes = ((offer w bytes).1, f (offer w bytes).2)
  /-- Flushing. -/
  flush_eq : ∀ w, flush (f w) = ((flush w).1, f (flush w).2)

theorem write_map {f : ω → ω'} (hf : Maps f) (w : ω) (bytes : List UInt8) :
    write (f w) bytes = ((write w bytes).1, f (write w bytes).2) := by
  fun_induction write w bytes with
  | case1 w => rw [write]
  | case2 w b bs fault w' ha => rw [write, hf.offer_eq, ha]
  | case3 w b bs w' ha => rw [write, hf.offer_eq, ha]
  | case4 w b bs n w' ha ih =>
    rw [write, hf.offer_eq, ha]
    exact ih

/-- A writer with the calls of it that are written down, in order. -/
structure Recorded (ω : Type) where
  /-- The writer. -/
  writer : ω
  /-- The calls. -/
  calls : List WriterCall

/-- Every call is passed on, and written down with its answer. -/
instance : Writer (Recorded ω) where
  offer v bytes :=
    let (answer, writer) := offer v.writer bytes
    (answer, { writer, calls := v.calls ++ [.offer bytes answer] })
  flush v :=
    let (answer, writer) := flush v.writer
    (answer, { writer, calls := v.calls ++ [.flush answer] })

theorem maps_writer : Maps (Recorded.writer : Recorded ω → ω) where
  offer_eq _ _ := rfl
  flush_eq _ := rfl

namespace Recorded

/-- These calls were made since, and the writer answered them. -/
structure Since (v : Recorded ω) (calls : List WriterCall) (v' : Recorded ω) : Prop where
  /-- They are written down behind those before. -/
  calls_eq : v'.calls = v.calls ++ calls
  /-- The writer answered them like this. -/
  called : Called v.writer calls v'.writer

variable {v v' v'' : Recorded ω}

theorem Since.refl (v : Recorded ω) : v.Since [] v := ⟨(List.append_nil _).symm, .done _⟩

theorem Since.trans (h : v.Since calls v') (h' : v'.Since calls' v'') :
    v.Since (calls ++ calls') v'' :=
  ⟨by rw [h'.calls_eq, h.calls_eq, List.append_assoc], h.called.append h'.called⟩

theorem since_offer {bytes : List UInt8} {answer : Except DeviceFault Nat}
    (h : offer v bytes = (answer, v')) : v.Since [.offer bytes answer] v' := by
  cases h
  exact ⟨rfl, .offer bytes (.done _)⟩

theorem since_flush {answer : Except DeviceFault Unit} (h : flush v = (answer, v')) :
    v.Since [.flush answer] v' := by
  cases h
  exact ⟨rfl, .flush (.done _)⟩

/-! ### Writing a part -/

/-- What writing bytes comes to, by its outcome. -/
def WriteEnd (bytes : List UInt8) (calls : List WriterCall) : Except DeviceFault Unit → Prop
  | .ok () => (∀ call ∈ calls, call.Took) ∧ received calls = bytes
  | .error f => WriterCall.EndsRefused f calls

/-- Writing bytes gets a front of them to the writer: all of them, or those before the fault. -/
theorem write_since (v : Recorded ω) (bytes : List UInt8) :
    ∃ calls, v.Since calls (write v bytes).2 ∧ received calls <+: bytes ∧
      WriteEnd bytes calls (write v bytes).1 := by
  have hrefused {v v' : Recorded ω} {b : UInt8} {bs : List UInt8} {f : DeviceFault}
      {answer : Except DeviceFault Nat} (ha : offer v (b :: bs) = (answer, v'))
      (hr : WriterCall.refusal? answer = some f) :
      ∃ calls, v.Since calls v' ∧ received calls <+: b :: bs ∧
        WriteEnd (b :: bs) calls (.error f) := by
    refine ⟨_, since_offer ha, ?_, .intro [] (by simp) _ (List.cons_ne_nil b bs) _ hr⟩
    rw [WriterCall.received_cons, WriterCall.taken_of_refusal hr]
    exact List.nil_prefix
  fun_induction write v bytes with
  | case1 v => exact ⟨[], .refl v, List.nil_prefix, by simp, rfl⟩
  | case2 v b bs f v' ha => exact hrefused ha rfl
  | case3 v b bs v' ha => exact hrefused ha rfl
  | case4 v b bs n v' ha ih =>
    obtain ⟨calls, hsince, hprefix, hend⟩ := ih
    have htaken : (WriterCall.offer (b :: bs) (.ok (n + 1))).taken = b :: bs.take n := rfl
    have htook : (WriterCall.offer (b :: bs) (.ok (n + 1))).Took := ⟨_, n, rfl⟩
    refine ⟨_, (since_offer ha).trans hsince, ?_, ?_⟩
    · rw [List.singleton_append, WriterCall.received_cons, htaken]
      have hjoin := (List.prefix_append_right_inj (b :: bs.take n)).mpr hprefix
      rwa [List.cons_append, List.cons_append, List.take_append_drop] at hjoin
    · revert hend
      generalize (write (_ : Recorded ω) _).1 = r
      cases r with
      | error f =>
        intro hend
        exact hend.append (List.forall_mem_singleton.mpr htook)
      | ok =>
        rintro ⟨hall, hreceived⟩
        refine ⟨by simpa using ⟨htook, hall⟩, ?_⟩
        rw [List.singleton_append, WriterCall.received_cons, htaken, hreceived, List.cons_append,
          List.take_append_drop]

end Recorded

end Writer

open Writer (Called Obliging Recorded)

/-- A sink that keeps its bytes shows them. -/
theorem Sink.shows_content : Writer.Shows Sink.content? where
  offer_eq s bytes := by
    simp only [Writer.offer]
    cases s.accepts s.held bytes with
    | error f => simp [WriterCall.taken]
    | ok n => exact s.content?_take _
  flush_eq _ := rfl

namespace Copying

variable {ω ω' : Type}

/-! ### Copies that are recorded -/

/-- The copy with the writer that stands for that of this one. -/
def map (f : ω → ω') (w : Copying ω) : Copying ω' where
  copier := w.copier
  cursor := w.cursor
  sink := f w.sink

/-- The copy with its writer recorded, behind calls that are written down before. -/
def recorded (calls : List WriterCall) (w : Copying ω) : Copying (Recorded ω) :=
  w.map fun writer => { writer, calls }

@[simp] theorem cursor_recorded (calls : List WriterCall) (w : Copying ω) :
    (w.recorded calls).cursor = w.cursor := rfl

@[simp] theorem copier_recorded (calls : List WriterCall) (w : Copying ω) :
    (w.recorded calls).copier = w.copier := rfl

section

variable [Writer ω] [Writer ω']

theorem move_map {f : ω → ω'} (hf : Writer.Maps f) (w : Copying ω) (size left : Nat)
    (moved : List (List UInt8)) :
    (w.map f).move size left moved = Prod.map id (map f) (w.move size left moved) := by
  fun_induction move w size left moved with
  | case1 w moved =>
    rw [move_eq, if_pos rfl]
    rfl
  | case2 w left moved hleft fault d hr =>
    rw [move_eq, if_neg hleft, map, hr]
    rfl
  | case3 w left moved hleft d hr =>
    rw [move_eq, if_neg hleft, map, hr]
    rfl
  | case4 w left moved hleft b bs d hr fault sink hw =>
    rw [move_eq, if_neg hleft, map, hr]
    simp only [Writer.write_map hf, hw]
    rfl
  | case5 w left moved hleft b bs d hr sink hw copier ih =>
    rw [move_eq, if_neg hleft, map, hr]
    simp only [Writer.write_map hf, hw]
    exact ih

theorem copy_map {f : ω → ω'} (hf : Writer.Maps f) (w : Copying ω) (size : Nat) :
    (w.map f).copy size = Prod.map id (map f) (w.copy size) := by
  have hmove := move_map hf { w with copier := { w.copier with allocated := true } } size size []
  simp only [map] at hmove
  simp only [copy, map]
  rw [hmove]
  rcases move _ size size [] with ⟨fault | moved, w'⟩
  · rfl
  · simp only [Prod.map, id, map, hf.flush_eq]
    rcases Writer.flush w'.sink with ⟨fault | _, sink⟩ <;> rfl

/-- The calls that a copy makes: what is written down of them when its writer is recorded. -/
def calls (w : Copying ω) (size : Nat) : List WriterCall := ((w.recorded []).copy size).2.sink.calls

/-- Recording the writer changes nothing else about a copy. -/
theorem copy_recorded (w : Copying ω) (size : Nat) :
    (w.recorded []).copy size = ((w.copy size).1, (w.copy size).2.recorded (w.calls size)) := by
  have hmap : w.copy size = Prod.map id (map Recorded.writer) ((w.recorded []).copy size) :=
    copy_map Writer.maps_writer (w.recorded []) size
  rw [hmap]
  rfl

end

/-! ### Moving parts -/

/-- The copy with a buffer. -/
def ready (w : Copying ω) : Copying ω :=
  { w with copier := { w.copier with allocated := true } }

@[simp] theorem cursor_ready (w : Copying ω) : w.ready.cursor = w.cursor := rfl

@[simp] theorem sink_ready (w : Copying ω) : w.ready.sink = w.sink := rfl

@[simp] theorem copied_ready (w : Copying ω) : w.ready.copier.copied = w.copier.copied := rfl

/-- What the outcome tells of a move of the `left` bytes that are due: all were there and taken, or
too few were there, or the writer refused some. -/
def MoveOutcome (v : Copying (Recorded ω)) (size left : Nat) (moved : List (List UInt8))
    (calls : List WriterCall) (v' : Copying (Recorded ω)) :
    Except Failure (List (List UInt8)) → Prop
  | .ok parts =>
    v.cursor.Ahead left v'.cursor ∧ (∀ call ∈ calls, call.Took) ∧
      received calls = v.cursor.remaining.take left ∧
      v'.copier.copied = v.copier.copied + left ∧
      parts.reverse.flatten = moved.reverse.flatten ++ v.cursor.remaining.take left
  | .error f =>
    (v.cursor.remaining.length < left ∧ v.cursor.Ahead v.cursor.remaining.length v'.cursor ∧
      (∀ call ∈ calls, call.Took) ∧ received calls = v.cursor.remaining ∧
      f = .ofStream (.ended .payload (v.cursor.position + v.cursor.remaining.length) (some size)
        (some (size - left + v.cursor.remaining.length)))) ∨
    ∃ fault, WriterCall.EndsRefused fault calls ∧
      f = (Failure.ofDevice fault).within "Writing attachment payload"

/-- What a move comes to behind a part that was moved, it comes to before it. -/
theorem MoveOutcome.before {v v' : Copying (Recorded ω)} {d : Cursor} {sink : Recorded ω}
    {part : List UInt8} {size left : Nat} {moved : List (List UInt8)}
    {offers calls : List WriterCall} {r : Except Failure (List (List UInt8))}
    (hahead : v.cursor.Ahead part.length d) (hfront : v.cursor.remaining = part ++ d.remaining)
    (hpart : part.length ≤ left) (hle : left ≤ size) (htook : ∀ call ∈ offers, call.Took)
    (hreceived : received offers = part)
    (h : MoveOutcome
      ⟨{ v.copier with copied := v.copier.copied + part.length }, d, sink⟩ size
      (left - part.length) (part :: moved) calls v' r) :
    v.MoveOutcome size left moved (offers ++ calls) v' r := by
  have hlen : v.cursor.remaining.length = part.length + d.remaining.length := by
    rw [hfront, List.length_append]
  have hboth (htook' : ∀ call ∈ calls, call.Took) : ∀ call ∈ offers ++ calls, call.Took :=
    fun call hcall => (List.mem_append.mp hcall).elim (htook call) (htook' call)
  cases r with
  | ok parts =>
    obtain ⟨hahead', htook', hreceived', hcopied, hparts⟩ := h
    simp only at hahead' hreceived' hcopied hparts
    have htake : v.cursor.remaining.take left = part ++ d.remaining.take (left - part.length) := by
      rw [hfront, List.take_append, List.take_of_length_le hpart]
    have hall := hahead.trans hahead'
    rw [Nat.add_sub_cancel' hpart] at hall
    refine ⟨hall, hboth htook', ?_, by omega, ?_⟩
    · rw [WriterCall.received_append, hreceived, hreceived', htake]
    · rw [hparts, htake]
      simp
  | error f =>
    rcases h with ⟨hlt, hahead', htook', hreceived', hf⟩ | ⟨fault, hrefused, hf⟩
    · simp only at hlt hahead' hreceived' hf
      have hpos : d.position + d.remaining.length =
          v.cursor.position + v.cursor.remaining.length := by
        rw [hahead.position_eq]
        omega
      have hgot : size - (left - part.length) + d.remaining.length =
          size - left + v.cursor.remaining.length := by
        omega
      rw [hpos, hgot] at hf
      refine .inl ⟨by omega, ?_, hboth htook', ?_, hf⟩
      · rw [hlen]
        exact hahead.trans hahead'
      · rw [WriterCall.received_append, hreceived, hreceived', hfront]
    · exact .inr ⟨fault, hrefused.append htook, hf⟩

variable [Writer ω]

/-- The account of a move: `n` bytes were read, a front of these is with the writer, and of that no
more is counted. -/
structure MoveAccount (v : Copying (Recorded ω)) (size left : Nat) (moved : List (List UInt8))
    (calls : List WriterCall) (r : Except Failure (List (List UInt8)) × Copying (Recorded ω)) :
    Prop where
  /-- These calls were made. -/
  since : v.sink.Since calls r.2.sink
  /-- The bytes that were read hold what the writer received. -/
  read : ∃ n ≤ left, v.cursor.Ahead n r.2.cursor ∧ received calls <+: v.cursor.remaining.take n
  /-- No count is lost. -/
  le_copied : v.copier.copied ≤ r.2.copier.copied
  /-- What is counted was received. -/
  copied_le : r.2.copier.copied ≤ v.copier.copied + (received calls).length
  /-- And the outcome tells the rest. -/
  outcome : v.MoveOutcome size left moved calls r.2 r.1

/-- Moving bytes keeps its account, whatever the writer does: one round for each part that is
read. -/
theorem move_account {v : Copying (Recorded ω)} (hc : v.cursor.Sound)
    (hb : 0 < v.copier.bufferSize) {size left : Nat} (moved : List (List UInt8))
    (hle : left ≤ size) :
    ∃ calls, v.MoveAccount size left moved calls (v.move size left moved) := by
  fun_induction move v size left moved with
  | case1 v moved =>
    have hself : v.cursor.Ahead 0 v.cursor := ⟨hc, Nat.zero_le _, rfl, rfl⟩
    exact ⟨[], .refl _, ⟨0, Nat.le_refl 0, hself, List.nil_prefix⟩, Nat.le_refl _, Nat.le_refl _,
      hself, by simp, rfl, rfl, by simp⟩
  | case2 v left moved hleft f d hr =>
    exact absurd hr (Cursor.readRaw_ne_error hc (by omega))
  | case3 v left moved hleft d hr =>
    obtain ⟨-, -, hahead, hend, -⟩ := Cursor.front_of_readRaw hc (by omega) hr
    have hnone := hend rfl
    have hpos : d.position = v.cursor.position := hahead.position_eq
    refine ⟨[], .refl _, ⟨0, Nat.zero_le _, hahead, List.nil_prefix⟩, Nat.le_refl _, Nat.le_refl _,
      .inl ?_⟩
    rw [hnone, tooShort, hpos]
    exact ⟨Nat.pos_of_ne_zero hleft, hahead, by simp, rfl, rfl⟩
  | case4 v left moved hleft b bs d hr fault sink hw =>
    obtain ⟨hfront, hpart, hahead, -, -⟩ := Cursor.front_of_readRaw hc (by omega) hr
    obtain ⟨calls, hsince, hprefix, hend⟩ := v.sink.write_since (b :: bs)
    rw [hw] at hsince hend
    refine ⟨calls, hsince, ⟨_, Nat.le_trans hpart (Nat.min_le_left ..), hahead, ?_⟩, Nat.le_refl _,
      Nat.le_add_right .., .inr ⟨fault, hend, rfl⟩⟩
    rw [hfront, List.take_left]
    exact hprefix
  | case5 v left moved hleft b bs d hr sink hw copier ih =>
    obtain ⟨hfront, hpart, hahead, -, -⟩ := Cursor.front_of_readRaw hc (by omega) hr
    have hfirst : (b :: bs).length ≤ left := Nat.le_trans hpart (Nat.min_le_left ..)
    obtain ⟨offers, hsince, -, hend⟩ := v.sink.write_since (b :: bs)
    rw [hw] at hsince hend
    obtain ⟨htook, hreceived⟩ := hend
    have htake (m : Nat) : v.cursor.remaining.take ((b :: bs).length + m) =
        (b :: bs) ++ d.remaining.take m := by
      rw [hfront, List.take_length_add_append]
    obtain ⟨calls, hsince', ⟨n, hn, hahead', hprefix⟩, hcopied, hcopied', houtcome⟩ :=
      ih hahead.sound hb (by omega)
    refine ⟨offers ++ calls, hsince.trans hsince',
      ⟨(b :: bs).length + n, by omega, hahead.trans hahead', ?_⟩,
      Nat.le_trans (Nat.le_add_right ..) hcopied, ?_, ?_⟩
    · rw [htake, WriterCall.received_append, hreceived]
      exact (List.prefix_append_right_inj _).mpr hprefix
    · rw [WriterCall.received_append, hreceived, List.length_append, ← Nat.add_assoc]
      exact hcopied'
    · exact houtcome.before hahead hfront hfirst hle htook hreceived

/-! ### Whole payloads -/

/-- How a copy of the `size` bytes at the position of `w` in the bytes `data` ends, by its answer
and the calls that it made. -/
inductive Outcome (data : List UInt8) (w : Copying ω) (size : Nat) (w' : Copying ω) :
    Except Failure String → List WriterCall → Prop where
  /-- The payload is there and with the writer, which was flushed once, behind the last byte. -/
  | moved (offers : List WriterCall) (took : ∀ call ∈ offers, call.Took)
      (enough : w.cursor.position + size ≤ data.length)
      (received_eq : received offers = (data.drop w.cursor.position).take size)
      (position_eq : w'.cursor.position = w.cursor.position + size)
      (copied_eq : w'.copier.copied = w.copier.copied + size) :
      Outcome data w size w'
        (.ok (Digest.contentHash ((data.drop w.cursor.position).take size)))
        (offers ++ [.flush (.ok ())])
  /-- The bytes end inside the payload, and those that are there are with the writer. -/
  | short (offers : List WriterCall) (took : ∀ call ∈ offers, call.Took)
      (lt_size : data.length < w.cursor.position + size)
      (received_eq : received offers = data.drop w.cursor.position)
      (position_eq : w'.cursor.position = data.length) :
      Outcome data w size w'
        (.error (.ofStream (.ended .payload data.length (some size)
          (some (data.length - w.cursor.position)))))
        offers
  /-- The writer refused an offer. -/
  | unwritten (calls : List WriterCall) (fault : DeviceFault)
      (refused : WriterCall.EndsRefused fault calls) :
      Outcome data w size w'
        (.error ((Failure.ofDevice fault).within "Writing attachment payload")) calls
  /-- The payload is there and with the writer, which could not be flushed. -/
  | unflushed (offers : List WriterCall) (took : ∀ call ∈ offers, call.Took)
      (enough : w.cursor.position + size ≤ data.length)
      (received_eq : received offers = (data.drop w.cursor.position).take size)
      (position_eq : w'.cursor.position = w.cursor.position + size)
      (copied_eq : w'.copier.copied = w.copier.copied + size) (fault : DeviceFault) :
      Outcome data w size w'
        (.error ((Failure.ofDevice fault).within "Flushing attachment sink"))
        (offers ++ [.flush (.error fault)])

/-- The account of a copy of the `size` bytes at the position of `w` in the bytes `data`. -/
structure Account (data : List UInt8) (w : Copying ω) (size : Nat) (calls : List WriterCall)
    (r : Except Failure String × Copying ω) : Prop where
  /-- With its writer recorded it is the same copy, and these calls are written down. -/
  recorded_eq : (w.recorded []).copy size = (r.1, r.2.recorded calls)
  /-- The writer answered them like this. -/
  called : Called w.sink calls r.2.sink
  /-- Whatever shows its bytes, they are those before and those that it received. -/
  content_eq : ∀ content : ω → Option (List UInt8), Writer.Shows content →
    content r.2.sink = (content w.sink).map (· ++ received calls)
  /-- These are a front of the payload. -/
  received_prefix : received calls <+: (data.drop w.cursor.position).take size
  /-- No count is lost. -/
  le_copied : w.copier.copied ≤ r.2.copier.copied
  /-- What is counted was received. -/
  copied_le : r.2.copier.copied ≤ w.copier.copied + (received calls).length
  /-- What was received was read. -/
  received_le : w.cursor.position + (received calls).length ≤ r.2.cursor.position
  /-- What was read is of the payload. -/
  position_le : r.2.cursor.position ≤ w.cursor.position + size
  /-- The copy ended in one of these ways. -/
  outcome : Outcome data w size r.2 r.1 calls
  /-- If the writer takes some of every offer, a payload that is cut off is found to be so. -/
  obliging_short : Obliging w.sink → data.length < w.cursor.position + size →
    r.1 = .error (.ofStream (.ended .payload data.length (some size)
      (some (data.length - w.cursor.position)))) ∧
    received calls = data.drop w.cursor.position
  /-- And of a payload that is there only the flushing can fail. -/
  obliging_enough : Obliging w.sink → w.cursor.position + size ≤ data.length →
    ∃ offers answer, calls = offers ++ [.flush answer] ∧
      r.1 = match answer with
        | .ok () => .ok (Digest.contentHash ((data.drop w.cursor.position).take size))
        | .error fault => .error ((Failure.ofDevice fault).within "Flushing attachment sink")

/-- What was moved settles the account, since flushing gives no bytes to the writer. -/
theorem MoveAccount.account {data : List UInt8} {w : Copying ω} {v : Copying (Recorded ω)}
    {sink : Recorded ω} {size : Nat} {calls tail : List WriterCall}
    {r : Except Failure (List (List UInt8))} {answer : Except Failure String}
    (hw : w.cursor.Within data)
    (hmove : (w.recorded []).ready.MoveAccount size size [] calls (r, v))
    (hcopy : (w.recorded []).copy size = (answer, { v with sink }))
    (htail : v.sink.Since tail sink) (hnone : received tail = [])
    (houtcome : Outcome data w size ⟨v.copier, v.cursor, sink.writer⟩ answer (calls ++ tail)) :
    w.Account data size (w.calls size) (w.copy size) := by
  obtain ⟨hsince, ⟨n, hn, hahead, hprefix⟩, hcopied, hcopied', -⟩ := hmove
  simp only [sink_ready, cursor_ready, copied_ready, cursor_recorded, copier_recorded]
    at hsince hahead hprefix hcopied hcopied'
  have hall : (w.recorded []).sink.Since (calls ++ tail) sink := hsince.trans htail
  have hreceived : received (calls ++ tail) = received calls := by
    rw [WriterCall.received_append, hnone, List.append_nil]
  have hcalls : w.calls size = calls ++ tail := by
    rw [Copying.calls, hcopy]
    exact hall.calls_eq
  have hrecorded := w.copy_recorded size
  rw [hcopy] at hrecorded
  obtain ⟨hanswer, hv⟩ := Prod.mk.inj hrecorded
  have hplain : w.copy size = (answer, ⟨v.copier, v.cursor, sink.writer⟩) := by
    refine Prod.ext hanswer.symm ?_
    exact (congrArg (map Recorded.writer) hv).symm
  have hcalled : Called w.sink (calls ++ tail) sink.writer := hall.called
  have hposition : v.cursor.position = w.cursor.position + n := hahead.position_eq
  have hle := Nat.le_trans hprefix.length_le (List.length_take_le n _)
  rw [hcalls, hplain] at hrecorded
  rw [hcalls, hplain]
  rw [← hreceived] at hprefix hcopied' hle
  generalize calls ++ tail = calls' at hrecorded hcalled hprefix hcopied' hle houtcome
  refine ⟨hcopy.trans hrecorded, hcalled, fun content hs => hcalled.content_eq hs, ?_, hcopied,
    hcopied', ?_, ?_, houtcome, ?_, ?_⟩
  · rw [← hw.remaining_eq]
    exact hprefix.trans (List.take_prefix_take_left hn)
  · simp only [hposition]
    omega
  · simp only [hposition]
    omega
  · intro ho hlt
    cases houtcome with
    | moved _ _ enough => omega
    | short _ _ _ received_eq => exact ⟨rfl, received_eq⟩
    | unwritten _ _ refused => exact absurd refused (hcalled.not_refused ho)
    | unflushed _ _ enough => omega
  · intro ho henough
    cases houtcome with
    | moved offers => exact ⟨offers, .ok (), rfl, rfl⟩
    | short _ _ lt_size => omega
    | unwritten _ _ refused => exact absurd refused (hcalled.not_refused ho)
    | unflushed offers _ _ _ _ _ fault => exact ⟨offers, .error fault, rfl, rfl⟩

/-- **A copy and its writer**, whatever the writer takes and refuses, and wherever the stream
ends. -/
theorem copy_account {data : List UInt8} {w : Copying ω} (hw : w.cursor.Within data)
    (hb : 0 < w.copier.bufferSize) (size : Nat) :
    w.Account data size (w.calls size) (w.copy size) := by
  obtain ⟨calls, hmove⟩ :=
    move_account (v := (w.recorded []).ready) hw.sound hb [] (Nat.le_refl size)
  have hleft : w.cursor.remaining.length = data.length - w.cursor.position := by
    rw [hw.remaining_eq, List.length_drop]
  have hwithin := hw.position_le
  have hready : { w.recorded [] with
      copier := { (w.recorded []).copier with allocated := true } } = (w.recorded []).ready := rfl
  rcases hm : (w.recorded []).ready.move size size [] with ⟨f | parts, v⟩
  · rw [hm] at hmove
    have hcopy : (w.recorded []).copy size = (.error f, v) := by
      rw [copy, hready, hm]
    refine hmove.account hw hcopy (.refl _) rfl ?_
    rw [List.append_nil]
    rcases hmove.outcome with ⟨hlt, hahead, htook, hreceived, rfl⟩ | ⟨fault, hrefused, rfl⟩
    · simp only [cursor_ready, cursor_recorded] at hlt hahead hreceived ⊢
      have hend : w.cursor.position + w.cursor.remaining.length = data.length := by omega
      rw [hend, Nat.sub_self, Nat.zero_add, hleft]
      refine .short _ htook (by omega) (by rw [hreceived, hw.remaining_eq]) ?_
      rw [hahead.position_eq]
      exact hend
    · exact .unwritten _ fault hrefused
  · rw [hm] at hmove
    obtain ⟨hahead, htook, hreceived, hcopied, hparts⟩ := hmove.outcome
    simp only [cursor_ready, copied_ready, cursor_recorded, copier_recorded, List.reverse_nil,
      List.flatten_nil, List.nil_append, hw.remaining_eq] at hahead hreceived hcopied hparts
    have hle := hahead.le_length
    have henough : w.cursor.position + size ≤ data.length := by omega
    rcases hflush : Writer.flush v.sink with ⟨fault | _, sink⟩
    · have hcopy : (w.recorded []).copy size =
          (.error ((Failure.ofDevice fault).within "Flushing attachment sink"),
            { v with sink }) := by
        rw [copy, hready, hm]
        simp only [hflush]
      refine hmove.account hw hcopy (Recorded.since_flush hflush) rfl ?_
      exact .unflushed _ htook henough hreceived hahead.position_eq hcopied fault
    · have hcopy : (w.recorded []).copy size =
          (.ok (Digest.contentHash ((data.drop w.cursor.position).take size)),
            { v with sink }) := by
        rw [copy, hready, hm]
        simp only [hflush, Digest.contentHashOfParts, hparts]
      refine hmove.account hw hcopy (Recorded.since_flush hflush) rfl ?_
      exact .moved _ htook henough hreceived hahead.position_eq hcopied

/-- The payload `abcd` behind a brace, of which the first byte is in the buffer: the sink holds
three bytes and then refuses, when all four were read. -/
theorem copy_account_of_full_sink :
    let supply : Supply := { rest := [123, 97, 98, 99, 100], portions := [2] }
    let w : Copying :=
      { copier := .start 3
        cursor := (Cursor.start supply 4 0).readToken.2
        sink := { accepts := Sinks.Defects.accepts { limit := some 3, full := some .other } } }
    w.cursor.Within [123, 97, 98, 99, 100] ∧ w.cursor.buffer = [97] ∧
      w.Account [123, 97, 98, 99, 100] 4 (w.calls 4) (w.copy 4) ∧
      (w.copy 4).1.toOption = none ∧
      received (w.calls 4) = [97, 98, 99] ∧ (w.copy 4).2.copier.copied = 3 ∧
      (w.copy 4).2.sink.content? = some [97, 98, 99] ∧ (w.copy 4).2.cursor.position = 5 := by
  intro supply w
  have hsteady : supply.Steady := by simp [Supply.Steady, supply]
  obtain ⟨c, hc, -⟩ := Cursor.readToken_of_token (c := Cursor.start supply 4 0)
    (Cursor.sound_start hsteady 4 0) (t := .startObject) rfl
  have hread : (Cursor.start supply 4 0).readToken = (.ok .startObject, w.cursor) :=
    hc.trans (congrArg (Prod.mk _) (congrArg Prod.snd hc).symm)
  have hw : w.cursor.Within [123, 97, 98, 99, 100] :=
    Cursor.within_of_reached ⟨supply, 4, 0, rfl, hsteady, .single (.token hread)⟩
  have haccount := copy_account hw (by decide) 4
  have hreceived : received (w.calls 4) = [97, 98, 99] := by decide +kernel
  refine ⟨hw, by decide +kernel, haccount, by decide +kernel, hreceived, by decide +kernel, ?_,
    by decide +kernel⟩
  rw [haccount.content_eq _ Sink.shows_content, hreceived]
  rfl

end Copying

end ExportStream

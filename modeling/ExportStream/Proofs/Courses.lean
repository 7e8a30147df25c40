import ExportStream.Proofs.Reading
import ExportStream.Proofs.Workings
/-!
# Courses of readings

Whatever is done with a stream, one reading is taken after the other: tokens, which the cursor reads,
and payloads, which the copier beside it takes from the cursor. A reading succeeds or fails, and even
behind a failure the next may be taken. `Intake.Course` is such a row of readings, with the number of
tokens that it brought and the number of failures.

Every token costs at least one byte. The byte need not be used by the reading that brings the token:
a failed one may have used all bytes of a number, whose end is seen by the next. So what a token is
charged to is `Cursor.progress`, which counts the bytes used, without the first byte of a token that
has begun. And every read of the supply brings at least one byte, or else the reading fails that
wanted it. What one reading gains is `Cursor.Gains`; that a row of them gains as much
(**`Intake.Course.gains`**) bounds tokens and reads by the bytes of the stream.
-/

namespace ExportStream

/-- How many readings failed in an outcome. -/
def lost {α : Type} : Except Failure α → Nat
  | .ok _ => 0
  | .error _ => 1

/-- How many tokens an outcome brings. -/
def found : Except Failure Token → Nat
  | .ok _ => 1
  | .error _ => 0

theorem lost_le_one {α : Type} (r : Except Failure α) : lost r ≤ 1 := by
  cases r <;> simp [lost]

/-! ### Supplies -/

namespace Supply

variable {s s' : Supply} {n : Nat}

/-- A read that succeeds is counted, and gives no more than is wanted. -/
theorem reads_read {bytes : List UInt8} (h : s.read n = (.ok bytes, s')) :
    s'.reads = s.reads + 1 ∧ bytes.length ≤ n := by
  have hgive : (s.give (s.allowance n)).2.reads = s.reads + 1 ∧
      (s.give (s.allowance n)).1.length ≤ n := by
    refine ⟨rfl, ?_⟩
    simp only [give, List.length_take]
    have := allowance_le s n
    omega
  unfold read at h
  split at h
  · split_ifs at h
    · cases h
    · cases h
      exact hgive
  · cases h
    exact hgive

/-- A read that fails is not counted. -/
theorem reads_read_error {f : DeviceFault} (h : s.read n = (.error f, s')) :
    s'.reads = s.reads := by
  unfold read at h
  split at h
  · split_ifs at h
    · cases h
      rfl
    · cases h
  · cases h

end Supply

/-- One where no token has begun, and otherwise none. -/
def Scanner.rest (s : Scanner) : Nat := if s.isPartial then 0 else 1

namespace Cursor

/-! ### What is gained -/

/-- The number of reads of the supply that succeeded. -/
def reads (c : Cursor) : Nat := c.source.supply.reads

/-- The number of bytes used, without the first byte of a token that has begun, and one. -/
def progress (c : Cursor) : Nat := c.position + c.scanner.rest

theorem progress_le (c : Cursor) : c.progress ≤ c.position + 1 := by
  unfold progress Scanner.rest
  split <;> omega

/-- The buffer and the counts of a cursor fit each other, and the number of bytes in its stream. -/
structure Tidy (size : Nat) (c : Cursor) : Prop where
  /-- No more of the buffer is used than was filled. -/
  used_le : c.used ≤ c.loaded.length
  /-- No more was filled than the buffer can hold. -/
  loaded_le : c.loaded.length ≤ c.capacity
  /-- What was read is what was used and what waits. -/
  bytesRead_eq : c.bytesRead = c.position + (c.loaded.length - c.used)
  /-- What was read and what is left is the stream. -/
  size_eq : c.bytesRead + c.source.supply.rest.length = size

theorem tidy_start (supply : Supply) (bufferSize window : Nat) :
    (start supply bufferSize window).Tidy supply.rest.length :=
  ⟨Nat.le_refl _, Nat.zero_le _, rfl, Nat.zero_add _⟩

/-- From `c` to `d`, so many tokens were paid with bytes, and all reads of the supply but so many. -/
structure Gains (tokens failures : Nat) (c d : Cursor) : Prop where
  /-- The position does not go back. -/
  position_le : c.position ≤ d.position
  /-- Every token is paid with a byte. -/
  progress_le : c.progress + tokens ≤ d.progress
  /-- Every read is paid with a byte, unless it belongs to a failure. -/
  reads_le : d.reads + c.bytesRead ≤ c.reads + d.bytesRead + failures
  /-- The cursor stays tidy. -/
  tidy : ∀ size, c.Tidy size → d.Tidy size

variable {c d e : Cursor} {m n : Nat}

theorem Gains.refl (c : Cursor) : c.Gains 0 0 c :=
  ⟨Nat.le_refl _, Nat.le_refl _, Nat.le_refl _, fun _ h => h⟩

theorem Gains.trans {tokens failures tokens' failures' : Nat} (h : c.Gains tokens failures d)
    (h' : d.Gains tokens' failures' e) :
    c.Gains (tokens + tokens') (failures + failures') e := by
  obtain ⟨hposition, hprogress, hreads, htidy⟩ := h
  obtain ⟨hposition', hprogress', hreads', htidy'⟩ := h'
  exact ⟨by omega, by omega, by omega, fun size h => htidy' size (htidy size h)⟩

/-- Fewer tokens are paid, and more failures pay. -/
theorem Gains.weaken {tokens failures tokens' failures' : Nat} (h : c.Gains tokens failures d)
    (ht : tokens' ≤ tokens) (hf : failures ≤ failures') : c.Gains tokens' failures' d := by
  obtain ⟨hposition, hprogress, hreads, htidy⟩ := h
  exact ⟨hposition, by omega, by omega, htidy⟩

/-! ### Refills and the buffer -/

/-- A refill that succeeds is counted. -/
theorem reads_refill (h : c.refill = (.ok n, d)) :
    d.reads = c.reads + 1 ∧ d.bytesRead = c.bytesRead + n ∧ d.position = c.position ∧
      d.scanner = c.scanner ∧ d.used = 0 ∧ d.loaded.length = n ∧ d.capacity = c.capacity ∧
      n ≤ c.capacity ∧ n + d.source.supply.rest.length = c.source.supply.rest.length := by
  obtain ⟨bytes, supply, hread, rfl, rfl⟩ := refill_eq_ok h
  obtain ⟨hreads, hlength⟩ := Supply.reads_read hread
  have hrest := congrArg List.length (Supply.readPatiently_append hread)
  rw [List.length_append] at hrest
  exact ⟨hreads, rfl, rfl, rfl, rfl, rfl, rfl, hlength, hrest⟩

/-- A refill that fails is not. -/
theorem reads_refill_error {f : Failure} (h : c.refill = (.error f, d)) :
    d.reads = c.reads ∧ d.bytesRead = c.bytesRead ∧ d.position = c.position ∧
      d.scanner = c.scanner ∧ d.used = 0 ∧ d.loaded = [] ∧
      d.source.supply.rest = c.source.supply.rest := by
  obtain ⟨fault, supply, hread, rfl, rfl⟩ := refill_eq_error h
  have hreads := Supply.reads_read_error (s := c.source.supply.settled) hread
  exact ⟨hreads, rfl, rfl, rfl, rfl, rfl, Supply.readPatiently_error hread⟩

/-- All bytes of a tidy buffer are used if none waits. -/
theorem Tidy.used_eq {size : Nat} (h : c.Tidy size) (hb : c.buffer = []) :
    c.used = c.loaded.length := by
  have hwait := congrArg List.length hb
  rw [length_buffer, List.length_nil] at hwait
  have := h.used_le
  omega

/-- Where all bytes are used, a refill that brings bytes gains. -/
theorem gains_refill (hb : c.buffer = []) {r : Except Failure Nat} (h : c.refill = (r, d)) :
    c.Gains 0 1 d ∧ ∀ k, r = .ok (k + 1) → c.Gains 0 0 d := by
  rcases r with f | k
  · obtain ⟨hreads, hbytes, hposition, hscanner, hused, hloaded, hrest⟩ := reads_refill_error h
    refine ⟨⟨?_, ?_, ?_, ?_⟩, by simp⟩
    · exact Nat.le_of_eq hposition.symm
    · exact Nat.le_of_eq (by rw [progress, progress, hposition, hscanner, Nat.add_zero])
    · rw [hreads, hbytes]
      omega
    · intro size ht
      have hall := ht.used_eq hb
      refine ⟨?_, ?_, ?_, ?_⟩
      · rw [hused]
        exact Nat.zero_le _
      · rw [hloaded]
        exact Nat.zero_le _
      · rw [hbytes, hposition, ht.bytesRead_eq, hall, hloaded, hused, Nat.sub_self]
        rfl
      · rw [hbytes, hrest]
        exact ht.size_eq
  · obtain ⟨hreads, hbytes, hposition, hscanner, hused, hloaded, hcapacity, hle, hrest⟩ :=
      reads_refill h
    have hgains {failures : Nat} (hpaid : 1 ≤ k + failures) : c.Gains 0 failures d := by
      refine ⟨?_, ?_, ?_, ?_⟩
      · exact Nat.le_of_eq hposition.symm
      · exact Nat.le_of_eq (by rw [progress, progress, hposition, hscanner, Nat.add_zero])
      · rw [hreads, hbytes]
        omega
      · intro size ht
        have hall := ht.used_eq hb
        have hread := ht.bytesRead_eq
        have hsize := ht.size_eq
        refine ⟨?_, ?_, ?_, ?_⟩
        · rw [hused]
          exact Nat.zero_le _
        · rw [hloaded, hcapacity]
          exact hle
        · rw [hbytes, hposition, hloaded, hused]
          omega
        · rw [hbytes]
          omega
    refine ⟨hgains (by omega), ?_⟩
    intro j hj
    cases hj
    exact hgains (by omega)

/-- Using bytes of the buffer keeps a cursor tidy. -/
theorem Tidy.advance {size : Nat} (h : c.Tidy size) (hn : n ≤ c.buffer.length) (s : Scanner) :
    (c.advance n s).Tidy size := by
  have hused := h.used_le
  have hread := h.bytesRead_eq
  rw [length_buffer] at hn
  refine ⟨?_, h.loaded_le, ?_, h.size_eq⟩
  · show c.used + n ≤ c.loaded.length
    omega
  · show c.bytesRead = c.position + n + (c.loaded.length - (c.used + n))
    omega

/-- Using bytes of the buffer gains as many tokens as it makes progress. -/
theorem gains_advance {tokens : Nat} (hn : n ≤ c.buffer.length) {s : Scanner}
    (hprogress : c.scanner.rest + tokens ≤ n + s.rest) :
    c.Gains tokens 0 (c.advance n s) := by
  refine ⟨Nat.le_add_right .., ?_, Nat.le_refl _, fun size h => h.advance hn s⟩
  simp only [progress, scanner_advance]
  have hposition : (c.advance n s).position = c.position + n := rfl
  omega

end Cursor

/-! ### Scanning -/

namespace Scanner

/-- A token that begins in a part uses a byte of it. -/
theorem progress_of_scan_more {s s' : Scanner} {bytes : List UInt8} (h : scan s bytes = .more s') :
    s.rest ≤ bytes.length + s'.rest := by
  cases bytes with
  | nil =>
    unfold scan at h
    cases h
    exact Nat.le_add_left ..
  | cons b bytes =>
    rw [List.length_cons, Scanner.rest]
    split <;> omega

/-- A token uses a byte, unless it had begun. -/
theorem progress_of_scan {s : Scanner} {bytes : List UInt8} {t : Token} {rest : List UInt8}
    (h : scan s bytes = .token t rest) :
    s.rest + 1 ≤ bytes.length - rest.length + 1 := by
  have hlength := length_of_scan h
  rw [Scanner.rest]
  split_ifs at hlength ⊢ with hpartial
  · omega
  · omega

end Scanner

/-! ### Readings -/

namespace Cursor

variable {c d e : Cursor} {m n : Nat}

/-- A token is paid. -/
theorem gains_readToken {r : Except Failure Token} (h : c.readToken = (r, d)) :
    c.Gains (found r) (lost r) d := by
  have huse {c : Cursor} {s : Scanner} (hs : c.scanner.scan c.buffer = .more s) :
      c.Gains 0 0 (c.useUp s) :=
    gains_advance (Nat.le_refl _) (Scanner.progress_of_scan_more hs)
  fun_induction readToken c with
  | case1 c t rest hs =>
    cases h
    exact gains_advance (Nat.sub_le ..) (Scanner.progress_of_scan hs)
  | case2 c f hs =>
    cases h
    refine ⟨Nat.le_refl _, ?_, Nat.le_add_right .., fun _ ht => ?_⟩
    · have hprogress := c.progress_le
      exact hprogress
    · exact ⟨ht.used_le, ht.loaded_le, ht.bytesRead_eq, ht.size_eq⟩
  | case3 c s hs f c' hr =>
    cases h
    exact (huse hs).trans (gains_refill (buffer_useUp c s) hr).1
  | case4 c s hs c' hr =>
    cases h
    exact (huse hs).trans (gains_refill (buffer_useUp c s) hr).1
  | case5 c s hs k c' hr ih =>
    have hrefilled := (huse hs).trans ((gains_refill (buffer_useUp c s) hr).2 k rfl)
    have hall := hrefilled.trans (ih h)
    rw [Nat.zero_add, Nat.zero_add] at hall
    exact hall

/-- Raw bytes are paid with themselves; where none come, the read of the supply is not. -/
theorem gains_readRaw {r : Except Failure (List UInt8)} (h : c.readRaw n = (r, d)) :
    c.Gains 0 1 d ∧ ∀ bytes, r = .ok bytes →
      d.position = c.position + bytes.length ∧ (bytes ≠ [] → c.Gains 0 0 d) := by
  have htake {c : Cursor} : c.Gains 0 0 (c.advance (min n c.buffer.length) c.scanner) :=
    gains_advance (Nat.min_le_right ..) (Nat.le_add_left ..)
  unfold readRaw at h
  split_ifs at h with hn he
  · cases h
    refine ⟨(Gains.refl c).weaken (Nat.le_refl _) (Nat.zero_le _), ?_⟩
    intro bytes hbytes
    cases hbytes
    exact ⟨rfl, fun _ => .refl c⟩
  · rcases hr : c.refill with ⟨f | k, c₁⟩
    · rw [hr] at h
      cases h
      exact ⟨(gains_refill (List.isEmpty_iff.mp he) hr).1, by simp⟩
    · rw [hr] at h
      cases h
      obtain ⟨hfail, hgain⟩ := gains_refill (List.isEmpty_iff.mp he) hr
      obtain ⟨-, -, hposition, -, hused, hloaded, -⟩ := reads_refill hr
      refine ⟨hfail.trans htake, ?_⟩
      intro bytes hbytes
      cases hbytes
      refine ⟨?_, ?_⟩
      · rw [List.length_take, ← hposition]
        rfl
      · intro hsome
        cases k with
        | zero =>
          have hnil : c₁.buffer = [] := by
            rw [buffer, List.eq_nil_of_length_eq_zero hloaded, List.drop_nil]
          rw [hnil, List.take_nil] at hsome
          exact absurd rfl hsome
        | succ k => exact (hgain k rfl).trans htake
  · cases h
    refine ⟨htake.weaken (Nat.le_refl _) (Nat.zero_le _), ?_⟩
    intro bytes hbytes
    cases hbytes
    refine ⟨?_, fun _ => htake⟩
    rw [List.length_take]
    rfl

end Cursor

/-- A payload that is moved is paid with its bytes. -/
theorem Copying.gains_move {w w' : Copying} {size left : Nat} {moved : List (List UInt8)}
    {r : Except Failure (List (List UInt8))} (h : w.move size left moved = (r, w')) :
    w.cursor.Gains 0 (lost r) w'.cursor ∧
      w'.copier.copied + w.cursor.position ≤ w.copier.copied + w'.cursor.position := by
  fun_induction move w size left moved with
  | case1 w moved =>
    cases h
    exact ⟨.refl _, Nat.le_refl _⟩
  | case2 w left moved hleft f cursor hr =>
    cases h
    have hgains := (Cursor.gains_readRaw hr).1
    exact ⟨hgains, Nat.add_le_add_left hgains.position_le _⟩
  | case3 w left moved hleft cursor hr =>
    obtain ⟨rfl, hw⟩ := Prod.mk.inj h
    rw [← hw]
    have hgains := (Cursor.gains_readRaw hr).1
    exact ⟨hgains, Nat.add_le_add_left hgains.position_le _⟩
  | case4 w left moved hleft b bs cursor hr f sink hw =>
    cases h
    have hgains := (Cursor.gains_readRaw hr).1
    exact ⟨hgains, Nat.add_le_add_left hgains.position_le _⟩
  | case5 w left moved hleft b bs cursor hr sink hw copier ih =>
    obtain ⟨hposition, hgains⟩ := (Cursor.gains_readRaw hr).2 _ rfl
    obtain ⟨hrest, hcopied⟩ := ih h
    have hall := (hgains (List.cons_ne_nil b bs)).trans hrest
    rw [Nat.zero_add, Nat.zero_add] at hall
    refine ⟨hall, ?_⟩
    have hcopier : copier.copied = w.copier.copied + (b :: bs).length := rfl
    simp only at hcopied
    omega

/-- A payload that is copied is paid with its bytes. -/
theorem Copying.gains_copy {w w' : Copying} {size : Nat} {r : Except Failure String}
    (h : w.copy size = (r, w')) :
    w.cursor.Gains 0 (lost r) w'.cursor ∧
      w'.copier.copied + w.cursor.position ≤ w.copier.copied + w'.cursor.position := by
  unfold copy at h
  split at h
  · next hm =>
    cases h
    exact gains_move hm
  · next moved w₁ hm =>
    obtain ⟨hgains, hcopied⟩ := gains_move hm
    split at h
    · cases h
      exact ⟨hgains.weaken (Nat.le_refl _) (Nat.zero_le _), hcopied⟩
    · cases h
      exact ⟨hgains, hcopied⟩

/-! ### Courses -/

/-- What takes readings from a stream. -/
structure Intake where
  /-- Where it stands in the stream. -/
  cursor : Cursor
  /-- What payloads are copied with. -/
  copier : Copier

namespace Intake

/-- A reading, with the number of tokens that it brings and of failures. -/
inductive Reading : Nat → Nat → Intake → Intake → Prop where
  /-- A token is read, or fails to be. -/
  | token {c d : Cursor} {r : Except Failure Token} (p : Copier) :
      c.readToken = (r, d) → Reading (found r) (lost r) ⟨c, p⟩ ⟨d, p⟩
  /-- A payload is copied, or fails to be. -/
  | payload {w w' : Copying} {size : Nat} {r : Except Failure String} :
      w.copy size = (r, w') → Reading 0 (lost r) ⟨w.cursor, w.copier⟩ ⟨w'.cursor, w'.copier⟩
  /-- Something is noted. -/
  | noted (c : Cursor) (p : Copier) (n : Notice) : Reading 0 0 ⟨c, p⟩ ⟨c.note n, p⟩

/-- Readings, one after the other. -/
inductive Course : Nat → Nat → Intake → Intake → Prop where
  /-- There is none. -/
  | refl (x : Intake) : Course 0 0 x x
  /-- One more is taken. -/
  | tail {tokens failures tokens' failures' : Nat} {x y z : Intake} :
      Course tokens failures x y → Reading tokens' failures' y z →
      Course (tokens + tokens') (failures + failures') x z

variable {x y z : Intake} {tokens failures tokens' failures' : Nat}

theorem Reading.course (h : Reading tokens failures x y) : Course tokens failures x y := by
  have hall := (Course.refl x).tail h
  rw [Nat.zero_add, Nat.zero_add] at hall
  exact hall

theorem Course.trans (h : Course tokens failures x y) (h' : Course tokens' failures' y z) :
    Course (tokens + tokens') (failures + failures') x z := by
  induction h' with
  | refl => exact h
  | tail _ hreading ih =>
    have hall := (ih h).tail hreading
    rw [Nat.add_assoc, Nat.add_assoc] at hall
    exact hall

/-- What one reading gains. -/
theorem Reading.gains (h : Reading tokens failures x y) :
    x.cursor.Gains tokens failures y.cursor := by
  cases h with
  | token p h => exact Cursor.gains_readToken h
  | payload h => exact (Copying.gains_copy h).1
  | noted c p n =>
    exact ⟨Nat.le_refl _, Nat.le_refl _, Nat.le_refl _,
      fun _ ht => ⟨ht.used_le, ht.loaded_le, ht.bytesRead_eq, ht.size_eq⟩⟩

/-- **Tokens and reads are paid with bytes**, by readings in any number. -/
theorem Course.gains (h : Course tokens failures x y) :
    x.cursor.Gains tokens failures y.cursor := by
  induction h with
  | refl x => exact .refl x.cursor
  | tail _ hreading ih => exact ih.trans hreading.gains

/-- What lasts is kept by readings in any number. -/
theorem Course.lasting {P : Cursor → Prop} (hP : Cursor.Lasting P)
    (h : Course tokens failures x y) (hx : P x.cursor) : P y.cursor := by
  induction h with
  | refl x => exact hx
  | tail _ hreading ih =>
    cases hreading with
    | token p h => exact hP.readToken (ih hx) h
    | payload h => exact hP.copy (ih hx) h
    | noted c p n => exact hP.note (ih hx) n

/-- So are the bytes that are copied. -/
theorem Course.copied_le (h : Course tokens failures x y) :
    y.copier.copied + x.cursor.position ≤ x.copier.copied + y.cursor.position := by
  induction h with
  | refl x => exact Nat.le_refl _
  | tail _ hreading ih =>
    cases hreading with
    | token p h =>
      have hposition := (Cursor.gains_readToken h).position_le
      exact Nat.le_trans ih (Nat.add_le_add_left hposition _)
    | payload h =>
      have hcopied := (Copying.gains_copy h).2
      simp only at ih ⊢
      omega
    | noted c p n => exact ih

/-- A course from the start of a supply reads no more tokens than there are bytes, and the supply no
more often than that, apart from one read for each failure. -/
theorem Course.bounds {supply : Supply} {bufferSize window : Nat} {p : Copier}
    (h : Course tokens failures ⟨.start supply bufferSize window, p⟩ x) :
    tokens ≤ x.cursor.position ∧
      x.cursor.reads ≤ supply.reads + x.cursor.bytesRead + failures ∧
      x.cursor.position ≤ x.cursor.bytesRead ∧ x.cursor.bytesRead ≤ supply.rest.length := by
  obtain ⟨-, hprogress, hpaid, htidy⟩ := h.gains
  have ht := htidy _ (Cursor.tidy_start supply bufferSize window)
  have hread := ht.bytesRead_eq
  have hsize := ht.size_eq
  have hd := x.cursor.progress_le
  have hstart : (Cursor.start supply bufferSize window).progress = 1 := rfl
  have hreads : (Cursor.start supply bufferSize window).reads = supply.reads := rfl
  have hbytes : (Cursor.start supply bufferSize window).bytesRead = 0 := rfl
  simp only at hprogress hpaid
  refine ⟨?_, ?_, ?_, ?_⟩ <;> omega

end Intake

end ExportStream

import ExportStream.Proofs.Reading
import ExportStream.Session.Decoding
/-!
# Copying what stands at a position

A copier moves a payload in parts whose sizes depend on its own buffer and on that of the cursor.
What arrives does not: a sink that takes every offer (`Sink.Willing`) ends up with exactly the
declared bytes behind the position, the hash is that of these bytes, and the position is right
behind them (`Copying.copy_enough`). If fewer bytes are left the copy fails, and the failure tells
how many there were (`Copying.copy_short`).
-/

namespace ExportStream

namespace Sink

/-- A sink that takes every offer as a whole and can be flushed. -/
structure Willing (s : Sink) : Prop where
  /-- Offers are taken. -/
  accepts_eq : ∀ held offer, s.accepts held offer = .ok offer.length
  /-- Flushing succeeds. -/
  flushing_eq : s.flushing = .ok ()

theorem willing_memory : memory.Willing := ⟨fun _ _ => rfl, rfl⟩

theorem willing_discard : discard.Willing := ⟨fun _ _ => rfl, rfl⟩

theorem Willing.take {s : Sink} (h : s.Willing) (bytes : List UInt8) : (s.take bytes).Willing := by
  unfold Sink.take
  split_ifs
  · exact ⟨h.accepts_eq, h.flushing_eq⟩
  · exact h

@[simp] theorem take_nil (s : Sink) : s.take [] = s := by
  unfold take
  split_ifs <;> simp

@[simp] theorem take_append (s : Sink) (a b : List UInt8) :
    s.take (a ++ b) = (s.take a).take b := by
  cases h : s.keeps <;> simp [take, h]

theorem content?_take (s : Sink) (bytes : List UInt8) :
    (s.take bytes).content? = s.content?.map (· ++ bytes) := by
  unfold content? take
  split_ifs <;> simp_all

/-- A willing sink takes what is written to it at once. -/
theorem Willing.write_eq {s : Sink} (h : s.Willing) (bytes : List UInt8) :
    Writer.write s bytes = (.ok (), s.take bytes) := by
  cases bytes with
  | nil => rw [Writer.write, take_nil]
  | cons b bs =>
    rw [Writer.write, offer_eq (h.accepts_eq _ _)]
    simp only [List.length_cons, List.take_succ_cons, List.take_length, List.drop_length]
    rw [Writer.write]

/-- A willing sink is flushed as it is. -/
theorem Willing.flush_eq {s : Sink} (h : s.Willing) : Writer.flush s = (.ok (), s) := by
  simp only [Writer.flush, h.flushing_eq]

/-- A payload that came inside its element is stored. -/
theorem Willing.store_eq {s : Sink} (h : s.Willing) (payload : List UInt8) :
    Staging.store s payload = .ok (s.take payload) := by
  rw [Staging.store, h.write_eq]
  simp only [(h.take payload).flush_eq]

end Sink

/-- Sinks of which every one that is made takes every offer. -/
def Sinks.Willing (s : Sinks) : Prop := ∀ n tag sink, s.make n tag = .ok sink → sink.Willing

/-- A sink that is made takes every offer, and so do those that are made later. -/
theorem Sinks.Willing.create {s : Sinks} (h : s.Willing) (tag : String) :
    (∃ sink s', s.create tag = (.ok sink, s') ∧ sink.Willing ∧ s'.Willing) ∨
      ∃ f s', s.create tag = (.error f, s') := by
  unfold Sinks.create
  cases hmake : s.make s.asked tag with
  | ok sink => exact .inl ⟨sink, _, rfl, h _ _ _ hmake, h⟩
  | error f => exact .inr ⟨f, _, rfl⟩

theorem Sinks.willing_memory_all : Sinks.memory.Willing := by
  intro n tag sink h
  cases h
  exact Sink.willing_memory

namespace Cursor

/-- A reading of raw bytes that succeeded took a front of the bytes that are left. -/
theorem front_of_readRaw {c c' : Cursor} (h : c.Sound) {n : Nat} (hn : 0 < n) {bytes : List UInt8}
    (hr : c.readRaw n = (.ok bytes, c')) :
    c.remaining = bytes ++ c'.remaining ∧ bytes.length ≤ n ∧ c.Ahead bytes.length c' ∧
      (bytes = [] → c.remaining = []) ∧ c'.scanner = c.scanner := by
  obtain ⟨m, d, hread, hahead, hmn, hend, hscanner⟩ := readRaw_spec h hn
  rw [hread] at hr
  cases hr
  have hlen : (c.remaining.take m).length = m := List.length_take_of_le hahead.le_length
  refine ⟨?_, by omega, by rw [hlen]; exact hahead, ?_, hscanner⟩
  · rw [hahead.remaining_eq, List.take_append_drop]
  · intro hnil
    exact hend (by rw [← hlen, hnil]; rfl)

theorem readRaw_ne_error {c c' : Cursor} (h : c.Sound) {n : Nat} (hn : 0 < n) {f : Failure} :
    c.readRaw n ≠ (.error f, c') := by
  obtain ⟨m, d, hread, -⟩ := readRaw_spec h hn
  rw [hread]
  intro hr
  cases hr

end Cursor

namespace Copying

/-- If there are enough bytes they are moved, and no others. -/
theorem move_enough {w : Copying} (hc : w.cursor.Sound) (hs : w.sink.Willing)
    (hb : 0 < w.copier.bufferSize) (size : Nat) {left : Nat} (moved : List (List UInt8))
    (hle : left ≤ w.cursor.remaining.length) :
    ∃ parts w', w.move size left moved = (.ok parts, w') ∧
      parts.reverse.flatten = moved.reverse.flatten ++ w.cursor.remaining.take left ∧
      w.cursor.Ahead left w'.cursor ∧ w'.cursor.scanner = w.cursor.scanner ∧
      w'.sink = w.sink.take (w.cursor.remaining.take left) ∧
      w'.copier.bufferSize = w.copier.bufferSize := by
  fun_induction move w size left moved with
  | case1 w moved =>
    exact ⟨moved, w, rfl, by simp, ⟨hc, Nat.zero_le _, rfl, rfl⟩, rfl, by simp, rfl⟩
  | case2 w left moved hleft f d hr =>
    exact absurd hr (Cursor.readRaw_ne_error hc (by omega))
  | case3 w left moved hleft d hr =>
    obtain ⟨-, -, -, hend, -⟩ := Cursor.front_of_readRaw hc (by omega) hr
    rw [hend rfl] at hle
    exact absurd (Nat.le_zero.mp hle) hleft
  | case4 w left moved hleft b bs d hr f sink hw =>
    rw [hs.write_eq] at hw
    cases hw
  | case5 w left moved hleft b bs d hr sink hw copier ih =>
    obtain ⟨hfront, hpart, hahead, -, hscanner⟩ := Cursor.front_of_readRaw hc (by omega) hr
    rw [hs.write_eq] at hw
    cases hw
    have hlen : w.cursor.remaining.length = (b :: bs).length + d.remaining.length := by
      rw [hfront, List.length_append]
    obtain ⟨parts, w', hmove, hparts, hahead', hscanner', hsink, hsize⟩ :=
      ih hahead.sound (hs.take _) hb (by simp only; omega)
    simp only at hparts hahead' hscanner' hsink hsize
    have htake : w.cursor.remaining.take left =
        (b :: bs) ++ d.remaining.take (left - (b :: bs).length) := by
      rw [hfront, List.take_append, List.take_of_length_le (by omega)]
    have hcount : (b :: bs).length + (left - (b :: bs).length) = left := by omega
    refine ⟨parts, w', hmove, ?_, ?_, hscanner'.trans hscanner, ?_, hsize⟩
    · rw [hparts, htake]
      simp
    · have htrans := hahead.trans hahead'
      rw [hcount] at htrans
      exact htrans
    · rw [hsink, htake, Sink.take_append]

/-- If there are too few bytes the failure tells how many there were. -/
theorem move_short {w : Copying} (hc : w.cursor.Sound) (hs : w.sink.Willing)
    (hb : 0 < w.copier.bufferSize) {size left : Nat} (moved : List (List UInt8))
    (hle : left ≤ size) (hlt : w.cursor.remaining.length < left) :
    ∃ w', w.move size left moved =
      (.error (.ofStream (.ended .payload (w.cursor.position + w.cursor.remaining.length)
        (some size) (some (size - left + w.cursor.remaining.length)))), w') := by
  fun_induction move w size left moved with
  | case1 w moved => exact absurd hlt (Nat.not_lt_zero _)
  | case2 w left moved hleft f d hr =>
    exact absurd hr (Cursor.readRaw_ne_error hc (by omega))
  | case3 w left moved hleft d hr =>
    obtain ⟨-, -, hahead, hend, -⟩ := Cursor.front_of_readRaw hc (by omega) hr
    have hpos : d.position = w.cursor.position := hahead.position_eq
    refine ⟨{ w with cursor := d }, ?_⟩
    rw [tooShort, hpos, hend rfl]
    rfl
  | case4 w left moved hleft b bs d hr f sink hw =>
    rw [hs.write_eq] at hw
    cases hw
  | case5 w left moved hleft b bs d hr sink hw copier ih =>
    obtain ⟨hfront, hpart, hahead, -, -⟩ := Cursor.front_of_readRaw hc (by omega) hr
    rw [hs.write_eq] at hw
    cases hw
    have hlen : w.cursor.remaining.length = (b :: bs).length + d.remaining.length := by
      rw [hfront, List.length_append]
    obtain ⟨w', hmove⟩ :=
      ih hahead.sound (hs.take _) hb (by omega) (by simp only; omega)
    simp only at hmove
    refine ⟨w', ?_⟩
    have hpos : d.position + d.remaining.length =
        w.cursor.position + w.cursor.remaining.length := by
      rw [hahead.position_eq]
      omega
    have hgot : size - (left - (b :: bs).length) + d.remaining.length =
        size - left + w.cursor.remaining.length := by
      omega
    rw [hmove, hpos, hgot]

/-! ### Whole payloads -/

/-- **A payload that is there** arrives in the sink, and its hash is that of its bytes. -/
theorem copy_enough {w : Copying} (hc : w.cursor.Sound) (hs : w.sink.Willing)
    (hb : 0 < w.copier.bufferSize) {size : Nat} (hle : size ≤ w.cursor.remaining.length) :
    ∃ w', w.copy size = (.ok (Digest.contentHash (w.cursor.remaining.take size)), w') ∧
      w.cursor.Ahead size w'.cursor ∧ w'.cursor.scanner = w.cursor.scanner ∧
      w'.sink = w.sink.take (w.cursor.remaining.take size) ∧
      w'.copier.bufferSize = w.copier.bufferSize := by
  obtain ⟨parts, w', hmove, hparts, hahead, hscanner, hsink, hsize⟩ :=
    move_enough (w := { w with copier := { w.copier with allocated := true } }) hc hs hb size []
      hle
  have hflush : Writer.flush w'.sink = (.ok (), w'.sink) := by
    rw [hsink]
    exact (hs.take _).flush_eq
  refine ⟨w', ?_, hahead, hscanner, hsink, hsize⟩
  rw [copy, hmove]
  simp only [hflush, Digest.contentHashOfParts, hparts, List.reverse_nil, List.flatten_nil,
    List.nil_append]

/-- **A payload that is cut off** is reported behind its last byte. -/
theorem copy_short {w : Copying} (hc : w.cursor.Sound) (hs : w.sink.Willing)
    (hb : 0 < w.copier.bufferSize) {size : Nat} (hlt : w.cursor.remaining.length < size) :
    ∃ w', w.copy size =
      (.error (.ofStream (.ended .payload (w.cursor.position + w.cursor.remaining.length)
        (some size) (some w.cursor.remaining.length))), w') := by
  obtain ⟨w', hmove⟩ :=
    move_short (w := { w with copier := { w.copier with allocated := true } }) hc hs hb []
      (Nat.le_refl size) hlt
  refine ⟨w', ?_⟩
  rw [copy, hmove]
  simp

end Copying

end ExportStream

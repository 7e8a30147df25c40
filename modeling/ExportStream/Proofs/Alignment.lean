import ExportStream.Proofs.Copying
import ExportStream.Session.Decoding
import ExportStream.Session.Envelope
/-!
# Where a payload leaves the stream

The raw bytes behind a marker have to be taken off the stream as a whole: whoever reads on before
the last of them takes them for tokens. Here it is said where the cursor stands behind a marker of
which the size of the payload is known, whatever the maker of sinks and the sink do
(**`Staging.decodeDocument_marker`**).

Behind every element that is staged or rejected, and behind a sink that cannot be flushed, the
payload is taken as a whole. Two failures which do not come from the stream leave it in part: a sink
that is refused leaves all of it (`Staging.payload_behind_refusal`), and one that fails in a write
leaves what comes behind the part that was offered.
-/

namespace ExportStream

/-- Where the cursor `c'` stands when the payload behind `c` is taken off with the outcome `r`. -/
inductive Cursor.PayloadEnd {α : Type} (c : Cursor) (size : Nat) (c' : Cursor) :
    Except Failure α → Prop where
  /-- The payload is taken as a whole. -/
  | taken (a : α) (ahead : c.Ahead size c') : c.PayloadEnd size c' (.ok a)
  /-- The stream ends inside the payload. -/
  | short (lt_size : c.remaining.length < size) :
    c.PayloadEnd size c' (.error (.ofStream (.ended .payload
      (c.position + c.remaining.length) (some size) (some c.remaining.length))))
  /-- The sink fails in a write; the parts up to the one that it was offered are taken. -/
  | unwritten (n : Nat) (fault : DeviceFault) (pos : 0 < n) (le_size : n ≤ size)
    (ahead : c.Ahead n c') :
    c.PayloadEnd size c' (.error ((Failure.ofDevice fault).within "Writing attachment payload"))
  /-- The sink cannot be flushed; the payload is taken as a whole. -/
  | unflushed (fault : DeviceFault) (ahead : c.Ahead size c') :
    c.PayloadEnd size c' (.error ((Failure.ofDevice fault).within "Flushing attachment sink"))

/-- What is answered does not matter. -/
theorem Cursor.PayloadEnd.mapOk {α β : Type} {c c' : Cursor} {size : Nat} {a : α}
    (h : c.PayloadEnd size c' (.ok a)) (b : β) : c.PayloadEnd size c' (.ok b) := by
  cases h with
  | taken _ ahead => exact .taken b ahead

/-- A failure does not depend on what would have been answered. -/
theorem Cursor.PayloadEnd.castError {α β : Type} {c c' : Cursor} {size : Nat} {f : Failure}
    (h : c.PayloadEnd size c' (.error f : Except Failure α)) :
    c.PayloadEnd size c' (.error f : Except Failure β) := by
  cases h with
  | short lt_size => exact .short lt_size
  | unwritten n fault pos le_size ahead => exact .unwritten n fault pos le_size ahead
  | unflushed fault ahead => exact .unflushed fault ahead

namespace Copying

/-- How moving the `left` bytes that are due may end. -/
def MoveEnd (w : Copying) (size left : Nat) : Except Failure (List (List UInt8)) × Copying → Prop
  | (.ok _, w') => w.cursor.Ahead left w'.cursor
  | (.error f, w') =>
    (w.cursor.remaining.length < left ∧
      f = .ofStream (.ended .payload (w.cursor.position + w.cursor.remaining.length) (some size)
        (some (size - left + w.cursor.remaining.length)))) ∨
    ∃ n fault, 0 < n ∧ n ≤ left ∧ w.cursor.Ahead n w'.cursor ∧
      f = (Failure.ofDevice fault).within "Writing attachment payload"

/-- Moving bytes ends in one of these ways, whatever the sink does. -/
theorem move_end {w : Copying} (hc : w.cursor.Sound) (hb : 0 < w.copier.bufferSize)
    {size left : Nat} (moved : List (List UInt8)) (hle : left ≤ size) :
    w.MoveEnd size left (w.move size left moved) := by
  fun_induction move w size left moved with
  | case1 w moved => exact ⟨hc, Nat.zero_le _, rfl, rfl⟩
  | case2 w left moved hleft f d hr =>
    exact absurd hr (Cursor.readRaw_ne_error hc (by omega))
  | case3 w left moved hleft d hr =>
    obtain ⟨-, -, hahead, hend, -⟩ := Cursor.front_of_readRaw hc (by omega) hr
    have hpos : d.position = w.cursor.position := hahead.position_eq
    rw [MoveEnd, tooShort, hpos, hend rfl]
    exact .inl ⟨Nat.pos_iff_ne_zero.mpr hleft, rfl⟩
  | case4 w left moved hleft b bs d hr fault sink hw =>
    obtain ⟨-, hpart, hahead, -, -⟩ := Cursor.front_of_readRaw hc (by omega) hr
    exact .inr ⟨_, fault, Nat.zero_lt_succ _, Nat.le_trans hpart (Nat.min_le_left ..), hahead, rfl⟩
  | case5 w left moved hleft b bs d hr sink hw copier ih =>
    obtain ⟨hfront, hpart, hahead, -, -⟩ := Cursor.front_of_readRaw hc (by omega) hr
    have hlen : w.cursor.remaining.length = (b :: bs).length + d.remaining.length := by
      rw [hfront, List.length_append]
    have hrest := ih hahead.sound hb (by omega)
    revert hrest
    generalize move (_ : Copying) size (left - (b :: bs).length) _ = r
    obtain ⟨f | parts, w'⟩ := r
    · rintro (⟨hlt, hf⟩ | ⟨n, fault, hn, hnle, hn', hf⟩)
      · have hpos : d.position + d.remaining.length =
            w.cursor.position + w.cursor.remaining.length := by
          rw [hahead.position_eq]
          omega
        have hgot : size - (left - (b :: bs).length) + d.remaining.length =
            size - left + w.cursor.remaining.length := by
          omega
        simp only at hlt hf
        rw [hpos, hgot] at hf
        exact .inl ⟨by omega, hf⟩
      · exact .inr ⟨_, fault, by omega, by omega, hahead.trans hn', hf⟩
    · intro hmoved
      have hboth := hahead.trans hmoved
      rw [Nat.add_sub_cancel' (by omega)] at hboth
      exact hboth

/-- Copying a payload ends in one of these ways, whatever the sink does. -/
theorem copy_end {w : Copying} (hc : w.cursor.Sound) (hb : 0 < w.copier.bufferSize) (size : Nat) :
    w.cursor.PayloadEnd size (w.copy size).2.cursor (w.copy size).1 := by
  have hmove := move_end (w := { w with copier := { w.copier with allocated := true } }) hc hb []
    (Nat.le_refl size)
  unfold copy
  revert hmove
  generalize move (_ : Copying) size size [] = r
  obtain ⟨f | parts, w'⟩ := r
  · rintro (⟨hlt, rfl⟩ | ⟨n, fault, hn, hnle, hahead, rfl⟩)
    · rw [Nat.sub_self, Nat.zero_add]
      exact .short hlt
    · exact .unwritten n fault hn hnle hahead
  · intro hahead
    simp only
    rcases Writer.flush w'.sink with ⟨fault | _, sink⟩
    · exact .unflushed fault hahead
    · exact .taken _ hahead

end Copying

namespace Session

variable {s s' : Session} {size : Nat}

theorem copyPayload_end (hc : s.cursor.Sound) (hb : 0 < s.copier.bufferSize) {sink sink' : Sink}
    {r : Except Failure String} (h : s.copyPayload size sink = (r, sink', s')) :
    s.cursor.PayloadEnd size s'.cursor r := by
  have hcopy := Copying.copy_end (w := { copier := s.copier, cursor := s.cursor, sink }) hc hb size
  unfold copyPayload at h
  cases h
  exact hcopy

/-- A payload that nobody wants is taken as a whole unless the stream ends inside it. -/
theorem dropBytes_end (hc : s.cursor.Sound) (hb : 0 < s.copier.bufferSize)
    {r : Except Failure Unit} (h : s.dropBytes size = (r, s')) :
    s.cursor.PayloadEnd size s'.cursor r := by
  unfold dropBytes at h
  split at h
  · next hcopy =>
    cases h
    exact (copyPayload_end hc hb hcopy).castError
  · next hcopy =>
    cases h
    exact (copyPayload_end hc hb hcopy).mapOk ()

end Session

namespace Staging

variable {g g' : Staging} {k : Kind} {v : Json} {s s' : Session} {size : Nat}
  {r : Except Failure Decoded}

/-- Warning about a payload does not move the cursor. -/
theorem ahead_verify {c : Cursor} (h : c.Ahead size s.cursor) (a : Attachment) :
    c.Ahead size (verify k a s).cursor := by
  unfold verify
  split_ifs
  · exact ⟨h.sound.note _, h.le_length, h.remaining_eq, h.position_eq⟩
  · exact h

/-- How reading the payload of a marker of this size may end: a sink for it is refused and nothing is
read, or the payload is taken off as far as the sink and the stream go. -/
def MarkerEnd (g : Staging) (v : Json) (size : Nat) (s s' : Session) (r : Except Failure Decoded) :
    Prop :=
  (∃ tag f, v.fieldText? "Tag" = some tag ∧ g.sinks.make g.sinks.asked tag = .error f ∧
      r = .error f ∧ s' = s) ∨
    s.cursor.PayloadEnd size s'.cursor r

theorem stageNamed_end (hc : s.cursor.Sound) (hb : 0 < s.copier.bufferSize) {hash tag : String}
    (htag : v.fieldText? "Tag" = some tag)
    (h : g.stageNamed k v size hash tag s = (r, g', s')) : g.MarkerEnd v size s s' r := by
  unfold stageNamed Sinks.create at h
  rcases hmake : g.sinks.make g.sinks.asked tag with f | sink
  · rw [hmake] at h
    cases h
    exact .inl ⟨tag, f, htag, hmake, rfl, rfl⟩
  · rw [hmake] at h
    simp only at h
    rcases hcopy : s.copyPayload size sink with ⟨f | computed, sink', s₁⟩
    · rw [hcopy] at h
      cases h
      exact .inr (Session.copyPayload_end hc hb hcopy).castError
    · rw [hcopy] at h
      cases h
      cases Session.copyPayload_end hc hb hcopy with
      | taken _ ahead => exact .inr (.taken _ (ahead_verify ahead _))

/-- **Behind a marker.** What is left of the stream when an element that announces a payload of a
known size is decoded, whatever its hash and tag, the maker of sinks and the sink are: the payload
is taken as a whole, or else the failure tells why not. -/
theorem decodeDocument_marker (hc : s.cursor.Sound) (hb : 0 < s.copier.bufferSize)
    (hv : v.isMarker = true) (hsize : v.markerSize? = some size)
    (h : g.decodeDocument k v s = (r, g', s')) : g.MarkerEnd v size s s' r := by
  have hpayload : s.payloadSize v = .ok size := by rw [Session.payloadSize, hsize]
  unfold decodeDocument stage at h
  rw [if_pos hv, hpayload] at h
  simp only at h
  split at h
  · next hash tag _ htag => exact stageNamed_end hc hb htag h
  · rcases hdrop : s.dropBytes size with ⟨f | _, s₁⟩
    · rw [hdrop] at h
      cases h
      exact .inr (Session.dropBytes_end hc hb hdrop).castError
    · rw [hdrop] at h
      cases h
      exact .inr ((Session.dropBytes_end hc hb hdrop).mapOk _)

/-- A marker without a hash, behind which the payload `]}` stands, in the middle of an array. -/
theorem decodeDocument_marker_without_hash :
    let marker : Json := .object [("@metadata", .object [("@export-type", .string "Attachment")]),
      ("Size", .int 2), ("Tag", .string "t")]
    let s : Session :=
      { Session.start { rest := [93, 125, 93, 125] } {} {} with
        current := some .documents, array := .isOpen }
    let r := Staging.decodeDocument { sinks := .memory } .documents marker s
    marker.isMarker = true ∧ marker.markerSize? = some 2 ∧
      MarkerEnd { sinks := .memory } marker 2 s r.2.2 r.1 ∧ r.2.2.position = 2 := by
  intro marker s r
  have hsteady : Supply.Steady { rest := [93, 125, 93, 125] } := by simp [Supply.Steady]
  have hsound : s.cursor.Sound := Cursor.sound_start hsteady _ _
  have hend := decodeDocument_marker (k := .documents) (g := { sinks := .memory }) hsound
    (by decide) (v := marker) rfl rfl rfl
  exact ⟨rfl, rfl, hend, by decide +kernel⟩

/-- **A refused sink leaves the payload in the stream.** Behind a marker with the payload `]}` the
position is not that behind the payload, and the bytes of the payload are read as the end of the
array and of the export: the section behind them is lost. -/
theorem payload_behind_refusal :
    let marker : Json := .object [("@metadata", .object [("@export-type", .string "Attachment")]),
      ("Hash", .string "h"), ("Size", .int 2), ("Tag", .string "t")]
    -- the bytes `]}],"Tombstones":[]}`
    let s : Session :=
      { Session.start { rest := [93, 125, 93, 44, 34, 84, 111, 109, 98, 115, 116, 111, 110, 101,
          115, 34, 58, 91, 93, 125] } {} {} with
        current := some .documents, array := .isOpen }
    let g : Staging := { sinks := .faulty { refuse := some "t" } }
    ∃ f g' s', g.decodeDocument .documents marker s = (.error f, g', s') ∧
      f.status = .permissionDenied ∧ s.position = 0 ∧ s'.position = 0 ∧
      s'.nextKind.1.toOption = some none ∧ s'.nextKind.2.position = 2 :=
  ⟨_, _, _, rfl, rfl, rfl, rfl, by decide +kernel, by decide +kernel⟩

end Staging

end ExportStream

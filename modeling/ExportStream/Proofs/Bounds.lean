import ExportStream.Proofs.Journeys
/-!
# Counters and the size of the input

Whatever a session is used for, in any order and with any failures, its counters do not outgrow its
input: every element that is counted, and every attachment, stands for a byte of its own that was
used, the position does not pass what was read, and no more is read than there is
(**`Session.bounded_of_uses`**). For any input that can be had the counters fit into 64 bits.
-/

namespace ExportStream

namespace Session

/-- One use of a session, whether it succeeds or fails: going to the next kind, passing over one,
polling any reader, or a whole import with any handler. -/
inductive Use : Session → Session → Prop where
  /-- To the next kind. -/
  | nextKind (s : Session) : Use s s.nextKind.2
  /-- Over what is left of a kind. -/
  | skipKind (s : Session) (kind : Option Kind) : Use s (s.skipKind kind).2.2
  /-- A reader is polled. -/
  | poll (s : Session) (r : Reader) : Use s (r.poll s).2.2
  /-- All of the export is given to a handler. -/
  | drive {σ : Type} (i : Import σ) (h : Handler σ) : Use i.session (i.drive h).2.session

/-- Uses of a session, one after the other. -/
abbrev Uses : Session → Session → Prop := Relation.ReflTransGen Use

variable {s t : Session}

/-- Every use is a journey. -/
theorem Use.journey (h : s.Use t) : ∃ failures, s.Journey failures 0 t := by
  cases h with
  | nextKind => exact ⟨_, journey_nextKind rfl⟩
  | skipKind kind => exact ⟨_, journey_skipKind rfl⟩
  | poll r => exact ⟨_, journey_poll rfl⟩
  | drive i h => exact ⟨_, Import.journey_drive rfl⟩

/-- So are any number of them. -/
theorem Uses.journey (h : s.Uses t) : ∃ failures, s.Journey failures 0 t := by
  induction h with
  | refl => exact ⟨0, .refl s⟩
  | tail _ huse ih =>
    obtain ⟨failures, hjourney⟩ := ih
    obtain ⟨failures', huse⟩ := huse.journey
    exact ⟨_, hjourney.trans huse⟩

/-- The counters that grow while a session is used. -/
def counters (s : Session) : List Nat :=
  Kind.all.flatMap (fun k => [(s.tally.get k).read, (s.tally.get k).errored, (s.tally.get k).skipped]) ++
    [s.tally.attachments, s.tally.totalRead, s.tally.totalErrored, s.assembler.built, s.copier.copied,
      s.position, s.bytesRead]

/-- The counters of a session do not outgrow an input of the given size. -/
structure Bounded (size : Nat) (s : Session) : Prop where
  /-- Every element that is counted, and every attachment, stands for a byte that was used. -/
  counted_le :
    Kind.all.foldr (fun k n => (s.tally.get k).total + n) 0 + s.tally.attachments ≤ s.position
  /-- So does every value that was put together. -/
  built_le : s.assembler.built ≤ s.position
  /-- So does every byte of a payload. -/
  copied_le : s.copier.copied ≤ s.position
  /-- No byte is used that was not read. -/
  position_le : s.position ≤ s.bytesRead
  /-- No more is read than there is. -/
  bytesRead_le : s.bytesRead ≤ size
  /-- The records that were read and the elements that were rejected. -/
  totals_le : s.tally.totalRead + s.tally.totalErrored ≤ size
  /-- The elements that would be passed over now. -/
  skipped_le : ∀ kind, (s.skipKind kind).2.1 ≤ size
  /-- Every counter. -/
  counters_le : ∀ n ∈ s.counters, n ≤ size

/-- The number of what is counted is at least each of its parts. -/
theorem le_counted (t : Tally) (k : Kind) : (t.get k).total ≤ t.counted := by
  cases k <;> simp only [Tally.counted, Kind.all, List.foldr_cons, List.foldr_nil] <;> omega

theorem totals_le_counted (t : Tally) : t.totalRead + t.totalErrored ≤ t.counted := by
  simp only [Tally.totalRead, Tally.totalErrored, Tally.counted, Kind.all, List.foldr_cons,
    List.foldr_nil, Counts.total]
  omega

theorem counted_eq (t : Tally) :
    Kind.all.foldr (fun k n => (t.get k).total + n) 0 + t.attachments = t.counted := by
  simp only [Tally.counted, Kind.all, List.foldr_cons, List.foldr_nil]
  omega

/-- A journey from the start of a supply does not leave it. -/
theorem Journey.within {supply : Supply} {options : Options} {tally : Tally} {failures spare : Nat}
    (h : (start supply options tally).Journey failures spare s) :
    s.copier.copied ≤ s.cursor.position ∧ s.cursor.position ≤ s.cursor.bytesRead ∧
      s.cursor.bytesRead ≤ supply.rest.length := by
  obtain ⟨tokens, lost, hcourse, -⟩ := h.course
  obtain ⟨-, -, hposition, hbytes⟩ := hcourse.bounds
  have hcopied : s.copier.copied + 0 ≤ 0 + s.cursor.position := hcourse.copied_le
  rw [Nat.add_zero, Nat.zero_add] at hcopied
  exact ⟨hcopied, hposition, hbytes⟩

/-- A journey from the start of an empty tally bounds the counters by the position. -/
theorem Journey.bounded {supply : Supply} {options : Options} {failures : Nat}
    (h : (start supply options {}).Journey failures 0 s) : s.Bounded supply.rest.length := by
  obtain ⟨hcopied, hposition, hbytes⟩ := h.within
  have hcounted := h.counted_le
  have hbuilt := h.built_le
  have hstart : (start supply options {}).cursor.progress = 1 := rfl
  have hempty : (start supply options {}).tally.counted = 0 := rfl
  have hnone : (start supply options {}).assembler.built = 0 := rfl
  have hend := s.cursor.progress_le
  have hpos : s.position = s.cursor.position := rfl
  have hread : s.bytesRead = s.cursor.bytesRead := rfl
  have htotals := totals_le_counted s.tally
  have hsum := counted_eq s.tally
  refine ⟨by omega, by omega, by omega, by omega, by omega, by omega, ?_, ?_⟩
  · intro kind
    rcases hk : s.skipKind kind with ⟨r, n, t⟩
    obtain ⟨-, hposition', hbytes'⟩ := (h.trans (journey_skipKind hk)).within
    have hprogress := h.progress_le
    have hskipped := progress_skipKind hk
    have hend' := t.cursor.progress_le
    show n ≤ _
    omega
  · intro n hn
    simp only [counters, List.mem_append, List.mem_flatMap, List.mem_cons, List.not_mem_nil,
      or_false] at hn
    obtain ⟨k, -, hn⟩ | hn := hn
    · have hk := le_counted s.tally k
      rw [Counts.total] at hk
      omega
    · omega

/-- **Counters do not outgrow the input.** Whatever comes of opening an export into an empty tally,
and whatever the session is used for afterwards, all that is counted stands for bytes that were
used; and if the size of the input fits into 64 bits, every counter does. -/
theorem bounded_of_uses {supply : Supply} {options : Options}
    (h : (start supply options {}).begin.2.Uses s) :
    s.Bounded supply.rest.length ∧
      (supply.rest.length < UInt64.size → ∀ n ∈ s.counters, n < UInt64.size) := by
  obtain ⟨failures, hjourney⟩ := h.journey
  have hbounded := ((journey_begin (s := start supply options {}) rfl).trans hjourney).bounded
  refine ⟨hbounded, ?_⟩
  intro hsize n hn
  have hle := hbounded.counters_le n hn
  omega

/-- The bytes `{"Docs":[{},1],x` in portions of three: the array is passed over, the session goes on,
and fails at the last byte. Two elements are counted, and all bytes but one are used. -/
theorem bounded_of_skipped :
    let supply : Supply :=
      { rest := [123, 34, 68, 111, 99, 115, 34, 58, 91, 123, 125, 44, 49, 93, 44, 120],
        portions := [3] }
    ∃ s, (start supply {} {}).begin.2.Uses s ∧ s.Bounded 16 ∧
      s.tally.documents = ⟨0, 0, 2⟩ ∧ s.position = 15 ∧ s.bytesRead = 16 := by
  intro supply
  have huses : (start supply {} {}).begin.2.Uses
      ((start supply {} {}).begin.2.nextKind.2.skipKind (some .documents)).2.2.nextKind.2 :=
    ((Relation.ReflTransGen.single (.nextKind _)).tail (.skipKind _ (some .documents))).tail
      (.nextKind _)
  exact ⟨_, huses, (bounded_of_uses huses).1, by decide +kernel, by decide +kernel,
    by decide +kernel⟩

end Session

end ExportStream

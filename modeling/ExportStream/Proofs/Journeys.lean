import ExportStream.Proofs.Courses
/-!
# Journeys of sessions

What an operation of a session does to the stream is a course of readings, whether the operation
succeeds or not: without a failure if it succeeds, and with at most one if it fails. And what it
adds to the tally is paid with the tokens of that course: no element is counted twice, and none is
counted that was not taken off the stream. `Session.Journey` says both of the way from one session
to another. There is one lemma for each operation, in the order in which the operations use each
other.

Elements are counted behind the reading that brings them, and sometimes much later: those that are
passed over only when the array is at its end. So a journey may have spare tokens, which are not
charged yet; an element comes with one to spare (`Session.journey_nextElement`), and what becomes of
it spends that (`Session.Journey.settle`).
-/

namespace ExportStream

/-! ### What is counted -/

/-- The number of all elements and attachments that are counted. -/
def Tally.counted (t : Tally) : Nat :=
  Kind.all.foldr (fun k n => (t.get k).total + n) t.attachments

/-- Changing the counts of a kind changes the number as much. -/
theorem Tally.counted_modify (t : Tally) (k : Kind) (f : Counts → Counts) :
    (t.modify k f).counted + (t.get k).total = t.counted + (f (t.get k)).total := by
  cases k <;> simp only [counted, Kind.all, List.foldr_cons, List.foldr_nil, modify, get] <;> omega

theorem Tally.counted_warn (t : Tally) (message : String) :
    (t.warn message).counted = t.counted := rfl

/-- How many elements an outcome brings. -/
def brought : Except Failure (Option Json) → Nat
  | .ok (some _) => 1
  | _ => 0

namespace Session

/-- What a session takes its readings with. -/
def intake (s : Session) : Intake := ⟨s.cursor, s.copier⟩

/-- On the way from `s` to `t` a course is taken with at most so many failures, and what is counted is
paid, with so many tokens to spare. -/
structure Journey (failures spare : Nat) (s t : Session) : Prop where
  /-- The course. -/
  course : ∃ tokens lost, s.intake.Course tokens lost t.intake ∧ lost ≤ failures
  /-- The tokens to spare are paid. -/
  progress_le : s.cursor.progress + spare ≤ t.cursor.progress
  /-- What the tally counts is paid. -/
  counted_le : t.tally.counted + s.cursor.progress + spare ≤ s.tally.counted + t.cursor.progress
  /-- The values that are put together are paid. -/
  built_le : t.assembler.built + s.cursor.progress ≤ s.assembler.built + t.cursor.progress

variable {s t u : Session} {failures failures' spare spare' : Nat}

namespace Journey

theorem refl (s : Session) : s.Journey 0 0 s :=
  ⟨⟨0, 0, .refl _, Nat.le_refl _⟩, Nat.le_refl _, Nat.le_refl _, Nat.le_refl _⟩

theorem trans (h : s.Journey failures spare t) (h' : t.Journey failures' spare' u) :
    s.Journey (failures + failures') (spare + spare') u := by
  obtain ⟨⟨tokens, lost, hcourse, hlost⟩, hprogress, hcounted, hbuilt⟩ := h
  obtain ⟨⟨tokens', lost', hcourse', hlost'⟩, hprogress', hcounted', hbuilt'⟩ := h'
  exact ⟨⟨_, _, hcourse.trans hcourse', by omega⟩, by omega, by omega, by omega⟩

/-- More failures are allowed, and fewer tokens are spare. -/
theorem weaken (h : s.Journey failures spare t) (hf : failures ≤ failures')
    (hs : spare' ≤ spare) : s.Journey failures' spare' t := by
  obtain ⟨⟨tokens, lost, hcourse, hlost⟩, hprogress, hcounted, hbuilt⟩ := h
  exact ⟨⟨_, _, hcourse, by omega⟩, by omega, by omega, hbuilt⟩

/-- A failure behind a journey that had none. -/
theorem fail (h : s.Journey 0 spare t) (n : Nat) : s.Journey n 0 t :=
  h.weaken (Nat.zero_le _) (Nat.zero_le _)

/-- A journey behind one that has nothing to spare. -/
theorem before (h : s.Journey 0 0 t) (h' : t.Journey failures spare u) :
    s.Journey failures spare u := by
  have hall := h.trans h'
  rw [Nat.zero_add, Nat.zero_add] at hall
  exact hall

/-- Counting spends as many spare tokens as it counts. -/
theorem count (h : s.Journey failures spare t) {n : Nat} (hn : n ≤ spare) (hc : u.cursor = t.cursor)
    (ha : u.assembler = t.assembler) (hw : u.copier = t.copier)
    (htally : u.tally.counted ≤ t.tally.counted + n) : s.Journey failures (spare - n) u := by
  obtain ⟨⟨tokens, lost, hcourse, hlost⟩, hprogress, hcounted, hbuilt⟩ := h
  have hintake : u.intake = t.intake := by rw [intake, intake, hc, hw]
  refine ⟨⟨tokens, lost, hintake ▸ hcourse, hlost⟩, ?_, ?_, ?_⟩
  · rw [hc]
    omega
  · rw [hc]
    omega
  · rw [hc, ha]
    exact hbuilt

/-- What changes neither the stream nor the counts costs nothing. -/
theorem congr (h : s.Journey failures spare t) (hc : u.cursor = t.cursor)
    (ha : u.assembler = t.assembler) (hw : u.copier = t.copier)
    (htally : u.tally.counted = t.tally.counted) : s.Journey failures spare u :=
  h.count (Nat.zero_le _) hc ha hw (Nat.le_of_eq htally)

/-- Something is noted. -/
theorem note (h : s.Journey failures spare t) (n : Notice) :
    s.Journey failures spare (t.note n) := by
  obtain ⟨⟨tokens, lost, hcourse, hlost⟩, hprogress, hcounted, hbuilt⟩ := h
  exact ⟨⟨_, _, hcourse.tail (.noted t.cursor t.copier n), hlost⟩, hprogress, hcounted, hbuilt⟩

theorem countSkipped (h : s.Journey failures spare t) (k : Kind) {n : Nat} (hn : n ≤ spare) :
    s.Journey failures (spare - n) (t.countSkipped k n) := by
  refine h.count hn rfl rfl rfl ?_
  have hcounted := t.tally.counted_modify k (.addSkipped n)
  simp only [Counts.addSkipped, Counts.total] at hcounted
  simp only [Session.countSkipped]
  omega

theorem countRead (h : s.Journey failures (spare + 1) t) (k : Kind) :
    s.Journey failures spare (t.countRead k) := by
  refine h.count (n := 1) (Nat.le_add_left ..) rfl rfl rfl ?_
  have hcounted := t.tally.counted_modify k .addRead
  simp only [Counts.addRead, Counts.total] at hcounted
  simp only [Session.countRead]
  omega

theorem reject (h : s.Journey failures (spare + 1) t) (k : Kind) (f : RecordFault) (v : Json) :
    s.Journey failures spare (t.reject k f v) := by
  refine (h.note (.rejected k t.position f.message)).count (n := 1) (Nat.le_add_left ..) rfl rfl rfl
    ?_
  have hcounted := t.tally.counted_modify k .addErrored
  simp only [Counts.addErrored, Counts.total] at hcounted
  simp only [Session.reject, Session.note, Tally.counted_warn]
  omega

theorem countAttachment (h : s.Journey failures (spare + 1) t) :
    s.Journey failures spare t.countAttachment := by
  refine h.count (n := 1) (Nat.le_add_left ..) rfl rfl rfl ?_
  simp only [Session.countAttachment, Tally.counted, Kind.all, List.foldr_cons, List.foldr_nil,
    Tally.get]
  omega

theorem warn (h : s.Journey failures spare t) (k : Kind) (message : String) :
    s.Journey failures spare (t.warn k message) :=
  (h.note (.warned k message)).congr rfl rfl rfl rfl

end Journey

/-! ### Readings -/

/-- A token is to spare until something is charged to it. -/
theorem journey_readToken {r : Except Failure Token} (h : s.readToken = (r, t)) :
    s.Journey (lost r) (found r) t := by
  have hr := readToken_cursor h
  have hgains := Cursor.gains_readToken hr
  have hprogress := hgains.progress_le
  rw [readToken_moves h]
  refine ⟨⟨_, _, (Intake.Reading.token s.copier hr).course, Nat.le_refl _⟩, hprogress, ?_, ?_⟩
  · show s.tally.counted + s.cursor.progress + _ ≤ s.tally.counted + t.cursor.progress
    omega
  · show s.assembler.built + s.cursor.progress ≤ s.assembler.built + t.cursor.progress
    omega

/-- The tokens of a value that is put together follow its first one. -/
theorem course_go {a a' : Assembler} {u : Token} {c c' : Cursor} {r : Except Failure Json}
    (h : a.go u c = (r, a', c')) (p : Copier) :
    (∃ tokens n, Intake.Course tokens n ⟨c, p⟩ ⟨c', p⟩ ∧ n ≤ lost r) ∧
      c.progress ≤ c'.progress ∧ a'.built + lost r ≤ a.built + 1 := by
  fun_induction Assembler.go a u c with
  | case1 a u c v ha =>
    cases h
    exact ⟨⟨0, 0, .refl _, Nat.le_refl _⟩, Nat.le_refl _, Nat.le_refl _⟩
  | case2 a u c f frames ha =>
    cases h
    exact ⟨⟨0, 0, .refl _, Nat.zero_le _⟩, Nat.le_refl _, Nat.le_refl _⟩
  | case3 a u c frames ha w d hr ih =>
    obtain ⟨⟨tokens, n, hcourse, hn⟩, hprogress, hbuilt⟩ := ih h
    have hpaid := (Cursor.gains_readToken hr).progress_le
    refine ⟨⟨_, _, (Intake.Reading.token p hr).course.trans hcourse, ?_⟩, ?_, hbuilt⟩
    · rw [lost, Nat.zero_add]
      exact hn
    · omega
  | case4 a u c frames ha f d hr =>
    cases h
    exact ⟨⟨_, _, (Intake.Reading.token p hr).course, Nat.le_refl _⟩,
      (Cursor.gains_readToken hr).progress_le, Nat.le_refl _⟩

/-- A payload is copied. -/
theorem journey_copyPayload {size : Nat} {sink sink' : Sink} {r : Except Failure String}
    (h : s.copyPayload size sink = (r, sink', t)) : s.Journey (lost r) 0 t := by
  unfold copyPayload at h
  rcases hc : ({ copier := s.copier, cursor := s.cursor, sink } : Copying).copy size with ⟨r₁, w⟩
  rw [hc] at h
  cases h
  have hprogress := (Copying.gains_copy hc).1.progress_le
  refine ⟨⟨_, _, (Intake.Reading.payload hc).course, Nat.le_refl _⟩, hprogress, ?_, ?_⟩
  · exact Nat.add_le_add_left hprogress _
  · exact Nat.add_le_add_left hprogress _

/-! ### Elements -/

theorem journey_openArray {r : Except Failure Unit} (h : s.openArray = (r, t)) :
    s.Journey (lost r) 0 t := by
  unfold openArray at h
  split at h
  · next hr => cases h; exact journey_readToken hr
  · next s₁ hr =>
    cases h
    exact ((journey_readToken hr).congr (u := { s₁ with array := .isOpen }) rfl rfl rfl rfl).fail 0
  · next hr => cases h; exact (journey_readToken hr).fail 1

/-- An element comes with a token to spare, its first. -/
theorem journey_readElement {r : Except Failure (Option Json)} (h : s.readElement = (r, t)) :
    s.Journey (lost r) (brought r) t := by
  unfold readElement at h
  split at h
  · next hr => cases h; exact journey_readToken hr
  · next s₁ hr =>
    cases h
    exact ((journey_readToken hr).congr (u := { s₁ with array := .closed }) rfl rfl rfl rfl).fail 0
  · next u s₁ hno hr =>
    -- the value is charged to its first token, like the element
    have hvalue {r₁ : Except Failure Json} {s₂ : Session} (hv : s₁.readValue u = (r₁, s₂)) :
        s.Journey (lost r₁) 1 s₂ := by
      have hpaid := (Cursor.gains_readToken (readToken_cursor hr)).progress_le
      have hfirst := (Intake.Reading.token s.copier (readToken_cursor hr)).course
      unfold readValue Assembler.build at hv
      rcases hgo : s₁.assembler.reset.go u s₁.cursor with ⟨r₂, a, c⟩
      rw [hgo, readToken_moves hr] at hv
      cases hv
      obtain ⟨⟨tokens, n, hcourse, hn⟩, hprogress, hbuilt⟩ := course_go hgo s.copier
      have hreset : s₁.assembler.reset.built = s.assembler.built := by
        rw [readToken_moves hr]
        rfl
      simp only [found] at hpaid
      refine ⟨⟨_, _, hfirst.trans hcourse, ?_⟩, ?_, ?_, ?_⟩
      · simp only [lost, Nat.zero_add]
        exact hn
      · show s.cursor.progress + 1 ≤ c.progress
        omega
      · show s.tally.counted + s.cursor.progress + 1 ≤ s.tally.counted + c.progress
        omega
      · show a.built + s.cursor.progress ≤ s.assembler.built + c.progress
        omega
    split at h
    · next hv => cases h; exact (hvalue hv).weaken (Nat.le_refl _) (Nat.zero_le _)
    · next hv => cases h; exact hvalue hv

theorem journey_nextElement {r : Except Failure (Option Json)} (h : s.nextElement = (r, t)) :
    s.Journey (lost r) (brought r) t := by
  unfold nextElement at h
  split at h
  · cases h; exact .refl s
  · exact journey_readElement h
  · split at h
    · next ho => cases h; exact journey_openArray ho
    · next ho => exact (journey_openArray ho).before (journey_readElement h)

theorem journey_dropBytes {size : Nat} {r : Except Failure Unit} (h : s.dropBytes size = (r, t)) :
    s.Journey (lost r) 0 t := by
  unfold dropBytes at h
  split at h
  · next hc => cases h; exact journey_copyPayload hc
  · next hc => cases h; exact journey_copyPayload hc

theorem journey_dropPayload {v : Json} {r : Except Failure Unit} (h : s.dropPayload v = (r, t)) :
    s.Journey (lost r) 0 t := by
  unfold dropPayload at h
  split at h
  · split at h
    · cases h; exact (Journey.refl s).fail 1
    · exact journey_dropBytes h
  · cases h; exact .refl s

/-- Every element that is dropped comes with a token to spare. -/
theorem journey_dropElements {n m : Nat} {r : Except Failure Unit}
    (h : s.dropElements n = (r, m, t)) : ∃ dropped, m = n + dropped ∧ s.Journey (lost r) dropped t := by
  fun_induction dropElements s n with
  | case1 s n f s₁ h₁ => cases h; exact ⟨0, rfl, journey_nextElement h₁⟩
  | case2 s n s₁ h₁ => cases h; exact ⟨0, rfl, journey_nextElement h₁⟩
  | case3 s n v s₁ h₁ f s₂ h₂ =>
    cases h
    have hdropped := (journey_nextElement h₁).trans (journey_dropPayload h₂)
    exact ⟨0, rfl, hdropped.weaken (Nat.le_refl _) (Nat.zero_le _)⟩
  | case4 s n v s₁ h₁ s₂ h₂ ih =>
    obtain ⟨dropped, hm, hrest⟩ := ih h
    have hall := ((journey_nextElement h₁).trans (journey_dropPayload h₂)).trans hrest
    simp only [lost, brought, Nat.zero_add, Nat.add_zero] at hall
    exact ⟨1 + dropped, by omega, hall⟩

theorem journey_skipKind {kind : Option Kind} {n : Nat} {r : Except Failure Unit}
    (h : s.skipKind kind = (r, n, t)) : s.Journey (lost r) 0 t := by
  unfold skipKind at h
  cases kind with
  | none => cases h; exact .refl s
  | some k =>
    simp only at h
    split_ifs at h
    · split at h
      · next hd =>
        cases h
        obtain ⟨dropped, -, hall⟩ := journey_dropElements hd
        exact hall.weaken (Nat.le_refl _) (Nat.zero_le _)
      · next hd =>
        cases h
        obtain ⟨dropped, hn, hall⟩ := journey_dropElements hd
        have hcounted := (hall.countSkipped k (n := n) (by omega)).note (.skipped k n)
        exact hcounted.weaken (Nat.le_refl _) (Nat.zero_le _)
    · cases h; exact (Journey.refl s).fail 1

/-- Every element that is passed over is paid, even if that ends in a failure. -/
theorem progress_skipKind {kind : Option Kind} {n : Nat} {r : Except Failure Unit}
    (h : s.skipKind kind = (r, n, t)) : s.cursor.progress + n ≤ t.cursor.progress := by
  have hdropped {r : Except Failure Unit} {n : Nat} {t : Session}
      (hd : s.dropElements 0 = (r, n, t)) : s.cursor.progress + n ≤ t.cursor.progress := by
    obtain ⟨dropped, hn, hall⟩ := journey_dropElements hd
    have := hall.progress_le
    omega
  unfold skipKind at h
  cases kind with
  | none => cases h; exact Nat.le_refl _
  | some k =>
    simp only at h
    split_ifs at h
    · split at h
      · next hd => cases h; exact hdropped hd
      · next hd =>
        cases h
        have hall := hdropped hd
        exact hall
    · cases h; exact Nat.le_refl _

theorem Journey.countDrained (h : s.Journey failures spare t) (k : Kind) {n : Nat}
    (hn : n ≤ spare) : s.Journey failures 0 (t.countDrained k n) := by
  unfold Session.countDrained
  split_ifs
  · exact h.weaken (Nat.le_refl _) (Nat.zero_le _)
  · exact ((h.countSkipped k hn).note _).weaken (Nat.le_refl _) (Nat.zero_le _)

theorem journey_finishCurrent {r : Except Failure Unit} (h : s.finishCurrent = (r, t)) :
    s.Journey (lost r) 0 t := by
  unfold finishCurrent at h
  cases hk : s.current with
  | none =>
    rw [hk] at h
    cases h
    exact (Journey.refl s).congr rfl rfl rfl rfl
  | some k =>
    rw [hk] at h
    simp only at h
    split_ifs at h
    · cases h; exact (Journey.refl s).congr rfl rfl rfl rfl
    · split at h
      · next hd =>
        cases h
        obtain ⟨dropped, -, hall⟩ := journey_dropElements hd
        exact hall.weaken (Nat.le_refl _) (Nat.zero_le _)
      · next n s₁ hd =>
        cases h
        obtain ⟨dropped, hn, hall⟩ := journey_dropElements hd
        exact (hall.countDrained k (n := n) (by omega)).congr rfl rfl rfl rfl

/-! ### Records -/

/-- What becomes of an element may already be charged to it: the marker of an attachment is. -/
def unpaid : Except Failure Decoded → Nat
  | .ok .deferred => 0
  | _ => 1

theorem Journey.verify (h : s.Journey failures spare t) (k : Kind) (a : Attachment) :
    s.Journey failures spare (Staging.verify k a t) := by
  unfold Staging.verify
  split_ifs
  · exact h.warn ..
  · exact h

theorem Journey.stageNamed (h : s.Journey 0 1 t) {g g' : Staging} {k : Kind} {marker : Json}
    {size : Nat} {hash tag : String} {r : Except Failure Decoded}
    (hr : g.stageNamed k marker size hash tag t = (r, g', u)) :
    s.Journey (lost r) (unpaid r) u := by
  unfold Staging.stageNamed at hr
  split at hr
  · cases hr; exact h.weaken (Nat.zero_le _) (Nat.le_refl _)
  · split at hr
    · next hc => cases hr; exact h.trans (journey_copyPayload hc)
    · next hc =>
      cases hr
      exact ((h.trans (journey_copyPayload hc)).verify ..).countAttachment

theorem Journey.stage (h : s.Journey 0 1 t) {g g' : Staging} {k : Kind} {marker : Json}
    {r : Except Failure Decoded} (hr : g.stage k marker t = (r, g', u)) :
    s.Journey (lost r) (unpaid r) u := by
  unfold Staging.stage at hr
  split at hr
  · cases hr; exact h.weaken (Nat.zero_le _) (Nat.le_refl _)
  · split at hr
    · exact h.stageNamed hr
    · split at hr
      · next hd => cases hr; exact h.trans (journey_dropBytes hd)
      · next hd => cases hr; exact h.trans (journey_dropBytes hd)

theorem Journey.drop (h : s.Journey failures spare t) (g : Staging) (k : Kind) (reason : String) :
    s.Journey failures spare (g.drop k reason t).2 := by
  unfold Staging.drop
  split_ifs
  · exact h
  · exact h.warn ..

theorem Journey.decodeDocument (h : s.Journey 0 1 t) {g g' : Staging} {k : Kind} {v : Json}
    {r : Except Failure Decoded} (hr : g.decodeDocument k v t = (r, g', u)) :
    s.Journey (lost r) (unpaid r) u := by
  unfold Staging.decodeDocument at hr
  split at hr
  · exact h.stage hr
  · split at hr
    · next p _ =>
      cases hr
      cases p.etag <;> exact h.congr rfl rfl rfl rfl
    · cases hr; exact h.drop ..

theorem Journey.decodeLegacyAttachment (h : s.Journey 0 1 t) {g g' : Staging} {v : Json}
    {r : Except Failure Decoded} (hr : g.decodeLegacyAttachment v t = (r, g', u)) :
    s.Journey (lost r) (unpaid r) u := by
  have hkeep (e : Option String) :
      s.Journey 0 1 (if t.options.readLegacyEtag then t.keepAttachmentEtag e else t) := by
    cases e <;> split_ifs <;> exact h.congr rfl rfl rfl rfl
  unfold Staging.decodeLegacyAttachment at hr
  split at hr
  · cases hr; exact h
  · simp only at hr
    split at hr
    · cases hr; exact hkeep _
    · split at hr
      · cases hr; exact (hkeep _).weaken (Nat.zero_le _) (Nat.le_refl _)
      · split at hr
        · cases hr; exact (hkeep _).weaken (Nat.zero_le _) (Nat.le_refl _)
        · cases hr; exact hkeep _

/-- The token that an element has to spare is left, unless the element is the marker of an
attachment, which is counted. -/
theorem Journey.decode (h : s.Journey 0 1 t) {g g' : Staging} {form k : Kind} {v : Json}
    {r : Except Failure Decoded} (hr : g.decode form k v t = (r, g', u)) :
    s.Journey (lost r) (unpaid r) u := by
  have hpaid {d : Decoded} (hd : d ≠ .deferred) :
      s.Journey (lost (.ok d)) (unpaid (.ok d)) t := by
    cases d with
    | deferred => exact absurd rfl hd
    | _ => exact h
  have hparsed {α : Type} (record : α → Record) (x : Except RecordFault α) :
      Decoded.ofParsed v record x ≠ .deferred := by
    cases x <;> simp [Decoded.ofParsed]
  have hdeletion (idOf : String → String) (policy : DeletionPolicy) :
      Staging.decodeDeletion idOf policy v ≠ .deferred := by
    unfold Staging.decodeDeletion
    split
    · simp
    · cases policy <;> simp
  unfold Staging.decode at hr
  split at hr
  all_goals
    first
    | exact h.decodeDocument hr
    | exact h.decodeLegacyAttachment hr
    | (cases hr; exact hpaid (hparsed _ _))
    | (cases hr; exact hpaid (hdeletion _ _))

/-- What becomes of an element spends its token. -/
theorem Journey.settle {d : Decoded} (h : s.Journey 0 (unpaid (.ok d)) t) (k : Kind) :
    s.Journey 0 0 (d.settle k t) := by
  cases d with
  | record r =>
    unfold unpaid at h
    exact h.countRead k
  | deferred => exact h
  | skipped => exact h.countSkipped k (Nat.le_refl _)
  | ignored => exact h.fail 0
  | rejected f v =>
    unfold unpaid at h
    exact h.reject k f v

theorem Journey.finish (h : s.Journey failures spare t) (g : Staging) (form k : Kind) :
    s.Journey failures spare (g.finish form k t).2 := by
  unfold Staging.finish
  split_ifs
  · exact h.drop ..
  · exact h

theorem journey_pull {g g' : Staging} {form k : Kind} {r : Except Failure (Option Record)}
    (h : Reader.pull g form k s = (r, g', t)) : s.Journey (lost r) 0 t := by
  induction g, s using Reader.element_induction form k with
  | step g s ih =>
    rcases hn : s.nextElement with ⟨f | _ | v, s₁⟩
    · rw [Reader.pull_eq, hn] at h
      cases h
      exact journey_nextElement hn
    · rw [Reader.pull_eq, hn] at h
      obtain ⟨rfl, hlast⟩ := Prod.mk.inj h
      have hfinish := (journey_nextElement hn).finish g form k
      rw [hlast] at hfinish
      exact hfinish
    · rcases hd : g.decode form k v s₁ with ⟨f | d, g₂, s₂⟩
      · rw [Reader.pull_eq, hn] at h
        simp only [hd] at h
        cases h
        exact ((journey_nextElement hn).decode hd).weaken (Nat.le_refl _) (Nat.zero_le _)
      · rw [Reader.pull_of_decode hn hd] at h
        have hsettled := ((journey_nextElement hn).decode hd).settle k
        cases d with
        | record x => cases h; exact hsettled
        | _ => exact hsettled.before (ih v s₁ _ g₂ s₂ hn hd h)

/-- How many readings failed before a reader answered. -/
def lostPoll : Option (Except Failure Record) → Nat
  | some r => lost r
  | none => 0

theorem journey_poll {r r' : Reader} {x : Option (Except Failure Record)}
    (h : r.poll s = (x, r', t)) : s.Journey (lostPoll x) 0 t := by
  unfold Reader.poll Reader.next at h
  split_ifs at h with hdone
  · cases h
    exact .refl s
  cases hk : r.kind with
  | none =>
    simp only [hk] at h
    cases h
    exact .refl s
  | some k =>
    simp only [hk] at h
    split_ifs at h with hform
    · rcases hp : Reader.pull r.staging r.form k s with ⟨y, g, s₁⟩
      have hall := journey_pull hp
      rw [hp] at h
      rcases y with f | _ | record <;> (cases h; exact hall)
    · cases h
      exact (Journey.refl s).fail 1

/-! ### Labels -/

theorem journey_readLabel {r : Except Failure (Option String)} (h : s.readLabel = (r, t)) :
    s.Journey (lost r) 0 t := by
  unfold readLabel at h
  split at h
  · next hr => cases h; exact journey_readToken hr
  · next hr => cases h; exact (journey_readToken hr).fail 0
  · next hr => cases h; exact (journey_readToken hr).fail 0
  · next hr => cases h; exact (journey_readToken hr).fail 1

theorem journey_readBuild {r : Except Failure Unit} (h : s.readBuild = (r, t)) :
    s.Journey (lost r) 0 t := by
  unfold readBuild at h
  split at h
  · next hr => cases h; exact journey_readToken hr
  · next n s₁ hr =>
    cases h
    exact ((journey_readToken hr).congr (u := s₁.setBuild n) rfl rfl rfl rfl).fail 0
  · next hr => cases h; exact (journey_readToken hr).fail 1

theorem journey_dropValue {label : String} {depth : Nat} {r : Except Failure Unit}
    (h : s.dropValue label depth = (r, t)) : s.Journey (lost r) 0 t := by
  fun_induction dropValue s label depth with
  | case1 s depth f s₁ h₁ => cases h; exact journey_readToken h₁
  | case2 s depth u s₁ h₁ hd => cases h; exact (journey_readToken h₁).fail 1
  | case3 s depth u s₁ h₁ hd => cases h; exact (journey_readToken h₁).fail 0
  | case4 s depth u s₁ h₁ d hd ih => exact ((journey_readToken h₁).fail 0).before (ih h)

theorem journey_dropSection {label : String} {r : Except Failure Unit}
    (h : s.dropSection label = (r, t)) : s.Journey (lost r) 0 t := by
  unfold dropSection at h
  split at h
  · next hd => cases h; exact journey_dropValue hd
  · next hd => cases h; exact (journey_dropValue hd).note _

theorem journey_nextLabel {r : Except Failure (Option Kind)} (h : s.nextLabel = (r, t)) :
    s.Journey (lost r) 0 t := by
  fun_induction nextLabel s with
  | case1 => cases h; exact .refl _
  | case2 s _ f s₁ h₁ => cases h; exact journey_readLabel h₁
  | case3 s _ s₁ h₁ =>
    cases h
    exact ((journey_readLabel h₁).congr (u := { s₁ with exhausted := true }) rfl rfl rfl rfl).note _
  | case4 s _ label s₁ h₁ k _ =>
    cases h
    exact ((journey_readLabel h₁).congr
      (u := { s₁ with current := some k, array := .notStarted }) rfl rfl rfl rfl).note _
  | case5 s _ label s₁ h₁ _ => cases h; exact (journey_readLabel h₁).fail 1
  | case6 s _ label s₁ h₁ _ f s₂ h₂ =>
    cases h
    exact (journey_readLabel h₁).before (journey_readBuild h₂)
  | case7 s _ label s₁ h₁ _ s₂ h₂ ih =>
    exact ((journey_readLabel h₁).before (journey_readBuild h₂)).before (ih h)
  | case8 s _ label s₁ h₁ _ f s₂ h₂ =>
    cases h
    exact (journey_readLabel h₁).before (journey_dropSection h₂)
  | case9 s _ label s₁ h₁ _ s₂ h₂ ih =>
    exact ((journey_readLabel h₁).before (journey_dropSection h₂)).before (ih h)

theorem journey_nextKind {r : Except Failure (Option Kind)} (h : s.nextKind = (r, t)) :
    s.Journey (lost r) 0 t := by
  unfold nextKind at h
  split at h
  · next hf => cases h; exact journey_finishCurrent hf
  · next s₁ hf =>
    split at h
    · next k _ =>
      cases h
      exact ((journey_finishCurrent hf).congr
        (u := { s₁ with pending := none, current := some k, array := .notStarted })
        rfl rfl rfl rfl).note _
    · exact (journey_finishCurrent hf).before (journey_nextLabel h)

theorem journey_readFirstLabel {r : Except Failure Unit} (h : s.readFirstLabel = (r, t)) :
    s.Journey (lost r) 0 t := by
  unfold readFirstLabel at h
  split at h
  · next hl => cases h; exact journey_readLabel hl
  · next hl => cases h; exact (journey_readLabel hl).congr rfl rfl rfl rfl
  · next hl =>
    have hlabel := journey_readLabel hl
    split at h
    · exact hlabel.before (journey_readBuild h)
    · cases h; exact hlabel.congr rfl rfl rfl rfl
    · exact hlabel.before (journey_dropSection h)
    · cases h; exact hlabel.fail 1

theorem journey_begin {r : Except Failure Unit} (h : s.begin = (r, t)) :
    s.Journey (lost r) 0 t := by
  unfold begin at h
  split at h
  · cases h; exact (Journey.refl s).fail 1
  · split at h
    · next hr => cases h; exact journey_readToken hr
    · next hr =>
      have hbrace := (journey_readToken hr).fail 0
      split at h
      · next hf => cases h; exact hbrace.before (journey_readFirstLabel hf)
      · next s₂ hf =>
        cases h
        exact ((hbrace.before (journey_readFirstLabel hf)).congr
          (u := { s₂ with tally := { s₂.tally with generation := s₂.generation } })
          rfl rfl rfl rfl).note _
    · next hr => cases h; exact (journey_readToken hr).fail 1

end Session

/-! ### Imports -/

namespace Import

variable {σ : Type} {i j : Import σ} {h : Handler σ} {k : Kind} {r : Except Failure Unit}

theorem journey_tell {e : Event} (ht : i.tell h e = (r, j)) : j.session = i.session := by
  unfold tell at ht
  cases ht
  rfl

theorem journey_deliver {reader : Reader} (hd : i.deliver h k reader = (r, j)) :
    i.session.Journey (lost r) 0 j.session := by
  fun_induction deliver i h k reader with
  | case1 i r₀ r₁ s₁ h₁ => cases hd; exact Session.journey_poll h₁
  | case2 i r₀ f r₁ s₁ h₁ => cases hd; exact Session.journey_poll h₁
  | case3 i r₀ x r₁ s₁ h₁ f state h₂ => cases hd; exact (Session.journey_poll h₁).fail 1
  | case4 i r₀ x r₁ s₁ h₁ state h₂ ih => exact (Session.journey_poll h₁).before (ih hd)

theorem journey_takeKind (ht : i.takeKind h k = (r, j)) :
    i.session.Journey (lost r) 0 j.session := by
  unfold takeKind at ht
  split at ht
  · exact journey_deliver ht
  · rcases hs : i.session.skipKind (some k) with ⟨r₁, n, s₁⟩
    rw [hs] at ht
    cases ht
    exact Session.journey_skipKind hs

theorem journey_takeKinds (ht : i.takeKinds h = (r, j)) :
    i.session.Journey (lost r) 0 j.session := by
  fun_induction takeKinds i h with
  | case1 i f s₁ h₁ => cases ht; exact Session.journey_nextKind h₁
  | case2 i s₁ h₁ => cases ht; exact Session.journey_nextKind h₁
  | case3 i k s₁ h₁ f i₁ h₂ =>
    cases ht
    exact (Session.journey_nextKind h₁).before (journey_takeKind h₂)
  | case4 i k s₁ h₁ i₁ h₂ ih =>
    exact ((Session.journey_nextKind h₁).before (journey_takeKind h₂)).before (ih ht)

theorem journey_drive (hd : i.drive h = (r, j)) : i.session.Journey (lost r) 0 j.session := by
  unfold drive at hd
  split at hd
  · next ht => cases hd; rw [journey_tell ht]; exact (Session.Journey.refl _).fail 1
  · next i₁ ht =>
    rw [← journey_tell ht]
    split at hd
    · next hk => cases hd; exact journey_takeKinds hk
    · next i₂ hk =>
      have hall := journey_takeKinds hk
      split at hd
      · next he => cases hd; rw [journey_tell he]; exact hall.fail 1
      · next i₃ he =>
        rw [← journey_tell he] at hall
        split at hd
        · cases hd; exact hall.fail 1
        · cases hd; exact hall.note _

theorem journey_run {supply : Supply} {options : Options} {tally : Tally} {sinks : Sinks}
    {state : σ} (hr : run supply options tally sinks h state = (r, j)) :
    (Session.start supply options tally).Journey (lost r) 0 j.session := by
  unfold run at hr
  split at hr
  · next hb => cases hr; exact Session.journey_begin hb
  · next hb => exact (Session.journey_begin hb).before (journey_drive hr)

end Import

end ExportStream

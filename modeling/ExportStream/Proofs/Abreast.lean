import ExportStream.Proofs.Copying
import ExportStream.Proofs.Workings
import ExportStream.Proofs.Values
/-!
# Sessions abreast of each other

Two streams that begin alike are read alike, as long as no reading goes past what they have in
common. Two sessions are abreast of each other (`Session.Abreast`) if the same bytes are before both
of them, up to what ends either stream, and if they differ in nothing but how they read.

An operation that succeeds on the first session and does not go into what ends its stream
(`Session.Holds`) succeeds on the second one with the same answer, and they stay abreast: there is
one lemma for each operation, in the order in which the operations use each other. What an
operation that fails leaves is not compared: failures tell positions.
-/

namespace ExportStream

variable {tail tail' : List UInt8}

/-! ### Cursors -/

namespace Cursor

/-- Two cursors before the same bytes, up to what ends either stream. -/
structure Abreast (tail tail' : List UInt8) (c d : Cursor) : Prop where
  /-- What ends the first stream ends a token only if what ends the second one does. -/
  ends : ∀ u : Token, u.EndsBefore tail → u.EndsBefore tail'
  /-- What is before them. -/
  stand : ∃ front, c.At (front ++ tail) ∧ d.At (front ++ tail')

variable {c c' d : Cursor} {bytes : List UInt8}

theorem At.note (h : c.At bytes) (n : Notice) : (c.note n).At bytes :=
  ⟨h.sound.note n, h.idle, h.remaining_eq⟩

theorem At.fuel_eq (h : c.At bytes) : c.fuel = 2 * bytes.length := by
  unfold fuel
  rw [h.remaining_eq, h.idle]
  rfl

/-- Before the same bytes two cursors are abreast whatever ends the streams. -/
theorem At.abreast (h : c.At bytes) (h' : d.At bytes) : c.Abreast [] [] d :=
  ⟨fun _ hu => hu, bytes, by rwa [List.append_nil], by rwa [List.append_nil]⟩

theorem Abreast.note_left (h : c.Abreast tail tail' d) (n : Notice) :
    (c.note n).Abreast tail tail' d := by
  obtain ⟨front, hc, hd⟩ := h.stand
  exact ⟨h.ends, front, hc.note n, hd⟩

theorem Abreast.note (h : c.Abreast tail tail' d) (m n : Notice) :
    (c.note m).Abreast tail tail' (d.note n) := by
  obtain ⟨front, hc, hd⟩ := h.stand
  exact ⟨h.ends, front, hc.note m, hd.note n⟩

theorem Abreast.readToken (h : c.Abreast tail tail' d) {u : Token} (hr : c.readToken = (.ok u, c'))
    (hk : 2 * tail.length ≤ c'.fuel) :
    ∃ d', d.readToken = (.ok u, d') ∧ c'.Abreast tail tail' d' := by
  obtain ⟨front, hc, hd⟩ := h.stand
  obtain ⟨rest, hscan, hc'⟩ := hc.of_readToken hr
  -- what is left behind the token holds all that ends the stream
  rw [hc'.fuel_eq] at hk
  have hsuffix : tail <:+ rest := by
    obtain ⟨used, hused⟩ := Scanner.suffix_of_scan hscan
    have hrest : rest <:+ front ++ tail := ⟨used, hused.symm⟩
    exact List.suffix_of_suffix_length_le (List.suffix_append front tail) hrest (by omega)
  obtain ⟨front', rfl⟩ := hsuffix
  have hscan' : Scanner.scan .idle (front ++ tail') = .token u (front' ++ tail') := by
    refine Assembly.scan_before hscan fun hnil => ?_
    obtain ⟨-, -, -, -, -, hends⟩ := Scanner.scan_idle_iff.mp hscan
    rw [hnil] at hends
    exact h.ends u hends
  obtain ⟨d', hread, hd'⟩ := hd.readToken hscan'
  exact ⟨d', hread, h.ends, front', hc', hd'⟩

end Cursor

/-- The same value is put together, by the same builder. -/
theorem Assembler.go_abreast {a a' : Assembler} {u : Token} {c c' d : Cursor} {v : Json}
    (h : c.Abreast tail tail' d) (hr : a.go u c = (.ok v, a', c'))
    (hk : 2 * tail.length ≤ c'.fuel) :
    ∃ d', a.go u d = (.ok v, a', d') ∧ c'.Abreast tail tail' d' := by
  fun_induction go a u c generalizing d with
  | case1 a u c w ha =>
    cases hr
    rw [go_eq, ha]
    exact ⟨d, rfl, h⟩
  | case2 => cases hr
  | case3 a u c frames ha x c₁ hread ih =>
    obtain ⟨d₁, hd₁, h₁⟩ := h.readToken hread (Nat.le_trans hk (fuel_go hr))
    obtain ⟨d', hd', h'⟩ := ih h₁ hr
    rw [go_eq, ha]
    simp only [hd₁]
    exact ⟨d', hd', h'⟩
  | case4 => cases hr

/-- The same payload is copied, if the sink takes every offer. -/
theorem Copying.copy_abreast {v v' w : Copying} {size : Nat} {hash : String}
    (h : v.cursor.Abreast tail tail' w.cursor) (hsink : w.sink = v.sink) (hs : v.sink.Willing)
    (hv : 0 < v.copier.bufferSize) (hw : 0 < w.copier.bufferSize)
    (hr : v.copy size = (.ok hash, v')) (hk : 2 * tail.length ≤ v'.cursor.fuel) :
    ∃ w', w.copy size = (.ok hash, w') ∧ v'.cursor.Abreast tail tail' w'.cursor ∧
      w'.sink = v'.sink ∧ 0 < v'.copier.bufferSize ∧ 0 < w'.copier.bufferSize := by
  obtain ⟨front, hat, hat'⟩ := h.stand
  by_cases hle : size ≤ v.cursor.remaining.length
  · obtain ⟨v₁, hcopy, hahead, hscanner, hsink₁, hsize₁⟩ := copy_enough hat.sound hs hv hle
    rw [hcopy] at hr
    cases hr
    -- the payload ends before what ends the stream
    have hleft : v'.cursor.At ((front ++ tail).drop size) :=
      ⟨hahead.sound, hscanner.trans hat.idle, by rw [hahead.remaining_eq, hat.remaining_eq]⟩
    have hfront : size ≤ front.length := by
      rw [hat.remaining_eq, List.length_append] at hle
      rw [hleft.fuel_eq, List.length_drop, List.length_append] at hk
      omega
    have hle' : size ≤ w.cursor.remaining.length := by
      rw [hat'.remaining_eq, List.length_append]
      omega
    obtain ⟨w₁, hcopy', hahead', hscanner', hsink₁', hsize₁'⟩ :=
      copy_enough hat'.sound (hsink ▸ hs) hw hle'
    have htake : w.cursor.remaining.take size = v.cursor.remaining.take size := by
      rw [hat.remaining_eq, hat'.remaining_eq, List.take_append_of_le_length hfront,
        List.take_append_of_le_length hfront]
    rw [htake] at hcopy' hsink₁'
    rw [List.drop_append_of_le_length hfront] at hleft
    refine ⟨w₁, hcopy', ⟨h.ends, front.drop size, hleft, hahead'.sound,
      hscanner'.trans hat'.idle, ?_⟩, ?_, hsize₁ ▸ hv, hsize₁' ▸ hw⟩
    · rw [hahead'.remaining_eq, hat'.remaining_eq, List.drop_append_of_le_length hfront]
    · rw [hsink₁', hsink₁, hsink]
  · have hlt : v.cursor.remaining.length < size := by omega
    obtain ⟨v₁, hcopy⟩ := copy_short hat.sound hs hv hlt
    rw [hcopy] at hr
    cases hr

namespace Session

/-! ### Sessions -/

/-- At least as many bytes are left as these. -/
def Holds (tail : List UInt8) (s : Session) : Prop := 2 * tail.length ≤ s.fuel

/-- The sessions differ in their streams and copiers only, and these are abreast of each other. -/
inductive Abreast (tail tail' : List UInt8) (s : Session) : Session → Prop where
  /-- The streams and the copiers. -/
  | intro {d : Cursor} {p : Copier} : s.cursor.Abreast tail tail' d →
      s.assembler.maxDepth = s.options.maxDepth → 0 < s.copier.bufferSize → 0 < p.bufferSize →
      Abreast tail tail' s { s with cursor := d, copier := p }

variable {s s' t : Session}

/-- What is left later was left before. -/
theorem Spent.holds {n : Nat} (h : s.Spent n s') (hk : s'.Holds tail) : s.Holds tail := by
  have hle := h.fuel_le
  unfold Holds at hk ⊢
  omega

theorem holds_nil (s : Session) : s.Holds [] := Nat.zero_le _

theorem holds_of_remaining {gap : List UInt8} (h : s.cursor.remaining = gap ++ tail) :
    s.Holds tail := by
  unfold Holds fuel Cursor.fuel
  rw [h, List.length_append]
  omega

/-- Leaving a kind reads nothing. -/
theorem holds_leave {k : Kind} {n : Nat} :
    (s.countDrained k n).leave.Holds tail ↔ s.Holds tail := by
  unfold countDrained
  split <;> exact Iff.rfl

/-- The size that a marker declares is a matter of the marker. -/
theorem payloadSize_of_ok {v : Json} {n : Nat} (h : s.payloadSize v = .ok n) (t : Session) :
    t.payloadSize v = .ok n := by
  unfold payloadSize at h ⊢
  split at h
  · exact h
  · cases h

/-- What is done about a label, or about the brace that stands where one is due. -/
def afterLabel (s : Session) : Option String → Except Failure (Option Kind) × Session
  | none => (.ok none, s.exhaust)
  | some label =>
    match Label.resolve label with
    | .kind k => (.ok (some k), s.enter k)
    | .unknown => (.error (s.unknownLabel label), s)
    | .buildVersion =>
      match s.readBuild with
      | (.error f, s) => (.error f, s)
      | (.ok (), s) => s.nextLabel
    | .retired =>
      match s.dropSection label with
      | (.error f, s) => (.error f, s)
      | (.ok (), s) => s.nextLabel

theorem nextLabel_of_readLabel (he : s.exhausted = false) {label : Option String}
    (h : s.readLabel = (.ok label, s')) : s.nextLabel = s'.afterLabel label := by
  rw [nextLabel_eq, he, h]
  cases label <;> rfl

/-- Labels are read from what is left, up to a kind or to the last brace. -/
theorem spent_nextLabel_ok {k : Option Kind} (h : s.nextLabel = (.ok k, s')) : s.Spent 0 s' := by
  fun_induction nextLabel s with
  | case1 => cases h; exact .refl _
  | case2 => cases h
  | case3 s _ s₁ hs => cases h; exact ((spent_readLabel hs).weaken (Nat.zero_le 1)).congr rfl rfl rfl
  | case4 s _ label s₁ hs l _ =>
    cases h
    exact ((spent_readLabel hs).weaken (Nat.zero_le 1)).congr rfl rfl rfl
  | case5 => cases h
  | case6 => cases h
  | case7 s _ label s₁ hs _ s₂ hb ih =>
    exact (((spent_readLabel hs).trans (spent_readBuild hb)).trans (ih h)).weaken (Nat.zero_le _)
  | case8 => cases h
  | case9 s _ label s₁ hs _ s₂ hd ih =>
    exact (((spent_readLabel hs).trans (spent_dropSection hd)).trans (ih h)).weaken (Nat.zero_le _)

theorem spent_afterLabel {label : Option String} {k : Option Kind}
    (h : s.afterLabel label = (.ok k, s')) : s.Spent 0 s' := by
  unfold afterLabel at h
  split at h
  · cases h
    exact (Spent.refl s).congr rfl rfl rfl
  · split at h
    · cases h
      exact (Spent.refl s).congr rfl rfl rfl
    · cases h
    · split at h
      · cases h
      · next hb => exact ((spent_readBuild hb).trans (spent_nextLabel_ok h)).weaken (Nat.zero_le _)
    · split at h
      · cases h
      · next hd =>
        exact ((spent_dropSection hd).trans (spent_nextLabel_ok h)).weaken (Nat.zero_le _)

/-- The first label is read from what is left. -/
theorem holds_readFirstLabel (hr : s.readFirstLabel = (.ok (), s')) (hk : s'.Holds tail) :
    s.Holds tail := by
  unfold readFirstLabel at hr
  split at hr
  · cases hr
  · next hs =>
    cases hr
    exact (spent_readLabel hs).holds hk
  · next hs =>
    refine (spent_readLabel hs).holds ?_
    split at hr
    · exact (spent_readBuild hr).holds hk
    · cases hr
      exact hk
    · exact (spent_dropSection hr).holds hk
    · cases hr

/-- The next kind is read from what is left. -/
theorem holds_nextKind {k : Option Kind} (hn : s.nextKind = (.ok k, s')) (hk : s'.Holds tail) :
    s.Holds tail := by
  unfold nextKind at hn
  split at hn
  · cases hn
  · next s₁ hf =>
    refine (spent_finishCurrent hf).holds ?_
    split at hn
    · cases hn
      exact hk
    · exact (spent_nextLabel_ok hn).holds hk

namespace Abreast

/-! ### Changes that read nothing -/

theorem note (h : s.Abreast tail tail' t) (m n : Notice) :
    (s.note m).Abreast tail tail' (t.note n) := by
  obtain ⟨hc, hdepth, hs, ht⟩ := h
  exact .intro (hc.note m n) hdepth hs ht

/-- Sessions stay abreast if the same is done to their tallies. -/
theorem retally (h : s.Abreast tail tail' t) (f : Tally → Tally) :
    ({ s with tally := f s.tally } : Session).Abreast tail tail' { t with tally := f t.tally } := by
  obtain ⟨hc, hdepth, hs, ht⟩ := h
  exact .intro hc hdepth hs ht

/-- Sessions stay abreast if the array of both is somewhere else. -/
theorem move (h : s.Abreast tail tail' t) (k : Option Kind) (a : ArrayState) :
    ({ s with current := k, array := a } : Session).Abreast tail tail'
      { t with current := k, array := a } := by
  obtain ⟨hc, hdepth, hs, ht⟩ := h
  exact .intro hc hdepth hs ht

theorem reopen (h : s.Abreast tail tail' t) (a : ArrayState) :
    ({ s with array := a } : Session).Abreast tail tail' { t with array := a } := by
  obtain ⟨hc, hdepth, hs, ht⟩ := h
  exact .intro hc hdepth hs ht

theorem setExhausted (h : s.Abreast tail tail' t) (b : Bool) :
    ({ s with exhausted := b } : Session).Abreast tail tail' { t with exhausted := b } := by
  obtain ⟨hc, hdepth, hs, ht⟩ := h
  exact .intro hc hdepth hs ht

theorem wait (h : s.Abreast tail tail' t) (k : Option Kind) :
    ({ s with pending := k } : Session).Abreast tail tail' { t with pending := k } := by
  obtain ⟨hc, hdepth, hs, ht⟩ := h
  exact .intro hc hdepth hs ht

theorem options_eq (h : s.Abreast tail tail' t) : t.options = s.options := by
  obtain ⟨⟩ := h
  rfl

theorem generation_eq (h : s.Abreast tail tail' t) : t.generation = s.generation := by
  obtain ⟨⟩ := h
  rfl

theorem current_eq (h : s.Abreast tail tail' t) : t.current = s.current := by
  obtain ⟨⟩ := h
  rfl

theorem array_eq (h : s.Abreast tail tail' t) : t.array = s.array := by
  obtain ⟨⟩ := h
  rfl

theorem pending_eq (h : s.Abreast tail tail' t) : t.pending = s.pending := by
  obtain ⟨⟩ := h
  rfl

theorem exhausted_eq (h : s.Abreast tail tail' t) : t.exhausted = s.exhausted := by
  obtain ⟨⟩ := h
  rfl

theorem reject (h : s.Abreast tail tail' t) (k : Kind) (f : RecordFault) (v : Json) :
    (s.reject k f v).Abreast tail tail' (t.reject k f v) := by
  obtain ⟨hc, hdepth, hs, ht⟩ := h
  exact .intro (hc.note _ _) hdepth hs ht

theorem warn (h : s.Abreast tail tail' t) (k : Kind) (message : String) :
    (s.warn k message).Abreast tail tail' (t.warn k message) :=
  (h.note _ _).retally fun y => y.warn message

theorem enter (h : s.Abreast tail tail' t) (k : Kind) :
    (s.enter k).Abreast tail tail' (t.enter k) :=
  (h.move _ _).note _ _

theorem leave (h : s.Abreast tail tail' t) : s.leave.Abreast tail tail' t.leave := h.move _ _

theorem exhaust (h : s.Abreast tail tail' t) : s.exhaust.Abreast tail tail' t.exhaust := by
  obtain ⟨hc, hdepth, hs, ht⟩ := h
  exact .intro (hc.note _ _) hdepth hs ht

theorem setBuild (h : s.Abreast tail tail' t) (n : Int) :
    (s.setBuild n).Abreast tail tail' (t.setBuild n) := by
  obtain ⟨hc, hdepth, hs, ht⟩ := h
  exact .intro hc hdepth hs ht

theorem opened (h : s.Abreast tail tail' t) : s.opened.Abreast tail tail' t.opened := by
  obtain ⟨hc, hdepth, hs, ht⟩ := h
  exact .intro (hc.note _ _) hdepth hs ht

theorem countDrained (h : s.Abreast tail tail' t) (k : Kind) (n : Nat) :
    (s.countDrained k n).Abreast tail tail' (t.countDrained k n) := by
  unfold Session.countDrained
  split
  · exact h
  · exact (h.retally fun y => y.modify k (.addSkipped n)).note _ _

/-! ### Tokens, values and payloads -/

theorem readToken (h : s.Abreast tail tail' t) {u : Token} (hr : s.readToken = (.ok u, s'))
    (hk : s'.Holds tail) : ∃ t', t.readToken = (.ok u, t') ∧ s'.Abreast tail tail' t' := by
  obtain ⟨hc, hdepth, hs, ht⟩ := h
  unfold Session.readToken at hr ⊢
  rcases hread : s.cursor.readToken with ⟨x, c⟩
  rw [hread] at hr
  cases hr
  obtain ⟨d, hd, hc'⟩ := hc.readToken hread hk
  simp only [hd]
  exact ⟨_, rfl, .intro hc' hdepth hs ht⟩

theorem readValue (h : s.Abreast tail tail' t) {u : Token} {v : Json}
    (hr : s.readValue u = (.ok v, s')) (hk : s'.Holds tail) :
    ∃ t', t.readValue u = (.ok v, t') ∧ s'.Abreast tail tail' t' := by
  obtain ⟨hc, hdepth, hs, ht⟩ := h
  unfold Session.readValue at hr ⊢
  rcases hread : s.assembler.build u s.cursor with ⟨x, a, c⟩
  rw [hread] at hr
  cases hr
  obtain ⟨d, hd, hc'⟩ := Assembler.go_abreast hc hread hk
  have hmax : a.maxDepth = s.assembler.maxDepth := by
    have hgo := Assembler.maxDepth_go s.assembler.reset u s.cursor
    rw [← Assembler.build, hread] at hgo
    exact hgo
  simp only [Assembler.build, hd]
  exact ⟨_, rfl, .intro hc' (hmax.trans hdepth) hs ht⟩

theorem copyPayload (h : s.Abreast tail tail' t) {size : Nat} {sink sink' : Sink} {hash : String}
    (hsink : sink.Willing) (hr : s.copyPayload size sink = (.ok hash, sink', s'))
    (hk : s'.Holds tail) :
    ∃ t', t.copyPayload size sink = (.ok hash, sink', t') ∧ s'.Abreast tail tail' t' := by
  obtain @⟨d, p, hc, hdepth, hs, ht⟩ := h
  unfold Session.copyPayload at hr ⊢
  rcases hcopy : ({ copier := s.copier, cursor := s.cursor, sink } : Copying).copy size with ⟨x, w⟩
  rw [hcopy] at hr
  cases hr
  obtain ⟨w', hcopy', hc', hsink', hs', ht'⟩ :=
    Copying.copy_abreast (v := { copier := s.copier, cursor := s.cursor, sink })
      (w := { copier := p, cursor := d, sink }) hc rfl hsink hs ht hcopy hk
  simp only [hcopy', hsink']
  exact ⟨_, rfl, .intro hc' hdepth hs' ht'⟩

/-! ### Elements -/

theorem openArray (h : s.Abreast tail tail' t) (hr : s.openArray = (.ok (), s'))
    (hk : s'.Holds tail) : ∃ t', t.openArray = (.ok (), t') ∧ s'.Abreast tail tail' t' := by
  unfold Session.openArray at hr ⊢
  split at hr
  · cases hr
  · next s₁ hs =>
    cases hr
    obtain ⟨t₁, ht, h₁⟩ := h.readToken hs hk
    rw [ht]
    exact ⟨_, rfl, h₁.reopen .isOpen⟩
  · cases hr

theorem readElement (h : s.Abreast tail tail' t) {v : Option Json}
    (hr : s.readElement = (.ok v, s')) (hk : s'.Holds tail) :
    ∃ t', t.readElement = (.ok v, t') ∧ s'.Abreast tail tail' t' := by
  unfold Session.readElement at hr ⊢
  split at hr
  · cases hr
  · next s₁ hs =>
    cases hr
    obtain ⟨t₁, ht, h₁⟩ := h.readToken hs hk
    rw [ht]
    exact ⟨_, rfl, h₁.reopen .closed⟩
  · next u s₁ hu hs =>
    split at hr
    · cases hr
    · next w s₂ hv =>
      cases hr
      obtain ⟨t₁, ht, h₁⟩ := h.readToken hs ((spent_readValue hv).holds hk)
      obtain ⟨t₂, ht₂, h₂⟩ := h₁.readValue hv hk
      rw [ht]
      simp only [ht₂]
      exact ⟨t₂, rfl, h₂⟩

theorem nextElement (h : s.Abreast tail tail' t) {v : Option Json}
    (hr : s.nextElement = (.ok v, s')) (hk : s'.Holds tail) :
    ∃ t', t.nextElement = (.ok v, t') ∧ s'.Abreast tail tail' t' := by
  unfold Session.nextElement at hr ⊢
  rw [h.array_eq]
  split at hr
  · cases hr
    exact ⟨t, rfl, h⟩
  · exact h.readElement hr hk
  · split at hr
    · cases hr
    · next s₁ hs =>
      obtain ⟨t₁, ht, h₁⟩ := h.openArray hs ((spent_readElement hr).holds hk)
      simp only [ht]
      exact h₁.readElement hr hk

theorem dropBytes (h : s.Abreast tail tail' t) {size : Nat} (hr : s.dropBytes size = (.ok (), s'))
    (hk : s'.Holds tail) : ∃ t', t.dropBytes size = (.ok (), t') ∧ s'.Abreast tail tail' t' := by
  unfold Session.dropBytes at hr ⊢
  split at hr
  · cases hr
  · next hs =>
    cases hr
    obtain ⟨t₁, ht, h₁⟩ := h.copyPayload Sink.willing_discard hs hk
    rw [ht]
    exact ⟨t₁, rfl, h₁⟩

theorem dropPayload (h : s.Abreast tail tail' t) {v : Json} (hr : s.dropPayload v = (.ok (), s'))
    (hk : s'.Holds tail) : ∃ t', t.dropPayload v = (.ok (), t') ∧ s'.Abreast tail tail' t' := by
  unfold Session.dropPayload at hr ⊢
  rw [h.current_eq]
  split_ifs at hr ⊢
  · split at hr
    · cases hr
    · next size hsize =>
      rw [payloadSize_of_ok hsize t]
      exact h.dropBytes hr hk
  · cases hr
    exact ⟨t, rfl, h⟩

/-- As many elements are taken off. -/
theorem dropElements (h : s.Abreast tail tail' t) {n m : Nat}
    (hr : s.dropElements n = (.ok (), m, s')) (hk : s'.Holds tail) :
    ∃ t', t.dropElements n = (.ok (), m, t') ∧ s'.Abreast tail tail' t' := by
  fun_induction Session.dropElements s n generalizing t with
  | case1 => cases hr
  | case2 s n s₁ hs =>
    cases hr
    obtain ⟨t₁, ht, h₁⟩ := h.nextElement hs hk
    rw [dropElements_eq t, ht]
    exact ⟨t₁, rfl, h₁⟩
  | case3 => cases hr
  | case4 s n v s₁ hs s₂ hp ih =>
    have hk₂ := (spent_dropElements hr).holds hk
    obtain ⟨t₁, ht, h₁⟩ := h.nextElement hs ((spent_dropPayload hp).holds hk₂)
    obtain ⟨t₂, ht₂, h₂⟩ := h₁.dropPayload hp hk₂
    rw [dropElements_eq t, ht]
    simp only [ht₂]
    exact ih h₂ hr

theorem skipKind (h : s.Abreast tail tail' t) {kind : Option Kind} {n : Nat}
    (hr : s.skipKind kind = (.ok (), n, s')) (hk : s'.Holds tail) :
    ∃ t', t.skipKind kind = (.ok (), n, t') ∧ s'.Abreast tail tail' t' := by
  unfold Session.skipKind at hr ⊢
  rw [h.current_eq]
  split at hr
  · cases hr
    exact ⟨t, rfl, h⟩
  · next k =>
    split_ifs at hr ⊢
    · split at hr
      · cases hr
      · next m s₁ hs =>
        cases hr
        obtain ⟨t₁, ht, h₁⟩ := h.dropElements hs hk
        simp only [ht]
        exact ⟨_, rfl, (h₁.retally fun y => y.modify k (.addSkipped n)).note _ _⟩
    · cases hr

theorem finishCurrent (h : s.Abreast tail tail' t) (hr : s.finishCurrent = (.ok (), s'))
    (hk : s'.Holds tail) : ∃ t', t.finishCurrent = (.ok (), t') ∧ s'.Abreast tail tail' t' := by
  unfold Session.finishCurrent at hr ⊢
  rw [h.current_eq, h.array_eq]
  split at hr
  · cases hr
    exact ⟨_, rfl, h.leave⟩
  · next k hkind =>
    split_ifs at hr ⊢
    · cases hr
      exact ⟨_, rfl, h.leave⟩
    · split at hr
      · cases hr
      · next n s₁ hs =>
        cases hr
        obtain ⟨t₁, ht, h₁⟩ := h.dropElements hs (holds_leave.mp hk)
        rw [ht]
        exact ⟨_, rfl, (h₁.countDrained k n).leave⟩

/-! ### Labels -/

theorem readLabel (h : s.Abreast tail tail' t) {label : Option String}
    (hr : s.readLabel = (.ok label, s')) (hk : s'.Holds tail) :
    ∃ t', t.readLabel = (.ok label, t') ∧ s'.Abreast tail tail' t' := by
  obtain ⟨t', ht, h'⟩ := h.readToken (readLabel_eq_ok_iff.mp hr) hk
  exact ⟨t', readLabel_eq_ok_iff.mpr ht, h'⟩

theorem readBuild (h : s.Abreast tail tail' t) (hr : s.readBuild = (.ok (), s'))
    (hk : s'.Holds tail) : ∃ t', t.readBuild = (.ok (), t') ∧ s'.Abreast tail tail' t' := by
  unfold Session.readBuild at hr ⊢
  split at hr
  · cases hr
  · next n s₁ hs =>
    cases hr
    obtain ⟨t₁, ht, h₁⟩ := h.readToken hs hk
    rw [ht]
    exact ⟨_, rfl, h₁.setBuild n⟩
  · cases hr

theorem dropValue (h : s.Abreast tail tail' t) {label : String} {depth : Nat}
    (hr : s.dropValue label depth = (.ok (), s')) (hk : s'.Holds tail) :
    ∃ t', t.dropValue label depth = (.ok (), t') ∧ s'.Abreast tail tail' t' := by
  fun_induction Session.dropValue s label depth generalizing t with
  | case1 => cases hr
  | case2 => cases hr
  | case3 s depth u s₁ hs hd =>
    cases hr
    obtain ⟨t₁, ht, h₁⟩ := h.readToken hs hk
    rw [dropValue_eq t, ht]
    simp only [hd]
    exact ⟨t₁, rfl, h₁⟩
  | case4 s depth u s₁ hs d hd ih =>
    obtain ⟨t₁, ht, h₁⟩ := h.readToken hs ((spent_dropValue hr).holds hk)
    rw [dropValue_eq t, ht]
    simp only [hd]
    exact ih h₁ hr

theorem dropSection (h : s.Abreast tail tail' t) {label : String}
    (hr : s.dropSection label = (.ok (), s')) (hk : s'.Holds tail) :
    ∃ t', t.dropSection label = (.ok (), t') ∧ s'.Abreast tail tail' t' := by
  unfold Session.dropSection at hr ⊢
  split at hr
  · cases hr
  · next s₁ hs =>
    cases hr
    obtain ⟨t₁, ht, h₁⟩ := h.dropValue hs hk
    rw [ht]
    exact ⟨_, rfl, h₁.note _ _⟩

/-- The same is done about a label, if it is so for the labels behind it. -/
theorem afterLabel (h : s.Abreast tail tail' t) {label : Option String} {k : Option Kind}
    (hnext : ∀ s₁ t₁ : Session, s₁.fuel ≤ s.fuel → s₁.Abreast tail tail' t₁ →
      s₁.nextLabel = (.ok k, s') → ∃ t', t₁.nextLabel = (.ok k, t') ∧ s'.Abreast tail tail' t')
    (hr : s.afterLabel label = (.ok k, s')) (hk : s'.Holds tail) :
    ∃ t', t.afterLabel label = (.ok k, t') ∧ s'.Abreast tail tail' t' := by
  unfold Session.afterLabel at hr ⊢
  split at hr
  · cases hr
    exact ⟨_, rfl, h.exhaust⟩
  · next label =>
    cases hl : Label.resolve label with
    | kind l =>
      simp only [hl] at hr ⊢
      cases hr
      exact ⟨_, rfl, h.enter l⟩
    | unknown =>
      simp only [hl] at hr
      cases hr
    | buildVersion =>
      simp only [hl] at hr ⊢
      split at hr
      · cases hr
      · next s₁ hs =>
        obtain ⟨t₁, ht, h₁⟩ := h.readBuild hs ((spent_nextLabel_ok hr).holds hk)
        simp only [ht]
        have hle := (spent_readBuild hs).fuel_le
        exact hnext s₁ t₁ (by omega) h₁ hr
    | retired =>
      simp only [hl] at hr ⊢
      split at hr
      · cases hr
      · next s₁ hs =>
        obtain ⟨t₁, ht, h₁⟩ := h.dropSection hs ((spent_nextLabel_ok hr).holds hk)
        simp only [ht]
        have hle := (spent_dropSection hs).fuel_le
        exact hnext s₁ t₁ (by omega) h₁ hr

/-- Labels lead to the same kind. The induction is on the labels, by the fuel that they use. -/
theorem nextLabel (h : s.Abreast tail tail' t) {k : Option Kind} (hr : s.nextLabel = (.ok k, s'))
    (hk : s'.Holds tail) : ∃ t', t.nextLabel = (.ok k, t') ∧ s'.Abreast tail tail' t' := by
  induction hfuel : s.fuel using Nat.strongRecOn generalizing s t with
  | ind n ih =>
    cases he : s.exhausted with
    | true =>
      rw [nextLabel_eq, he] at hr
      cases hr
      rw [nextLabel_eq, h.exhausted_eq, he]
      exact ⟨t, rfl, h⟩
    | false =>
      rcases hs : s.readLabel with ⟨f | label, s₁⟩
      · rw [nextLabel_eq, he, hs] at hr
        cases hr
      · rw [nextLabel_of_readLabel he hs] at hr
        obtain ⟨t₁, ht, h₁⟩ := h.readLabel hs ((spent_afterLabel hr).holds hk)
        rw [nextLabel_of_readLabel (h.exhausted_eq.trans he) ht]
        have hlt := (spent_readLabel hs).fuel_lt
        exact h₁.afterLabel (fun s₂ t₂ hle h₂ hr₂ => ih _ (by omega) h₂ hr₂ rfl) hr hk

/-- The next kind is the same. -/
theorem nextKind (h : s.Abreast tail tail' t) {k : Option Kind} (hr : s.nextKind = (.ok k, s'))
    (hk : s'.Holds tail) : ∃ t', t.nextKind = (.ok k, t') ∧ s'.Abreast tail tail' t' := by
  unfold Session.nextKind at hr ⊢
  split at hr
  · cases hr
  · next s₁ hs =>
    split at hr
    · next l hl =>
      cases hr
      obtain ⟨t₁, ht, h₁⟩ := h.finishCurrent hs hk
      simp only [ht, h₁.pending_eq, hl]
      exact ⟨_, rfl, (h₁.wait none).enter l⟩
    · next hl =>
      obtain ⟨t₁, ht, h₁⟩ := h.finishCurrent hs ((spent_nextLabel_ok hr).holds hk)
      simp only [ht, h₁.pending_eq, hl]
      exact h₁.nextLabel hr hk

/-! ### The beginning -/

theorem readFirstLabel (h : s.Abreast tail tail' t) (hr : s.readFirstLabel = (.ok (), s'))
    (hk : s'.Holds tail) :
    ∃ t', t.readFirstLabel = (.ok (), t') ∧ s'.Abreast tail tail' t' := by
  unfold Session.readFirstLabel at hr ⊢
  split at hr
  · cases hr
  · next s₁ hs =>
    cases hr
    obtain ⟨t₁, ht, h₁⟩ := h.readLabel hs hk
    rw [ht]
    exact ⟨_, rfl, h₁.setExhausted true⟩
  · next label s₁ hs =>
    cases hl : Label.resolve label with
    | buildVersion =>
      simp only [hl] at hr
      obtain ⟨t₁, ht, h₁⟩ := h.readLabel hs ((spent_readBuild hr).holds hk)
      simp only [ht, hl]
      exact h₁.readBuild hr hk
    | kind l =>
      simp only [hl] at hr
      cases hr
      obtain ⟨t₁, ht, h₁⟩ := h.readLabel hs hk
      simp only [ht, hl]
      exact ⟨_, rfl, h₁.wait (some l)⟩
    | retired =>
      simp only [hl] at hr
      obtain ⟨t₁, ht, h₁⟩ := h.readLabel hs ((spent_dropSection hr).holds hk)
      simp only [ht, hl]
      exact h₁.dropSection hr hk
    | unknown =>
      simp only [hl] at hr
      cases hr

theorem begin (h : s.Abreast tail tail' t) (hr : s.begin = (.ok (), s')) (hk : s'.Holds tail) :
    ∃ t', t.begin = (.ok (), t') ∧ s'.Abreast tail tail' t' := by
  unfold Session.begin at hr ⊢
  rw [h.options_eq]
  split at hr
  · cases hr
  · split at hr
    · cases hr
    · next s₁ hs =>
      split at hr
      · cases hr
      · next s₂ hs₂ =>
        cases hr
        obtain ⟨t₁, ht, h₁⟩ := h.readToken hs (holds_readFirstLabel hs₂ hk)
        obtain ⟨t₂, ht₂, h₂⟩ := h₁.readFirstLabel hs₂ hk
        simp only [ht, ht₂]
        exact ⟨_, rfl, h₂.opened⟩
    · cases hr

end Abreast

end Session

end ExportStream

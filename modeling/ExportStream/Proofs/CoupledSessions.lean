import ExportStream.Proofs.Coupling
/-!
# Sessions that go together

Every operation of a session is put together from reading tokens and copying payloads, so it takes
sessions that go together (`Coupling.Sessions`) to such sessions and answers the same for both, or
it fails alike for both, or the second session is cut off (`Coupling.Meets`).

There is one lemma for each operation, in the order in which the operations use each other. The
loops are inductions on the first session that read the round of the second one beside it.
-/

namespace ExportStream.Coupling.Sessions

variable {c : Coupling} {s t : Session}

/-! ### What is kept besides -/

theorem position_eq (h : c.Sessions s t) (hc : c.Lawful) : s.position = t.position :=
  hc.position_eq h.cursor

theorem malformed (h : c.Sessions s t) (hc : c.Lawful) (cause : Malformation) :
    c.alike (s.malformed cause) (t.malformed cause) := hc.malformed h.cursor cause

theorem note (h : c.Sessions s t) (hc : c.Lawful) (m n : Notice) :
    c.Sessions (s.note m) (t.note n) :=
  { h with cursor := hc.note h.cursor m n }

/-- Sessions stay together if the same is done to their tallies. -/
theorem retally (h : c.Sessions s t) (hc : c.Lawful) {f : Tally → Tally} (hf : Tally.Countwise f) :
    c.Sessions { s with tally := f s.tally } { t with tally := f t.tally } :=
  { h with tally := hc.tallies h.tally hf }

theorem countRead (h : c.Sessions s t) (hc : c.Lawful) (k : Kind) :
    c.Sessions (s.countRead k) (t.countRead k) :=
  h.retally hc (Tally.countwise_modify k _)

theorem countSkipped (h : c.Sessions s t) (hc : c.Lawful) (k : Kind) (n : Nat) :
    c.Sessions (s.countSkipped k n) (t.countSkipped k n) :=
  h.retally hc (Tally.countwise_modify k _)

theorem countAttachment (h : c.Sessions s t) (hc : c.Lawful) :
    c.Sessions s.countAttachment t.countAttachment :=
  h.retally hc (f := fun y => { y with attachments := y.attachments + 1 })
    (Tally.countwise_of_get_eq fun _ k => by cases k <;> rfl)

theorem warn (h : c.Sessions s t) (hc : c.Lawful) (k : Kind) (message : String) :
    c.Sessions (s.warn k message) (t.warn k message) :=
  (h.note hc _ _).retally hc (Tally.countwise_warn message)

theorem reject (h : c.Sessions s t) (hc : c.Lawful) (k : Kind) (f : RecordFault) (v : Json) :
    c.Sessions (s.reject k f v) (t.reject k f v) := by
  unfold Session.reject
  simp only [Session.note]
  rw [h.options.maxWarningSnapshot_eq]
  exact (h.note hc _ _).retally hc
    ((Tally.countwise_warn _).comp (Tally.countwise_modify k .addErrored))

theorem settle (h : c.Sessions s t) (hc : c.Lawful) (k : Kind) (d : Decoded) :
    c.Sessions (d.settle k s) (d.settle k t) := by
  cases d with
  | record r => exact h.countRead hc k
  | deferred => exact h
  | skipped => exact h.countSkipped hc k 1
  | ignored => exact h
  | rejected f v => exact h.reject hc k f v

theorem keepDocumentEtag (h : c.Sessions s t) (hc : c.Lawful) (etag : Option String) :
    c.Sessions (s.keepDocumentEtag etag) (t.keepDocumentEtag etag) := by
  cases etag with
  | none => exact h
  | some e =>
    exact h.retally hc (f := fun y => { y with lastDocumentEtag := some e })
      (Tally.countwise_of_get_eq fun _ k => by cases k <;> rfl)

theorem keepAttachmentEtag (h : c.Sessions s t) (hc : c.Lawful) (etag : Option String) :
    c.Sessions (s.keepAttachmentEtag etag) (t.keepAttachmentEtag etag) := by
  cases etag with
  | none => exact h
  | some e =>
    exact h.retally hc (f := fun y => { y with lastAttachmentEtag := some e })
      (Tally.countwise_of_get_eq fun _ k => by cases k <;> rfl)

theorem setBuild (h : c.Sessions s t) (hc : c.Lawful) (n : Int) :
    c.Sessions (s.setBuild n) (t.setBuild n) :=
  { h.retally hc (f := fun y => { y with build := some n, generation := .ofBuild n })
      (Tally.countwise_of_get_eq fun _ k => by cases k <;> rfl) with
    build_eq := rfl, generation_eq := rfl }

theorem enter (h : c.Sessions s t) (hc : c.Lawful) (k : Kind) :
    c.Sessions (s.enter k) (t.enter k) :=
  note (s := { s with current := some k, array := .notStarted })
    (t := { t with current := some k, array := .notStarted })
    { h with current_eq := rfl, array_eq := rfl } hc _ _

theorem exhaust (h : c.Sessions s t) (hc : c.Lawful) : c.Sessions s.exhaust t.exhaust :=
  note (s := { s with exhausted := true }) (t := { t with exhausted := true })
    { h with exhausted_eq := rfl } hc _ _

theorem leave (h : c.Sessions s t) : c.Sessions s.leave t.leave :=
  { h with current_eq := rfl, array_eq := rfl }

theorem countDrained (h : c.Sessions s t) (hc : c.Lawful) (k : Kind) (n : Nat) :
    c.Sessions (s.countDrained k n) (t.countDrained k n) := by
  unfold Session.countDrained
  split_ifs
  · exact h
  · exact (h.countSkipped hc k n).note hc _ _

theorem opened (h : c.Sessions s t) (hc : c.Lawful) : c.Sessions s.opened t.opened := by
  have htally : c.tallies { s.tally with generation := s.generation }
      { t.tally with generation := t.generation } := by
    rw [h.generation_eq]
    exact hc.tallies h.tally (f := fun y => { y with generation := t.generation })
      (Tally.countwise_of_get_eq fun _ k => by cases k <;> rfl)
  have hstated : c.Sessions { s with tally := { s.tally with generation := s.generation } }
      { t with tally := { t.tally with generation := t.generation } } := { h with tally := htally }
  exact hstated.note hc _ _

/-! ### Tokens, values and payloads -/

theorem readToken (h : c.Sessions s t) (hc : c.Lawful) :
    c.Meets c.Sessions c.Failed s.readToken t.readToken := by
  unfold Session.readToken
  obtain ⟨u, a, b, ha, hb, h'⟩ | ⟨f, g, a, b, ha, hb, hf, -⟩ | ⟨g, b, hb, hg⟩ :=
    hc.readToken h.cursor
  · rw [ha, hb]
    exact .ok { h with cursor := h' }
  · rw [ha, hb]
    exact .fail hf h.tally
  · rw [hb]
    exact .cutOff hg

theorem readValue (h : c.Sessions s t) (hc : c.Lawful) (u : Token) :
    c.Meets c.Sessions c.Failed (s.readValue u) (t.readValue u) := by
  unfold Session.readValue Assembler.build
  rw [h.assembler_eq]
  obtain ⟨v, p, q, hp, hq, ha, h'⟩ | ⟨f, g, p, q, hp, hq, hf, -⟩ | ⟨g, q, hq, hg⟩ :=
    hc.go (a := t.assembler.reset) (t := u) h.cursor
  · rw [hp, hq]
    exact .ok { h with cursor := h', assembler_eq := ha }
  · rw [hp, hq]
    exact .fail hf h.tally
  · rw [hq]
    exact .cutOff hg

/-- The same payload is copied, to sinks that go together. -/
theorem copyPayload (h : c.Sessions s t) (hc : c.Lawful) (size : Nat) {a b : Sink}
    (hs : c.sinks a b) :
    c.Meets (fun p q : Sink × Session => c.sinks p.1 q.1 ∧ c.Sessions p.2 q.2)
      (fun p q => c.Failed p.2 q.2) (s.copyPayload size a) (t.copyPayload size b) := by
  unfold Session.copyPayload
  have hcopying : c.Copyings { copier := s.copier, cursor := s.cursor, sink := a }
      { copier := t.copier, cursor := t.cursor, sink := b } := ⟨h.cursor, h.copier, hs⟩
  obtain ⟨hash, v, w, hv, hw, h'⟩ | ⟨f, g, v, w, hv, hw, hf, -⟩ | ⟨g, w, hw, hg⟩ :=
    hc.copy hcopying size
  · rw [hv, hw]
    exact .ok ⟨h'.sink, { h with cursor := h'.cursor, copier := h'.copier }⟩
  · rw [hv, hw]
    exact .fail hf h.tally
  · rw [hw]
    exact .cutOff hg

/-! ### Elements -/

theorem openArray (h : c.Sessions s t) (hc : c.Lawful) :
    c.Meets c.Sessions c.Failed s.openArray t.openArray := by
  unfold Session.openArray
  obtain ⟨u, s₁, t₁, hs, ht, h₁⟩ | ⟨f, g, s₁, t₁, hs, ht, hf, he⟩ | ⟨g, t₁, ht, hg⟩ :=
    h.readToken hc
  · rw [hs, ht]
    cases u
    case startArray => exact .ok { h₁ with array_eq := rfl }
    all_goals
      simp only [h₁.current_eq]
      exact .fail (h₁.malformed hc _) h₁.tally
  · rw [hs, ht]
    exact .fail hf he
  · rw [ht]
    exact .cutOff hg

/-- The value that a token begins, as an element. -/
theorem readMember (h : c.Sessions s t) (hc : c.Lawful) (u : Token) :
    c.Meets c.Sessions c.Failed
      (match s.readValue u with
        | (.error f, s) => (.error f, s)
        | (.ok v, s) => ((.ok (some v), s) : Except Failure (Option Json) × Session))
      (match t.readValue u with
        | (.error f, t) => (.error f, t)
        | (.ok v, t) => (.ok (some v), t)) := by
  obtain ⟨v, s₁, t₁, hs, ht, h₁⟩ | ⟨f, g, s₁, t₁, hs, ht, hf, he⟩ | ⟨g, t₁, ht, hg⟩ :=
    h.readValue hc u
  · rw [hs, ht]
    exact .ok h₁
  · rw [hs, ht]
    exact .fail hf he
  · rw [ht]
    exact .cutOff hg

theorem readElement (h : c.Sessions s t) (hc : c.Lawful) :
    c.Meets c.Sessions c.Failed s.readElement t.readElement := by
  unfold Session.readElement
  obtain ⟨u, s₁, t₁, hs, ht, h₁⟩ | ⟨f, g, s₁, t₁, hs, ht, hf, he⟩ | ⟨g, t₁, ht, hg⟩ :=
    h.readToken hc
  · rw [hs, ht]
    cases u
    case endArray => exact .ok { h₁ with array_eq := rfl }
    all_goals exact h₁.readMember hc _
  · rw [hs, ht]
    exact .fail hf he
  · rw [ht]
    exact .cutOff hg

theorem nextElement (h : c.Sessions s t) (hc : c.Lawful) :
    c.Meets c.Sessions c.Failed s.nextElement t.nextElement := by
  unfold Session.nextElement
  rw [h.array_eq]
  cases t.array with
  | closed => exact .ok h
  | isOpen => exact h.readElement hc
  | notStarted =>
    obtain ⟨u, s₁, t₁, hs, ht, h₁⟩ | ⟨f, g, s₁, t₁, hs, ht, hf, he⟩ | ⟨g, t₁, ht, hg⟩ :=
      h.openArray hc
    · simp only [hs, ht]
      exact h₁.readElement hc
    · simp only [hs, ht]
      exact .fail hf he
    · simp only [ht]
      exact .cutOff hg

theorem dropBytes (h : c.Sessions s t) (hc : c.Lawful) (size : Nat) :
    c.Meets c.Sessions c.Failed (s.dropBytes size) (t.dropBytes size) := by
  unfold Session.dropBytes
  obtain ⟨hash, ⟨a, s₁⟩, ⟨b, t₁⟩, hs, ht, -, h₁⟩ | ⟨f, g, ⟨a, s₁⟩, ⟨b, t₁⟩, hs, ht, hf, he⟩ |
    ⟨g, ⟨b, t₁⟩, ht, hg⟩ := h.copyPayload hc size hc.sinks_discard
  · rw [hs, ht]
    exact .ok h₁
  · rw [hs, ht]
    exact .fail hf he
  · rw [ht]
    exact .cutOff hg

/-- The same size is found in a marker, or none. -/
theorem payloadSize (h : c.Sessions s t) (hc : c.Lawful) (marker : Json) :
    (∃ n, s.payloadSize marker = .ok n ∧ t.payloadSize marker = .ok n) ∨
      ∃ f g, s.payloadSize marker = .error f ∧ t.payloadSize marker = .error g ∧ c.alike f g := by
  unfold Session.payloadSize
  cases marker.markerSize? with
  | some n => exact .inl ⟨n, rfl, rfl⟩
  | none => exact .inr ⟨_, _, rfl, rfl, h.malformed hc _⟩

theorem dropPayload (h : c.Sessions s t) (hc : c.Lawful) (v : Json) :
    c.Meets c.Sessions c.Failed (s.dropPayload v) (t.dropPayload v) := by
  unfold Session.dropPayload
  rw [h.current_eq]
  split_ifs
  · obtain ⟨n, hs, ht⟩ | ⟨f, g, hs, ht, hf⟩ := h.payloadSize hc v
    · rw [hs, ht]
      exact h.dropBytes hc n
    · rw [hs, ht]
      exact .fail hf h.tally
  · exact .ok h

/-- The same number of elements is taken off. -/
theorem dropElements (h : c.Sessions s t) (hc : c.Lawful) (n : Nat) :
    c.Meets (fun p q : Nat × Session => p.1 = q.1 ∧ c.Sessions p.2 q.2)
      (fun p q => p.1 = q.1 ∧ c.Failed p.2 q.2) (s.dropElements n) (t.dropElements n) := by
  fun_induction Session.dropElements s n generalizing t with
  | case1 s n f s₁ hs =>
    rw [Session.dropElements_eq t]
    obtain ⟨g, t₁, ht, hf, he⟩ | ⟨g, t₁, ht, hg⟩ := (h.nextElement hc).of_error hs
    · rw [ht]
      exact .fail hf ⟨rfl, he⟩
    · rw [ht]
      exact .cutOff hg
  | case2 s n s₁ hs =>
    rw [Session.dropElements_eq t]
    obtain ⟨t₁, ht, h₁⟩ | ⟨g, t₁, ht, hg⟩ := (h.nextElement hc).of_ok hs
    · rw [ht]
      exact .ok ⟨rfl, h₁⟩
    · rw [ht]
      exact .cutOff hg
  | case3 s n v s₁ hs f s₂ hd =>
    rw [Session.dropElements_eq t]
    obtain ⟨t₁, ht, h₁⟩ | ⟨g, t₁, ht, hg⟩ := (h.nextElement hc).of_ok hs
    · rw [ht]
      obtain ⟨g, t₂, hdt, hf, he⟩ | ⟨g, t₂, hdt, hg⟩ := (h₁.dropPayload hc v).of_error hd
      · simp only [hdt]
        exact .fail hf ⟨rfl, he⟩
      · simp only [hdt]
        exact .cutOff hg
    · rw [ht]
      exact .cutOff hg
  | case4 s n v s₁ hs s₂ hd ih =>
    rw [Session.dropElements_eq t]
    obtain ⟨t₁, ht, h₁⟩ | ⟨g, t₁, ht, hg⟩ := (h.nextElement hc).of_ok hs
    · rw [ht]
      obtain ⟨t₂, hdt, h₂⟩ | ⟨g, t₂, hdt, hg⟩ := (h₁.dropPayload hc v).of_ok hd
      · simp only [hdt]
        exact ih h₂
      · simp only [hdt]
        exact .cutOff hg
    · rw [ht]
      exact .cutOff hg

theorem skipKind (h : c.Sessions s t) (hc : c.Lawful) (kind : Option Kind) :
    c.Meets (fun p q : Nat × Session => p.1 = q.1 ∧ c.Sessions p.2 q.2)
      (fun p q => p.1 = q.1 ∧ c.Failed p.2 q.2) (s.skipKind kind) (t.skipKind kind) := by
  unfold Session.skipKind
  cases kind with
  | none => exact .ok ⟨rfl, h⟩
  | some k =>
    simp only [h.current_eq]
    split_ifs
    · obtain ⟨u, ⟨m, s₁⟩, ⟨n, t₁⟩, hs, ht, hn, h₁⟩ | ⟨f, g, ⟨m, s₁⟩, ⟨n, t₁⟩, hs, ht, hf, hn, he⟩ |
        ⟨g, ⟨n, t₁⟩, ht, hg⟩ := h.dropElements hc 0
      · cases hn
        rw [hs, ht]
        exact .ok ⟨rfl, (h₁.countSkipped hc k m).note hc _ _⟩
      · cases hn
        rw [hs, ht]
        exact .fail hf ⟨rfl, he⟩
      · rw [ht]
        exact .cutOff hg
    · exact .fail (hc.alike_refl _) ⟨rfl, h.tally⟩

theorem finishCurrent (h : c.Sessions s t) (hc : c.Lawful) :
    c.Meets c.Sessions c.Failed s.finishCurrent t.finishCurrent := by
  unfold Session.finishCurrent
  rw [h.current_eq, h.array_eq]
  cases t.current with
  | none => exact .ok h.leave
  | some k =>
    simp only
    split_ifs
    · exact .ok h.leave
    · obtain ⟨u, ⟨m, s₁⟩, ⟨n, t₁⟩, hs, ht, hn, h₁⟩ | ⟨f, g, ⟨m, s₁⟩, ⟨n, t₁⟩, hs, ht, hf, -, he⟩ |
        ⟨g, ⟨n, t₁⟩, ht, hg⟩ := h.dropElements hc 0
      · cases hn
        rw [hs, ht]
        exact .ok (h₁.countDrained hc k m).leave
      · rw [hs, ht]
        exact .fail hf he
      · rw [ht]
        exact .cutOff hg

/-! ### The envelope -/

theorem readLabel (h : c.Sessions s t) (hc : c.Lawful) :
    c.Meets c.Sessions c.Failed s.readLabel t.readLabel := by
  unfold Session.readLabel
  obtain ⟨u, s₁, t₁, hs, ht, h₁⟩ | ⟨f, g, s₁, t₁, hs, ht, hf, he⟩ | ⟨g, t₁, ht, hg⟩ :=
    h.readToken hc
  · rw [hs, ht]
    cases u
    case string label => exact .ok h₁
    case endObject => exact .ok h₁
    all_goals exact .fail (h₁.malformed hc _) h₁.tally
  · rw [hs, ht]
    exact .fail hf he
  · rw [ht]
    exact .cutOff hg

theorem readBuild (h : c.Sessions s t) (hc : c.Lawful) :
    c.Meets c.Sessions c.Failed s.readBuild t.readBuild := by
  unfold Session.readBuild
  obtain ⟨u, s₁, t₁, hs, ht, h₁⟩ | ⟨f, g, s₁, t₁, hs, ht, hf, he⟩ | ⟨g, t₁, ht, hg⟩ :=
    h.readToken hc
  · rw [hs, ht]
    cases u
    case integer n => exact .ok (h₁.setBuild hc n)
    all_goals exact .fail (h₁.malformed hc _) h₁.tally
  · rw [hs, ht]
    exact .fail hf he
  · rw [ht]
    exact .cutOff hg

theorem dropValue (h : c.Sessions s t) (hc : c.Lawful) (label : String) (depth : Nat) :
    c.Meets c.Sessions c.Failed (s.dropValue label depth) (t.dropValue label depth) := by
  fun_induction Session.dropValue s label depth generalizing t with
  | case1 s depth f s₁ hs =>
    rw [Session.dropValue_eq t]
    obtain ⟨g, t₁, ht, hf, he⟩ | ⟨g, t₁, ht, hg⟩ := (h.readToken hc).of_error hs
    · rw [ht]
      exact .fail hf he
    · rw [ht]
      exact .cutOff hg
  | case2 s depth u s₁ hs hdepth =>
    rw [Session.dropValue_eq t]
    obtain ⟨t₁, ht, h₁⟩ | ⟨g, t₁, ht, hg⟩ := (h.readToken hc).of_ok hs
    · rw [ht]
      simp only [hdepth]
      exact .fail (h₁.malformed hc _) h₁.tally
    · rw [ht]
      exact .cutOff hg
  | case3 s depth u s₁ hs hdepth =>
    rw [Session.dropValue_eq t]
    obtain ⟨t₁, ht, h₁⟩ | ⟨g, t₁, ht, hg⟩ := (h.readToken hc).of_ok hs
    · rw [ht]
      simp only [hdepth]
      exact .ok h₁
    · rw [ht]
      exact .cutOff hg
  | case4 s depth u s₁ hs d hdepth ih =>
    rw [Session.dropValue_eq t]
    obtain ⟨t₁, ht, h₁⟩ | ⟨g, t₁, ht, hg⟩ := (h.readToken hc).of_ok hs
    · rw [ht]
      simp only [hdepth]
      exact ih h₁
    · rw [ht]
      exact .cutOff hg

theorem dropSection (h : c.Sessions s t) (hc : c.Lawful) (label : String) :
    c.Meets c.Sessions c.Failed (s.dropSection label) (t.dropSection label) := by
  unfold Session.dropSection
  obtain ⟨u, s₁, t₁, hs, ht, h₁⟩ | ⟨f, g, s₁, t₁, hs, ht, hf, he⟩ | ⟨g, t₁, ht, hg⟩ :=
    h.dropValue hc label 0
  · rw [hs, ht]
    exact .ok (h₁.note hc _ _)
  · rw [hs, ht]
    exact .fail hf he
  · rw [ht]
    exact .cutOff hg

theorem unknownLabel (h : c.Sessions s t) (hc : c.Lawful) (label : String) :
    s.unknownLabel label = t.unknownLabel label := by
  unfold Session.unknownLabel
  rw [h.position_eq hc]

theorem nextLabel (h : c.Sessions s t) (hc : c.Lawful) :
    c.Meets c.Sessions c.Failed s.nextLabel t.nextLabel := by
  -- the round of `t` behind the label that `s` reads
  have hround {s s₁ : Session} {t : Session} {label : Option String} (h : c.Sessions s t)
      (he : ¬s.exhausted = true) (hs : s.readLabel = (.ok label, s₁))
      {x : Except Failure (Option Kind) × Session}
      (hnext : ∀ t₁, t.readLabel = (.ok label, t₁) → c.Sessions s₁ t₁ →
        c.Meets c.Sessions c.Failed x t.nextLabel) :
      c.Meets c.Sessions c.Failed x t.nextLabel := by
    obtain ⟨t₁, ht, h₁⟩ | ⟨g, t₁, ht, hg⟩ := (h.readLabel hc).of_ok hs
    · exact hnext t₁ ht h₁
    · rw [Session.nextLabel_eq t, if_neg (h.exhausted_eq ▸ he), ht]
      exact .cutOff hg
  fun_induction Session.nextLabel s generalizing t with
  | case1 s he =>
    rw [Session.nextLabel_eq t, if_pos (h.exhausted_eq ▸ he)]
    exact .ok h
  | case2 s he f s₁ hs =>
    rw [Session.nextLabel_eq t, if_neg (h.exhausted_eq ▸ he)]
    obtain ⟨g, t₁, ht, hf, hy⟩ | ⟨g, t₁, ht, hg⟩ := (h.readLabel hc).of_error hs
    · rw [ht]
      exact .fail hf hy
    · rw [ht]
      exact .cutOff hg
  | case3 s he s₁ hs =>
    refine hround h he hs fun t₁ ht h₁ => ?_
    rw [Session.nextLabel_eq t, if_neg (h.exhausted_eq ▸ he), ht]
    exact .ok (h₁.exhaust hc)
  | case4 s he label s₁ hs k hl =>
    refine hround h he hs fun t₁ ht h₁ => ?_
    rw [Session.nextLabel_eq t, if_neg (h.exhausted_eq ▸ he), ht]
    simp only [hl]
    exact .ok (h₁.enter hc k)
  | case5 s he label s₁ hs hl =>
    refine hround h he hs fun t₁ ht h₁ => ?_
    rw [Session.nextLabel_eq t, if_neg (h.exhausted_eq ▸ he), ht]
    simp only [hl, h₁.unknownLabel hc]
    exact .fail (hc.alike_refl _) h₁.tally
  | case6 s he label s₁ hs hl f s₂ hb =>
    refine hround h he hs fun t₁ ht h₁ => ?_
    rw [Session.nextLabel_eq t, if_neg (h.exhausted_eq ▸ he), ht]
    obtain ⟨g, t₂, hbt, hf, hy⟩ | ⟨g, t₂, hbt, hg⟩ := (h₁.readBuild hc).of_error hb
    · simp only [hl, hbt]
      exact .fail hf hy
    · simp only [hl, hbt]
      exact .cutOff hg
  | case7 s he label s₁ hs hl s₂ hb ih =>
    refine hround h he hs fun t₁ ht h₁ => ?_
    rw [Session.nextLabel_eq t, if_neg (h.exhausted_eq ▸ he), ht]
    obtain ⟨t₂, hbt, h₂⟩ | ⟨g, t₂, hbt, hg⟩ := (h₁.readBuild hc).of_ok hb
    · simp only [hl, hbt]
      exact ih h₂
    · simp only [hl, hbt]
      exact .cutOff hg
  | case8 s he label s₁ hs hl f s₂ hd =>
    refine hround h he hs fun t₁ ht h₁ => ?_
    rw [Session.nextLabel_eq t, if_neg (h.exhausted_eq ▸ he), ht]
    obtain ⟨g, t₂, hdt, hf, hy⟩ | ⟨g, t₂, hdt, hg⟩ := (h₁.dropSection hc label).of_error hd
    · simp only [hl, hdt]
      exact .fail hf hy
    · simp only [hl, hdt]
      exact .cutOff hg
  | case9 s he label s₁ hs hl s₂ hd ih =>
    refine hround h he hs fun t₁ ht h₁ => ?_
    rw [Session.nextLabel_eq t, if_neg (h.exhausted_eq ▸ he), ht]
    obtain ⟨t₂, hdt, h₂⟩ | ⟨g, t₂, hdt, hg⟩ := (h₁.dropSection hc label).of_ok hd
    · simp only [hl, hdt]
      exact ih h₂
    · simp only [hl, hdt]
      exact .cutOff hg

/-- What the next kind is found to be behind the one that is left. -/
theorem afterKind (h : c.Sessions s t) (hc : c.Lawful) :
    c.Meets c.Sessions c.Failed
      (match s.pending with
        | some k => (.ok (some k), ({ s with pending := none } : Session).enter k)
        | none => s.nextLabel)
      (match t.pending with
        | some k => (.ok (some k), ({ t with pending := none } : Session).enter k)
        | none => t.nextLabel) := by
  rw [h.pending_eq]
  cases t.pending with
  | none => exact h.nextLabel hc
  | some k =>
    have hnone : c.Sessions { s with pending := none } { t with pending := none } :=
      { h with pending_eq := rfl }
    exact .ok (hnone.enter hc k)

theorem nextKind (h : c.Sessions s t) (hc : c.Lawful) :
    c.Meets c.Sessions c.Failed s.nextKind t.nextKind := by
  unfold Session.nextKind
  obtain ⟨u, s₁, t₁, hs, ht, h₁⟩ | ⟨f, g, s₁, t₁, hs, ht, hf, he⟩ | ⟨g, t₁, ht, hg⟩ :=
    h.finishCurrent hc
  · rw [hs, ht]
    exact h₁.afterKind hc
  · rw [hs, ht]
    exact .fail hf he
  · rw [ht]
    exact .cutOff hg

theorem readFirstLabel (h : c.Sessions s t) (hc : c.Lawful) :
    c.Meets c.Sessions c.Failed s.readFirstLabel t.readFirstLabel := by
  unfold Session.readFirstLabel
  obtain ⟨label, s₁, t₁, hs, ht, h₁⟩ | ⟨f, g, s₁, t₁, hs, ht, hf, he⟩ | ⟨g, t₁, ht, hg⟩ :=
    h.readLabel hc
  · rw [hs, ht]
    cases label with
    | none => exact .ok { h₁ with exhausted_eq := rfl }
    | some label =>
      simp only
      cases Label.resolve label with
      | buildVersion => exact h₁.readBuild hc
      | kind k => exact .ok { h₁ with pending_eq := rfl }
      | retired => exact h₁.dropSection hc label
      | unknown =>
        simp only [h₁.unknownLabel hc]
        exact .fail (hc.alike_refl _) h₁.tally
  · rw [hs, ht]
    exact .fail hf he
  · rw [ht]
    exact .cutOff hg

/-- Sessions whose options are valid together begin alike. -/
theorem begin (h : c.Sessions s t) (hc : c.Lawful)
    (hv : s.options.validate = t.options.validate) :
    c.Meets c.Sessions c.Failed s.begin t.begin := by
  unfold Session.begin
  rw [hv]
  cases t.options.validate with
  | error f => exact .fail (hc.alike_refl _) h.tally
  | ok _ =>
    simp only
    obtain ⟨u, s₁, t₁, hs, ht, h₁⟩ | ⟨f, g, s₁, t₁, hs, ht, hf, he⟩ | ⟨g, t₁, ht, hg⟩ :=
      h.readToken hc
    · rw [hs, ht]
      cases u
      case startObject =>
        simp only
        obtain ⟨u, s₂, t₂, hs₂, ht₂, h₂⟩ | ⟨f, g, s₂, t₂, hs₂, ht₂, hf, he⟩ | ⟨g, t₂, ht₂, hg⟩ :=
          h₁.readFirstLabel hc
        · rw [hs₂, ht₂]
          exact .ok (h₂.opened hc)
        · rw [hs₂, ht₂]
          exact .fail hf he
        · rw [ht₂]
          exact .cutOff hg
      all_goals exact .fail (h₁.malformed hc _) h₁.tally
    · rw [hs, ht]
      exact .fail hf he
    · rw [ht]
      exact .cutOff hg

end ExportStream.Coupling.Sessions

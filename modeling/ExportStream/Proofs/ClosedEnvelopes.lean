import ExportStream.Proofs.Brackets
import ExportStream.Proofs.LastBrace
/-!
# The brace that closes the envelope

An export is one object, and whatever is in it stands inside of one pair of braces. While nothing
fails the session stands inside of them, too: one bracket is open between the arrays, and two are in
an array whose elements are read (`Session.brackets`). Each operation that succeeds keeps to that,
whatever tokens it reads and whatever payloads it moves between them (`Session.Nests`). There is one
lemma for each of them, in the order in which the operations use each other.

So the brace at which an export ends is not any brace: of all tokens from the first brace of the
export on it is the first one behind which no bracket is open (`Session.EnvelopeRead`). Whoever
opens an export and goes to the next kind until there is none has read it
(**`Session.Enveloped.nextKind`**). Brackets are counted without a look at what kind they are, since
no more is asked of a section of older exports.
-/

namespace ExportStream

/-! ### Tokens with payloads between them -/

/-- From `c` to `d` these tokens are read, one after the other, payloads are copied between them,
and something is noted. -/
inductive Cursor.Passes : Cursor → List Token → Cursor → Prop where
  /-- Nothing is read. -/
  | done (c : Cursor) : Passes c [] c
  /-- A token is read. -/
  | token {c d e : Cursor} {t : Token} {ts : List Token} : c.readToken = (.ok t, d) →
      Passes d ts e → Passes c (t :: ts) e
  /-- A payload is copied. -/
  | payload {w w' : Copying} {size : Nat} {hash : String} {e : Cursor} {ts : List Token} :
      w.copy size = (.ok hash, w') → Passes w'.cursor ts e → Passes w.cursor ts e
  /-- Something is noted. -/
  | noted {c e : Cursor} {ts : List Token} (n : Notice) : Passes (c.note n) ts e → Passes c ts e

namespace Cursor

variable {c d e : Cursor} {ts us : List Token}

theorem Passes.trans (h : c.Passes ts d) (h' : d.Passes us e) : c.Passes (ts ++ us) e := by
  induction h with
  | done => exact h'
  | token hread _ ih => exact .token hread (ih h')
  | payload hcopy _ ih => exact .payload hcopy (ih h')
  | noted n _ ih => exact .noted n (ih h')

theorem Gives.passes (h : c.Gives ts d) : c.Passes ts d := by
  induction h with
  | nil c => exact .done c
  | cons hread _ ih => exact .token hread ih

end Cursor

namespace Session

variable {s t u : Session}

/-! ### Where a session stands -/

/-- The number of brackets that are open where the session stands: that of the envelope, and that of
an array whose elements are read. -/
def brackets (s : Session) : Nat := if s.array = .isOpen then 2 else 1

theorem brackets_of_isOpen (h : s.array = .isOpen) : s.brackets = 2 := if_pos h

theorem brackets_of_notStarted (h : s.array = .notStarted) : s.brackets = 1 := by
  rw [brackets, h]
  rfl

theorem brackets_of_closed (h : s.array = .closed) : s.brackets = 1 := by
  rw [brackets, h]
  rfl

theorem exists_brackets (s : Session) : ∃ n, s.brackets = n + 1 := by
  unfold brackets
  split_ifs
  · exact ⟨1, rfl⟩
  · exact ⟨0, rfl⟩

/-- From `s` to `t` some tokens are read, inside of the envelope all the while, and the brackets
that are open are those where the sessions stand. -/
def Nests (s t : Session) : Prop :=
  ∃ ts, s.cursor.Passes ts t.cursor ∧ Inside s.brackets ts t.brackets

namespace Nests

theorem refl (s : Session) : s.Nests s := ⟨[], .done _, .nil _⟩

theorem trans (h : s.Nests t) (h' : t.Nests u) : s.Nests u := by
  obtain ⟨ts, hpasses, hinside⟩ := h
  obtain ⟨us, hpasses', hinside'⟩ := h'
  exact ⟨ts ++ us, hpasses.trans hpasses', hinside.append hinside'⟩

/-- What leaves the stream and the brackets alone. -/
theorem congr (h : s.Nests t) (hc : u.cursor = t.cursor) (hb : u.brackets = t.brackets) :
    s.Nests u := by
  obtain ⟨ts, hpasses, hinside⟩ := h
  exact ⟨ts, hc ▸ hpasses, hb ▸ hinside⟩

/-- Something is noted. -/
theorem note (h : s.Nests t) (n : Notice) : s.Nests (t.note n) :=
  h.trans ⟨[], .noted n (.done _), .nil _⟩

theorem warn (h : s.Nests t) (k : Kind) (message : String) : s.Nests (t.warn k message) :=
  (h.note (.warned k message)).congr rfl rfl

theorem reject (h : s.Nests t) (k : Kind) (f : RecordFault) (v : Json) : s.Nests (t.reject k f v) :=
  (h.note (.rejected k t.position f.message)).congr rfl rfl

/-- A kind is left whose array is closed. -/
theorem leave (h : s.Nests t) (ht : t.array = .closed) : s.Nests t.leave :=
  h.congr rfl (by rw [brackets_of_closed ht, brackets_of_closed rfl])

/-- A kind is entered behind an array that is closed. -/
theorem enter (h : s.Nests t) (ht : t.array = .closed) (k : Kind) : s.Nests (t.enter k) :=
  (h.congr (u := { t with current := some k, array := .notStarted }) rfl
    (by rw [brackets_of_closed ht]; rfl)).note _

end Nests

/-! ### Readings -/

/-- A token that leaves as many brackets open as there are behind it. -/
theorem nests_token {v : Token} (h : s.readToken = (.ok v, t)) (hc : u.cursor = t.cursor)
    (hv : depthAfter s.brackets v = some u.brackets) : s.Nests u := by
  obtain ⟨n, hn⟩ := exists_brackets u
  refine ⟨[v], .token (hc ▸ readToken_cursor h) (.done _), ?_⟩
  rw [hn] at hv ⊢
  exact .cons hv (.nil _)

/-- A token that is no bracket. -/
theorem nests_plain {v : Token} (h : s.readToken = (.ok v, t))
    (hv : ∀ n, depthAfter n v = some n) : s.Nests t := by
  refine nests_token h rfl ?_
  rw [hv, readToken_moves h]
  rfl

/-- Tokens that close all brackets that they open. -/
theorem nests_evened {c : Cursor} {ts : List Token} (h : s.cursor.Passes ts c)
    (hts : Evened 0 ts) (hc : t.cursor = c) (ha : t.array = s.array) : s.Nests t := by
  obtain ⟨n, hn⟩ := exists_brackets s
  have hbrackets : t.brackets = s.brackets := by rw [brackets, brackets, ha]
  refine ⟨ts, hc ▸ h, ?_⟩
  rw [hbrackets, hn]
  have hinside := hts.inside n
  rwa [Nat.zero_add] at hinside

/-- A value, with its first token. -/
theorem nests_readValue {v : Token} (hr : s.readToken = (.ok v, t)) {x : Json}
    (h : t.readValue v = (.ok x, u)) : s.Nests u := by
  unfold readValue at h
  rcases hbuild : t.assembler.build v t.cursor with ⟨r, a, c⟩
  rw [hbuild] at h
  cases h
  obtain ⟨ts, hts, hgives, -⟩ := (Assembler.build_eq_ok_iff ..).mp hbuild
  refine nests_evened (.token (readToken_cursor hr) hgives.passes) (.of_derives hts) rfl ?_
  rw [readToken_moves hr]

theorem nests_copyPayload {size : Nat} {sink sink' : Sink} {hash : String}
    (h : s.copyPayload size sink = (.ok hash, sink', t)) : s.Nests t := by
  unfold copyPayload at h
  rcases hc : ({ copier := s.copier, cursor := s.cursor, sink } : Copying).copy size with ⟨r, w⟩
  rw [hc] at h
  cases h
  exact ⟨[], .payload hc (.done _), .nil _⟩

/-! ### Elements -/

theorem nests_openArray (hs : s.array = .notStarted) (h : s.openArray = (.ok (), t)) :
    s.Nests t ∧ t.array = .isOpen := by
  unfold openArray at h
  split at h
  · cases h
  · next s₁ hr =>
    cases h
    refine ⟨nests_token hr rfl ?_, rfl⟩
    rw [brackets_of_notStarted hs, brackets_of_isOpen rfl]
    rfl
  · cases h

theorem nests_readElement (hs : s.array = .isOpen) {x : Option Json}
    (h : s.readElement = (.ok x, t)) : s.Nests t := by
  unfold readElement at h
  split at h
  · cases h
  · next s₁ hr =>
    cases h
    refine nests_token hr rfl ?_
    rw [brackets_of_isOpen hs, brackets_of_closed rfl]
    rfl
  · next u s₁ hno hr =>
    split at h
    · cases h
    · next hv =>
      cases h
      exact nests_readValue hr hv

theorem nests_nextElement {x : Option Json} (h : s.nextElement = (.ok x, t)) : s.Nests t := by
  unfold nextElement at h
  split at h
  · cases h; exact .refl s
  · next hs => exact nests_readElement hs h
  · next hs =>
    split at h
    · cases h
    · next ho =>
      obtain ⟨hopened, hisOpen⟩ := nests_openArray hs ho
      exact hopened.trans (nests_readElement hisOpen h)

theorem nests_dropBytes {size : Nat} (h : s.dropBytes size = (.ok (), t)) : s.Nests t := by
  unfold dropBytes at h
  split at h
  · cases h
  · next hc => cases h; exact nests_copyPayload hc

theorem nests_dropPayload {v : Json} (h : s.dropPayload v = (.ok (), t)) : s.Nests t := by
  unfold dropPayload at h
  split at h
  · split at h
    · cases h
    · exact nests_dropBytes h
  · cases h; exact .refl s

theorem nests_dropElements {n m : Nat} (h : s.dropElements n = (.ok (), m, t)) :
    s.Nests t ∧ t.array = .closed := by
  fun_induction dropElements s n with
  | case1 => cases h
  | case2 s n s₁ h₁ => cases h; exact ⟨nests_nextElement h₁, closed_of_nextElement h₁⟩
  | case3 => cases h
  | case4 s n v s₁ h₁ s₂ h₂ ih =>
    obtain ⟨hrest, hclosed⟩ := ih h
    exact ⟨((nests_nextElement h₁).trans (nests_dropPayload h₂)).trans hrest, hclosed⟩

theorem nests_skipKind {kind : Option Kind} {n : Nat} (h : s.skipKind kind = (.ok (), n, t)) :
    s.Nests t := by
  unfold skipKind at h
  cases kind with
  | none => cases h; exact .refl s
  | some k =>
    simp only at h
    split_ifs at h
    · split at h
      · cases h
      · next n s₁ hd =>
        cases h
        exact ((nests_dropElements hd).1.congr (u := s₁.countSkipped k n) rfl rfl).note _
    · cases h

theorem Nests.countDrained (h : s.Nests t) (k : Kind) (n : Nat) : s.Nests (t.countDrained k n) := by
  unfold Session.countDrained
  split_ifs
  · exact h
  · exact (h.congr (u := t.countSkipped k n) rfl rfl).note _

/-- At no kind no array is open. -/
theorem nests_finishCurrent (hs : s.current = none → s.array = .closed)
    (h : s.finishCurrent = (.ok (), t)) : s.Nests t := by
  unfold finishCurrent at h
  cases hk : s.current with
  | none =>
    rw [hk] at h
    cases h
    exact (Nests.refl s).leave (hs hk)
  | some k =>
    rw [hk] at h
    simp only at h
    split_ifs at h with hclosed
    · cases h
      exact (Nests.refl s).leave hclosed
    · split at h
      · cases h
      · next n s₁ hd =>
        cases h
        obtain ⟨hdropped, hclosed⟩ := nests_dropElements hd
        have harray : (s₁.countDrained k n).array = .closed := by
          unfold countDrained
          split_ifs <;> exact hclosed
        exact (hdropped.countDrained k n).leave harray

/-! ### Records -/

theorem Nests.verify (h : s.Nests t) (k : Kind) (a : Attachment) :
    s.Nests (Staging.verify k a t) := by
  unfold Staging.verify
  split_ifs
  · exact h.warn ..
  · exact h

theorem nests_stageNamed {g g' : Staging} {k : Kind} {marker : Json} {size : Nat}
    {hash tag : String} {d : Decoded} (h : g.stageNamed k marker size hash tag s = (.ok d, g', t)) :
    s.Nests t := by
  unfold Staging.stageNamed at h
  split at h
  · cases h
  · split at h
    · cases h
    · next hc =>
      cases h
      exact ((nests_copyPayload hc).verify ..).congr rfl rfl

theorem nests_stage {g g' : Staging} {k : Kind} {marker : Json} {d : Decoded}
    (h : g.stage k marker s = (.ok d, g', t)) : s.Nests t := by
  unfold Staging.stage at h
  split at h
  · cases h
  · split at h
    · exact nests_stageNamed h
    · split at h
      · cases h
      · next hd => cases h; exact nests_dropBytes hd

theorem Nests.drop (h : s.Nests t) (g : Staging) (k : Kind) (reason : String) :
    s.Nests (g.drop k reason t).2 := by
  unfold Staging.drop
  split_ifs
  · exact h
  · exact h.warn ..

theorem nests_decodeDocument {g g' : Staging} {k : Kind} {v : Json} {d : Decoded}
    (h : g.decodeDocument k v s = (.ok d, g', t)) : s.Nests t := by
  unfold Staging.decodeDocument at h
  split at h
  · exact nests_stage h
  · split at h
    · next p _ =>
      cases h
      cases p.etag <;> exact (Nests.refl s).congr rfl rfl
    · cases h; exact (Nests.refl s).drop ..

theorem nests_decodeLegacyAttachment {g g' : Staging} {v : Json} {d : Decoded}
    (h : g.decodeLegacyAttachment v s = (.ok d, g', t)) : s.Nests t := by
  have hkeep (e : Option String) :
      s.Nests (if s.options.readLegacyEtag then s.keepAttachmentEtag e else s) := by
    cases e <;> split_ifs <;> exact (Nests.refl s).congr rfl rfl
  unfold Staging.decodeLegacyAttachment at h
  split at h
  · cases h; exact .refl s
  · simp only at h
    split at h
    · cases h; exact hkeep _
    · split at h
      · cases h
      · split at h
        · cases h
        · cases h; exact hkeep _

theorem nests_decode {g g' : Staging} {form k : Kind} {v : Json} {d : Decoded}
    (h : g.decode form k v s = (.ok d, g', t)) : s.Nests t := by
  unfold Staging.decode at h
  split at h
  all_goals
    first
    | exact nests_decodeDocument h
    | exact nests_decodeLegacyAttachment h
    | (cases h; exact .refl s)

theorem Nests.settle (h : s.Nests t) (d : Decoded) (k : Kind) : s.Nests (d.settle k t) := by
  cases d with
  | record r => exact h.congr rfl rfl
  | deferred => exact h
  | skipped => exact h.congr rfl rfl
  | ignored => exact h
  | rejected f v => exact h.reject k f v

theorem Nests.finish (h : s.Nests t) (g : Staging) (form k : Kind) :
    s.Nests (g.finish form k t).2 := by
  unfold Staging.finish
  split_ifs
  · exact h.drop ..
  · exact h

theorem nests_pull {g g' : Staging} {form k : Kind} {x : Option Record}
    (h : Reader.pull g form k s = (.ok x, g', t)) : s.Nests t := by
  induction g, s using Reader.element_induction form k with
  | step g s ih =>
    rcases hn : s.nextElement with ⟨f | _ | v, s₁⟩
    · rw [Reader.pull_eq, hn] at h
      cases h
    · rw [Reader.pull_eq, hn] at h
      obtain ⟨-, hlast⟩ := Prod.mk.inj h
      have hfinish := (nests_nextElement hn).finish g form k
      rw [hlast] at hfinish
      exact hfinish
    · rcases hd : g.decode form k v s₁ with ⟨f | d, g₂, s₂⟩
      · rw [Reader.pull_eq, hn] at h
        simp only [hd] at h
        cases h
      · have hsettled := ((nests_nextElement hn).trans (nests_decode hd)).settle d k
        rw [Reader.pull_of_decode hn hd] at h
        -- a record ends the call; behind all else the next element is read
        cases d with
        | record x => cases h; exact hsettled
        | _ => exact hsettled.trans (ih v s₁ _ g₂ s₂ hn hd h)

/-- A reader that is polled, unless it hands out a failure. -/
theorem nests_poll {r r' : Reader} {x : Option (Except Failure Record)} (h : r.poll s = (x, r', t))
    (hx : ∀ f, x ≠ some (.error f)) : s.Nests t := by
  unfold Reader.poll Reader.next at h
  split_ifs at h with hdone
  · cases h
    exact .refl s
  cases hk : r.kind with
  | none =>
    simp only [hk] at h
    cases h
    exact .refl s
  | some k =>
    simp only [hk] at h
    split_ifs at h with hform
    · rcases hp : Reader.pull r.staging r.form k s with ⟨y, g, s₁⟩
      rw [hp] at h
      rcases y with f | _ | record
      · cases h
        exact absurd rfl (hx _)
      all_goals
        cases h
        exact nests_pull hp
    · cases h
      exact absurd rfl (hx _)

/-! ### Labels -/

theorem nests_readLabel {label : String} (h : s.readLabel = (.ok (some label), t)) : s.Nests t :=
  nests_plain (readLabel_eq_ok_iff.mp h) fun _ => rfl

theorem nests_readBuild (h : s.readBuild = (.ok (), t)) : s.Nests t := by
  unfold readBuild at h
  split at h
  · cases h
  · next n s₁ hr =>
    cases h
    exact (nests_plain hr fun _ => rfl).congr rfl rfl
  · cases h

theorem nests_dropSection {label : String} (h : s.dropSection label = (.ok (), t)) : s.Nests t := by
  obtain ⟨r, c, hend, hdrop⟩ := exists_valueEnd s label 0
  unfold dropSection at h
  rw [hdrop] at h
  cases hend with
  | even hgives hts =>
    cases h
    exact (nests_evened (t := { s with cursor := c }) hgives.passes hts rfl rfl).note _
  | unbalanced => cases h
  | cut => cases h

/-! ### The envelope -/

/-- The envelope of an export is read: its first brace opens it, and of all tokens since the last
one is the first that closes the last bracket. -/
inductive EnvelopeRead (data : List UInt8) (s : Session) : Prop where
  /-- The session behind the first brace, and the tokens that were read since. -/
  | intro {supply : Supply} {options : Options} {tally : Tally} {b : Session} {ts : List Token} :
      supply.rest = data → (start supply options tally).readToken = (.ok .startObject, b) →
      b.cursor.Passes ts s.cursor → Evened 1 ts → EnvelopeRead data s

/-- The session stands inside of the envelope. -/
structure InEnvelope (data : List UInt8) (s : Session) : Prop where
  /-- The first brace is read, and what was read since is inside of it. -/
  nested : ∃ (supply : Supply) (options : Options) (tally : Tally) (b : Session),
    supply.rest = data ∧ (start supply options tally).readToken = (.ok .startObject, b) ∧
      b.Nests s
  /-- The last brace is not. -/
  exhausted_eq : s.exhausted = false
  /-- At no kind there is no array. -/
  closed : s.current = none → s.array = .closed

/-- The session stands inside of the envelope, or behind it. -/
def Enveloped (data : List UInt8) (s : Session) : Prop :=
  s.InEnvelope data ∨ s.exhausted = true ∧ s.EnvelopeRead data

variable {data : List UInt8}

theorem Enveloped.envelopeRead (h : s.Enveloped data) (he : s.exhausted = true) :
    s.EnvelopeRead data := by
  obtain hs | ⟨-, hread⟩ := h
  · exact absurd (he.symm.trans hs.exhausted_eq) (by decide)
  · exact hread

theorem EnvelopeRead.congr (h : s.EnvelopeRead data) (hc : t.cursor = s.cursor) :
    t.EnvelopeRead data := by
  obtain ⟨hdata, hbrace, hpasses, hts⟩ := h
  exact .intro hdata hbrace (hc ▸ hpasses) hts

theorem EnvelopeRead.note (h : s.EnvelopeRead data) (n : Notice) :
    (s.note n).EnvelopeRead data := by
  obtain ⟨hdata, hbrace, hpasses, hts⟩ := h
  have hall := hpasses.trans (.noted n (.done _))
  rw [List.append_nil] at hall
  exact .intro hdata hbrace hall hts

namespace InEnvelope

/-- What nests in the envelope stands inside of it. -/
theorem nests (hs : s.InEnvelope data) (h : s.Nests t) (he : t.exhausted = s.exhausted)
    (hc : t.current = none → t.array = .closed) : t.InEnvelope data := by
  obtain ⟨supply, options, tally, b, hdata, hbrace, hnests⟩ := hs.nested
  exact ⟨⟨supply, options, tally, b, hdata, hbrace, hnests.trans h⟩, he.trans hs.exhausted_eq, hc⟩

/-- Between the arrays a brace closes the envelope. -/
theorem envelopeRead (hs : s.InEnvelope data) (hclosed : s.array = .closed)
    (h : s.readLabel = (.ok none, t)) : t.EnvelopeRead data := by
  obtain ⟨supply, options, tally, b, hdata, hbrace, ts, hpasses, hinside⟩ := hs.nested
  have hread : s.readToken = (.ok .endObject, t) := readLabel_eq_ok_iff.mp h
  have hb : b.brackets = 1 := by
    rw [readToken_moves hbrace]
    rfl
  rw [hb, brackets_of_closed hclosed] at hinside
  have hall := hpasses.trans (.token (readToken_cursor hread) (.done _))
  -- one bracket is open, so this brace is the first to close the last one
  exact .intro hdata hbrace hall (hinside.evened rfl)

/-- A label and what belongs to it nest in the envelope. -/
theorem labelRead (hs : s.InEnvelope data) (hclosed : s.array = .closed) (h : s.Nests t)
    (hkind : s.SameKind t) : t.InEnvelope data ∧ t.array = .closed :=
  have harray : t.array = .closed := hkind.array_eq.trans hclosed
  ⟨hs.nests h hkind.exhausted_eq fun _ => harray, harray⟩

/-- Between the arrays the labels lead into the next kind, or out of the envelope. -/
theorem nextLabel (hs : s.InEnvelope data) (hclosed : s.array = .closed) {x : Option Kind}
    (h : s.nextLabel = (.ok x, t)) : t.Enveloped data := by
  -- a build and a retired section nest and lead to the next label, with the array closed as before
  fun_induction Session.nextLabel s with
  | case1 s he => exact absurd (he.symm.trans hs.exhausted_eq) (by decide)
  | case2 => cases h
  | case3 s _ s₁ h₁ =>
    cases h
    exact .inr ⟨rfl, ((hs.envelopeRead hclosed h₁).congr
      (t := { s₁ with exhausted := true }) rfl).note _⟩
  | case4 s _ label s₁ h₁ k _ =>
    cases h
    obtain ⟨hs₁, hclosed₁⟩ := hs.labelRead hclosed (nests_readLabel h₁)
      (.of_moves (readLabel_moves h₁))
    exact .inl (hs₁.nests ((Nests.refl s₁).enter hclosed₁ k) rfl (by simp [enter, note]))
  | case5 => cases h
  | case6 => cases h
  | case7 s _ label s₁ h₁ _ s₂ h₂ ih =>
    obtain ⟨hs₂, hclosed₂⟩ := hs.labelRead hclosed ((nests_readLabel h₁).trans (nests_readBuild h₂))
      ((SameKind.of_moves (readLabel_moves h₁)).trans (sameKind_readBuild h₂))
    exact ih hs₂ hclosed₂ h
  | case8 => cases h
  | case9 s _ label s₁ h₁ _ s₂ h₂ ih =>
    obtain ⟨hs₂, hclosed₂⟩ := hs.labelRead hclosed
      ((nests_readLabel h₁).trans (nests_dropSection h₂))
      ((SameKind.of_moves (readLabel_moves h₁)).trans (.of_moves (dropSection_moves h₂)))
    exact ih hs₂ hclosed₂ h

end InEnvelope

namespace Enveloped

/-- **Inside of the envelope the session stays, or the brace that closes it is the last token.** -/
theorem nextKind (hs : s.Enveloped data) (ho : s.Opened data) {x : Option Kind}
    (h : s.nextKind = (.ok x, t)) : t.Enveloped data := by
  obtain hs | ⟨he, hread⟩ := hs
  · unfold Session.nextKind at h
    rcases hf : s.finishCurrent with ⟨f | _, s₁⟩
    · rw [hf] at h
      cases h
    obtain ⟨he, -, hleft⟩ := kept_finishCurrent hf
    have hclosed : s₁.array = .closed := (hleft rfl).2
    have hs₁ : s₁.InEnvelope data :=
      hs.nests (nests_finishCurrent hs.closed hf) he fun _ => hclosed
    rw [hf] at h
    cases hp : s₁.pending with
    | some k =>
      simp only [hp] at h
      cases h
      have hnests : s₁.Nests (({ s₁ with pending := none } : Session).enter k) :=
        ((Nests.refl s₁).congr (u := { s₁ with pending := none }) rfl rfl).enter hclosed k
      exact .inl (hs₁.nests hnests rfl (by simp [enter, note]))
    | none =>
      simp only [hp] at h
      exact hs₁.nextLabel hclosed h
  · rw [ho.sealed.nextKind_eq he] at h
    cases h
    exact .inr ⟨he, hread.congr rfl⟩

/-- At a kind the session stands inside of the envelope, and stays there at its work. -/
theorem stays (hs : s.Enveloped data) (ho : s.Opened data) (hc : s.current ≠ none)
    (h : s.Nests t) (hkept : s.Kept t) : t.Enveloped data := by
  obtain hs | ⟨he, -⟩ := hs
  · exact .inl (hs.nests h hkept.exhausted_eq
      fun hno => absurd (hkept.current_eq.symm.trans hno) hc)
  · exact absurd (ho.sealed.current_eq he) hc

theorem skipKind (hs : s.Enveloped data) (ho : s.Opened data) {kind : Option Kind} {n : Nat}
    (h : s.skipKind kind = (.ok (), n, t)) : t.Enveloped data := by
  by_cases hc : s.current = none
  · rw [skipKind_of_none hc h]
    exact hs
  · exact hs.stays ho hc (nests_skipKind h) (works_skipKind h).kept

theorem poll (hs : s.Enveloped data) (ho : s.Opened data) {q q' : Reader}
    (hq : q.kind = s.current) {x : Option (Except Failure Record)} (h : q.poll s = (x, q', t))
    (hx : ∀ f, x ≠ some (.error f)) : t.Enveloped data := by
  by_cases hc : s.current = none
  · rw [poll_of_none (hq.trans hc)] at h
    cases h
    exact hs
  · exact hs.stays ho hc (nests_poll h hx) (kept_poll h)

end Enveloped

/-- The first label leads into the envelope, or out of it. -/
theorem InEnvelope.readFirstLabel (hs : s.InEnvelope data) (hclosed : s.array = .closed)
    (h : s.readFirstLabel = (.ok (), t)) : t.Enveloped data := by
  unfold Session.readFirstLabel at h
  rcases hl : s.readLabel with ⟨f | _ | label, s₁⟩
  · rw [hl] at h
    cases h
  · rw [hl] at h
    cases h
    exact .inr ⟨rfl, (hs.envelopeRead hclosed hl).congr rfl⟩
  · have hkind := SameKind.of_moves (readLabel_moves hl)
    have hlabel := nests_readLabel hl
    rw [hl] at h
    simp only at h
    split at h
    · exact .inl (hs.labelRead hclosed (hlabel.trans (nests_readBuild h))
        (hkind.trans (sameKind_readBuild h))).1
    · cases h
      have hs₁ := (hs.labelRead hclosed hlabel hkind).1
      exact .inl (hs₁.nests ((Nests.refl s₁).congr rfl rfl) rfl hs₁.closed)
    · exact .inl (hs.labelRead hclosed (hlabel.trans (nests_dropSection h))
        (hkind.trans (.of_moves (dropSection_moves h)))).1
    · cases h

theorem Enveloped.opened (hs : s.Enveloped data) : s.opened.Enveloped data := by
  obtain hs | ⟨he, hread⟩ := hs
  · have hnests := (Nests.refl s).congr
      (u := { s with tally := { s.tally with generation := s.generation } }) rfl rfl
    exact .inl (hs.nests (hnests.note _) rfl hs.closed)
  · have hopened := hread.congr
      (t := { s with tally := { s.tally with generation := s.generation } }) rfl
    exact .inr ⟨he, hopened.note _⟩

/-- An export that is opened is inside of its envelope, or behind it if it has no labels. -/
theorem enveloped_begin {supply : Supply} {options : Options} {tally : Tally}
    (h : (start supply options tally).begin = (.ok (), s)) : s.Enveloped supply.rest := by
  unfold begin at h
  split at h
  · cases h
  · split at h
    · cases h
    · next b hr =>
      have hclosed : b.array = .closed := by
        rw [readToken_moves hr]
        rfl
      have hexhausted : b.exhausted = false := by
        rw [readToken_moves hr]
        rfl
      have hb : b.InEnvelope supply.rest :=
        ⟨⟨supply, options, tally, b, rfl, hr, .refl b⟩, hexhausted, fun _ => hclosed⟩
      split at h
      · cases h
      · next s₁ hf =>
        cases h
        exact (hb.readFirstLabel hclosed hf).opened
    · cases h

end Session

end ExportStream

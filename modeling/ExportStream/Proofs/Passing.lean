import ExportStream.Proofs.CoupledReaders
import ExportStream.Proofs.ReaderPostings
/-!
# Reading elements and passing over them

Elements of an array can be read as records or passed over, and both ways have to recognize the same
markers and take the same payloads off the stream. They are compared as readings of one stream that
differ in what they add up (`Passing`): the cursors are the same but for what they noted, and only
the counts of some kinds have to agree.

Where no sink ever fails (`Sink.Reliable`), what a reader does with an element of any other kind and
what passing over it does leave sessions that go together (`Passing.decode_dropPayload`). So do a
reader that is pulled until it has nothing more and the loop that drops the rest of the array
(`Passing.pull_dropElements`).
-/

namespace ExportStream

/-! ### Sinks that never fail -/

namespace Sink

/-- A sink that takes something of every offer and can be flushed. -/
structure Reliable (s : Sink) : Prop where
  /-- Something is taken. -/
  accepts_pos : ∀ held b bs, ∃ n, s.accepts held (b :: bs) = .ok (n + 1)
  /-- Flushing succeeds. -/
  flushing_eq : s.flushing = .ok ()

theorem reliable_discard : discard.Reliable := ⟨fun _ _ bs => ⟨bs.length, rfl⟩, rfl⟩

theorem reliable_memory : memory.Reliable := ⟨fun _ _ bs => ⟨bs.length, rfl⟩, rfl⟩

theorem Reliable.take {s : Sink} (h : s.Reliable) (bytes : List UInt8) :
    (s.take bytes).Reliable := by
  unfold Sink.take
  split_ifs
  · exact ⟨h.accepts_pos, h.flushing_eq⟩
  · exact h

/-- Something of an offer is taken. -/
theorem Reliable.offer_eq {s : Sink} (h : s.Reliable) (b : UInt8) (bs : List UInt8) :
    ∃ n, Writer.offer s (b :: bs) = (.ok (n + 1), s.take (b :: bs.take n)) :=
  let ⟨n, hn⟩ := h.accepts_pos s.held b bs
  ⟨n, Sink.offer_eq hn⟩

theorem Reliable.flush_eq {s : Sink} (h : s.Reliable) : Writer.flush s = (.ok (), s) := by
  simp only [Writer.flush, h.flushing_eq]

theorem Reliable.write {s : Sink} (h : s.Reliable) (bytes : List UInt8) :
    ∃ s', Writer.write s bytes = (.ok (), s') ∧ s'.Reliable := by
  fun_induction Writer.write s bytes with
  | case1 s => exact ⟨s, rfl, h⟩
  | case2 s b bs f s' ha =>
    obtain ⟨n, hn⟩ := h.offer_eq b bs
    rw [hn] at ha
    cases ha
  | case3 s b bs s' ha =>
    obtain ⟨n, hn⟩ := h.offer_eq b bs
    rw [hn] at ha
    cases ha
  | case4 s b bs n s' ha ih =>
    obtain ⟨m, hm⟩ := h.offer_eq b bs
    rw [hm] at ha
    cases ha
    exact ih (h.take _)

theorem Reliable.store {s : Sink} (h : s.Reliable) (payload : List UInt8) :
    ∃ s', Staging.store s payload = .ok s' ∧ s'.Reliable := by
  obtain ⟨s', hw, hs'⟩ := h.write payload
  refine ⟨s', ?_, hs'⟩
  rw [Staging.store, hw]
  simp only [hs'.flush_eq]

end Sink

namespace Sinks

/-- Every sink that is asked for is made, and never fails. -/
def Reliable (s : Sinks) : Prop := ∀ n tag, ∃ sink, s.make n tag = .ok sink ∧ sink.Reliable

theorem reliable_memory : memory.Reliable := fun _ _ => ⟨_, rfl, Sink.reliable_memory⟩

/-- Two makers of sinks that make the same for a tag, however often they were asked before. -/
def Uniform (a b : Sinks) : Prop := ∀ m n tag, a.make m tag = b.make n tag

end Sinks

/-! ### Cursors that differ in what they noted -/

namespace Cursor

/-- The second cursor has noted something else. -/
def Renoted (a b : Cursor) : Prop := ∃ journal, b = { a with journal }

theorem Renoted.refl (a : Cursor) : a.Renoted a := ⟨a.journal, rfl⟩

theorem Renoted.symm {a b : Cursor} (h : a.Renoted b) : b.Renoted a := by
  obtain ⟨journal, rfl⟩ := h
  exact ⟨a.journal, rfl⟩

theorem Renoted.trans {a b d : Cursor} (h : a.Renoted b) (h' : b.Renoted d) : a.Renoted d := by
  obtain ⟨journal, rfl⟩ := h
  obtain ⟨journal', rfl⟩ := h'
  exact ⟨journal', rfl⟩

theorem Renoted.note {a b : Cursor} (h : a.Renoted b) (m n : Notice) :
    (a.note m).Renoted (b.note n) := by
  obtain ⟨journal, rfl⟩ := h
  exact ⟨n :: journal, rfl⟩

theorem Renoted.refill {a b : Cursor} (h : a.Renoted b) :
    a.refill.1 = b.refill.1 ∧ a.refill.2.Renoted b.refill.2 := by
  obtain ⟨journal, rfl⟩ := h
  unfold Cursor.refill
  rcases a.source.readPatiently a.capacity with ⟨f | bytes, source⟩
  · exact ⟨rfl, journal, rfl⟩
  · exact ⟨rfl, _, rfl⟩

/-- What is noted does not change how a token is read. -/
theorem Renoted.readToken {a b : Cursor} (h : a.Renoted b) :
    a.readToken.1 = b.readToken.1 ∧ a.readToken.2.Renoted b.readToken.2 := by
  -- the buffer of the other cursor is filled alike
  have hfill {a b : Cursor} (h : a.Renoted b) (s : Scanner) {r : Except Failure Nat} {a' : Cursor}
      (hr : (a.useUp s).refill = (r, a')) :
      ∃ b', (b.useUp s).refill = (r, b') ∧ a'.Renoted b' := by
    obtain ⟨journal, rfl⟩ := h
    have hused : (a.useUp s).Renoted (({ a with journal } : Cursor).useUp s) := ⟨journal, rfl⟩
    obtain ⟨heq, hrenoted⟩ := hused.refill
    rw [hr] at heq hrenoted
    exact ⟨(({ a with journal } : Cursor).useUp s).refill.2, Prod.ext heq.symm rfl, hrenoted⟩
  have hscan {a b : Cursor} (h : a.Renoted b) :
      b.scanner.scan b.buffer = a.scanner.scan a.buffer := by
    obtain ⟨journal, rfl⟩ := h
    rfl
  fun_induction Cursor.readToken a generalizing b with
  | case1 a t rest hs =>
    rw [readToken_eq b, hscan h, hs]
    obtain ⟨journal, rfl⟩ := h
    exact ⟨rfl, journal, rfl⟩
  | case2 a f hs =>
    rw [readToken_eq b, hscan h, hs]
    obtain ⟨journal, rfl⟩ := h
    exact ⟨rfl, journal, rfl⟩
  | case3 a s hs f a' hr =>
    obtain ⟨b', hb, h'⟩ := hfill h s hr
    rw [readToken_eq b, hscan h, hs]
    simp only [hb]
    exact ⟨trivial, h'⟩
  | case4 a s hs a' hr =>
    obtain ⟨b', hb, h'⟩ := hfill h s hr
    rw [readToken_eq b, hscan h, hs]
    simp only [hb]
    obtain ⟨journal, rfl⟩ := h'
    exact ⟨rfl, journal, rfl⟩
  | case5 a s hs n a' hr ih =>
    obtain ⟨b', hb, h'⟩ := hfill h s hr
    rw [readToken_eq b, hscan h, hs]
    simp only [hb]
    exact ih h'

theorem Renoted.readRaw {a b : Cursor} (h : a.Renoted b) (n : Nat) :
    (a.readRaw n).1 = (b.readRaw n).1 ∧ (a.readRaw n).2.Renoted (b.readRaw n).2 := by
  unfold Cursor.readRaw
  split_ifs with hn hea heb heb
  · exact ⟨rfl, h⟩
  · obtain ⟨hr, hc⟩ := h.refill
    rcases ha : a.refill with ⟨f | m, a'⟩ <;> rcases hb : b.refill with ⟨g | m', b'⟩ <;>
      rw [ha, hb] at hr hc <;> cases hr
    · exact ⟨rfl, hc⟩
    · obtain ⟨journal, rfl⟩ := hc
      exact ⟨rfl, journal, rfl⟩
  · obtain ⟨journal, rfl⟩ := h
    exact absurd hea heb
  · obtain ⟨journal, rfl⟩ := h
    exact absurd heb hea
  · obtain ⟨journal, rfl⟩ := h
    exact ⟨rfl, journal, rfl⟩

end Cursor

/-! ### The coupling -/

/-- Two readings of one stream, with sinks that never fail, that have to agree in the counts of the
kinds in `W`; the sinks are the same if `same` says so. -/
def Passing (W : Kind → Prop) (same : Prop) : Coupling where
  cursors := Cursor.Renoted
  copiers v w := v = w
  sinks a b := a.Reliable ∧ b.Reliable ∧ (same → a = b)
  makers a b := a.Reliable ∧ b.Reliable ∧ (same → a.Uniform b)
  tallies t u := ∀ k, W k → t.get k = u.get k
  alike f g := f = g
  cut _ := False

namespace Passing

variable {W : Kind → Prop} {same : Prop}

theorem write {a b : Sink} (h : (Passing W same).sinks a b) (bytes : List UInt8) :
    ∃ a' b', Writer.write a bytes = (.ok (), a') ∧ Writer.write b bytes = (.ok (), b') ∧
      (Passing W same).sinks a' b' := by
  obtain ⟨ha, hb, heq⟩ := h
  obtain ⟨a', hwa, ha'⟩ := ha.write bytes
  obtain ⟨b', hwb, hb'⟩ := hb.write bytes
  refine ⟨a', b', hwa, hwb, ha', hb', fun hsame => ?_⟩
  rw [heq hsame, hwb] at hwa
  exact (Prod.mk.inj hwa).2.symm

theorem move {v w : Copying} (h : (Passing W same).Copyings v w) (size left : Nat)
    (moved : List (List UInt8)) :
    (Passing W same).Meets (Passing W same).Copyings (fun _ _ => True) (v.move size left moved)
      (w.move size left moved) := by
  -- both read the same bytes
  have hread {v w : Copying} (h : (Passing W same).Copyings v w) (n : Nat)
      {r : Except Failure (List UInt8)} {c : Cursor}
      (hr : v.cursor.readRaw (min n v.copier.bufferSize) = (r, c)) :
      ∃ d, w.cursor.readRaw (min n w.copier.bufferSize) = (r, d) ∧ c.Renoted d := by
    obtain ⟨heq, hc⟩ := h.cursor.readRaw (min n v.copier.bufferSize)
    have hcopier : v.copier = w.copier := h.copier
    rw [← hcopier]
    rw [hr] at heq hc
    exact ⟨(w.cursor.readRaw (min n v.copier.bufferSize)).2, Prod.ext heq.symm rfl, hc⟩
  fun_induction Copying.move v size left moved generalizing w with
  | case1 v moved =>
    rw [Copying.move_eq w, if_pos rfl]
    exact .ok h
  | case2 v left moved hleft f c hr =>
    obtain ⟨d, hd, -⟩ := hread h left hr
    rw [Copying.move_eq w, if_neg hleft, hd]
    exact .fail rfl trivial
  | case3 v left moved hleft c hr =>
    obtain ⟨d, hd, journal, rfl⟩ := hread h left hr
    rw [Copying.move_eq w, if_neg hleft, hd]
    exact .fail rfl trivial
  | case4 v left moved hleft b bs c hr f sink hw =>
    obtain ⟨a', b', ha, -, -⟩ := write h.sink (b :: bs)
    rw [ha] at hw
    cases hw
  | case5 v left moved hleft b bs c hr sink hw copier =>
    rename_i ih
    obtain ⟨d, hd, hcd⟩ := hread h left hr
    obtain ⟨a', b', ha, hb, hsinks⟩ := write h.sink (b :: bs)
    rw [ha] at hw
    cases hw
    have hcopier : v.copier = w.copier := h.copier
    rw [Copying.move_eq w, if_neg hleft, hd]
    simp only [hb, ← hcopier]
    exact ih ⟨hcd, rfl, hsinks⟩

theorem copy {v w : Copying} (h : (Passing W same).Copyings v w) (size : Nat) :
    (Passing W same).Meets (Passing W same).Copyings (fun _ _ => True) (v.copy size)
      (w.copy size) := by
  have hcopier : v.copier = w.copier := h.copier
  have hallocated : ({ v.copier with allocated := true } : Copier) =
      { w.copier with allocated := true } := by rw [hcopier]
  have hall : (Passing W same).Copyings { v with copier := { v.copier with allocated := true } }
      { w with copier := { w.copier with allocated := true } } := ⟨h.cursor, hallocated, h.sink⟩
  unfold Copying.copy
  obtain ⟨parts, v', w', hv, hw, h'⟩ | ⟨f, g, v', w', hv, hw, hf, -⟩ | ⟨g, w', hw, hg⟩ :=
    move hall size size []
  · have hv' : Writer.flush v'.sink = (.ok (), v'.sink) := h'.sink.1.flush_eq
    have hw' : Writer.flush w'.sink = (.ok (), w'.sink) := h'.sink.2.1.flush_eq
    rw [hv, hw]
    simp only [hv', hw']
    exact .ok h'
  · rw [hv, hw]
    exact .fail hf trivial
  · exact hg.elim

theorem lawful (W : Kind → Prop) (same : Prop) : (Passing W same).Lawful where
  alike_refl _ := rfl
  alike_within h _ := congrArg (fun f => Failure.within f _) h
  cut_within h _ := h
  note h m n := h.note m n
  position_eq := by
    rintro a _ ⟨journal, rfl⟩
    rfl
  locate := by
    rintro a _ ⟨journal, rfl⟩ f
    rfl
  readToken := by
    intro a b h
    obtain ⟨heq, hc⟩ := h.readToken
    rcases ha : a.readToken with ⟨f | t, a'⟩ <;> rcases hb : b.readToken with ⟨g | u, b'⟩ <;>
      rw [ha, hb] at heq hc <;> cases heq
    · exact .fail rfl trivial
    · exact .ok hc
  copy h size := copy h size
  store := by
    rintro a b ⟨ha, hb, heq⟩ payload
    obtain ⟨a', hsa, ha'⟩ := ha.store payload
    obtain ⟨b', hsb, hb'⟩ := hb.store payload
    refine .inl ⟨a', b', hsa, hsb, ha', hb', fun hsame => ?_⟩
    rw [heq hsame, hsb] at hsa
    exact (Except.ok.inj hsa).symm
  create := by
    rintro a b ⟨ha, hb, heq⟩ tag
    obtain ⟨x, hx, hxr⟩ := ha a.asked tag
    obtain ⟨y, hy, hyr⟩ := hb b.asked tag
    refine .inl ⟨x, y, { a with asked := a.asked + 1 }, { b with asked := b.asked + 1 },
      Prod.ext hx rfl, Prod.ext hy rfl, ⟨hxr, hyr, fun hsame => ?_⟩, ha, hb,
      fun hsame m n tag => heq hsame m n tag⟩
    rw [heq hsame a.asked b.asked tag, hy] at hx
    exact (Except.ok.inj hx).symm
  sinks_discard := ⟨Sink.reliable_discard, Sink.reliable_discard, fun _ => rfl⟩
  tallies h f hf k hk := hf _ _ k (h k hk)

/-! ### What only one of them adds up -/

/-- Sessions of two readings, whatever their sinks. -/
def Beside (W : Kind → Prop) (s t : Session) : Prop := (Passing W False).Sessions s t

theorem beside_iff {s t : Session} : Beside W s t ↔ (Passing W same).Sessions s t :=
  ⟨fun h => { h with }, fun h => { h with }⟩

/-- From `s` to `s'` nothing changed but the notes and what does not count. -/
structure Retold (W : Kind → Prop) (s s' : Session) : Prop where
  /-- The notes. -/
  cursor : s'.cursor.Renoted s.cursor
  /-- The counts that matter. -/
  get_eq : ∀ k, W k → s'.tally.get k = s.tally.get k
  /-- All the rest. -/
  eq_but : s' = { s with cursor := s'.cursor, tally := s'.tally }

theorem Retold.refl (s : Session) : Retold W s s := ⟨.refl _, fun _ _ => rfl, rfl⟩

theorem Retold.beside {s s' t : Session} (hs : Retold W s s') (h : Beside W s t) :
    Beside W s' t := by
  rw [hs.eq_but]
  exact { h with
    cursor := hs.cursor.trans h.cursor
    tally := fun k hk => (hs.get_eq k hk).trans (h.tally k hk) }

theorem Retold.beside_right {s t t' : Session} (ht : Retold W t t') (h : Beside W s t) :
    Beside W s t' := by
  rw [ht.eq_but]
  exact { h with
    cursor := h.cursor.trans ht.cursor.symm
    tally := fun k hk => (h.tally k hk).trans (ht.get_eq k hk).symm }

theorem Retold.trans {s s' s'' : Session} (h : Retold W s s') (h' : Retold W s' s'') :
    Retold W s s'' where
  cursor := h'.cursor.trans h.cursor
  get_eq k hk := (h'.get_eq k hk).trans (h.get_eq k hk)
  eq_but := by rw [h'.eq_but, h.eq_but]

theorem retold_warn (s : Session) (k : Kind) (message : String) : Retold W s (s.warn k message) :=
  ⟨⟨_, rfl⟩, fun l _ => Tally.get_warn _ _ l, rfl⟩

theorem retold_modify {k : Kind} (hk : ¬W k) (s : Session) (f : Counts → Counts) :
    Retold W s { s with tally := s.tally.modify k f } :=
  ⟨.refl _, fun l hl => Tally.get_modify_of_ne (fun h : l = k => hk (h ▸ hl)) _ _, rfl⟩

theorem retold_settle {k : Kind} (hk : ¬W k) (s : Session) (d : Decoded) :
    Retold W s (d.settle k s) := by
  cases d with
  | record r => exact retold_modify hk s _
  | deferred => exact .refl s
  | skipped => exact retold_modify hk s _
  | ignored => exact .refl s
  | rejected f v =>
    exact ⟨⟨_, rfl⟩, fun l hl => (Tally.get_warn _ _ l).trans
      (Tally.get_modify_of_ne (fun h : l = k => hk (h ▸ hl)) _ _), rfl⟩

theorem retold_verify (k : Kind) (a : Attachment) (s : Session) :
    Retold W s (Staging.verify k a s) := by
  unfold Staging.verify
  split_ifs
  · exact retold_warn s k _
  · exact .refl s

theorem retold_countAttachment (s : Session) : Retold W s s.countAttachment :=
  ⟨.refl _, fun l _ => by cases l <;> rfl, rfl⟩

theorem retold_keepDocumentEtag (s : Session) (etag : Option String) :
    Retold W s (s.keepDocumentEtag etag) := by
  cases etag with
  | none => exact .refl s
  | some e => exact ⟨.refl _, fun l _ => by cases l <;> rfl, rfl⟩

theorem retold_keepAttachmentEtag (s : Session) (etag : Option String) :
    Retold W s (s.keepAttachmentEtag etag) := by
  cases etag with
  | none => exact .refl s
  | some e => exact ⟨.refl _, fun l _ => by cases l <;> rfl, rfl⟩

theorem sinks_drop (g : Staging) (k : Kind) (reason : String) (s : Session) :
    (g.drop k reason s).1.sinks = g.sinks := by
  unfold Staging.drop
  split_ifs <;> rfl

theorem retold_drop (g : Staging) (k : Kind) (reason : String) (s : Session) :
    Retold W s (g.drop k reason s).2 := by
  unfold Staging.drop
  split_ifs
  · exact .refl s
  · exact retold_warn s k _

theorem retold_finish (g : Staging) (form k : Kind) (s : Session) :
    Retold W s (g.finish form k s).2 := by
  unfold Staging.finish
  split_ifs
  · exact retold_drop g k _ s
  · exact .refl s

/-! ### An element that is read, and passed over -/

/-- What reading an element, with sinks made by `g`, and passing over it come to: the one goes on as
the other does, or both fail with the same failure. -/
def Alongside (W : Kind → Prop) (k : Kind) (g : Staging)
    (x : Except Failure Decoded × Staging × Session) (y : Except Failure Unit × Session) : Prop :=
  (∃ d g' s t, x = (.ok d, g', s) ∧ y = (.ok (), t) ∧ g'.sinks.make = g.sinks.make ∧
      Beside W (d.settle k s) t) ∨
    ∃ f g s t, x = (.error f, g, s) ∧ y = (.error f, t) ∧ (Passing W False).Failed s t

variable {g : Staging} {k : Kind} {s t : Session}

theorem Alongside.ok {d : Decoded} {g' : Staging} (hk : ¬W k) (hg : g'.sinks.make = g.sinks.make)
    (h : Beside W s t) : Alongside W k g (.ok d, g', s) (.ok (), t) :=
  .inl ⟨d, g', s, t, rfl, rfl, hg, (retold_settle hk s d).beside h⟩

/-- The payload of a marker is taken off by whoever stages it and by whoever drops it. -/
theorem stageNamed_dropBytes (hk : ¬W k) (hg : g.sinks.Reliable) (h : Beside W s t)
    (marker : Json) (size : Nat) (hash tag : String) :
    Alongside W k g (g.stageNamed k marker size hash tag s) (t.dropBytes size) := by
  unfold Staging.stageNamed Sinks.create Session.dropBytes
  obtain ⟨sink, hmake, hsink⟩ := hg g.sinks.asked tag
  rw [hmake]
  simp only
  obtain ⟨computed, ⟨x, s₁⟩, ⟨y, t₁⟩, hs, ht, -, h₁⟩ | ⟨f, f', ⟨x, s₁⟩, ⟨y, t₁⟩, hs, ht, hf, he⟩ |
    ⟨f', y, ht, hcut⟩ :=
    h.copyPayload (lawful W False) size ⟨hsink, Sink.reliable_discard, fun hno => hno.elim⟩
  · rw [hs, ht]
    exact .ok hk rfl (((retold_verify k _ s₁).trans (retold_countAttachment _)).beside h₁)
  · cases hf
    rw [hs, ht]
    exact .inr ⟨_, _, _, _, rfl, rfl, he⟩
  · exact hcut.elim

theorem stage_dropPayload (hk : ¬W k) (hcarries : k.carriesAttachments = true)
    (hg : g.sinks.Reliable) (h : Beside W s t) (hcurrent : t.current = some k) {marker : Json}
    (hmarker : marker.isMarker = true) :
    Alongside W k g (g.stage k marker s) (t.dropPayload marker) := by
  have hdue : (t.current.any Kind.carriesAttachments && marker.isMarker) = true := by
    rw [hcurrent, hmarker, Option.any_some, hcarries]
    rfl
  unfold Staging.stage Session.dropPayload
  rw [if_pos hdue]
  obtain ⟨size, hs, ht⟩ | ⟨f, f', hs, ht, hf⟩ := h.payloadSize (lawful W False) marker
  · rw [hs, ht]
    simp only
    split
    · exact stageNamed_dropBytes hk hg h marker size _ _
    · obtain ⟨u, s₁, t₁, hd, hd', h₁⟩ | ⟨f, f', s₁, t₁, hd, hd', hf, he⟩ | ⟨f', t₁, hd', hcut⟩ :=
        h.dropBytes (lawful W False) size
      · rw [hd, hd']
        exact .ok hk rfl h₁
      · cases hf
        rw [hd, hd']
        exact .inr ⟨_, _, _, _, rfl, rfl, he⟩
      · exact hcut.elim
  · cases hf
    rw [hs, ht]
    exact .inr ⟨_, _, _, _, rfl, rfl, h.tally⟩

theorem decodeDocument_dropPayload (hk : ¬W k) (hcarries : k.carriesAttachments = true)
    (hg : g.sinks.Reliable) (h : Beside W s t) (hcurrent : t.current = some k) (v : Json) :
    Alongside W k g (g.decodeDocument k v s) (t.dropPayload v) := by
  unfold Staging.decodeDocument
  split_ifs with hmarker
  · exact stage_dropPayload hk hcarries hg h hcurrent hmarker
  · have hnone : t.dropPayload v = (.ok (), t) := by
      unfold Session.dropPayload
      rw [if_neg]
      simp [hmarker]
    rw [hnone]
    cases Document.parse s.generation.isLegacy s.options.readLegacyEtag v with
    | ok p => exact .ok hk rfl ((retold_keepDocumentEtag s p.etag).beside h)
    | error f =>
      have hretold : Retold W s _ := retold_drop g k "their host document was rejected" s
      have hsinks := sinks_drop g k "their host document was rejected" s
      rcases hd : g.drop k "their host document was rejected" s with ⟨g', s'⟩
      rw [hd] at hretold hsinks
      exact .ok hk (congrArg Sinks.make hsinks) (hretold.beside h)

theorem decodeLegacyAttachment_ok (hk : ¬W k) (hg : g.sinks.Reliable) (h : Beside W s t)
    (v : Json) : Alongside W k g (g.decodeLegacyAttachment v s) (.ok (), t) := by
  unfold Staging.decodeLegacyAttachment
  cases LegacyAttachment.parse v with
  | error f => exact .ok hk rfl h
  | ok p =>
    have hkeep :
        Beside W (if s.options.readLegacyEtag then s.keepAttachmentEtag p.etag else s) t := by
      split_ifs
      · exact (retold_keepAttachmentEtag s p.etag).beside h
      · exact h
    simp only
    by_cases htransient : p.isTransient = true
    · rw [if_pos htransient]
      exact .ok hk rfl hkeep
    · obtain ⟨sink, hmake, hsink⟩ := hg g.sinks.asked p.details.tag
      obtain ⟨sink', hstore, -⟩ := hsink.store p.payload
      rw [if_neg htransient]
      unfold Sinks.create
      simp only [hmake, hstore]
      exact .ok hk rfl hkeep

/-- **Reading and passing over agree on an element**: they take the same bytes off the stream, or
fail with the same failure. -/
theorem decode_dropPayload {form : Kind} (hk : ¬W k) (hform : form.sameForm k = true)
    (hg : g.sinks.Reliable) (h : Beside W s t) (hcurrent : t.current = some k) (v : Json) :
    Alongside W k g (g.decode form k v s) (t.dropPayload v) := by
  have hsame := Kind.carriesAttachments_eq_of_sameForm hform
  by_cases hcarries : k.carriesAttachments = true
  · have hdocument := decodeDocument_dropPayload hk hcarries hg h hcurrent v
    unfold Staging.decode
    cases form with
    | documents => exact hdocument
    | revisionDocuments => exact hdocument
    | _ => exact absurd (hcarries.symm.trans hsame.symm) (by decide)
  · -- elements of the other kinds have nothing behind them
    have hnone : t.dropPayload v = (.ok (), t) := by
      unfold Session.dropPayload
      rw [if_neg]
      simp [hcurrent, hcarries]
    rw [hnone]
    unfold Staging.decode
    cases form with
    | documents => exact absurd hsame.symm hcarries
    | revisionDocuments => exact absurd hsame.symm hcarries
    | legacyAttachments => exact decodeLegacyAttachment_ok hk hg h v
    | _ => exact .ok hk rfl h

/-! ### An array that is read, and passed over -/

theorem sinks_finish (g : Staging) (form k : Kind) (s : Session) :
    (g.finish form k s).1.sinks = g.sinks := by
  unfold Staging.finish
  split_ifs
  · exact sinks_drop g k _ s
  · rfl

/-- What pulling a record, with sinks made by `make`, and dropping the rest of the array come to:
there is nothing more and the array is closed, or the dropping goes on where the record was found, or
both fail with the same failure. -/
inductive Through (W : Kind → Prop) (k : Kind) (make : Nat → String → Except Failure Sink) :
    Except Failure (Option Record) × Staging × Session → Except Failure Unit × Nat × Session →
      Prop where
  /-- There is nothing more. -/
  | none {g : Staging} {s t : Session} {n : Nat} (hmake : g.sinks.make = make) (h : Beside W s t)
    (hcurrent : t.current = .some k) (hclosed : t.array = .closed) :
    Through W k make (.ok .none, g, s) (.ok (), n, t)
  /-- A record. -/
  | some {r : Record} {g : Staging} {s t : Session} {n : Nat} (hmake : g.sinks.make = make)
    (h : Beside W s t) (hcurrent : t.current = .some k) :
    Through W k make (.ok (.some r), g, s) (t.dropElements n)
  /-- The failure. -/
  | fail {f : Failure} {g : Staging} {s t : Session} {n : Nat}
    (h : (Passing W False).Failed s t) : Through W k make (.error f, g, s) (.error f, n, t)

/-- **Reading and passing over agree on an array.** -/
theorem pull_dropElements {form : Kind} (hk : ¬W k) (hform : form.sameForm k = true)
    (hg : g.sinks.Reliable) (h : Beside W s t) (hcurrent : t.current = some k) (n : Nat) :
    Through W k g.sinks.make (Reader.pull g form k s) (t.dropElements n) := by
  induction g, s using Reader.element_induction form k generalizing t n with
  | step g s ih =>
    rw [Session.dropElements_eq]
    obtain ⟨_ | v, s₁, t₁, hs, ht, h₁⟩ | ⟨f, f', s₁, t₁, hs, ht, hf, he⟩ | ⟨f', t₁, ht, hcut⟩ :=
      h.nextElement (lawful W False)
    · have hretold : Retold W s₁ _ := retold_finish g form k s₁
      have hthere := (Session.postsHere_nextElement ht).current_eq
      have hsinks := sinks_finish g form k s₁
      rw [Reader.pull_eq, hs, ht]
      exact .none (congrArg Sinks.make hsinks) (hretold.beside h₁) (hthere.trans hcurrent)
        (Session.closed_of_nextElement ht)
    · have hthere := (Session.postsHere_nextElement ht).current_eq.trans hcurrent
      rw [ht]
      simp only
      obtain ⟨d, g₂, s₂, t₂, hd, hd', hmake, h₂⟩ | ⟨f, g₂, s₂, t₂, hd, hd', he⟩ :=
        decode_dropPayload hk hform hg h₁ hthere v
      · have hhere := (Session.postsHere_dropPayload hd').current_eq.trans hthere
        have hreliable : g₂.sinks.Reliable := by
          unfold Sinks.Reliable
          rw [hmake]
          exact hg
        have hrest := ih v s₁ d g₂ s₂ hs hd hreliable h₂ hhere (n + 1)
        rw [hmake] at hrest
        rw [Reader.pull_of_decode hs hd, hd']
        cases d with
        | record r => exact .some hmake h₂ hhere
        | _ => exact hrest
      · rw [Reader.pull_eq, hs, hd']
        simp only [hd]
        exact .fail he
    · cases hf
      rw [Reader.pull_eq, hs, ht]
      exact .fail he
    · exact hcut.elim

end Passing

end ExportStream

import ExportStream.Proofs.Rounds
import Mathlib.Tactic.SplitIfs
/-!
# Couplings

Two streams can be read side by side, and the question is always the same: what the two readings
have in common stays in common, whatever is done to both of them. A coupling (`Coupling`) says what
this is for cursors, copiers and tallies, which failures count as alike, and which failures may cut
the second reading off while the first one goes on. It is lawful (`Coupling.Lawful`) if reading a
token and copying a payload keep to it.

That is all that has to be shown of a coupling: every operation of a session is put together from
these two, so it takes coupled sessions to coupled sessions (`Coupling.Sessions`), or both fail
alike, or the second one is cut off (`Coupling.Meets`). There is one lemma for each operation, in
the order in which the operations use each other. The loops are inductions on the first session that
read the round of the second one beside it.
-/

namespace ExportStream

/-! ### Options -/

/-- Options that differ at most in the sizes of buffers and of the window that messages show. -/
structure Options.Alike (o p : Options) : Prop where
  /-- The versions of old exports. -/
  readLegacyEtag_eq : o.readLegacyEtag = p.readLegacyEtag
  /-- Deletions without a key. -/
  deletionPolicy_eq : o.deletionPolicy = p.deletionPolicy
  /-- The depth of elements. -/
  maxDepth_eq : o.maxDepth = p.maxDepth
  /-- What warnings show. -/
  maxWarningSnapshot_eq : o.maxWarningSnapshot = p.maxWarningSnapshot
  /-- The comparison of hashes. -/
  verifyAttachmentHashes_eq : o.verifyAttachmentHashes = p.verifyAttachmentHashes

theorem Options.Alike.refl (o : Options) : o.Alike o := ⟨rfl, rfl, rfl, rfl, rfl⟩

/-- Options with buffers of some size are valid together. -/
theorem Options.Alike.validate_eq {o p : Options} (h : o.Alike p) (ho : 0 < o.bufferSize)
    (ho' : 0 < o.writeBufferSize) (hp : 0 < p.bufferSize) (hp' : 0 < p.writeBufferSize) :
    o.validate = p.validate := by
  unfold Options.validate Options.positive
  rw [if_neg (Nat.pos_iff_ne_zero.mp ho), if_neg (Nat.pos_iff_ne_zero.mp ho'),
    if_neg (Nat.pos_iff_ne_zero.mp hp), if_neg (Nat.pos_iff_ne_zero.mp hp'), h.maxDepth_eq]

/-! ### Changes to tallies -/

/-- A change that makes of the counts of each kind what those counts alone tell. -/
def Tally.Countwise (f : Tally → Tally) : Prop :=
  ∀ t u k, t.get k = u.get k → (f t).get k = (f u).get k

namespace Tally

theorem countwise_modify (k : Kind) (f : Counts → Counts) : Countwise fun t => t.modify k f := by
  intro t u l h
  by_cases hl : l = k
  · subst hl
    simp only [get_modify_self, h]
  · simp only [get_modify_of_ne hl, h]

/-- A change that leaves the counts alone. -/
theorem countwise_of_get_eq {f : Tally → Tally} (h : ∀ t k, (f t).get k = t.get k) :
    Countwise f := by
  intro t u k htu
  rw [h, h, htu]

theorem countwise_warn (message : String) : Countwise fun t => t.warn message :=
  countwise_of_get_eq fun _ k => by cases k <;> rfl

theorem Countwise.comp {f g : Tally → Tally} (hf : Countwise f) (hg : Countwise g) :
    Countwise fun t => f (g t) :=
  fun t u k h => hf _ _ k (hg t u k h)

end Tally

/-! ### Couplings -/

/-- What two readings have in common, and what it means that they fail alike. -/
structure Coupling where
  /-- The cursors that go together. -/
  cursors : Cursor → Cursor → Prop
  /-- The copiers that go together. -/
  copiers : Copier → Copier → Prop
  /-- The sinks that payloads go to. -/
  sinks : Sink → Sink → Prop
  /-- The makers of sinks that go together. -/
  makers : Sinks → Sinks → Prop
  /-- The tallies that go together. -/
  tallies : Tally → Tally → Prop
  /-- The failures that are alike. -/
  alike : Failure → Failure → Prop
  /-- The failures that only the second reading may meet. -/
  cut : Failure → Prop

namespace Coupling

/-- Two outcomes meet: both readings answer the same and leave related states, or they fail alike
and leave states that are related in a weaker way, or the second reading is cut off. -/
def Meets (c : Coupling) {α σ τ : Type} (R E : σ → τ → Prop) (x : Except Failure α × σ)
    (y : Except Failure α × τ) : Prop :=
  (∃ a s t, x = (.ok a, s) ∧ y = (.ok a, t) ∧ R s t) ∨
    (∃ f g s t, x = (.error f, s) ∧ y = (.error g, t) ∧ c.alike f g ∧ E s t) ∨
      ∃ g t, y = (.error g, t) ∧ c.cut g

namespace Meets

variable {c : Coupling} {α σ τ : Type} {R E : σ → τ → Prop} {x : Except Failure α × σ}
  {y : Except Failure α × τ}

theorem ok {a : α} {s : σ} {t : τ} (h : R s t) : c.Meets R E (.ok a, s) (.ok a, t) :=
  .inl ⟨a, s, t, rfl, rfl, h⟩

theorem fail {f g : Failure} {s : σ} {t : τ} (hf : c.alike f g) (h : E s t) :
    c.Meets R E ((.error f, s) : Except Failure α × σ) (.error g, t) :=
  .inr (.inl ⟨f, g, s, t, rfl, rfl, hf, h⟩)

theorem cutOff {g : Failure} {t : τ} (hg : c.cut g) : c.Meets R E x (.error g, t) :=
  .inr (.inr ⟨g, t, rfl, hg⟩)

/-- What the first reading answers the second one answers too, unless it is cut off. -/
theorem of_ok (h : c.Meets R E x y) {a : α} {s : σ} (hx : x = (.ok a, s)) :
    (∃ t, y = (.ok a, t) ∧ R s t) ∨ ∃ g t, y = (.error g, t) ∧ c.cut g := by
  obtain ⟨a', s', t, hx', hy, hr⟩ | ⟨f, g, s', t, hx', -⟩ | hcut := h
  · rw [hx] at hx'
    cases hx'
    exact .inl ⟨t, hy, hr⟩
  · rw [hx] at hx'
    cases hx'
  · exact .inr hcut

/-- If the first reading fails the second one fails alike, unless it is cut off. -/
theorem of_error (h : c.Meets R E x y) {f : Failure} {s : σ} (hx : x = (.error f, s)) :
    (∃ g t, y = (.error g, t) ∧ c.alike f g ∧ E s t) ∨ ∃ g t, y = (.error g, t) ∧ c.cut g := by
  obtain ⟨a, s', t, hx', -⟩ | ⟨f', g, s', t, hx', hy, hf, he⟩ | hcut := h
  · rw [hx] at hx'
    cases hx'
  · rw [hx] at hx'
    cases hx'
    exact .inl ⟨g, t, hy, hf, he⟩
  · exact .inr hcut

end Meets

/-- Copies that go together. -/
structure Copyings (c : Coupling) (v w : Copying) : Prop where
  /-- The cursors. -/
  cursor : c.cursors v.cursor w.cursor
  /-- The copiers. -/
  copier : c.copiers v.copier w.copier
  /-- The sinks. -/
  sink : c.sinks v.sink w.sink

/-- What has to be shown of a coupling. -/
structure Lawful (c : Coupling) : Prop where
  /-- A failure is like itself. -/
  alike_refl : ∀ f, c.alike f f
  /-- Failures that are alike stay so as they pass contexts. -/
  alike_within : ∀ {f g}, c.alike f g → ∀ context, c.alike (f.within context) (g.within context)
  /-- A failure that cuts off does so as it passes contexts. -/
  cut_within : ∀ {f}, c.cut f → ∀ context, c.cut (f.within context)
  /-- What is noted does not matter. -/
  note : ∀ {a b}, c.cursors a b → ∀ m n, c.cursors (a.note m) (b.note n)
  /-- Both cursors stand at one position. -/
  position_eq : ∀ {a b}, c.cursors a b → a.position = b.position
  /-- A fault that is found at both is alike. -/
  locate : ∀ {a b}, c.cursors a b → ∀ f, c.alike (.ofStream (a.locate f)) (.ofStream (b.locate f))
  /-- Tokens are read alike. -/
  readToken : ∀ {a b}, c.cursors a b →
    c.Meets c.cursors (fun _ _ => True) a.readToken b.readToken
  /-- Payloads are copied alike. -/
  copy : ∀ {v w}, c.Copyings v w → ∀ size,
    c.Meets c.Copyings (fun _ _ => True) (v.copy size) (w.copy size)
  /-- Payloads that came inside their elements are stored alike. -/
  store : ∀ {a b}, c.sinks a b → ∀ payload,
    (∃ a' b', Staging.store a payload = .ok a' ∧ Staging.store b payload = .ok b' ∧ c.sinks a' b') ∨
      ∃ f g, Staging.store a payload = .error f ∧ Staging.store b payload = .error g ∧ c.alike f g
  /-- Sinks are made alike. -/
  create : ∀ {a b}, c.makers a b → ∀ tag,
    (∃ x y a' b', a.create tag = (.ok x, a') ∧ b.create tag = (.ok y, b') ∧ c.sinks x y ∧
        c.makers a' b') ∨
      ∃ f g a' b', a.create tag = (.error f, a') ∧ b.create tag = (.error g, b') ∧ c.alike f g
  /-- Payloads may be dropped. -/
  sinks_discard : c.sinks Sink.discard Sink.discard
  /-- What is done to both tallies keeps them together. -/
  tallies : ∀ {t u}, c.tallies t u → ∀ {f}, Tally.Countwise f → c.tallies (f t) (f u)

variable {c : Coupling}

theorem Lawful.malformed (hc : c.Lawful) {a b : Cursor} (h : c.cursors a b)
    (cause : Malformation) : c.alike (a.malformed cause) (b.malformed cause) :=
  hc.locate h (.unplaced cause)

/-- The same value is put together, by the same builder. -/
theorem Lawful.go (hc : c.Lawful) {a : Assembler} {t : Token} {d e : Cursor} (h : c.cursors d e) :
    c.Meets (fun p q : Assembler × Cursor => p.1 = q.1 ∧ c.cursors p.2 q.2) (fun _ _ => True)
      (a.go t d) (a.go t e) := by
  fun_induction Assembler.go a t d generalizing e with
  | case1 a t d v ha =>
    rw [Assembler.go_eq a t e, ha]
    exact .ok ⟨rfl, h⟩
  | case2 a t d f frames ha =>
    rw [Assembler.go_eq a t e, ha]
    exact .fail (hc.locate h f) trivial
  | case3 a t d frames ha u d' hd ih =>
    rw [Assembler.go_eq a t e, ha]
    obtain ⟨e', he, h'⟩ | ⟨g, e', he, hg⟩ := (hc.readToken h).of_ok hd
    · simp only [he]
      exact ih h'
    · simp only [he]
      exact .cutOff hg
  | case4 a t d frames ha f d' hd =>
    rw [Assembler.go_eq a t e, ha]
    obtain ⟨g, e', he, hg, -⟩ | ⟨g, e', he, hg⟩ := (hc.readToken h).of_error hd
    · simp only [he]
      exact .fail hg trivial
    · simp only [he]
      exact .cutOff hg

/-! ### Sessions -/

/-- Sessions that go together: their cursors, copiers and tallies do, their options differ at most in
how streams are read, and all else that they know is the same. -/
structure Sessions (c : Coupling) (s t : Session) : Prop where
  /-- The cursors. -/
  cursor : c.cursors s.cursor t.cursor
  /-- The builders. -/
  assembler_eq : s.assembler = t.assembler
  /-- The copiers. -/
  copier : c.copiers s.copier t.copier
  /-- The options. -/
  options : s.options.Alike t.options
  /-- The tallies. -/
  tally : c.tallies s.tally t.tally
  /-- The builds. -/
  build_eq : s.build = t.build
  /-- The generations. -/
  generation_eq : s.generation = t.generation
  /-- The kinds that wait. -/
  pending_eq : s.pending = t.pending
  /-- The kinds at which they stand. -/
  current_eq : s.current = t.current
  /-- Where the arrays stand. -/
  array_eq : s.array = t.array
  /-- Whether the last brace is read. -/
  exhausted_eq : s.exhausted = t.exhausted

/-- What is left of sessions that failed together. -/
def Failed (c : Coupling) (s t : Session) : Prop := c.tallies s.tally t.tally

end Coupling

end ExportStream

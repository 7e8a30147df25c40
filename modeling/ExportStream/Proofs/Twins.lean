import ExportStream.Proofs.Copying
import ExportStream.Proofs.CoupledSessions
/-!
# Twins

Two sessions are twins (`Session.Twin`) if they stand at the same position of the same bytes and
know the same, while their buffers, the portions in which their supplies come and their windows may
differ. Whatever is done to both of them, they answer the same and stay twins, or fail alike
(`Agree`), since they are coupled (`Twins`): the same token and the same payload stand before both.

Failures are alike if they are equal once their readers are told neither the window nor, where the
bytes of a token are refused, the position (`Failure.blurred`): a scanner that refuses a token takes
nothing of the part that it has, so that the position depends on where the part began.
-/

namespace ExportStream

/-! ### Failures that are alike -/

/-- The fault without the window and, if the bytes of a token are refused, without the position. -/
def StreamFault.blurred : StreamFault → StreamFault
  | .malformed (.token f) _ _ => .malformed (.token f) none none
  | .malformed cause position _ => .malformed cause position none
  | f => f

/-- The failure without what depends on how the stream was read. -/
def Failure.blurred (f : Failure) : Failure :=
  match f.cause with
  | .stream g => { f with cause := .stream g.blurred }
  | _ => f

theorem Failure.blurred_within (f : Failure) (context : String) :
    (f.within context).blurred = f.blurred.within context := by
  obtain ⟨cause, contexts⟩ := f
  cases cause <;> rfl

theorem Failure.blurred_malformed (cause : Malformation) (p : Nat) (w w' : String) :
    (Failure.ofStream (.malformed cause (some p) (some w))).blurred =
      (Failure.ofStream (.malformed cause (some p) (some w'))).blurred := by
  cases cause <;> rfl

/-! ### Agreement -/

/-- Two outcomes agree: they answer the same and leave related states, or they fail alike and leave
states that are related in a weaker way. -/
def Agree {α σ : Type} (R E : σ → σ → Prop) (x y : Except Failure α × σ) : Prop :=
  (∃ a s t, x = (.ok a, s) ∧ y = (.ok a, t) ∧ R s t) ∨
    ∃ f g s t, x = (.error f, s) ∧ y = (.error g, t) ∧ f.blurred = g.blurred ∧ E s t

namespace Agree

variable {α σ : Type} {R E : σ → σ → Prop}

theorem fail {f g : Failure} {s t : σ} (hf : f.blurred = g.blurred) (h : E s t) :
    Agree R E ((.error f, s) : Except Failure α × σ) (.error g, t) :=
  Or.inr ⟨f, g, s, t, rfl, rfl, hf, h⟩

theorem outcome_eq {x y : Except Failure α × σ} (h : Agree R E x y) :
    x.1.mapError Failure.blurred = y.1.mapError Failure.blurred := by
  obtain ⟨a, s, t, rfl, rfl, -⟩ | ⟨f, g, s, t, rfl, rfl, hf, -⟩ := h
  · rfl
  · exact congrArg Except.error hf

end Agree

/-! ### Cursors -/

namespace Cursor

/-- Two cursors in order at the same position of the same bytes. -/
structure Twin (c d : Cursor) : Prop where
  /-- The one is in order. -/
  left : c.Sound
  /-- The other is in order. -/
  right : d.Sound
  /-- They have the same bytes left. -/
  remaining_eq : c.remaining = d.remaining
  /-- They stand at the same position. -/
  position_eq : c.position = d.position
  /-- They know the same of a token that has begun. -/
  scanner_eq : c.scanner = d.scanner

theorem Twin.note {c d : Cursor} (h : c.Twin d) (m n : Notice) : (c.note m).Twin (d.note n) :=
  ⟨h.left.note m, h.right.note n, h.remaining_eq, h.position_eq, h.scanner_eq⟩

theorem Twin.ahead {c d c' d' : Cursor} {n : Nat} (h : c.Twin d) (hc : c.Ahead n c')
    (hd : d.Ahead n d') (hs : c'.scanner = d'.scanner) : c'.Twin d' where
  left := hc.sound
  right := hd.sound
  remaining_eq := by rw [hc.remaining_eq, hd.remaining_eq, h.remaining_eq]
  position_eq := by rw [hc.position_eq, hd.position_eq, h.position_eq]
  scanner_eq := hs

theorem Twin.malformed {c d : Cursor} (h : c.Twin d) (cause : Malformation) :
    (c.malformed cause).blurred = (d.malformed cause).blurred := by
  change (Failure.ofStream (.malformed cause (some c.position) (some _))).blurred =
    (Failure.ofStream (.malformed cause (some d.position) (some _))).blurred
  rw [h.position_eq]
  exact Failure.blurred_malformed ..

theorem Twin.locate {c d : Cursor} (h : c.Twin d) (f : StreamFault) :
    (Failure.ofStream (c.locate f)).blurred = (Failure.ofStream (d.locate f)).blurred := by
  cases f with
  | malformed cause p w => exact h.malformed cause
  | ended shortage p expected got =>
    simp only [Cursor.locate, StreamFault.withPosition, StreamFault.withWindow, h.position_eq]
  | unknownLabel label p =>
    simp only [Cursor.locate, StreamFault.withPosition, StreamFault.withWindow, h.position_eq]
  | limit what bound p =>
    simp only [Cursor.locate, StreamFault.withPosition, StreamFault.withWindow, h.position_eq]

end Cursor

/-! ### The coupling -/

/-- Two readings of the same bytes. -/
def Twins : Coupling where
  cursors := Cursor.Twin
  copiers v w := 0 < v.bufferSize ∧ 0 < w.bufferSize
  sinks a b := a = b ∧ a.Willing
  makers a b := a = b ∧ a.Willing
  tallies t u := t = u
  alike f g := f.blurred = g.blurred
  cut _ := False

namespace Twins

/-- The same token is read. -/
theorem readToken {a b : Cursor} (h : a.Twin b) :
    Twins.Meets Cursor.Twin (fun _ _ => True) a.readToken b.readToken := by
  have hsame : b.scanner.scan b.remaining = a.scanner.scan a.remaining := by
    rw [h.scanner_eq, h.remaining_eq]
  cases hscan : a.scanner.scan a.remaining with
  | token t rest =>
    obtain ⟨a', ha, haahead, -, haidle⟩ := Cursor.readToken_of_token h.left hscan
    obtain ⟨b', hb, hbahead, -, hbidle⟩ := Cursor.readToken_of_token h.right (hsame.trans hscan)
    rw [ha, hb]
    rw [← h.remaining_eq] at hbahead
    exact .ok (h.ahead haahead hbahead (haidle.trans hbidle.symm))
  | fail f =>
    obtain ⟨p, w, a', ha⟩ := Cursor.readToken_of_fail h.left hscan
    obtain ⟨q, v, b', hb⟩ := Cursor.readToken_of_fail h.right (hsame.trans hscan)
    rw [ha, hb]
    exact .fail rfl trivial
  | more s =>
    obtain ⟨a', ha⟩ := Cursor.readToken_of_more h.left hscan
    obtain ⟨b', hb⟩ := Cursor.readToken_of_more h.right (hsame.trans hscan)
    rw [ha, hb, h.position_eq, h.remaining_eq]
    exact .fail rfl trivial

/-- The same payload is copied. -/
theorem copy {v w : Copying} (h : Twins.Copyings v w) (size : Nat) :
    Twins.Meets Twins.Copyings (fun _ _ => True) (v.copy size) (w.copy size) := by
  obtain ⟨hcursor, ⟨hv, hw⟩, hsink, hwilling⟩ := h
  have hremaining := hcursor.remaining_eq
  rcases Nat.lt_or_ge v.cursor.remaining.length size with hlt | hle
  · obtain ⟨v', hv'⟩ := Copying.copy_short hcursor.left hwilling hv hlt
    obtain ⟨w', hw'⟩ :=
      Copying.copy_short hcursor.right (hsink ▸ hwilling) hw (hremaining ▸ hlt)
    rw [hv', hw', hcursor.position_eq, hremaining]
    exact .fail rfl trivial
  · obtain ⟨v', hv', hva, hvscan, hvsink, hvsize⟩ :=
      Copying.copy_enough hcursor.left hwilling hv hle
    obtain ⟨w', hw', hwa, hwscan, hwsink, hwsize⟩ :=
      Copying.copy_enough hcursor.right (hsink ▸ hwilling) hw (hremaining ▸ hle)
    rw [hv', hw', hremaining]
    refine .ok ⟨hcursor.ahead hva hwa ?_, ⟨hvsize ▸ hv, hwsize ▸ hw⟩, ?_, ?_⟩
    · rw [hvscan, hwscan, hcursor.scanner_eq]
    · rw [hvsink, hwsink, hsink, hremaining]
    · rw [hvsink]
      exact hwilling.take _

theorem lawful : Twins.Lawful where
  alike_refl _ := rfl
  alike_within {f g} h context := by
    change (f.within context).blurred = (g.within context).blurred
    rw [Failure.blurred_within, Failure.blurred_within, show f.blurred = g.blurred from h]
  cut_within h _ := h
  note h m n := h.note m n
  position_eq h := h.position_eq
  locate h f := h.locate f
  readToken h := readToken h
  copy h size := copy h size
  store := by
    rintro a _ ⟨rfl, hwilling⟩ payload
    exact .inl ⟨_, _, hwilling.store_eq payload, hwilling.store_eq payload, rfl, hwilling.take _⟩
  create := by
    rintro a _ ⟨rfl, hwilling⟩ tag
    obtain ⟨x, a', ha, hx, ha'⟩ | ⟨f, a', ha⟩ := hwilling.create tag
    · exact .inl ⟨x, x, a', a', ha, ha, ⟨rfl, hx⟩, rfl, ha'⟩
    · exact .inr ⟨f, f, a', a', ha, ha, rfl⟩
  sinks_discard := ⟨rfl, Sink.willing_discard⟩
  tallies := by
    rintro t _ rfl f -
    rfl

/-- Readings of the same bytes are never cut off. -/
theorem agree {α σ : Type} {R R' E E' : σ → σ → Prop} {x y : Except Failure α × σ}
    (h : Twins.Meets R E x y) (hr : ∀ s t, R s t → R' s t) (he : ∀ s t, E s t → E' s t) :
    Agree R' E' x y := by
  obtain ⟨a, s, t, hx, hy, hst⟩ | ⟨f, g, s, t, hx, hy, hf, hst⟩ | ⟨g, t, -, hno⟩ := h
  · exact .inl ⟨a, s, t, hx, hy, hr s t hst⟩
  · exact .inr ⟨f, g, s, t, hx, hy, hf, he s t hst⟩
  · exact hno.elim

end Twins

/-! ### Sessions -/

namespace Session

/-- Sessions at the same position of the same bytes that know the same. -/
structure Twin (s t : Session) : Prop where
  /-- The positions. -/
  cursor : s.cursor.Twin t.cursor
  /-- The builders. -/
  assembler_eq : s.assembler = t.assembler
  /-- The copier of the one can move something. -/
  left_pos : 0 < s.copier.bufferSize
  /-- The copier of the other can move something. -/
  right_pos : 0 < t.copier.bufferSize
  /-- The options. -/
  options : s.options.Alike t.options
  /-- The tallies. -/
  tally_eq : s.tally = t.tally
  /-- The builds. -/
  build_eq : s.build = t.build
  /-- The generations. -/
  generation_eq : s.generation = t.generation
  /-- The kinds that wait. -/
  pending_eq : s.pending = t.pending
  /-- The kinds at which they stand. -/
  current_eq : s.current = t.current
  /-- Where the arrays stand. -/
  array_eq : s.array = t.array
  /-- Whether the last brace is read. -/
  exhausted_eq : s.exhausted = t.exhausted

/-- Sessions that added up the same, which is all that is left of twins when they fail. -/
def SameTally (s t : Session) : Prop := s.tally = t.tally

variable {s t : Session}

/-- Sessions in front of the same bytes are twins. -/
theorem twin_start {u v : Supply} {o p : Options} (hu : u.Steady) (hv : v.Steady)
    (hrest : u.rest = v.rest) (ho : o.Alike p) (tally : Tally) :
    (start u o tally).Twin (start v p tally) where
  cursor :=
    ⟨Cursor.sound_start hu _ _, Cursor.sound_start hv _ _,
      congrArg ([] ++ ·) hrest, rfl, rfl⟩
  assembler_eq := by simp only [start, ho.maxDepth_eq]
  left_pos := Nat.lt_of_lt_of_le Nat.zero_lt_one (Nat.le_max_right ..)
  right_pos := Nat.lt_of_lt_of_le Nat.zero_lt_one (Nat.le_max_right ..)
  options := ho
  tally_eq := rfl
  build_eq := rfl
  generation_eq := rfl
  pending_eq := rfl
  current_eq := rfl
  array_eq := rfl
  exhausted_eq := rfl

namespace Twin

theorem sessions (h : s.Twin t) : Twins.Sessions s t :=
  { h with copier := ⟨h.left_pos, h.right_pos⟩, tally := h.tally_eq }

theorem of_sessions (h : Twins.Sessions s t) : s.Twin t :=
  { h with left_pos := h.copier.1, right_pos := h.copier.2, tally_eq := h.tally }

/-- Twins whose options are valid together begin alike. -/
theorem begin (h : s.Twin t) (hv : s.options.validate = t.options.validate) :
    Agree Twin SameTally s.begin t.begin :=
  Twins.agree (h.sessions.begin Twins.lawful hv) (fun _ _ => of_sessions) fun _ _ h => h

end Twin

end Session

end ExportStream

import ExportStream.Proofs.Copying
import ExportStream.Proofs.CoupledReaders
/-!
# Exports that are cut off

An export that is imported to its last byte cannot be cut anywhere without notice: the import of any
front of it fails at the cut, as a stream that ends too soon, and what it has delivered by then is
the beginning of what the whole export delivers (**`Import.run_front`**).

The two imports are coupled (`Truncation`): as long as both go on they stand at one position, and
the whole export has the bytes behind the cut left besides. A reading that ends before the cut ends
alike in both, since a token is known by its bytes and at most one byte behind them; one that does
not end there finds the stream at its end. So a cut import can succeed only where the whole one
never reads behind the cut.
-/

namespace ExportStream

/-- Two cursors in order at one position, of which the second has only `n` bytes in all, and the
first one also those behind them. -/
structure Cursor.Cut (tail : List UInt8) (n : Nat) (a b : Cursor) : Prop where
  /-- The first is in order. -/
  left : a.Sound
  /-- The second is in order. -/
  right : b.Sound
  /-- The bytes behind the cut are left besides. -/
  remaining_eq : a.remaining = b.remaining ++ tail
  /-- They stand at the same position. -/
  position_eq : a.position = b.position
  /-- They know the same of a token that has begun. -/
  scanner_eq : a.scanner = b.scanner
  /-- The second stream ends at the cut. -/
  end_eq : b.position + b.remaining.length = n

/-- The failure of a stream that ends too soon, at this position. -/
def Failure.EndsAt (n : Nat) (f : Failure) : Prop :=
  ∃ shortage expected got, f.cause = .stream (.ended shortage n expected got)

/-- A stream beside its first `n` bytes. -/
def Truncation (tail : List UInt8) (n : Nat) : Coupling where
  cursors := Cursor.Cut tail n
  copiers v w := 0 < v.bufferSize ∧ 0 < w.bufferSize
  sinks a b := a = b ∧ a.Willing
  makers a b := a = b ∧ a.Willing
  tallies _ _ := True
  alike _ _ := True
  cut := Failure.EndsAt n

namespace Truncation

variable {tail : List UInt8} {n : Nat} {a b a' b' : Cursor}

/-- Readings that took the same number of bytes keep the cut. -/
theorem ahead (h : a.Cut tail n b) {m : Nat} (ha : a.Ahead m a') (hb : b.Ahead m b')
    (hs : a'.scanner = b'.scanner) : a'.Cut tail n b' where
  left := ha.sound
  right := hb.sound
  remaining_eq := by
    rw [ha.remaining_eq, hb.remaining_eq, h.remaining_eq,
      List.drop_append_of_le_length hb.le_length]
  position_eq := by rw [ha.position_eq, hb.position_eq, h.position_eq]
  scanner_eq := hs
  end_eq := by
    have hle := hb.le_length
    have hend := h.end_eq
    rw [hb.position_eq, hb.remaining_eq, List.length_drop]
    omega

theorem readToken (h : a.Cut tail n b) :
    (Truncation tail n).Meets (Cursor.Cut tail n) (fun _ _ => True) a.readToken b.readToken := by
  have hwhole : a.scanner.scan a.remaining =
      (b.scanner.scan b.remaining).extend tail := by
    rw [h.scanner_eq, h.remaining_eq, Scanner.scan_append]
  cases hscan : b.scanner.scan b.remaining with
  | token t rest =>
    rw [hscan] at hwhole
    obtain ⟨b', hb, hbahead, hbrest, hbidle⟩ := Cursor.readToken_of_token h.right hscan
    obtain ⟨a', ha, haahead, -, haidle⟩ := Cursor.readToken_of_token h.left hwhole
    have hcount : a.remaining.length - (rest ++ tail).length =
        b.remaining.length - rest.length := by
      rw [h.remaining_eq, List.length_append, List.length_append]
      omega
    rw [hcount] at haahead
    rw [ha, hb]
    exact .ok (ahead h haahead hbahead (haidle.trans hbidle.symm))
  | fail f =>
    rw [hscan] at hwhole
    obtain ⟨p, w, a', ha⟩ := Cursor.readToken_of_fail h.left hwhole
    obtain ⟨q, v, b', hb⟩ := Cursor.readToken_of_fail h.right hscan
    rw [ha, hb]
    exact .fail trivial trivial
  | more s =>
    -- the token is not complete before the cut
    obtain ⟨b', hb⟩ := Cursor.readToken_of_more h.right hscan
    rw [hb, h.end_eq]
    exact .cutOff ⟨_, _, _, rfl⟩

theorem copy {v w : Copying} (h : (Truncation tail n).Copyings v w) (size : Nat) :
    (Truncation tail n).Meets (Truncation tail n).Copyings (fun _ _ => True) (v.copy size)
      (w.copy size) := by
  obtain ⟨hcursor, ⟨hv, hw⟩, hsink, hwilling⟩ := h
  rcases Nat.lt_or_ge w.cursor.remaining.length size with hlt | hle
  · obtain ⟨w', hw'⟩ := Copying.copy_short hcursor.right (hsink ▸ hwilling) hw hlt
    rw [hw', hcursor.end_eq]
    exact .cutOff ⟨_, _, _, rfl⟩
  · have hle' : size ≤ v.cursor.remaining.length := by
      rw [hcursor.remaining_eq, List.length_append]
      omega
    obtain ⟨v', hv', hva, hvscan, hvsink, hvsize⟩ :=
      Copying.copy_enough hcursor.left hwilling hv hle'
    obtain ⟨w', hw', hwa, hwscan, hwsink, hwsize⟩ :=
      Copying.copy_enough hcursor.right (hsink ▸ hwilling) hw hle
    have hsame : v.cursor.remaining.take size = w.cursor.remaining.take size := by
      rw [hcursor.remaining_eq, List.take_append_of_le_length hle]
    rw [hv', hw', hsame]
    refine .ok ⟨ahead hcursor hva hwa ?_, ⟨hvsize ▸ hv, hwsize ▸ hw⟩, ?_, ?_⟩
    · rw [hvscan, hwscan, hcursor.scanner_eq]
    · rw [hvsink, hwsink, hsink, hsame]
    · rw [hvsink]
      exact hwilling.take _

theorem lawful (tail : List UInt8) (n : Nat) : (Truncation tail n).Lawful where
  alike_refl _ := trivial
  alike_within _ _ := trivial
  cut_within hf _ := hf
  note h m n' := { h with left := h.left.note m, right := h.right.note n' }
  position_eq h := h.position_eq
  locate _ _ := trivial
  readToken h := readToken h
  copy h size := copy h size
  store := by
    rintro a _ ⟨rfl, hwilling⟩ payload
    exact .inl ⟨_, _, hwilling.store_eq payload, hwilling.store_eq payload, rfl, hwilling.take _⟩
  create := by
    rintro a _ ⟨rfl, hwilling⟩ tag
    obtain ⟨x, a', ha, hx, ha'⟩ | ⟨f, a', ha⟩ := hwilling.create tag
    · exact .inl ⟨x, x, a', a', ha, ha, ⟨rfl, hx⟩, rfl, ha'⟩
    · exact .inr ⟨f, f, a', a', ha, ha, trivial⟩
  sinks_discard := ⟨rfl, Sink.willing_discard⟩
  tallies _ _ _ := trivial

theorem exact (tail : List UInt8) (n : Nat) : (Truncation tail n).Exact := fun _ _ h => h.1

/-- Sessions in front of a stream and of its first bytes go together. -/
theorem start {u v : Supply} {o p : Options} (hu : u.Steady) (hv : v.Steady)
    (hrest : u.rest = v.rest ++ tail) (ho : o.Alike p) (tally : Tally) :
    (Truncation tail v.rest.length).Sessions (.start u o tally) (.start v p tally) where
  cursor :=
    ⟨Cursor.sound_start hu _ _, Cursor.sound_start hv _ _, hrest, rfl, rfl, Nat.zero_add _⟩
  assembler_eq := by simp only [Session.start, ho.maxDepth_eq]
  copier :=
    ⟨Nat.lt_of_lt_of_le Nat.zero_lt_one (Nat.le_max_right ..),
      Nat.lt_of_lt_of_le Nat.zero_lt_one (Nat.le_max_right ..)⟩
  options := ho
  tally := trivial
  build_eq := rfl
  generation_eq := rfl
  pending_eq := rfl
  current_eq := rfl
  array_eq := rfl
  exhausted_eq := rfl

end Truncation

namespace Import

variable {σ : Type}

/-- **A cut is always reported.** If an export is imported to its last byte, then the import of any
front of it, even of none of it, fails as a stream that ends at the cut; what is delivered before is
the beginning of what is delivered of the whole export, and that is all that the handlers hear,
unless they change their states at the end. -/
theorem run_front {u v : Supply} {o p : Options} (hu : u.Steady) (hv : v.Steady)
    (hfront : v.rest <+: u.rest) (hcut : v.rest ≠ u.rest) (ho : o.Alike p) (hob : 0 < o.bufferSize)
    (how : 0 < o.writeBufferSize) (hpb : 0 < p.bufferSize) (hpw : 0 < p.writeBufferSize)
    {sinks : Sinks} (hsinks : sinks.Willing) (h : Handler σ) (tally : Tally) (state : σ)
    {i : Import σ} (hrun : run u o tally sinks h state = (.ok (), i))
    (hend : i.session.position = u.rest.length) :
    ∃ f j, run v p tally sinks h state = (.error f, j) ∧ f.EndsAt v.rest.length ∧
      deliveries v p tally sinks h state <+: deliveries u o tally sinks h state ∧
      ((∀ st, (h.finalize st).2 = st) →
        i.state = h.hear state (deliveries u o tally sinks h state) ∧
        j.state = h.hear state (deliveries v p tally sinks h state)) := by
  have hwhole := state_run u o tally sinks h state
  have hheard := state_run v p tally sinks h state
  rw [hrun] at hwhole
  obtain ⟨tail, hrest⟩ := hfront
  have hc := Truncation.lawful tail v.rest.length
  have htells : (Truncation tail v.rest.length).Tells (run u o tally sinks h state)
      (run v p tally sinks h state) (deliveries u o tally sinks h state)
      (deliveries v p tally sinks h state) := by
    unfold run deliveries
    obtain ⟨x, s, t, hs, ht, h₁⟩ | ⟨f, g, s, t, hs, ht, hf, he⟩ | ⟨g, t, ht, hg⟩ :=
      (Truncation.start hu hv hrest.symm ho tally).begin hc (ho.validate_eq hob how hpb hpw)
    · rw [hs, ht]
      exact Coupling.Imports.drive h ⟨h₁, ⟨rfl, hsinks⟩, rfl⟩ hc (Truncation.exact _ _)
    · rw [hs, ht]
      exact ⟨.fail hf ⟨he, rfl⟩, .inl rfl⟩
    · rw [ht]
      exact ⟨.cutOff hg, .of_cut hg _ _⟩
  obtain ⟨hmeets, hevents⟩ := htells
  obtain ⟨j, hj, hij⟩ | ⟨f, j, hj, hf⟩ := hmeets.of_ok hrun
  · -- the cut import cannot stand behind its last byte
    have hposition := hij.session.position_eq hc
    have hcursors := hij.session.cursor.end_eq
    have htail : tail ≠ [] := by
      rintro rfl
      exact hcut (by rw [← hrest, List.append_nil])
    have hlen := List.length_pos_iff.mpr htail
    rw [hend, ← hrest, List.length_append] at hposition
    unfold Session.position at hposition
    omega
  · rw [hj] at hheard
    exact ⟨f, j, hj, hf, hevents.begins, fun hkeeps => ⟨hwhole hkeeps, hheard hkeeps⟩⟩

/-- The bytes `{"Docs":[]}` and all of them but the last, which come one by one. -/
theorem run_front_without_last_brace :
    let data : List UInt8 := [123, 34, 68, 111, 99, 115, 34, 58, 91, 93]
    let u : Supply := { rest := data ++ [125] }
    let v : Supply := { rest := data, portions := [1] }
    ∃ i f j, run u {} {} .memory Collection.handler {} = (.ok (), i) ∧
      i.session.position = u.rest.length ∧
      run v {} {} .memory Collection.handler {} = (.error f, j) ∧ f.EndsAt 10 ∧
      j.state = Collection.handler.hear {} (deliveries v {} {} .memory Collection.handler {}) := by
  intro data u v
  have hdone : (run u {} {} .memory Collection.handler {}).1.isOk = true ∧
      (run u {} {} .memory Collection.handler {}).2.session.position = 11 := by decide +kernel
  rcases hrun : run u {} {} .memory Collection.handler {} with ⟨f | _, i⟩
  · rw [hrun] at hdone
    cases hdone.1
  rw [hrun] at hdone
  obtain ⟨f, j, hj, hf, -, hstates⟩ :=
    run_front (u := u) (v := v) (by simp [Supply.Steady, u]) (by simp [Supply.Steady, v])
      ⟨[125], rfl⟩ (by decide) (Options.Alike.refl {}) (by decide) (by decide) (by decide)
      (by decide) Sinks.willing_memory_all Collection.handler {} {} hrun hdone.2
  exact ⟨i, f, j, rfl, hdone.2, hj, hf, (hstates fun _ => rfl).2⟩

end Import

end ExportStream

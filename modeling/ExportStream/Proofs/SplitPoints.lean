import ExportStream.Proofs.CoupledReaders
import ExportStream.Proofs.Twins
/-!
# Where a stream is split does not matter

The same bytes can come in portions of any size, with interruptions between them, through buffers of
any size. An import tells the same events at the same positions, ends with the same tally and the
same state of its handler, and has the same outcome (**`Import.run_eq_of_split`**); only the window
that a failure shows, and the position of a token that is refused, depend on how the stream was read
(`Failure.blurred`).

Two such imports are coupled (`Twins`), so nothing more has to be shown of readers and of the loops
over records and kinds than what holds of every coupling.
-/

namespace ExportStream

theorem Twins.exact : Twins.Exact := fun _ _ h => h.1

namespace Import

variable {σ : Type}

/-- Imports at work whose sessions are twins, and which know the same besides. -/
structure Beside (i j : Import σ) : Prop where
  /-- The sessions. -/
  twin : i.session.Twin j.session
  /-- The sinks that are still to be made. -/
  sinks_eq : i.sinks = j.sinks
  /-- They take every offer. -/
  willing : i.sinks.Willing
  /-- The states of the handlers. -/
  state_eq : i.state = j.state

/-- Imports that have told and added up the same. -/
structure SameResult (i j : Import σ) : Prop where
  /-- What was added up. -/
  tally_eq : i.session.tally = j.session.tally
  /-- The states of the handlers. -/
  state_eq : i.state = j.state

theorem Beside.sameResult {i j : Import σ} (h : i.Beside j) : i.SameResult j :=
  ⟨h.twin.tally_eq, h.state_eq⟩

variable {i j : Import σ} (h : Handler σ)

theorem Beside.imports (hij : i.Beside j) : Twins.Imports i j :=
  ⟨hij.twin.sessions, ⟨hij.sinks_eq, hij.willing⟩, hij.state_eq⟩

theorem Beside.of_imports (hij : Twins.Imports i j) : i.Beside j :=
  ⟨.of_sessions hij.session, hij.sinks.1, hij.sinks.2, hij.state_eq⟩

/-- Twins are taken to the same end. -/
theorem drive_agree (hij : i.Beside j) :
    Agree Beside SameResult (i.drive h) (j.drive h) ∧
      i.deliveriesToEnd h = j.deliveriesToEnd h := by
  obtain ⟨hmeets, hevents⟩ := hij.imports.drive h Twins.lawful Twins.exact
  refine ⟨Twins.agree hmeets (fun _ _ => .of_imports) fun _ _ he => ⟨he.tally, he.state_eq⟩, ?_⟩
  obtain heq | ⟨-, g, j', -, hno⟩ := hevents
  · exact heq
  · exact hno.elim

/-- **Where a stream is split does not matter.** Two imports of the same bytes, in whatever portions
and with whatever interruptions and buffers, have the same outcome but for what `Failure.blurred`
leaves out, the same tally and the same state of the handler, and hand over the same events at the
same positions; these events are all that the handler hears, unless it changes its state at the end.
-/
theorem run_eq_of_split {u v : Supply} {o p : Options} (hu : u.Steady) (hv : v.Steady)
    (hrest : u.rest = v.rest) (ho : o.Alike p) (hob : 0 < o.bufferSize)
    (how : 0 < o.writeBufferSize) (hpb : 0 < p.bufferSize) (hpw : 0 < p.writeBufferSize)
    {sinks : Sinks} (hsinks : sinks.Willing) (tally : Tally) (state : σ) :
    (run u o tally sinks h state).1.mapError Failure.blurred =
        (run v p tally sinks h state).1.mapError Failure.blurred ∧
      (run u o tally sinks h state).2.session.tally = (run v p tally sinks h state).2.session.tally ∧
      (run u o tally sinks h state).2.state = (run v p tally sinks h state).2.state ∧
      deliveries u o tally sinks h state = deliveries v p tally sinks h state ∧
      ((∀ st, (h.finalize st).2 = st) →
        (run u o tally sinks h state).2.state =
          h.hear state (deliveries u o tally sinks h state)) := by
  have htwin := Session.twin_start hu hv hrest ho tally
  have hvalid := ho.validate_eq hob how hpb hpw
  have hheard := state_run u o tally sinks h state
  suffices hagree : Agree Beside SameResult (run u o tally sinks h state)
      (run v p tally sinks h state) ∧
      deliveries u o tally sinks h state = deliveries v p tally sinks h state by
    obtain ⟨hrun, hevents⟩ := hagree
    have hsame : (run u o tally sinks h state).2.SameResult (run v p tally sinks h state).2 := by
      obtain ⟨a, s, t, hs, ht, hr⟩ | ⟨f, g, s, t, hs, ht, -, he⟩ := hrun
      · rw [hs, ht]
        exact hr.sameResult
      · rw [hs, ht]
        exact he
    exact ⟨hrun.outcome_eq, hsame.tally_eq, hsame.state_eq, hevents, hheard⟩
  unfold run deliveries
  obtain ⟨x, s, t, hs, ht, h₁⟩ | ⟨f, g, s, t, hs, ht, hf, he⟩ := htwin.begin hvalid
  · rw [hs, ht]
    exact drive_agree h ⟨h₁, rfl, hsinks, rfl⟩
  · rw [hs, ht]
    exact ⟨.fail hf ⟨he, rfl⟩, rfl⟩

/-- The bytes `{"Docs":[1,tru]`, whose last word is cut off, as a whole and one by one with two
interruptions, the second of them inside the label. -/
theorem run_eq_of_interrupted_label :
    let data : List UInt8 := [123, 34, 68, 111, 99, 115, 34, 58, 91, 49, 44, 116, 114, 117, 93]
    let u : Supply := { rest := data }
    let v : Supply :=
      { rest := data, portions := [1],
        faults := [⟨0, .interrupted, "again"⟩, ⟨4, .interrupted, "again"⟩] }
    let p : Options := { bufferSize := 1, writeBufferSize := 2, diagnosticWindow := 0 }
    u.Steady ∧ v.Steady ∧ Options.Alike {} p ∧
      (run u {} {} .memory Collection.handler {}).1.mapError Failure.blurred =
        (run v p {} .memory Collection.handler {}).1.mapError Failure.blurred ∧
      (run u {} {} .memory Collection.handler {}).2.state =
        (run v p {} .memory Collection.handler {}).2.state ∧
      deliveries u {} {} .memory Collection.handler {} =
        deliveries v p {} .memory Collection.handler {} := by
  intro data u v p
  have hu : u.Steady := by simp [Supply.Steady, u]
  have hv : v.Steady := by simp [Supply.Steady, v]
  have ho : Options.Alike {} p := ⟨rfl, rfl, rfl, rfl, rfl⟩
  obtain ⟨houtcome, -, hstate, hevents, -⟩ :=
    run_eq_of_split Collection.handler hu hv rfl ho (by decide) (by decide) (by decide) (by decide)
      Sinks.willing_memory_all {} {}
  exact ⟨hu, hv, ho, houtcome, hstate, hevents⟩

end Import

end ExportStream

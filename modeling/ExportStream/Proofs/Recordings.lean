import ExportStream.Proofs.Rounds
import Mathlib.Tactic.SplitIfs
/-!
# What a handler is asked

An import knows its handler by what that answers. So a handler whose states stand for the states of
another one, and which answers as that one does, makes the same import (`Handler.Maps`,
`Import.drive_map`).

A recorded handler answers as before and writes down every call with its answer
(`Handler.recorded`): recording changes nothing about an import (**`Import.drive_recorded`**), and
what a handler makes of the events alone can be read off the calls (`Handler.maps_ofFold`).
-/

namespace ExportStream

variable {σ τ : Type}

/-! ### Handlers that stand for each other -/

/-- The second handler answers as the first one does, in the states that stand for its states. -/
structure Handler.Maps (f : σ → τ) (h : Handler σ) (g : Handler τ) : Prop where
  /-- Events. -/
  handle_eq : ∀ e st, g.handle e (f st) = ((h.handle e st).1, f (h.handle e st).2)
  /-- The kinds that are wanted. -/
  wants_eq : ∀ k st, g.wants k (f st) = h.wants k st
  /-- What is done when all went well. -/
  finalize_eq : ∀ st, g.finalize (f st) = ((h.finalize st).1, f (h.finalize st).2)

namespace Import

/-- The import with the state that stands for that of its handler. -/
def map (f : σ → τ) (i : Import σ) : Import τ where
  session := i.session
  sinks := i.sinks
  state := f i.state

variable {f : σ → τ} {h : Handler σ} {g : Handler τ}

theorem tell_map (hm : Handler.Maps f h g) (i : Import σ) (e : Event) :
    (i.map f).tell g e = Prod.map id (map f) (i.tell h e) := by
  unfold tell
  rw [map, hm.handle_eq]
  rfl

theorem deliver_map (hm : Handler.Maps f h g) (i : Import σ) (k : Kind) (r : Reader) :
    (i.map f).deliver g k r = Prod.map id (map f) (i.deliver h k r) := by
  fun_induction deliver i h k r with
  | case1 i r r' s hp =>
    rw [deliver_eq (i.map f), map, hp]
    rfl
  | case2 i r e r' s hp =>
    rw [deliver_eq (i.map f), map, hp]
    rfl
  | case3 i r x r' s hp e st hh =>
    rw [deliver_eq (i.map f), map, hp]
    simp only [hm.handle_eq, hh]
    rfl
  | case4 i r x r' s hp st hh ih =>
    rw [deliver_eq (i.map f), map, hp]
    simp only [hm.handle_eq, hh]
    exact ih

theorem takeKind_map (hm : Handler.Maps f h g) (i : Import σ) (k : Kind) :
    (i.map f).takeKind g k = Prod.map id (map f) (i.takeKind h k) := by
  have hwants : g.wants k (i.map f).state = h.wants k i.state := hm.wants_eq k i.state
  unfold takeKind
  rw [hwants]
  split_ifs
  · exact deliver_map hm i k _
  · rfl

theorem takeKinds_map (hm : Handler.Maps f h g) (i : Import σ) :
    (i.map f).takeKinds g = Prod.map id (map f) (i.takeKinds h) := by
  have htake {i i' : Import σ} {k : Kind} {s : Session} {e : Except Failure Unit}
      (ht : ({ i with session := s } : Import σ).takeKind h k = (e, i')) :
      ({ i.map f with session := s } : Import τ).takeKind g k = (e, i'.map f) := by
    have hmap := takeKind_map hm { i with session := s } k
    rw [ht] at hmap
    exact hmap
  fun_induction takeKinds i h with
  | case1 i e s hn =>
    rw [takeKinds_eq (i.map f), map, hn]
    rfl
  | case2 i s hn =>
    rw [takeKinds_eq (i.map f), map, hn]
    rfl
  | case3 i k s hn e i' ht =>
    rw [takeKinds_eq (i.map f)]
    simp only [show (i.map f).session.nextKind = (.ok (some k), s) from hn, htake ht]
    rfl
  | case4 i k s hn i' ht ih =>
    rw [takeKinds_eq (i.map f)]
    simp only [show (i.map f).session.nextKind = (.ok (some k), s) from hn, htake ht]
    exact ih

theorem drive_map (hm : Handler.Maps f h g) (i : Import σ) :
    (i.map f).drive g = Prod.map id (map f) (i.drive h) := by
  have hheader : (i.map f).tell g (.header (i.map f).session.build (i.map f).session.generation) =
      Prod.map id (map f) (i.tell h (.header i.session.build i.session.generation)) :=
    tell_map hm i _
  unfold drive
  rw [hheader]
  rcases i.tell h (.header i.session.build i.session.generation) with ⟨e | _, i₁⟩
  · rfl
  simp only [Prod.map, id]
  rw [takeKinds_map hm]
  rcases i₁.takeKinds h with ⟨e | _, i₂⟩
  · rfl
  simp only [Prod.map, id]
  rw [tell_map hm]
  rcases i₂.tell h .finish with ⟨e | _, i₃⟩
  · rfl
  simp only [Prod.map, id, map, hm.finalize_eq]
  rcases h.finalize i₃.state with ⟨e | _, st⟩ <;> rfl

/-- **Handlers that stand for each other make the same import.** -/
theorem run_map (hm : Handler.Maps f h g) (supply : Supply) (options : Options) (tally : Tally)
    (sinks : Sinks) (state : σ) :
    run supply options tally sinks g (f state) =
      Prod.map id (map f) (run supply options tally sinks h state) := by
  unfold run
  rcases (Session.start supply options tally).begin with ⟨e | _, s⟩
  · rfl
  · exact drive_map hm { session := s, sinks, state }

end Import

/-! ### Calls -/

/-- What a handler was asked, and what it answered. -/
inductive Call where
  /-- It was told an event. -/
  | told (e : Event) (answer : Except Failure Unit)
  /-- It was to do what it does when all went well. -/
  | finalized (answer : Except Failure Unit)

namespace Call

/-- What the handler answered. -/
def answer : Call → Except Failure Unit
  | .told _ answer => answer
  | .finalized answer => answer

/-- The event that the handler was told. -/
def event? : Call → Option Event
  | .told e _ => some e
  | .finalized _ => none

/-- Was the handler told a record of the kind? -/
def isRecord (k : Kind) (c : Call) : Bool := c.event?.bind Event.kind = some k

end Call

/-- The handler that writes down every call behind those before. -/
def Handler.recorded (h : Handler σ) : Handler (σ × List Call) where
  handle e st :=
    match h.handle e st.1 with
    | (r, state) => (r, state, st.2 ++ [.told e r])
  wants k st := h.wants k st.1
  finalize st :=
    match h.finalize st.1 with
    | (r, state) => (r, state, st.2 ++ [.finalized r])

theorem Handler.recorded_maps (h : Handler σ) : Handler.Maps Prod.fst h.recorded h where
  handle_eq _ _ := rfl
  wants_eq _ _ := rfl
  finalize_eq _ := rfl

/-- What a recorded handler writes down when it is told an event. -/
theorem Handler.handle_recorded {h : Handler σ} {e : Event} {st st' : σ × List Call}
    {r : Except Failure Unit} (hh : h.recorded.handle e st = (r, st')) :
    st'.2 = st.2 ++ [.told e r] := by
  cases hh
  rfl

/-- A handler that hears and does nothing. -/
def Handler.silent : Handler Unit := .ofFold fun _ st => st

/-- What a handler makes of the events, starting from a state, can be read off the calls. -/
theorem Handler.maps_ofFold (step : Event → τ → τ) (start : τ) :
    Handler.Maps
      (fun st : Unit × List Call => (st.2.filterMap Call.event?).foldl (fun a e => step e a) start)
      Handler.silent.recorded (.ofFold step) where
  handle_eq e st := by
    simp [recorded, silent, ofFold, Call.event?]
  wants_eq _ _ := rfl
  finalize_eq st := by
    have hno : [Call.finalized (.ok ())].filterMap Call.event? = [] := rfl
    simp [recorded, silent, ofFold, hno]

namespace Import

/-- The import whose handler writes down every call from now on. -/
def recording (i : Import σ) : Import (σ × List Call) where
  session := i.session
  sinks := i.sinks
  state := (i.state, [])

/-- What a handler is asked while a session is taken to the end of its export. -/
def asked (i : Import σ) (h : Handler σ) : List Call := (i.recording.drive h.recorded).2.state.2

/-- **Recording changes nothing**: the outcome, the session, the sinks and the state of the handler
are those of the import whose handler writes nothing down. -/
theorem drive_recorded (i : Import σ) (h : Handler σ) :
    Prod.map id (map Prod.fst) (i.recording.drive h.recorded) = i.drive h :=
  (drive_map h.recorded_maps i.recording).symm

end Import

end ExportStream

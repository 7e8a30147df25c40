import ExportStream.Session.Envelope
import ExportStream.Session.Event
import ExportStream.Session.Reader
/-!
# Whole imports

An import takes a session to the end of its export: kind after kind, the records that are wanted go
to a handler and all others are passed over. It ends early with the first failure, of the stream, of
a sink or of the handler.
-/

namespace ExportStream

/-- An import at work. -/
structure Import (σ : Type) where
  /-- The session. -/
  session : Session
  /-- Where payloads go. -/
  sinks : Sinks
  /-- The state of the handler. -/
  state : σ

namespace Import

variable {σ : Type}

/-- Hands an event to the handler. -/
def tell (i : Import σ) (h : Handler σ) (e : Event) : Except Failure Unit × Import σ :=
  match h.handle e i.state with
  | (r, state) => (r, { i with state })

/-- Hands the records of a reader to the handler, as records of the kind `k`. -/
def deliver (i : Import σ) (h : Handler σ) (k : Kind) (r : Reader) :
    Except Failure Unit × Import σ :=
  match _h : r.poll i.session with
  | (none, r, session) => (.ok (), { i with session, sinks := r.staging.sinks })
  | (some (.error f), r, session) => (.error f, { i with session, sinks := r.staging.sinks })
  | (some (.ok x), r, session) =>
    match h.handle (.record k x) i.state with
    | (.error f, state) => (.error f, { i with session, state, sinks := r.staging.sinks })
    | (.ok (), state) => deliver { i with session, state } h k r
termination_by i.session.fuel
decreasing_by exact (Reader.spent_poll _h).fuel_lt

/-- Hands the records of the current kind to the handler, or passes over them if they are not
wanted. -/
def takeKind (i : Import σ) (h : Handler σ) (k : Kind) : Except Failure Unit × Import σ :=
  if h.wants k i.state then i.deliver h k (.start i.session k i.sinks)
  else
    match i.session.skipKind (some k) with
    | (r, _, session) => (r, { i with session })

/-- Records are delivered from what is left. -/
theorem spent_deliver {i i' : Import σ} {h : Handler σ} {k : Kind} {r : Reader}
    (hd : i.deliver h k r = (.ok (), i')) : i.session.Spent 0 i'.session := by
  fun_induction deliver i h k r with
  | case1 i r r1 s1 h1 =>
    simp only [Prod.mk.injEq] at hd
    rw [← hd.2]
    exact Reader.spent_poll_none h1
  | case2 => simp at hd
  | case3 => simp at hd
  | case4 i r x r1 s1 h1 state h2 ih =>
    exact ((Reader.spent_poll h1).trans (ih hd)).weaken (by omega)

/-- A kind is taken from what is left. -/
theorem spent_takeKind {i i' : Import σ} {h : Handler σ} {k : Kind}
    (ht : i.takeKind h k = (.ok (), i')) : i.session.Spent 0 i'.session := by
  unfold takeKind at ht
  split at ht
  · exact spent_deliver ht
  · next hs =>
    simp only [Prod.mk.injEq] at ht
    rw [← ht.2]
    have hk : i.session.skipKind (some k) =
        (.ok (), (i.session.skipKind (some k)).2.1, (i.session.skipKind (some k)).2.2) :=
      Prod.ext ht.1 rfl
    exact Session.spent_skipKind hk

/-- Takes kind after kind up to the end of the export. -/
def takeKinds (i : Import σ) (h : Handler σ) : Except Failure Unit × Import σ :=
  match _h : i.session.nextKind with
  | (.error f, session) => (.error f, { i with session })
  | (.ok none, session) => (.ok (), { i with session })
  | (.ok (some k), session) =>
    match _h' : ({ i with session } : Import σ).takeKind h k with
    | (.error f, i') => (.error f, i')
    | (.ok (), i') => takeKinds i' h
termination_by i.session.kindFuel
decreasing_by
  exact Nat.lt_of_le_of_lt (spent_takeKind _h').kindFuel_le (Session.kindFuel_nextKind _h)

/-- Tells that the import came to its end. -/
def conclude (i : Import σ) : Import σ :=
  let t := i.session.tally
  { i with
    session := i.session.note
      (.completed i.session.bytesRead t.totalRead t.totalErrored t.attachments) }

/-- Takes a session to the end of its export. -/
def drive (i : Import σ) (h : Handler σ) : Except Failure Unit × Import σ :=
  match i.tell h (.header i.session.build i.session.generation) with
  | (.error f, i) => (.error f, i)
  | (.ok (), i) =>
    match i.takeKinds h with
    | (.error f, i) => (.error f, i)
    | (.ok (), i) =>
      match i.tell h .finish with
      | (.error f, i) => (.error f, i)
      | (.ok (), i) =>
        match h.finalize i.state with
        | (.error f, state) => (.error f, { i with state })
        | (.ok (), state) => (.ok (), ({ i with state } : Import σ).conclude)

/-- Opens an export and takes it to its end. -/
def run (supply : Supply) (options : Options) (tally : Tally) (sinks : Sinks) (h : Handler σ)
    (state : σ) : Except Failure Unit × Import σ :=
  match (Session.start supply options tally).begin with
  | (.error f, session) => (.error f, { session, sinks, state })
  | (.ok (), session) => ({ session, sinks, state } : Import σ).drive h

end Import

end ExportStream

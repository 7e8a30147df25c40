import ExportStream.Proofs.Rounds
import Mathlib.Tactic.SplitIfs
/-!
# What an import delivers

An import hands its events to a handler one by one. Here they are listed, each with the position in
the stream at which it is handed over (`Import.deliveries`). The lists follow the import round by
round; that they miss nothing is said by the state of the handler, which is what it makes of the
listed events (`Import.state_run`).
-/

namespace ExportStream

/-- An event, and the position at which it is handed over. -/
abbrev Delivery := Nat × Event

namespace Handler

variable {σ : Type}

/-- The state of a handler after the events. -/
def hear (h : Handler σ) (state : σ) (events : List Delivery) : σ :=
  events.foldl (fun st e => (h.handle e.2 st).2) state

@[simp] theorem hear_nil (h : Handler σ) (state : σ) : h.hear state [] = state := rfl

@[simp] theorem hear_cons (h : Handler σ) (state : σ) (e : Delivery) (events : List Delivery) :
    h.hear state (e :: events) = h.hear (h.handle e.2 state).2 events := rfl

@[simp] theorem hear_append (h : Handler σ) (state : σ) (a b : List Delivery) :
    h.hear state (a ++ b) = h.hear (h.hear state a) b := List.foldl_append

end Handler

namespace Import

variable {σ : Type}

/-- What is handed over of the records of a reader. -/
def deliveriesOf (i : Import σ) (h : Handler σ) (k : Kind) (r : Reader) : List Delivery :=
  match _h : r.poll i.session with
  | (none, _, _) => []
  | (some (.error _), _, _) => []
  | (some (.ok x), r, session) =>
    (session.position, .record k x) ::
      match h.handle (.record k x) i.state with
      | (.error _, _) => []
      | (.ok (), state) => deliveriesOf { i with session, state } h k r
termination_by i.session.fuel
decreasing_by exact (Reader.spent_poll _h).fuel_lt

/-- What is handed over of the records of the current kind. -/
def deliveriesOfKind (i : Import σ) (h : Handler σ) (k : Kind) : List Delivery :=
  if h.wants k i.state then i.deliveriesOf h k (.start i.session k i.sinks) else []

/-- What is handed over of kind after kind. -/
def deliveriesOfKinds (i : Import σ) (h : Handler σ) : List Delivery :=
  match _h : i.session.nextKind with
  | (.error _, _) => []
  | (.ok none, _) => []
  | (.ok (some k), session) =>
    ({ i with session } : Import σ).deliveriesOfKind h k ++
      match _h' : ({ i with session } : Import σ).takeKind h k with
      | (.error _, _) => []
      | (.ok (), i') => deliveriesOfKinds i' h
termination_by i.session.kindFuel
decreasing_by
  exact Nat.lt_of_le_of_lt (spent_takeKind _h').kindFuel_le (Session.kindFuel_nextKind _h)

/-- What is handed over while a session is taken to the end of its export. -/
def deliveriesToEnd (i : Import σ) (h : Handler σ) : List Delivery :=
  (i.session.position, .header i.session.build i.session.generation) ::
    match i.tell h (.header i.session.build i.session.generation) with
    | (.error _, _) => []
    | (.ok (), i) =>
      i.deliveriesOfKinds h ++
        match i.takeKinds h with
        | (.error _, _) => []
        | (.ok (), i) => [(i.session.position, .finish)]

/-- What is handed over while an export is opened and taken to its end. -/
def deliveries (supply : Supply) (options : Options) (tally : Tally) (sinks : Sinks)
    (h : Handler σ) (state : σ) : List Delivery :=
  match (Session.start supply options tally).begin with
  | (.error _, _) => []
  | (.ok (), session) => ({ session, sinks, state } : Import σ).deliveriesToEnd h

/-! ### One round at a time -/

theorem deliveriesOf_eq (i : Import σ) (h : Handler σ) (k : Kind) (r : Reader) :
    i.deliveriesOf h k r =
      match r.poll i.session with
      | (none, _, _) => []
      | (some (.error _), _, _) => []
      | (some (.ok x), r, session) =>
        (session.position, .record k x) ::
          match h.handle (.record k x) i.state with
          | (.error _, _) => []
          | (.ok (), state) => deliveriesOf { i with session, state } h k r := by
  rw [deliveriesOf]
  rcases r.poll i.session with ⟨_ | f | x, r', session⟩ <;> rfl

theorem deliveriesOfKinds_eq (i : Import σ) (h : Handler σ) :
    i.deliveriesOfKinds h =
      match i.session.nextKind with
      | (.error _, _) => []
      | (.ok none, _) => []
      | (.ok (some k), session) =>
        ({ i with session } : Import σ).deliveriesOfKind h k ++
          match ({ i with session } : Import σ).takeKind h k with
          | (.error _, _) => []
          | (.ok (), i') => deliveriesOfKinds i' h := by
  rw [deliveriesOfKinds]
  rcases i.session.nextKind with ⟨f | _ | k, session⟩
  · rfl
  · rfl
  · simp only
    rcases ({ i with session } : Import σ).takeKind h k with ⟨f | _, i'⟩ <;> rfl

/-! ### Nothing is missed -/

theorem state_deliver (i : Import σ) (h : Handler σ) (k : Kind) (r : Reader) :
    (i.deliver h k r).2.state = h.hear i.state (i.deliveriesOf h k r) := by
  fun_induction deliver i h k r with
  | case1 i r r' session hp => rw [deliveriesOf_eq, hp]; rfl
  | case2 i r f r' session hp => rw [deliveriesOf_eq, hp]; rfl
  | case3 i r x r' session hp f state hh =>
    rw [deliveriesOf_eq, hp]
    simp [hh]
  | case4 i r x r' session hp state hh ih =>
    rw [deliveriesOf_eq, hp, ih]
    simp [hh]

theorem state_takeKind (i : Import σ) (h : Handler σ) (k : Kind) :
    (i.takeKind h k).2.state = h.hear i.state (i.deliveriesOfKind h k) := by
  unfold takeKind deliveriesOfKind
  split_ifs
  · exact state_deliver ..
  · rfl

theorem state_takeKinds (i : Import σ) (h : Handler σ) :
    (i.takeKinds h).2.state = h.hear i.state (i.deliveriesOfKinds h) := by
  fun_induction takeKinds i h with
  | case1 i f session hn => rw [deliveriesOfKinds_eq, hn]; rfl
  | case2 i session hn => rw [deliveriesOfKinds_eq, hn]; rfl
  | case3 i k session hn f i' ht =>
    have hstate := state_takeKind { i with session } h k
    rw [ht] at hstate
    rw [deliveriesOfKinds_eq, hn]
    simpa [ht] using hstate
  | case4 i k session hn i' ht ih =>
    have hstate := state_takeKind { i with session } h k
    rw [ht] at hstate
    simp only at hstate
    rw [ih, deliveriesOfKinds_eq i, hn]
    simp [ht, hstate]

theorem state_tell (i : Import σ) (h : Handler σ) (e : Event) :
    (i.tell h e).2.state = (h.handle e i.state).2 := rfl

theorem state_drive (i : Import σ) (h : Handler σ) (hf : ∀ st, (h.finalize st).2 = st) :
    (i.drive h).2.state = h.hear i.state (i.deliveriesToEnd h) := by
  unfold drive deliveriesToEnd
  have hheader := state_tell i h (.header i.session.build i.session.generation)
  rcases ht : i.tell h (.header i.session.build i.session.generation) with ⟨f | _, i₁⟩
  · rw [ht] at hheader
    simpa using hheader
  have hkinds := state_takeKinds i₁ h
  rw [ht] at hheader
  simp only at hheader ⊢
  rcases hk : i₁.takeKinds h with ⟨f | _, i₂⟩
  · rw [hk] at hkinds
    simpa [hheader] using hkinds
  have hfinish := state_tell i₂ h .finish
  rw [hk] at hkinds
  simp only at hkinds ⊢
  rcases he : i₂.tell h .finish with ⟨f | _, i₃⟩
  · rw [he] at hfinish
    simpa [hkinds, hheader] using hfinish
  have hstay := hf i₃.state
  rw [he] at hfinish
  simp only at hfinish ⊢
  rcases hz : h.finalize i₃.state with ⟨f | _, st⟩
  · rw [hz] at hstay
    simp only at hstay
    simp [hstay, hfinish, hkinds, hheader]
  · rw [hz] at hstay
    simp only at hstay
    simp [conclude, hstay, hfinish, hkinds, hheader]

/-- **The handler hears what is listed**, and nothing else; what it does when all went well comes
after that. -/
theorem state_run (supply : Supply) (options : Options) (tally : Tally) (sinks : Sinks)
    (h : Handler σ) (state : σ) (hf : ∀ st, (h.finalize st).2 = st) :
    (run supply options tally sinks h state).2.state =
      h.hear state (deliveries supply options tally sinks h state) := by
  unfold run deliveries
  rcases (Session.start supply options tally).begin with ⟨f | _, session⟩
  · rfl
  · exact state_drive _ h hf

end Import

end ExportStream

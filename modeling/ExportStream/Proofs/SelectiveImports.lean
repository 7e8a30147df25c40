import ExportStream.Proofs.ChosenWalks
/-!
# Imports that want some kinds only

An import whose handler wants some kinds only is a walk (`Import.takeKinds_walk`): it reads the
arrays of the kinds that are wanted and skips the others at once. So it is compared with the import
whose handler wants everything as walks are: it delivers the events of that one that it wants, and it
counts the same for the kinds that it wants (`Passing.drive_drive`).

Sinks can depend on how often a sink was asked for before, and whoever passes over an array asks for
fewer. Records are therefore compared without their sinks (`Record.bare`), and with them where the
sink of a tag is always the same (`Sinks.Uniform`).
-/

namespace ExportStream

/-! ### Without sinks -/

/-- The record, without the sinks that took its payloads. -/
def Record.bare : Record → Record
  | .document d =>
    .document { d with attachments := d.attachments.map fun a => { a with sink := .discard } }
  | .legacyAttachment a => .legacyAttachment { a with sink := .discard }
  | r => r

/-- The stop, without the sinks of its records. -/
def Stop.bare (a : Stop) : Stop := { a with records := a.records.map fun p => (p.1, p.2.bare) }

/-- The event, without the sinks of its record. -/
def Event.bare : Event → Event
  | .record k r => .record k r.bare
  | e => e

/-- The delivery, without the sinks of its record. -/
def Delivery.bare (e : Delivery) : Delivery := (e.1, e.2.bare)

/-- Does an event belong to no kind, or to one that is wanted? -/
def Delivery.isWanted (wanted : Kind → Bool) (e : Delivery) : Bool := e.2.kind.all wanted

/-- Records that go together differ at most in their sinks. -/
theorem Coupling.Records.bare_eq {c : Coupling} {r q : Record} (h : c.Records r q) :
    r.bare = q.bare := by
  cases h with
  | document d h =>
    have hbare := map_eq (f := fun a : Attachment => { a with sink := .discard })
      (fun _ _ hab => by rw [hab.eq_but]) h
    unfold Record.bare
    simp only [hbare]
  | legacyAttachment a h => rfl
  | same r => rfl

/-! ### Imports as walks -/

/-- A handler that takes every event, and that wants these kinds at all times. -/
structure Handler.Takes {σ : Type} (h : Handler σ) (wanted : Kind → Bool) : Prop where
  /-- No event is refused. -/
  handle_ok : ∀ e state, (h.handle e state).1 = .ok ()
  /-- The kinds that are wanted. -/
  wants_eq : ∀ k state, h.wants k state = wanted k
  /-- Nor is the end. -/
  finalize_ok : ∀ state, (h.finalize state).1 = .ok ()

/-- What is done with an array if these kinds are wanted. -/
def Choice.ofWanted (wanted : Kind → Bool) (k : Kind) : Choice := if wanted k then .all else .pass 0

/-- The records of the stop are of its kind. -/
def Stop.Own (a : Stop) : Prop := ∀ p ∈ a.records, p.2.kindAs a.kind = a.kind

/-- What is handed over at a stop. -/
def Stop.deliveries (a : Stop) : List Delivery := a.records.map fun p => (p.1, .record a.kind p.2)

namespace Import

variable {σ : Type} {h : Handler σ} {wanted : Kind → Bool}

/-- The records of a reader are delivered as they are read, and are of the kind of the array. -/
theorem deliver_read (hh : h.Takes wanted) (i : Import σ) (k : Kind) {r : Reader}
    (hr : r.kind = some k) :
    ∃ e records q s state, r.read none i.session = (e, records, q, s) ∧
      i.deliver h k r = (e, ⟨s, q.staging.sinks, state⟩) ∧
      i.deliveriesOf h k r = (records.map fun p => (p.1, .record k p.2)) ∧
      ∀ p ∈ records, p.2.kindAs k = k := by
  fun_induction deliver i h k r with
  | case1 i r r₁ s hp =>
    rw [Reader.read_eq, deliveriesOf_eq, hp]
    exact ⟨_, _, _, _, _, rfl, rfl, rfl, by simp⟩
  | case2 i r f r₁ s hp =>
    rw [Reader.read_eq, deliveriesOf_eq, hp]
    exact ⟨_, _, _, _, _, rfl, rfl, rfl, by simp⟩
  | case3 i r x r₁ s hp f state hx =>
    have hok := hh.handle_ok (.record k x) i.state
    rw [hx] at hok
    cases hok
  | case4 i r x r₁ s hp state hx ih =>
    obtain ⟨e, records, q, s', state', hread, hdeliver, hevents, hkinds⟩ :=
      ih ((Reader.kind_poll hp).trans hr)
    have hread' : r₁.read none s = (e, records, q, s') := hread
    rw [Reader.read_eq, deliveriesOf_eq, hp]
    simp only [reduceCtorEq, if_false, Option.map_none, hread', hx, hevents]
    exact ⟨_, _, _, _, _, rfl, hdeliver, rfl,
      List.forall_mem_cons.mpr ⟨Reader.kindAs_poll hr hp, hkinds⟩⟩

/-- To take a kind is to visit its array. -/
theorem takeKind_visit (hh : h.Takes wanted) (i : Import σ) {k : Kind}
    (hk : i.session.current = some k) :
    ∃ e records sinks s state,
      i.session.visit i.sinks k (.ofWanted wanted k) = (e, records, sinks, s) ∧
        i.takeKind h k = (e, ⟨s, sinks, state⟩) ∧
        i.deliveriesOfKind h k = (records.map fun p => (p.1, .record k p.2)) ∧
        ∀ p ∈ records, p.2.kindAs k = k := by
  unfold takeKind deliveriesOfKind Session.visit Choice.ofWanted
  rw [hh.wants_eq]
  split_ifs
  · obtain ⟨e, records, q, s, state, hread, hdeliver, hevents, hkinds⟩ :=
      deliver_read hh i k (r := .start i.session k i.sinks) hk
    have hall : Choice.limit .all = none := rfl
    rw [hall, hread, hdeliver, hevents]
    rcases e with f | _
    · exact ⟨_, _, _, _, _, rfl, rfl, rfl, hkinds⟩
    · exact ⟨_, _, _, _, _, rfl, rfl, rfl, hkinds⟩
  · have hnone : (Reader.start i.session k i.sinks).read (Choice.limit (.pass 0)) i.session =
        (.ok (), [], .start i.session k i.sinks, i.session) := by
      rw [Reader.read_eq]
      rfl
    rw [hnone]
    rcases hs : i.session.skipKind (some k) with ⟨e, m, s⟩
    simp only [Session.part, hs]
    exact ⟨_, _, _, _, _, rfl, rfl, rfl, by simp⟩

/-- **To take the wanted kinds is to walk.** -/
theorem takeKinds_walk (hh : h.Takes wanted) (i : Import σ) (n : Nat) :
    ∃ e stops s sinks state,
      i.session.walk i.sinks (fun _ => .ofWanted wanted) n = (e, stops, s) ∧
        i.takeKinds h = (e, ⟨s, sinks, state⟩) ∧
        i.deliveriesOfKinds h = stops.flatMap Stop.deliveries ∧ ∀ a ∈ stops, a.Own := by
  fun_induction takeKinds i h generalizing n with
  | case1 i f s hs =>
    rw [Session.walk_eq, deliveriesOfKinds_eq, hs]
    exact ⟨_, _, _, _, _, rfl, rfl, rfl, by simp⟩
  | case2 i s hs =>
    rw [Session.walk_eq, deliveriesOfKinds_eq, hs]
    exact ⟨_, _, _, _, _, rfl, rfl, rfl, by simp⟩
  | case3 i k s hs f i' ht =>
    obtain ⟨e, records, sinks, s', state, hvisit, htake, hevents, hown⟩ :=
      takeKind_visit hh { i with session := s } (Session.current_of_nextKind hs)
    cases ht.symm.trans htake
    rw [Session.walk_eq, deliveriesOfKinds_eq, hs]
    simp only at hvisit
    simp only [hvisit, ht, hevents]
    exact ⟨_, _, _, _, _, rfl, rfl, by simp [Stop.deliveries], by simpa [Stop.Own] using hown⟩
  | case4 i k s hs i' ht ih =>
    obtain ⟨e, records, sinks, s', state, hvisit, htake, hevents, hown⟩ :=
      takeKind_visit hh { i with session := s } (Session.current_of_nextKind hs)
    cases ht.symm.trans htake
    obtain ⟨e, stops, s'', sinks', state', hwalk, hkinds, hlater, howns⟩ := ih (n + 1)
    rw [Session.walk_eq, deliveriesOfKinds_eq, hs]
    simp only at hvisit hwalk
    simp only [hvisit, ht, hevents, hwalk, hlater]
    exact ⟨_, _, _, _, _, rfl, hkinds, by simp [Stop.deliveries],
      List.forall_mem_cons.mpr ⟨hown, howns⟩⟩

end Import

/-! ### Imports beside each other -/

namespace Passing

variable {W : Kind → Prop} {same : Prop}

theorem exact_of_same (hsame : same) : (Passing W same).Exact := fun _ _ h => h.2.2 hsame

theorem ReadAlike.bare_eq {a b : Nat × Record} (h : ReadAlike W same a b) :
    (a.1, a.2.bare) = (b.1, b.2.bare) := Prod.ext h.1 h.2.bare_eq

theorem ReadAlike.eq_of_same (hsame : same) {a b : Nat × Record} (h : ReadAlike W same a b) :
    a = b := Prod.ext h.1 ((exact_of_same hsame).record_eq h.2)

theorem StopAlike.bare_eq {a b : Stop} (h : StopAlike W same a b) : a.bare = b.bare :=
  Stop.ext h.kind_eq h.position_eq (Coupling.map_eq (fun _ _ hab => hab.bare_eq) h.records)

theorem StopAlike.eq_of_same (hsame : same) {a b : Stop} (h : StopAlike W same a b) : a = b :=
  Stop.ext h.kind_eq h.position_eq
    (Coupling.eq_of_forall₂ (fun _ _ hab => hab.eq_of_same hsame) h.records)

/-- Deliveries at the same position, of records that go together or of one event. -/
inductive DeliveryAlike (W : Kind → Prop) (same : Prop) : Delivery → Delivery → Prop where
  /-- Records. -/
  | record (k : Kind) {a b : Nat × Record} (h : ReadAlike W same a b) :
    DeliveryAlike W same (a.1, .record k a.2) (b.1, .record k b.2)
  /-- One event. -/
  | same (e : Delivery) : DeliveryAlike W same e e

theorem DeliveryAlike.bare_eq {a b : Delivery} (h : DeliveryAlike W same a b) :
    a.bare = b.bare := by
  cases h with
  | record k h => exact Prod.ext h.1 (congrArg (Event.record k) h.2.bare_eq)
  | same e => rfl

theorem DeliveryAlike.eq_of_same (hsame : same) {a b : Delivery} (h : DeliveryAlike W same a b) :
    a = b := by
  cases h with
  | record k h => rw [h.eq_of_same hsame]
  | same e => rfl

variable {wanted : Kind → Bool}

theorem deliveries_stop {a b : Stop} (ha : a.Own)
    (h : StopAlike W same (a.chosen (.ofWanted wanted a.kind)) b) :
    List.Forall₂ (DeliveryAlike W same) (a.deliveries.filter (Delivery.isWanted wanted))
      b.deliveries := by
  have hkind : a.kind = b.kind := h.kind_eq
  have hread := h.records
  have hwants : ∀ p ∈ a.records,
      (Delivery.isWanted wanted ∘ fun p => (p.1, Event.record a.kind p.2)) p = wanted a.kind := by
    intro p hp
    simp [Delivery.isWanted, Event.kind, ha p hp]
  unfold Stop.deliveries
  rw [List.filter_map, List.filter_congr hwants]
  unfold Stop.chosen Choice.ofWanted at hread
  by_cases hw : wanted a.kind = true
  · rw [hw, List.filter_true, List.forall₂_map_left_iff, List.forall₂_map_right_iff, ← hkind]
    rw [if_pos hw] at hread
    exact List.Forall₂.imp (fun _ _ hab => .record a.kind hab) hread
  · rw [if_neg hw] at hread
    have hempty : b.records = [] := List.forall₂_nil_left_iff.mp hread
    rw [Bool.eq_false_iff.mpr hw, List.filter_false, hempty]
    exact .nil

theorem deliveries_stops {l m : List Stop} (hl : ∀ a ∈ l, a.Own)
    (h : List.Forall₂ (StopAlike W same) (l.mapIdx fun _ a => a.chosen (.ofWanted wanted a.kind))
      m) :
    List.Forall₂ (DeliveryAlike W same)
      ((l.flatMap Stop.deliveries).filter (Delivery.isWanted wanted)) (m.flatMap Stop.deliveries) := by
  induction l generalizing m with
  | nil =>
    cases h
    exact .nil
  | cons a l ih =>
    rw [List.mapIdx_cons] at h
    obtain - | ⟨hab, hrest⟩ := h
    obtain ⟨ha, hl⟩ := List.forall_mem_cons.mp hl
    rw [List.flatMap_cons, List.flatMap_cons, List.filter_append]
    exact List.rel_append (deliveries_stop ha hab) (ih hl hrest)

theorem sessions_refl (s : Session) : (Passing W same).Sessions s s where
  cursor := .refl s.cursor
  assembler_eq := rfl
  copier := rfl
  options := .refl s.options
  tally _ _ := rfl
  build_eq := rfl
  generation_eq := rfl
  pending_eq := rfl
  current_eq := rfl
  array_eq := rfl
  exhausted_eq := rfl

variable {σ τ : Type} {h : Handler σ} {h' : Handler τ}

/-- What a handler that takes every event makes of one. -/
theorem tell_takes (hh : h.Takes wanted) (i : Import σ) (e : Event) :
    i.tell h e = (.ok (), { i with state := (h.handle e i.state).2 }) := by
  unfold Import.tell
  rw [← hh.handle_ok e i.state]

/-- **Imports of one export that want everything, and some kinds only**: the second one delivers those
events of the first one that it wants, they end in the same way, and they count the same for the
kinds that are wanted. -/
theorem drive_drive (hh : h.Takes fun _ => true) (hh' : h'.Takes wanted) (s : Session) {a b : Sinks}
    (hm : (Passing (wanted · = true) same).makers a b) (state : σ) (state' : τ) :
    SameEnd ((⟨s, a, state⟩ : Import σ).drive h).1 ((⟨s, b, state'⟩ : Import τ).drive h').1 ∧
      (Passing (wanted · = true) same).Failed ((⟨s, a, state⟩ : Import σ).drive h).2.session
        ((⟨s, b, state'⟩ : Import τ).drive h').2.session ∧
      List.Forall₂ (DeliveryAlike (wanted · = true) same)
        (((⟨s, a, state⟩ : Import σ).deliveriesToEnd h).filter (Delivery.isWanted wanted))
        ((⟨s, b, state'⟩ : Import τ).deliveriesToEnd h') := by
  have hchosen (n : Nat) (k : Kind) (hk : wanted k = true) : Choice.ofWanted wanted k = .all :=
    if_pos hk
  have hfollows := walk_walk hchosen hm 0 ((sessions_refl s).nextKind (lawful _ _))
  unfold Import.drive Import.deliveriesToEnd
  simp only [tell_takes hh, tell_takes hh']
  obtain ⟨e, stops, s₁, a₁, state₁, hwalk, hkinds, hevents, howns⟩ := Import.takeKinds_walk hh
    ⟨s, a, (h.handle (.header s.build s.generation) state).2⟩ 0
  obtain ⟨e', stops', t₁, b₁, state₁', hwalk', hkinds', hevents', -⟩ := Import.takeKinds_walk hh'
    ⟨s, b, (h'.handle (.header s.build s.generation) state').2⟩ 0
  rw [show s.walk a (fun _ _ => .all) 0 = _ from hwalk, show s.walk b _ 0 = _ from hwalk']
    at hfollows
  have hstops := deliveries_stops howns (by simpa using hfollows.stops)
  rw [hkinds, hkinds', hevents, hevents']
  rcases e with f | _
  · -- the import of everything fails, and the other one does
    have hfailed : ∃ g, e' = .error g := by
      obtain rfl | ⟨g, k, -, rfl⟩ := hfollows.ends
      · exact ⟨f, rfl⟩
      · exact ⟨g, rfl⟩
    obtain ⟨g, rfl⟩ := hfailed
    simp only [List.append_nil]
    exact ⟨hfollows.ends, hfollows.failed, .cons (.same _) hstops⟩
  · -- both come to the end
    have hdone : e' = .ok () := by
      obtain rfl | ⟨g, k, hno, -⟩ := hfollows.ends
      · rfl
      · cases hno
    subst hdone
    have hfinal := hfollows.session rfl
    simp only
    have hfinalize := hh.finalize_ok (h.handle .finish state₁).2
    have hfinalize' := hh'.finalize_ok (h'.handle .finish state₁').2
    rcases hz : h.finalize (h.handle .finish state₁).2 with ⟨f | _, st⟩
    · rw [hz] at hfinalize
      cases hfinalize
    rcases hz' : h'.finalize (h'.handle .finish state₁').2 with ⟨f | _, st'⟩
    · rw [hz'] at hfinalize'
      cases hfinalize'
    have hposition := hfinal.position_eq (lawful _ _)
    simp only at hposition
    rw [hposition]
    refine ⟨.inl rfl, hfollows.failed, .cons (.same _) ?_⟩
    rw [List.filter_append]
    exact List.rel_append hstops (.cons (.same _) .nil)

end Passing

/-! ### The stream is read alike -/

/-- **Reading and passing over agree on the stream.** With sinks that never fail, a walk that chooses
for each array what to read of it stops at the same kinds and positions as the walk that reads
everything, reads the first of the records there, and ends in the same way; and an import that wants
some kinds only delivers exactly those events of the import that wants everything, ends in the same
way and counts the same for these kinds. The events are all that the handlers hear, unless these
change their states at the end. -/
theorem skipping_agrees_with_reading {sinks sinks' : Sinks} (hsinks : sinks.Reliable)
    (hsinks' : sinks'.Reliable) :
    (∀ (s : Session) (choose : Nat → Kind → Choice),
      let all := s.walk sinks (fun _ _ => .all) 0
      let chosen := s.walk sinks' choose 0
      let stops := all.2.1.mapIdx fun n a => a.chosen (choose n a.kind)
      chosen.2.1.map Stop.bare = stops.map Stop.bare ∧
        (sinks.Uniform sinks' → chosen.2.1 = stops) ∧ SameEnd all.1 chosen.1 ∧
        (all.1 = .ok () → chosen.2.2.position = all.2.2.position)) ∧
      ∀ {σ τ : Type} {h : Handler σ} {h' : Handler τ} {wanted : Kind → Bool},
        h.Takes (fun _ => true) → h'.Takes wanted →
        ∀ (supply : Supply) (options : Options) (tally : Tally) (state : σ) (state' : τ),
          let all := Import.run supply options tally sinks h state
          let chosen := Import.run supply options tally sinks' h' state'
          let events := (Import.deliveries supply options tally sinks h state).filter
            (Delivery.isWanted wanted)
          let events' := Import.deliveries supply options tally sinks' h' state'
          events'.map Delivery.bare = events.map Delivery.bare ∧
            (sinks.Uniform sinks' → events' = events) ∧ SameEnd all.1 chosen.1 ∧
            (∀ k, wanted k = true →
              chosen.2.session.tally.get k = all.2.session.tally.get k) ∧
            ((∀ st, (h.finalize st).2 = st) → all.2.state =
              h.hear state (Import.deliveries supply options tally sinks h state)) ∧
            ((∀ st, (h'.finalize st).2 = st) → chosen.2.state = h'.hear state' events') := by
  constructor
  · intro s choose all chosen stops
    have hm : (Passing (fun _ => False) (sinks.Uniform sinks')).makers sinks sinks' :=
      ⟨hsinks, hsinks', id⟩
    have hnone (n : Nat) (k : Kind) (hno : False) : choose n k = .all := hno.elim
    have hfollows := Passing.walk_walk hnone hm 0
      ((Passing.sessions_refl s).nextKind (Passing.lawful _ _))
    have hstops := hfollows.stops
    simp only [Nat.zero_add] at hstops
    refine ⟨(Coupling.map_eq (fun _ _ hab => hab.bare_eq) hstops).symm, fun hsame => ?_,
      hfollows.ends, fun hok => ?_⟩
    · exact (Coupling.eq_of_forall₂ (fun _ _ hab => hab.eq_of_same hsame) hstops).symm
    · exact ((hfollows.session hok).position_eq (Passing.lawful _ _)).symm
  · intro σ τ h h' wanted hh hh' supply options tally state state' all chosen events events'
    have hm : (Passing (wanted · = true) (sinks.Uniform sinks')).makers sinks sinks' :=
      ⟨hsinks, hsinks', id⟩
    have hall : SameEnd all.1 chosen.1 ∧
        (Passing (wanted · = true) (sinks.Uniform sinks')).Failed all.2.session chosen.2.session ∧
        List.Forall₂ (Passing.DeliveryAlike (wanted · = true) (sinks.Uniform sinks')) events
          events' := by
      unfold all chosen events events' Import.run Import.deliveries
      rcases (Session.start supply options tally).begin with ⟨f | _, s⟩
      · exact ⟨.inl rfl, fun _ _ => rfl, .nil⟩
      · exact Passing.drive_drive hh hh' s hm state state'
    obtain ⟨hend, hfailed, hevents⟩ := hall
    refine ⟨(Coupling.map_eq (fun _ _ hab => hab.bare_eq) hevents).symm, fun hsame => ?_, hend,
      fun k hk => (hfailed k hk).symm, fun hkeeps => Import.state_run _ _ _ _ _ _ hkeeps,
      fun hkeeps => Import.state_run _ _ _ _ _ _ hkeeps⟩
    exact (Coupling.eq_of_forall₂ (fun _ _ hab => hab.eq_of_same hsame) hevents).symm

/-- The documents are skipped, with the bytes `]}` behind a marker, and one of two identities is read;
the import wants the identities only. -/
theorem skipping_agrees_with_reading_identities :
    -- the bytes `{"Docs":[{"@metadata":{"@export-type":"Attachment"},"Size":2}]}],` and
    -- `"Identities":[{"Key":"a","Value":1},{"Key":"b","Value":2}]}`
    let supply : Supply := { rest :=
      [123, 34, 68, 111, 99, 115, 34, 58, 91, 123, 34, 64, 109, 101, 116, 97, 100, 97, 116, 97, 34,
        58, 123, 34, 64, 101, 120, 112, 111, 114, 116, 45, 116, 121, 112, 101, 34, 58, 34, 65, 116,
        116, 97, 99, 104, 109, 101, 110, 116, 34, 125, 44, 34, 83, 105, 122, 101, 34, 58, 50, 125,
        93, 125, 93, 44, 34, 73, 100, 101, 110, 116, 105, 116, 105, 101, 115, 34, 58, 91, 123, 34,
        75, 101, 121, 34, 58, 34, 97, 34, 44, 34, 86, 97, 108, 117, 101, 34, 58, 49, 125, 44, 123,
        34, 75, 101, 121, 34, 58, 34, 98, 34, 44, 34, 86, 97, 108, 117, 101, 34, 58, 50, 125, 93,
        125] }
    let s := (Session.start supply {} {}).begin.2
    let choose : Nat → Kind → Choice := fun n _ => if n = 0 then .pass 0 else .leave 1
    let all := s.walk .memory (fun _ _ => .all) 0
    let chosen := s.walk .memory choose 0
    let h : Handler Collection := { Collection.handler with wants := fun k _ => k = .identities }
    let events := (Import.deliveries supply {} {} .memory Collection.handler {}).filter
      (Delivery.isWanted fun k => k = .identities)
    chosen.2.1 = all.2.1.mapIdx (fun n a => a.chosen (choose n a.kind)) ∧
      chosen.2.1.map (fun a => (a.kind, a.position, a.records.length)) =
        [(.documents, 7, 0), (.identities, 77, 1)] ∧
      chosen.2.2.position = 124 ∧
      Import.deliveries supply {} {} .memory h {} = events ∧ events.length = 4 ∧
      (Import.run supply {} {} .memory h {}).2.state = h.hear {} events ∧
      (Import.run supply {} {} .memory h {}).2.session.tally.identities = ⟨2, 0, 0⟩ := by
  intro supply s choose all chosen h events
  obtain ⟨hwalks, himports⟩ :=
    skipping_agrees_with_reading Sinks.reliable_memory Sinks.reliable_memory
  have huniform : Sinks.memory.Uniform .memory := fun _ _ _ => rfl
  have hh : Collection.handler.Takes fun _ => true := ⟨fun _ _ => rfl, fun _ _ => rfl, fun _ => rfl⟩
  have hh' : h.Takes fun k => k = .identities := ⟨fun _ _ => rfl, fun _ _ => rfl, fun _ => rfl⟩
  obtain ⟨-, hstops, -⟩ := hwalks s choose
  obtain ⟨-, hevents, -, hcounts, -, hheard⟩ := himports hh hh' supply {} {} {} {}
  have hstate := hheard fun _ => rfl
  rw [hevents huniform] at hstate
  exact ⟨hstops huniform, by decide +kernel, by decide +kernel, hevents huniform,
    by decide +kernel, hstate,
    (hcounts .identities (by decide)).trans (by decide +kernel)⟩

end ExportStream

import ExportStream.Proofs.LastBrace
import ExportStream.Proofs.Recordings
import ExportStream.Proofs.Walks
import Mathlib.Algebra.Ring.Nat
/-!
# Counters and records

A reader counts a record when it hands it out, and the import hands it on to the handler, which may
count it, too. These counts never part: whether an import comes to its end or fails anywhere, in the
stream, in a sink or in the handler, the tally has as many records of each kind read as the handler
was told (**`Import.run_counts`**).

What one poll does to both counts (`Import.Even.told`) carries over to the loops over records and
kinds. What the handlers that collect and count records have of a kind is read off the calls.
-/

namespace ExportStream

variable {σ : Type}

namespace Import

/-- From `i` to `j` the tally and the calls have grown by as many records of each kind. -/
def Even (i j : Import (σ × List Call)) : Prop :=
  ∀ k, (j.session.tally.get k).read + i.state.2.countP (Call.isRecord k) =
    (i.session.tally.get k).read + j.state.2.countP (Call.isRecord k)

namespace Even

variable {i j l : Import (σ × List Call)}

theorem trans (h : i.Even j) (h' : j.Even l) : i.Even l := by
  intro k
  have := h k
  have := h' k
  omega

/-- What counts no record and tells none keeps the counts even. -/
theorem of_read_eq (hread : ∀ k, (j.session.tally.get k).read = (i.session.tally.get k).read)
    (hlog : ∀ k, j.state.2.countP (Call.isRecord k) = i.state.2.countP (Call.isRecord k)) :
    i.Even j := by
  intro k
  rw [hread, hlog]

theorem of_turns {s : Session} (h : i.session.Turns s) : i.Even { i with session := s } :=
  of_read_eq (fun k => h.read_eq k) fun _ => rfl

/-- A record that is counted and told keeps them even. -/
theorem told {k : Kind} {s : Session} (hs : i.session.Works s) {x : Record}
    (hx : x.kindAs k = k) (r : Except Failure Unit) {j : Import (σ × List Call)}
    (hj : j.session = s.countRead k)
    (hlog : j.state.2 = i.state.2 ++ [.told (.record k x) r]) : i.Even j := by
  intro l
  have hread := hs.turns.read_eq l
  rw [hj, hlog, List.countP_append, Session.countRead]
  by_cases hl : l = k
  · subst hl
    have hself : [Call.told (.record l x) r].countP (Call.isRecord l) = 1 := by
      simp [Call.isRecord, Call.event?, Event.kind, hx]
    rw [Tally.get_modify_self, hself]
    simp only [Counts.addRead]
    omega
  · have hother : [Call.told (.record k x) r].countP (Call.isRecord l) = 0 := by
      simp [Call.isRecord, Call.event?, Event.kind, hx, Ne.symm hl]
    rw [Tally.get_modify_of_ne hl, hother]
    omega

end Even

/-! ### The loops -/

variable {i j : Import (σ × List Call)} {h : Handler σ} {o : Except Failure Unit} {k : Kind}

theorem even_deliver {r : Reader} (hr : r.kind = some k)
    (hd : i.deliver h.recorded k r = (o, j)) : i.Even j := by
  have hquiet {i : Import (σ × List Call)} {r r' : Reader} {s : Session}
      {x : Option (Except Failure Record)} (hp : r.poll i.session = (x, r', s))
      (hx : ∀ y, x ≠ some (.ok y)) : i.session.Turns s := by
    obtain ⟨hworks, -⟩ | ⟨k, u, y, -, hy, -⟩ := Session.works_poll hp
    · exact hworks.turns
    · exact absurd hy (hx y)
  have htold {i : Import (σ × List Call)} {r r' : Reader} {s : Session} {x : Record}
      (hr : r.kind = some k) (hp : r.poll i.session = (some (.ok x), r', s)) :
      x.kindAs k = k ∧ ∃ u, i.session.Works u ∧ s = u.countRead k := by
    refine ⟨Reader.kindAs_poll hr hp, ?_⟩
    obtain ⟨-, hno⟩ | ⟨k', u, y, hk', -, hworks, hs⟩ := Session.works_poll hp
    · exact absurd rfl (hno x)
    · rw [hr] at hk'
      cases hk'
      exact ⟨u, hworks, hs⟩
  fun_induction deliver i h.recorded k r with
  | case1 i r r' s hp => cases hd; exact .of_turns (hquiet hp (by simp))
  | case2 i r f r' s hp => cases hd; exact .of_turns (hquiet hp (by simp))
  | case3 i r x r' s hp f st hh =>
    cases hd
    obtain ⟨hx, u, hu, rfl⟩ := htold hr hp
    have hlog : st.2 = i.state.2 ++ [.told (.record k x) (.error f)] := Handler.handle_recorded hh
    exact .told hu hx _ rfl hlog
  | case4 i r x r' s hp st hh ih =>
    obtain ⟨hx, u, hu, rfl⟩ := htold hr hp
    have hlog : st.2 = i.state.2 ++ [.told (.record k x) (.ok ())] := Handler.handle_recorded hh
    have hone : i.Even { i with session := u.countRead k, state := st } := .told hu hx _ rfl hlog
    exact hone.trans (ih (by rw [Reader.kind_poll hp, hr]) hd)

theorem even_takeKind (hk : i.session.current = some k)
    (ht : i.takeKind h.recorded k = (o, j)) : i.Even j := by
  unfold takeKind at ht
  split_ifs at ht
  · exact even_deliver hk ht
  · rcases hs : i.session.skipKind (some k) with ⟨r, n, s⟩
    rw [hs] at ht
    cases ht
    exact .of_turns (Session.works_skipKind hs).turns

theorem even_takeKinds (ht : i.takeKinds h.recorded = (o, j)) : i.Even j := by
  fun_induction takeKinds i h.recorded with
  | case1 i f s hn => cases ht; exact .of_turns (Session.turns_nextKind hn)
  | case2 i s hn => cases ht; exact .of_turns (Session.turns_nextKind hn)
  | case3 i k s hn f j' hk =>
    cases ht
    exact (Even.of_turns (Session.turns_nextKind hn)).trans
      (even_takeKind (Session.current_of_nextKind hn) hk)
  | case4 i k s hn j' hk ih =>
    exact ((Even.of_turns (Session.turns_nextKind hn)).trans
      (even_takeKind (Session.current_of_nextKind hn) hk)).trans (ih ht)

/-- The header and the end are no records. -/
theorem even_tell {e : Event} (he : e.kind = none) (ht : i.tell h.recorded e = (o, j)) :
    i.Even j := by
  cases ht
  refine .of_read_eq (fun _ => rfl) fun k => ?_
  simp [Call.isRecord, Call.event?, he]

theorem even_drive (hd : i.drive h.recorded = (o, j)) : i.Even j := by
  unfold drive at hd
  rcases hh : i.tell h.recorded (.header i.session.build i.session.generation) with ⟨f | _, i₁⟩
  · rw [hh] at hd
    cases hd
    exact even_tell rfl hh
  rw [hh] at hd
  simp only at hd
  rcases ht : i₁.takeKinds h.recorded with ⟨f | _, i₂⟩
  · rw [ht] at hd
    cases hd
    exact (even_tell rfl hh).trans (even_takeKinds ht)
  rw [ht] at hd
  simp only at hd
  have hkinds := (even_tell rfl hh).trans (even_takeKinds ht)
  rcases he : i₂.tell h.recorded .finish with ⟨f | _, i₃⟩
  · rw [he] at hd
    cases hd
    exact hkinds.trans (even_tell rfl he)
  rw [he] at hd
  simp only at hd
  have hend := hkinds.trans (even_tell rfl he)
  -- what is done when all went well is no record
  refine hend.trans (.of_read_eq (fun k => ?_) fun k => ?_)
  all_goals
    rcases hz : h.finalize i₃.state.1 with ⟨f | _, st⟩
    all_goals
      simp only [Handler.recorded, hz] at hd
      cases hd
      simp [conclude, Session.note, Call.isRecord, Call.event?]

/-! ### Whole imports -/

/-- What a handler is asked while an export is opened and taken to its end. -/
def calls (supply : Supply) (options : Options) (tally : Tally) (sinks : Sinks) (h : Handler σ)
    (state : σ) : List Call :=
  (run supply options tally sinks h.recorded (state, [])).2.state.2

theorem read_run (supply : Supply) (options : Options) (sinks : Sinks) (h : Handler σ) (state : σ)
    (k : Kind) :
    (calls supply options {} sinks h state).countP (Call.isRecord k) =
      ((run supply options {} sinks h state).2.session.tally.get k).read := by
  have hrecorded := run_map h.recorded_maps supply options {} sinks (state, [])
  have hempty : (({} : Tally).get k).read = 0 := by cases k <;> rfl
  simp only at hrecorded
  rw [hrecorded]
  unfold calls run
  rcases hopen : (Session.start supply options {}).begin with ⟨f | _, s⟩
  all_goals have hread := (Session.turns_begin hopen).read_eq k
  · exact (hread.trans hempty).symm
  · rcases hd : (drive { session := s, sinks, state := (state, []) } h.recorded) with ⟨o, j⟩
    have heven := even_drive hd k
    simp only [hd, Prod.map, id, map]
    simp only [hread, Session.start, hempty, List.countP_nil] at heven
    omega

end Import

/-! ### Handlers that collect and count -/

theorem Collection.length_ofKind (k : Kind) (events : List Event) (c : Collection) :
    ((events.foldl (fun c e => add e c) c).ofKind k).length =
      (c.ofKind k).length + events.countP fun e => e.kind = some k := by
  induction events generalizing c with
  | nil => rfl
  | cons e events ih =>
    rw [List.foldl_cons, ih, List.countP_cons]
    cases e with
    | header build generation => simp [add, ofKind, Event.kind]
    | record l x =>
      by_cases hl : x.kindAs l = k
      · simp [add, ofKind, Event.kind, hl]
        omega
      · simp [add, ofKind, Event.kind, hl]
    | finish => simp [add, ofKind, Event.kind]

theorem Census.count_fold (k : Kind) (events : List Event) (c : Census) :
    (events.foldl (fun c e => add e c) c).count k =
      c.count k + events.countP fun e => e.kind = some k := by
  induction events generalizing c with
  | nil => rfl
  | cons e events ih =>
    rw [List.foldl_cons, ih, List.countP_cons]
    cases e with
    | header build generation => simp [add, count, Event.kind]
    | record l x =>
      by_cases hl : x.kindAs l = k
      · simp [add, count, Event.kind, hl]
        omega
      · simp [add, count, Event.kind, hl]
    | finish => simp [add, count, Event.kind]

/-- The records of a kind among the events of some calls. -/
theorem countP_events (k : Kind) (log : List Call) :
    (log.filterMap Call.event?).countP (fun e => e.kind = some k) =
      log.countP (Call.isRecord k) := by
  rw [List.countP_filterMap]
  refine List.countP_congr fun c _ => ?_
  cases c <;> simp [Call.isRecord, Call.event?, eq_comm]

namespace Import

/-- What a handler makes of the events is what it makes of those that a silent handler hears, and
the rest of the import is the same. -/
theorem run_ofFold {τ : Type} (supply : Supply) (options : Options) (tally : Tally) (sinks : Sinks)
    (step : Event → τ → τ) (start : τ) :
    (run supply options tally sinks (.ofFold step) start).2.session =
        (run supply options tally sinks Handler.silent ()).2.session ∧
      (run supply options tally sinks (.ofFold step) start).2.state =
        ((calls supply options tally sinks Handler.silent ()).filterMap Call.event?).foldl
          (fun a e => step e a) start := by
  have hfold : run supply options tally sinks (.ofFold step) start = _ :=
    run_map (Handler.maps_ofFold step start) supply options tally sinks ((), [])
  have hsilent : run supply options tally sinks Handler.silent () = _ :=
    run_map Handler.silent.recorded_maps supply options tally sinks ((), [])
  rw [hfold, hsilent]
  exact ⟨rfl, rfl⟩

/-- **Counters and records agree**, on every outcome. Whatever the stream, the sinks and the handler
do, the tally has as many records of each kind read as the handler was told, and as many in all; and
the lists of a handler that collects records are as long as the numbers of one that counts them, which
are those of the tally. -/
theorem run_counts (supply : Supply) (options : Options) (sinks : Sinks) (h : Handler σ)
    (state : σ) :
    let i := (run supply options {} sinks h state).2
    let log := calls supply options {} sinks h state
    let collected := (run supply options {} sinks Collection.handler {}).2
    let counted := (run supply options {} sinks Census.handler {}).2
    (∀ k, log.countP (Call.isRecord k) = (i.session.tally.get k).read) ∧
      (Kind.all.map fun k => log.countP (Call.isRecord k)).sum = i.session.tally.totalRead ∧
      collected.session.tally = counted.session.tally ∧
      (∀ k, (collected.state.ofKind k).length = counted.state.count k ∧
        counted.state.count k = (counted.session.tally.get k).read) ∧
      (Kind.all.map counted.state.count).sum = counted.session.tally.totalRead := by
  intro i log collected counted
  have htotal {t : Tally} {n : Kind → Nat} (hn : ∀ k, n k = (t.get k).read) :
      (Kind.all.map n).sum = t.totalRead := by
    simp [Tally.totalRead, Kind.all, hn]
  have hread (k : Kind) : log.countP (Call.isRecord k) = (i.session.tally.get k).read :=
    read_run supply options sinks h state k
  obtain ⟨hs, hcollected⟩ := run_ofFold supply options {} sinks Collection.add {}
  obtain ⟨ht, hcounted⟩ := run_ofFold supply options {} sinks Census.add {}
  have hlength (k : Kind) : (collected.state.ofKind k).length =
      (calls supply options {} sinks Handler.silent ()).countP (Call.isRecord k) := by
    rw [← countP_events]
    refine (congrArg (fun c => (Collection.ofKind c k).length) hcollected).trans ?_
    rw [Collection.length_ofKind]
    simp [Collection.ofKind]
  have hcount (k : Kind) : counted.state.count k =
      (calls supply options {} sinks Handler.silent ()).countP (Call.isRecord k) := by
    rw [← countP_events]
    refine (congrArg (fun c => Census.count c k) hcounted).trans ?_
    rw [Census.count_fold]
    simp [Census.count]
  have hsilent (k : Kind) : counted.state.count k = (counted.session.tally.get k).read := by
    rw [hcount, read_run, ← ht]
    rfl
  exact ⟨hread, htotal hread, congrArg Session.tally (hs.trans ht.symm),
    fun k => ⟨(hlength k).trans (hcount k).symm, hsilent k⟩, htotal hsilent⟩

/-- The bytes `{"DocsDeletions":[{"Key":"a"},{"Key":"b"}` end too soon, and both deletions count. -/
example :
    let supply : Supply :=
      { rest := [123, 34, 68, 111, 99, 115, 68, 101, 108, 101, 116, 105, 111, 110, 115, 34, 58, 91,
          123, 34, 75, 101, 121, 34, 58, 34, 97, 34, 125, 44, 123, 34, 75, 101, 121, 34, 58, 34, 98,
          34, 125] }
    let x := run supply {} {} .memory Census.handler {}
    x.1.isOk = false ∧ x.2.session.tally.legacyDocumentDeletions = ⟨2, 0, 0⟩ ∧
      x.2.state.count .legacyDocumentDeletions = 2 := by
  decide +kernel

end Import

end ExportStream

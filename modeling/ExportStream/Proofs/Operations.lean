import ExportStream.Proofs.ClosedEnvelopes
import ExportStream.Proofs.Conservation
import ExportStream.Proofs.Walks
/-!
# The order of operations

A session may be used in any order, and in wrong ones, too: with readers of another form, with
orders to pass over a kind at which the session does not stand, with polls behind the last brace.
As long as the stream and the sinks do not fail (`Desk.Calm`) none of this confuses it
(**`Desk.orderly_of_calm`**). Between kinds only the next kind can be reached, a kind that waits is
the next one, a mistake is refused and leaves everything as it was, and behind the last brace, which
closes the envelope, nothing changes any more.

What the operations keep is an invariant (`Desk.Steady`), which one operation hands to the next.
-/

namespace ExportStream

/-- What an operation answers. -/
inductive Answer where
  /-- The next kind, if there is one. -/
  | kind (k : Option Kind)
  /-- So many elements were passed over. -/
  | skipped (n : Nat)
  /-- A reader is made. -/
  | made
  /-- The next record, if there is one. -/
  | record (x : Option Record)

/-! ### The next kind -/

/-- The session stands at the kind that is found, or at none, with nothing that waits. -/
theorem Session.Opened.stands_nextKind {data : List UInt8} {s t : Session} (ho : s.Opened data)
    {x : Option Kind} (h : s.nextKind = (.ok x, t)) :
    t.current = x ∧ t.pending = none ∧ (x = none → t.array = .closed) := by
  cases x with
  | some k =>
    refine ⟨current_of_nextKind h, ?_, nofun⟩
    unfold Session.nextKind at h
    rcases hf : s.finishCurrent with ⟨f | _, s₁⟩
    · rw [hf] at h
      cases h
    rw [hf] at h
    cases hp : s₁.pending with
    | some k' =>
      simp only [hp] at h
      cases h
      rfl
    | none =>
      simp only [hp] at h
      exact (spent_nextLabel h).pending_eq.trans hp
  | none =>
    have ht := (ho.of_nextKind h).sealed
    have hx := (ho.braceRead_of_nextKind h).exhausted_eq
    refine ⟨ht.current_eq hx, ht.pending_eq hx, fun _ => ?_⟩
    cases he : s.exhausted with
    | true =>
      rw [ho.sealed.nextKind_eq he] at h
      cases h
      rfl
    | false =>
      obtain ⟨-, hno⟩ | ⟨-, u, -, -, hclosed, -, hread, hnone⟩ := exhausted_nextKind he h
      · exact absurd rfl hno
      · have hlast := hread.sameKind.trans (.of_moves (readLabel_moves hnone))
        exact hlast.array_eq.trans hclosed

/-- A session that is opened stands at no kind. -/
theorem Session.stands_begin {supply : Supply} {options : Options} {tally : Tally} {s : Session}
    (h : (start supply options tally).begin = (.ok (), s)) :
    s.current = none ∧ s.array = .closed := by
  have hmoves {s t : Session} (ht : t = { s with cursor := t.cursor }) (hc : s.current = none)
      (ha : s.array = .closed) : t.current = none ∧ t.array = .closed := by
    rw [ht]
    exact ⟨hc, ha⟩
  unfold begin at h
  split at h
  · cases h
  · split at h
    · cases h
    · next s₁ hr =>
      obtain ⟨hc₁, ha₁⟩ := hmoves (readToken_moves hr) rfl rfl
      split at h
      · cases h
      · next s₂ hf =>
        cases h
        show s₂.current = none ∧ s₂.array = .closed
        unfold readFirstLabel at hf
        rcases hl : s₁.readLabel with ⟨f | _ | label, s₃⟩
        · rw [hl] at hf
          cases hf
        all_goals
          obtain ⟨hc₃, ha₃⟩ := hmoves (readLabel_moves hl) hc₁ ha₁
          rw [hl] at hf
          simp only at hf
        · cases hf
          exact ⟨hc₃, ha₃⟩
        · split at hf
          · have hkind := sameKind_readBuild hf
            exact ⟨hkind.current_eq.trans hc₃, hkind.array_eq.trans ha₃⟩
          · cases hf
            exact ⟨hc₃, ha₃⟩
          · exact hmoves (dropSection_moves hf) hc₃ ha₃
          · cases hf
    · cases h

/-! ### Mistakes -/

/-- Passing over a kind at which the session does not stand is refused. -/
theorem Session.skipKind_of_ne {s : Session} {k : Kind} (h : s.current ≠ some k) :
    ∃ f, s.skipKind (some k) = (.error f, 0, s) ∧ f.status = .invalidArgs := by
  unfold skipKind
  simp only [h, if_false]
  exact ⟨_, rfl, rfl⟩

/-- A reader of another form is refused, and then it is done. -/
theorem Reader.poll_of_form {r : Reader} {k : Kind} (hdone : r.done = false) (hk : r.kind = some k)
    (hform : r.form.sameForm k = false) (s : Session) :
    ∃ f, r.poll s = (some (.error f), { r with done := true }, s) ∧ f.status = .invalidArgs := by
  have hnext : r.next s = (.error (wrongForm k), r, s) := by
    unfold next
    simp only [hk, hform, Bool.false_eq_true, if_false]
  unfold poll
  rw [hdone, hnext]
  exact ⟨_, rfl, rfl⟩

/-- Behind the last record of an array, the array is closed. -/
theorem Reader.Attends.closed_of_read {r r' : Reader} {k : Kind} {s t : Session}
    {xs : List (Nat × Record)} (h : r.Attends k s) (hr : r.read none s = (.ok (), xs, r', t)) :
    t.array = .closed ∧ t.current = some k := by
  generalize hlimit : (none : Option Nat) = limit at hr
  fun_induction Reader.read r limit s generalizing xs with
  | case1 => cases hlimit
  | case2 r limit s hno r₁ s₁ hp =>
    cases hr
    have hattends := h.poll (x := none) hp
    exact ⟨hattends.closed (done_of_poll hp), hattends.current_eq⟩
  | case3 => cases hr
  | case4 r limit s hno x r₁ s₁ hp e ys r₂ s₂ hread ih =>
    cases hr
    subst hlimit
    exact ih (h.poll (x := some x) hp) rfl hread

namespace Desk

/-! ### Operations that may fail -/

/-- What an operation answers and leads to, whether it fails or not. A reader is given up when the
session is used otherwise; without a reader there is no record. -/
def perform (d : Desk) : Operation → Except Failure Answer × Desk
  | .nextKind =>
    match d.session.nextKind with
    | (r, session) => (r.map .kind, { session })
  | .skipKind kind =>
    match d.session.skipKind kind with
    | (r, n, session) => (r.map fun _ => .skipped n, { session })
  | .read form sinks => (.ok .made, { d with reader := some (.start d.session form sinks) })
  | .poll =>
    match d.reader with
    | none => (.ok (.record none), d)
    | some r =>
      match r.poll d.session with
      | (none, r, session) => (.ok (.record none), { session, reader := some r })
      | (some x, r, session) => (x.map (.record ∘ some), { session, reader := some r })

/-- What operations lead to, whether they fail or not. -/
def after (d : Desk) (os : List Operation) : Desk := os.foldl (fun d o => (d.perform o).2) d

/-- An operation that is called by mistake: passing over a kind at which the session does not stand,
or polling a reader of another form for the first time. -/
def Mistaken (d : Desk) : Operation → Prop
  | .skipKind (some k) => d.session.current ≠ some k
  | .poll => ∃ r k, d.reader = some r ∧ r.done = false ∧ r.kind = some k ∧ r.form.sameForm k = false
  | _ => False

/-- Operations of which only those fail that are called by mistake. -/
def Calm : Desk → List Operation → Prop
  | _, [] => True
  | d, o :: os => ((d.perform o).1.isOk = true ∨ d.Mistaken o) ∧ (d.perform o).2.Calm os

variable {d e : Desk}

/-- A mistake is refused, and nothing is read or added up. -/
theorem perform_mistaken {o : Operation} (h : d.Mistaken o) :
    ∃ f, (d.perform o).1 = .error f ∧ f.status = .invalidArgs ∧
      (d.perform o).2.session = d.session := by
  cases o with
  | skipKind kind =>
    cases kind with
    | none => exact h.elim
    | some k =>
      obtain ⟨f, hskip, hf⟩ := Session.skipKind_of_ne h
      exact ⟨f, by rw [perform, hskip]; rfl, hf, by rw [perform, hskip]⟩
  | poll =>
    obtain ⟨r, k, hr, hdone, hk, hform⟩ := h
    obtain ⟨f, hpoll, hf⟩ := Reader.poll_of_form hdone hk hform d.session
    exact ⟨f, by simp only [perform, hr, hpoll]; rfl, hf, by simp only [perform, hr, hpoll]⟩
  | nextKind => exact h.elim
  | read form sinks => exact h.elim

/-! ### Between kinds -/

/-- Between kinds every operation but the next kind leaves the session alone. -/
theorem session_perform_of_none (hd : d.Fits) (hc : d.session.current = none) {o : Operation}
    (ho : o ≠ .nextKind) : (d.perform o).2.session = d.session := by
  cases o with
  | nextKind => exact absurd rfl ho
  | skipKind kind =>
    rcases hs : d.session.skipKind kind with ⟨r, n, s⟩
    simp only [perform, hs]
    exact Session.skipKind_of_none hc hs
  | read form sinks => rfl
  | poll =>
    cases hr : d.reader with
    | none => simp only [perform, hr]
    | some r =>
      have hpoll := Session.poll_of_none (s := d.session) ((hd r hr).trans hc)
      simp only [perform, hr, hpoll]

/-- The reader at work belongs to the kind at which the session stands, whatever is done. -/
theorem fits_perform (hd : d.Fits) (o : Operation) : (d.perform o).2.Fits := by
  intro q hq
  cases o with
  | nextKind => cases hq
  | skipKind kind => cases hq
  | read form sinks =>
    cases hq
    rfl
  | poll =>
    cases hr : d.reader with
    | none =>
      simp only [perform, hr] at hq
      cases hq
    | some r =>
      rcases hp : r.poll d.session with ⟨_ | x, r', s⟩
      all_goals
        simp only [perform, hr, hp] at hq ⊢
        cases hq
        rw [Reader.kind_poll hp, (Session.kept_poll hp).current_eq]
        exact hd r hr

/-! ### The invariant -/

/-- What holds of a session that is used while the stream and the sinks do not fail; `first` is the
kind that waited when it was opened, and `begun` says whether the next kind was asked for since. -/
structure Steady (data : List UInt8) (first : Option Kind) (begun : Prop) (d : Desk) : Prop where
  /-- It was opened. -/
  opened : d.session.Opened data
  /-- It stands inside of the envelope of the export, or behind it. -/
  enveloped : d.session.Enveloped data
  /-- The reader at work belongs to the kind. -/
  fits : d.Fits
  /-- Between kinds there is no array. -/
  closed : d.session.current = none → d.session.array = .closed
  /-- Until the next kind is asked for, a kind may wait, between kinds. -/
  waits : ¬ begun → d.session.current = none ∧ d.session.pending = first
  /-- Then none waits any more. -/
  handed : begun → d.session.pending = none

/-- A session that is opened may have a kind that waits. -/
theorem steady_begin {supply : Supply} {options : Options} {tally : Tally} {s : Session}
    (h : (Session.start supply options tally).begin = (.ok (), s)) :
    ({ session := s } : Desk).Steady supply.rest s.pending False := by
  obtain ⟨hc, ha⟩ := Session.stands_begin h
  exact ⟨.begin rfl h, Session.enveloped_begin h, nofun, fun _ => ha, fun _ => ⟨hc, rfl⟩,
    False.elim⟩

/-- One operation hands the invariant to the next. -/
theorem Steady.step {data : List UInt8} {first : Option Kind} {begun : Prop}
    (hd : d.Steady data first begun) {o : Operation}
    (ho : (d.perform o).1.isOk = true ∨ d.Mistaken o) :
    (d.perform o).2.Steady data first (begun ∨ o = .nextKind) := by
  have hfits := fits_perform hd.fits o
  -- what leaves the session alone
  have hstay (hs : (d.perform o).2.session = d.session) (hnext : o ≠ .nextKind) :
      (d.perform o).2.Steady data first (begun ∨ o = .nextKind) :=
    ⟨hs ▸ hd.opened, hs ▸ hd.enveloped, hfits, hs ▸ hd.closed,
      fun hno => hs ▸ hd.waits fun hb => hno (.inl hb),
      fun hb => hs ▸ hd.handed (hb.resolve_right hnext)⟩
  -- what works at a kind
  have hwork {s : Session} (hs : (d.perform o).2.session = s) (hopened : s.Opened data)
      (henveloped : s.Enveloped data) (hkept : d.session.Kept s)
      (hcurrent : d.session.current ≠ none) (hnext : o ≠ .nextKind) :
      (d.perform o).2.Steady data first (begun ∨ o = .nextKind) := by
    have hbegun : begun := Classical.byContradiction fun hno => hcurrent (hd.waits hno).1
    exact ⟨hs ▸ hopened, hs ▸ henveloped, hfits,
      fun hc => absurd (hkept.current_eq.symm.trans (hs ▸ hc)) hcurrent,
      fun hno => absurd (.inl hbegun) hno, fun _ => hs ▸ hkept.pending_eq.trans (hd.handed hbegun)⟩
  obtain hok | hmistake := ho
  case inr =>
    obtain ⟨-, -, -, hs⟩ := perform_mistaken hmistake
    refine hstay hs ?_
    rintro rfl
    exact hmistake
  cases o with
  | nextKind =>
    rcases hn : d.session.nextKind with ⟨f | x, s⟩
    · simp only [perform, hn] at hok
      cases hok
    · obtain ⟨hcurrent, hpending, hclosed⟩ := hd.opened.stands_nextKind hn
      have hs : (d.perform .nextKind).2.session = s := by simp only [perform, hn]
      refine ⟨hs ▸ hd.opened.of_nextKind hn, hs ▸ hd.enveloped.nextKind hd.opened hn, hfits,
        fun hc => ?_, fun hno => absurd (.inr rfl) hno, fun _ => hs ▸ hpending⟩
      rw [hs] at hc ⊢
      exact hclosed (hcurrent.symm.trans hc)
  | skipKind kind =>
    by_cases hc : d.session.current = none
    · exact hstay (session_perform_of_none hd.fits hc nofun) nofun
    · rcases hk : d.session.skipKind kind with ⟨f | _, n, s⟩
      · simp only [perform, hk] at hok
        cases hok
      · have hs : (d.perform (.skipKind kind)).2.session = s := by simp only [perform, hk]
        exact hwork hs (hd.opened.of_skipKind hk) (hd.enveloped.skipKind hd.opened hk)
          (Session.works_skipKind hk).kept hc nofun
  | read form sinks => exact hstay rfl nofun
  | poll =>
    by_cases hc : d.session.current = none
    · exact hstay (session_perform_of_none hd.fits hc nofun) nofun
    · cases hr : d.reader with
      | none => exact hstay (by simp only [perform, hr]) nofun
      | some r =>
        rcases hp : r.poll d.session with ⟨x, r', s⟩
        have hs : (d.perform .poll).2.session = s := by
          cases x <;> simp only [perform, hr, hp]
        have hx : ∀ f, x ≠ some (.error f) := by
          rintro f rfl
          simp only [perform, hr, hp] at hok
          cases hok
        exact hwork hs (hd.opened.of_poll (hd.fits r hr) hp)
          (hd.enveloped.poll hd.opened (hd.fits r hr) hp hx) (Session.kept_poll hp) hc nofun

/-- Operations of which only mistakes fail keep the invariant. -/
theorem Steady.steps {data : List UInt8} {first : Option Kind} {begun : Prop}
    (hd : d.Steady data first begun) {os : List Operation} (hos : d.Calm os) :
    (d.after os).Steady data first (begun ∨ .nextKind ∈ os) := by
  induction os generalizing d begun with
  | nil =>
    refine ⟨hd.opened, hd.enveloped, hd.fits, hd.closed,
      fun hno => hd.waits fun hb => hno (.inl hb), ?_⟩
    rintro (hb | hmem)
    · exact hd.handed hb
    · cases hmem
  | cons o os ih =>
    have hnext := ih (hd.step hos.1) hos.2
    refine ⟨hnext.opened, hnext.enveloped, hnext.fits, hnext.closed, fun hno => hnext.waits ?_,
      fun hb => hnext.handed ?_⟩
    · rintro ((hb | rfl) | hmem)
      · exact hno (.inl hb)
      · exact hno (.inr (List.mem_cons_self ..))
      · exact hno (.inr (List.mem_cons_of_mem _ hmem))
    · obtain hb | hmem := hb
      · exact .inl (.inl hb)
      · rcases List.mem_cons.mp hmem with heq | hmem
        · exact .inl (.inr heq.symm)
        · exact .inr hmem

/-! ### Behind the last brace -/

/-- Behind the last brace every operation leaves the session as it is. -/
theorem session_after_of_exhausted {data : List UInt8} (hd : d.Fits)
    (hs : d.session.Sealed data) (hx : d.session.exhausted = true)
    (ha : d.session.array = .closed) (os : List Operation) :
    (d.after os).session = d.session := by
  induction os generalizing d with
  | nil => rfl
  | cons o os ih =>
    have hstay : (d.perform o).2.session = d.session := by
      by_cases ho : o = .nextKind
      · subst ho
        have hnext := hs.nextKind_eq hx
        simp only [perform, hnext, Session.leave]
        rw [← hs.current_eq hx, ← ha]
      · exact session_perform_of_none hd (hs.current_eq hx) ho
    have hrest : ((d.perform o).2.after os).session = (d.perform o).2.session :=
      ih (fits_perform hd o) (hstay ▸ hs) (hstay ▸ hx) (hstay ▸ ha)
    exact hrest.trans hstay

/-! ### Whatever is done -/

/-- What holds of a session that was opened as `s` and used by some operations since. -/
structure Orderly (data : List UInt8) (s : Session) (os : List Operation) (d : Desk) : Prop where
  /-- Between kinds there is no array. -/
  closed : d.session.current = none → d.session.array = .closed
  /-- Until the next kind is asked for, the session stands at no kind, and the kind that waited when
  it was opened waits. -/
  waits : .nextKind ∉ os → d.session.current = none ∧ d.session.pending = s.pending
  /-- Then none waits any more. -/
  handed : .nextKind ∈ os → d.session.pending = none
  /-- A kind that waits is the next one, and then it waits no longer. -/
  first : ∀ k, d.session.pending = some k →
    ∃ e, d.perform .nextKind = (.ok (.kind (some k)), e) ∧ e.session.current = some k ∧
      e.session.pending = none
  /-- Between kinds nothing but the next kind changes the session. -/
  idle : d.session.current = none → ∀ o, o ≠ .nextKind → (d.perform o).2.session = d.session
  /-- What is called by mistake is refused, and nothing is read or added up. -/
  mistaken : ∀ o, d.Mistaken o → ∃ f, (d.perform o).1 = .error f ∧ f.status = .invalidArgs ∧
    (d.perform o).2.session = d.session
  /-- At a kind another one cannot be passed over, and nothing changes. -/
  wrong_kind : ∀ k l, d.session.current = some k → l ≠ k →
    ∃ f, d.perform (.skipKind (some l)) = (.error f, { session := d.session }) ∧
      f.status = .invalidArgs
  /-- At a kind a reader of another form is refused, and nothing changes. -/
  wrong_form : ∀ k form sinks, d.session.current = some k → form.sameForm k = false →
    ∃ f r, (d.perform (.read form sinks)).2.perform .poll =
        (.error f, { session := d.session, reader := some r }) ∧ f.status = .invalidArgs
  /-- A reader of the form that is read to its end reads the whole rest of the array. -/
  whole : ∀ k form sinks, d.session.current = some k → form.sameForm k = true → ∀ xs r t,
    (Reader.start d.session form sinks).read none d.session = (.ok (), xs, r, t) →
      t.array = .closed ∧ t.current = some k
  /-- There is no next kind only behind the last brace, which closes the envelope, and there nothing
  changes any more. -/
  last : ∀ e, d.perform .nextKind = (.ok (.kind none), e) →
    e.session.BraceRead data ∧ e.session.EnvelopeRead data ∧
      ∀ later, (e.after later).session = e.session

/-- What is found by asking for the next kind. -/
theorem nextKind_of_perform {x : Option Kind} (h : d.perform .nextKind = (.ok (.kind x), e)) :
    d.session.nextKind = (.ok x, e.session) := by
  rcases hn : d.session.nextKind with ⟨f | y, s⟩
  · simp only [perform, hn] at h
    cases h
  · simp only [perform, hn] at h
    cases h
    rfl

/-- The invariant says what holds of the session. -/
theorem Steady.orderly {data : List UInt8} {s : Session} {os : List Operation}
    (hd : d.Steady data s.pending (False ∨ .nextKind ∈ os)) : Orderly data s os d where
  closed := hd.closed
  waits hno := hd.waits fun hb => hno (hb.resolve_left id)
  handed hmem := hd.handed (.inr hmem)
  first := by
    intro k hk
    have hc : d.session.current = none := by
      refine (hd.waits fun hb => ?_).1
      cases hk.symm.trans (hd.handed hb)
    have hnext : d.session.nextKind = (.ok (some k),
        ({ d.session.leave with pending := none } : Session).enter k) := by
      have hf : d.session.finishCurrent = (.ok (), d.session.leave) := by
        unfold Session.finishCurrent
        rw [hc]
      have hp : d.session.leave.pending = some k := hk
      unfold Session.nextKind
      rw [hf]
      simp only [hp]
    exact ⟨_, by simp only [perform, hnext]; rfl, rfl, rfl⟩
  idle hc _ ho := session_perform_of_none hd.fits hc ho
  mistaken _ ho := perform_mistaken ho
  wrong_kind := by
    intro k l hc hl
    have hne : d.session.current ≠ some l := by
      rw [hc]
      exact fun h => hl (Option.some.inj h).symm
    obtain ⟨f, hskip, hf⟩ := Session.skipKind_of_ne hne
    exact ⟨f, by simp only [perform, hskip]; rfl, hf⟩
  wrong_form := by
    intro k form sinks hc hform
    obtain ⟨f, hpoll, hf⟩ := Reader.poll_of_form (r := .start d.session form sinks) rfl hc hform
      d.session
    exact ⟨f, _, by simp only [perform, hpoll]; rfl, hf⟩
  whole := by
    intro k form sinks hc hform xs r t hread
    exact Reader.Attends.closed_of_read ⟨hc, hc, hform, by simp [Reader.start]⟩ hread
  last := by
    intro e he
    have hnext := nextKind_of_perform he
    have hfits : e.Fits := by
      have hperform := fits_perform hd.fits .nextKind
      rw [he] at hperform
      exact hperform
    have hbrace := hd.opened.braceRead_of_nextKind hnext
    have henveloped := hd.enveloped.nextKind hd.opened hnext
    exact ⟨hbrace, henveloped.envelopeRead hbrace.exhausted_eq,
      session_after_of_exhausted hfits (hd.opened.of_nextKind hnext).sealed
        hbrace.exhausted_eq ((hd.opened.stands_nextKind hnext).2.2 rfl)⟩

/-- **The order of operations.** After any operations on an opened export, of which none failed but
those called by mistake: between kinds there is no array, and a kind waits only until the next kind
is asked for, which is that one; between kinds nothing else is read or added up; at a kind, passing
over another one and a reader of another form are refused and change nothing, so that a reader of
the form still reads the whole rest of the array; and there is no next kind only behind the last
brace, which closes the envelope, and there nothing changes any more. -/
theorem orderly_of_calm {supply : Supply} {options : Options} {tally : Tally} {s : Session}
    (hopen : (Session.start supply options tally).begin = (.ok (), s)) {os : List Operation}
    (hos : ({ session := s } : Desk).Calm os) :
    Orderly supply.rest s os (({ session := s } : Desk).after os) :=
  ((steady_begin hopen).steps hos).orderly

/-- The bytes `{"Docs":[],"Tombstones":[]}`: at the documents, tombstones cannot be passed over and
a reader of tombstones is refused; behind both kinds nothing changes any more. -/
theorem orderly_of_mistakes :
    let supply : Supply :=
      { rest := [123, 34, 68, 111, 99, 115, 34, 58, 91, 93, 44, 34, 84, 111, 109, 98, 115, 116, 111,
          110, 101, 115, 34, 58, 91, 93, 125] }
    let os : List Operation := [.nextKind, .skipKind (some .tombstones), .read .tombstones .memory,
      .poll, .nextKind, .nextKind]
    ∃ s, (Session.start supply {} {}).begin = (.ok (), s) ∧ s.pending = some .documents ∧
      ({ session := s } : Desk).Calm os ∧
      Orderly supply.rest s os (({ session := s } : Desk).after os) ∧
      (({ session := s } : Desk).after os).session.exhausted = true := by
  intro supply os
  have hopened : (Session.start supply {} {}).begin.1.isOk = true := by decide +kernel
  rcases hopen : (Session.start supply {} {}).begin with ⟨f | _, s⟩
  · rw [hopen] at hopened
    cases hopened
  have hs : s = (Session.start supply {} {}).begin.2 := by rw [hopen]
  have hcalm : ({ session := s } : Desk).Calm os := by
    refine ⟨.inl ?_, .inr ?_, .inl rfl, .inr ⟨_, .documents, rfl, rfl, ?_, rfl⟩, .inl ?_, .inl ?_,
      trivial⟩
    · rw [hs]; decide +kernel
    · show _ ≠ _
      rw [hs]; decide +kernel
    · rw [hs]; decide +kernel
    · rw [hs]; decide +kernel
    · rw [hs]; decide +kernel
  refine ⟨s, rfl, ?_, hcalm, orderly_of_calm hopen hcalm, ?_⟩
  · rw [hs]; decide +kernel
  · rw [hs]; decide +kernel

end Desk

end ExportStream

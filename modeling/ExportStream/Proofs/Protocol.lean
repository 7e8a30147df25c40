import ExportStream.Proofs.ClosedEnvelopes
import ExportStream.Proofs.Recordings
import ExportStream.Proofs.Walks
/-!
# The order of events

An import that is taken to its end asks its handler in a fixed order: the header first, then the
records of one array after the other, as they stand in the stream, then the end, once the brace that
closes the envelope is read, and at last what is done when all went well. The first failure stops
that, whether the stream, a sink or the handler fails, and it is the outcome; so an import that was
broken off never looks complete (**`Import.drive_protocol`**).

What is asked is what a recorded handler writes down (`Import.asked`). It is put together from one
visit for each array (`Visit`), each of which takes its records from a reader of that array
(`Visit.Fair`), and the visits follow each other as the session finds the kinds (`Tour`).
-/

namespace ExportStream

variable {σ : Type}

/-! ### Answers -/

/-- Every call was answered without a failure. -/
def AllAccepted (log : List Call) : Prop := ∀ c ∈ log, c.answer = .ok ()

/-- Nothing is asked behind the first failure, and that is the outcome. -/
inductive FailsFast : List Call → Except Failure Unit → Prop where
  /-- No call failed. -/
  | accepted {log : List Call} {o : Except Failure Unit} : AllAccepted log → FailsFast log o
  /-- The last call failed. -/
  | refused {log : List Call} {c : Call} {f : Failure} : AllAccepted log → c.answer = .error f →
      FailsFast (log ++ [c]) (.error f)

theorem AllAccepted.nil : AllAccepted [] := by
  simp [AllAccepted]

theorem AllAccepted.append {a b : List Call} (ha : AllAccepted a) (hb : AllAccepted b) :
    AllAccepted (a ++ b) := by
  intro c hc
  rcases List.mem_append.mp hc with hc | hc
  · exact ha c hc
  · exact hb c hc

theorem AllAccepted.singleton {c : Call} (h : c.answer = .ok ()) : AllAccepted [c] := by
  intro d hd
  rw [List.mem_singleton.mp hd]
  exact h

theorem FailsFast.append {a b : List Call} {o : Except Failure Unit} (ha : AllAccepted a)
    (hb : FailsFast b o) : FailsFast (a ++ b) o := by
  cases hb with
  | accepted hb => exact .accepted (ha.append hb)
  | refused hb hc =>
    rw [← List.append_assoc]
    exact .refused (ha.append hb) hc

theorem FailsFast.singleton {c : Call} {f : Failure} (h : c.answer = .error f) :
    FailsFast [c] (.error f) :=
  .refused .nil h

theorem FailsFast.all_of_ok {log : List Call} (h : FailsFast log (.ok ())) : AllAccepted log := by
  cases h with
  | accepted h => exact h

/-! ### Visits -/

/-- The calls with the records of a kind. -/
def recordCalls (k : Kind) (handed : List (Record × Except Failure Unit)) : List Call :=
  handed.map fun x => .told (.record k x.1) x.2

/-- What a reader hands out that is not given up: how it ends, and the records. -/
def Reader.reading (r : Reader) (s : Session) : Except Failure Unit × List Record :=
  ((r.read none s).1, (r.read none s).2.1.map Prod.snd)

/-- What was done about one array. -/
structure Visit (σ : Type) where
  /-- The kind of the array. -/
  kind : Kind
  /-- The import in front of the array. -/
  start : Import σ
  /-- The records that were handed over, each with the answer. -/
  handed : List (Record × Except Failure Unit)
  /-- How the visit ended. -/
  outcome : Except Failure Unit
  /-- The import behind the visit. -/
  stop : Import σ

namespace Visit

/-- What was asked during a visit. -/
def calls (v : Visit σ) : List Call := recordCalls v.kind v.handed

/-- What a reader of the array hands out. -/
def reading (v : Visit σ) : Except Failure Unit × List Record :=
  (Reader.start v.start.session v.kind v.start.sinks).reading v.start.session

/-- A visit that does what it should. -/
structure Fair (h : Handler σ) (v : Visit σ) : Prop where
  /-- It is how the import takes the kind. -/
  taken : v.start.takeKind h v.kind = (v.outcome, v.stop)
  /-- Every event belongs to the kind of the array. -/
  kind_eq : ∀ c ∈ v.calls, c.event?.bind Event.kind = v.start.session.current
  /-- No record is handed over of a kind that is not wanted. -/
  wanted : v.handed ≠ [] → h.wants v.kind v.start.state = true
  /-- The records are the first ones of the array, in order. -/
  front : v.handed.map Prod.fst <+: v.reading.2
  /-- All records of an array that is wanted are handed over, if nothing fails. -/
  whole : h.wants v.kind v.start.state = true → v.outcome = .ok () →
    v.handed.map Prod.fst = v.reading.2 ∧ v.reading.1 = .ok ()
  /-- A record that is refused is the last, and the outcome is that refusal. -/
  failsFast : FailsFast v.calls v.outcome
  /-- Any other failure is one of the stream or of a sink: that of the reader, -/
  reading_failed : h.wants v.kind v.start.state = true → ∀ f, v.outcome = .error f →
    AllAccepted v.calls → v.reading.1 = .error f
  /-- or, if the kind is not wanted, that of passing over it. -/
  skipping_failed : h.wants v.kind v.start.state = false → ∀ f, v.outcome = .error f →
    (v.start.session.skipKind (some v.kind)).1 = .error f

end Visit

/-- Visits that follow each other as the session finds the kinds, and how that ended. -/
inductive Tour (h : Handler σ) : Import σ → List (Visit σ) → Except Failure Unit → Import σ → Prop
  where
  /-- There is no kind any more. -/
  | finished {i : Import σ} {s : Session} : i.session.nextKind = (.ok none, s) →
      Tour h i [] (.ok ()) { i with session := s }
  /-- The next kind is not found. -/
  | lost {i : Import σ} {s : Session} {f : Failure} : i.session.nextKind = (.error f, s) →
      Tour h i [] (.error f) { i with session := s }
  /-- The visit of the next array fails. -/
  | broken {i : Import σ} {s : Session} {v : Visit σ} {f : Failure} :
      i.session.nextKind = (.ok (some v.kind), s) → v.start = { i with session := s } →
      v.Fair h → v.outcome = .error f → Tour h i [v] (.error f) v.stop
  /-- The next array is visited, and the tour goes on. -/
  | visited {i j : Import σ} {s : Session} {v : Visit σ} {vs : List (Visit σ)}
      {o : Except Failure Unit} :
      i.session.nextKind = (.ok (some v.kind), s) → v.start = { i with session := s } →
      v.Fair h → v.outcome = .ok () → Tour h v.stop vs o j → Tour h i (v :: vs) o j

namespace Import

/-! ### The records of one array -/

/-- What is handed over of what a reader hands out, and how that ends. -/
structure HandsOver (k : Kind) (reading : Except Failure Unit × List Record)
    (handed : List (Record × Except Failure Unit)) (o : Except Failure Unit) : Prop where
  /-- The first records, in order. -/
  front : handed.map Prod.fst <+: reading.2
  /-- All records if nothing fails. -/
  whole : o = .ok () → handed.map Prod.fst = reading.2 ∧ reading.1 = .ok ()
  /-- Nothing behind a refusal. -/
  failsFast : FailsFast (recordCalls k handed) o
  /-- Any other failure is that of the reader. -/
  broken : ∀ f, o = .error f → AllAccepted (recordCalls k handed) → reading.1 = .error f

/-- One more record is handed over in front. -/
theorem HandsOver.cons {k : Kind} {reading : Except Failure Unit × List Record}
    {handed : List (Record × Except Failure Unit)} {o : Except Failure Unit}
    (h : HandsOver k reading handed o) (x : Record) :
    HandsOver k (reading.1, x :: reading.2) ((x, .ok ()) :: handed) o where
  front := by
    rw [List.map_cons, List.cons_prefix_cons]
    exact ⟨rfl, h.front⟩
  whole ho := by
    obtain ⟨hall, hend⟩ := h.whole ho
    exact ⟨by rw [List.map_cons, hall], hend⟩
  failsFast := h.failsFast.append (.singleton rfl)
  broken f ho hall := h.broken f ho fun c hc => hall c (List.mem_cons_of_mem _ hc)

theorem handsOver_deliver (h : Handler σ) {i j : Import (σ × List Call)} {k : Kind} {r : Reader}
    {o : Except Failure Unit} (hr : r.kind = some k)
    (hd : i.deliver h.recorded k r = (o, j)) :
    ∃ handed, j.state.2 = i.state.2 ++ recordCalls k handed ∧
      (∀ x ∈ handed, x.1.kindAs k = k) ∧ HandsOver k (r.reading i.session) handed o := by
  fun_induction deliver i h.recorded k r with
  | case1 i r r' s hp =>
    cases hd
    have hread : r.reading i.session = (.ok (), []) := by
      unfold Reader.reading
      rw [Reader.read_eq, hp]
      rfl
    refine ⟨[], (List.append_nil _).symm, by simp, ?_⟩
    rw [hread]
    exact ⟨List.nil_prefix, fun _ => ⟨rfl, rfl⟩, .accepted .nil, by simp⟩
  | case2 i r f r' s hp =>
    cases hd
    have hread : r.reading i.session = (.error f, []) := by
      unfold Reader.reading
      rw [Reader.read_eq, hp]
      rfl
    refine ⟨[], (List.append_nil _).symm, by simp, ?_⟩
    rw [hread]
    exact ⟨List.nil_prefix, by simp, .accepted .nil, fun _ hf _ => hf⟩
  | case3 i r x r' s hp f st hh =>
    cases hd
    have hread : r.reading i.session = ((r'.reading s).1, x :: (r'.reading s).2) := by
      unfold Reader.reading
      rw [Reader.read_eq, hp]
      rfl
    refine ⟨[(x, .error f)], Handler.handle_recorded hh,
      List.forall_mem_singleton.mpr (Reader.kindAs_poll hr hp), ?_⟩
    rw [hread]
    refine ⟨?_, by simp, .singleton rfl, ?_⟩
    · exact List.cons_prefix_cons.mpr ⟨rfl, List.nil_prefix⟩
    · intro _ _ hall
      cases hall _ (List.mem_singleton_self _)
  | case4 i r x r' s hp st hh ih =>
    have hread : r.reading i.session = ((r'.reading s).1, x :: (r'.reading s).2) := by
      unfold Reader.reading
      rw [Reader.read_eq, hp]
      rfl
    obtain ⟨handed, hlog, hkinds, hover⟩ := ih ((Reader.kind_poll hp).trans hr) hd
    refine ⟨(x, .ok ()) :: handed, ?_,
      List.forall_mem_cons.mpr ⟨Reader.kindAs_poll hr hp, hkinds⟩, ?_⟩
    · rw [hlog, Handler.handle_recorded hh, List.append_assoc]
      rfl
    · rw [hread]
      exact hover.cons x

theorem visit_takeKind (h : Handler σ) {i j : Import (σ × List Call)} {k : Kind}
    (hk : i.session.current = some k) {o : Except Failure Unit}
    (ht : i.takeKind h.recorded k = (o, j)) :
    ∃ v : Visit σ, v.kind = k ∧ v.start = i.map Prod.fst ∧ v.outcome = o ∧
      v.stop = j.map Prod.fst ∧ j.state.2 = i.state.2 ++ v.calls ∧ v.Fair h := by
  have htaken : (i.map Prod.fst).takeKind h k = (o, j.map Prod.fst) := by
    have hmap := takeKind_map h.recorded_maps i k
    rw [ht] at hmap
    exact hmap
  have hkind {handed : List (Record × Except Failure Unit)}
      (hkinds : ∀ x ∈ handed, x.1.kindAs k = k) :
      ∀ c ∈ recordCalls k handed, c.event?.bind Event.kind = i.session.current := by
    intro c hc
    obtain ⟨x, hx, rfl⟩ := List.mem_map.mp hc
    exact (congrArg some (hkinds x hx)).trans hk.symm
  unfold takeKind at ht
  split_ifs at ht with hwants
  · obtain ⟨handed, hlog, hkinds, hover⟩ := handsOver_deliver h hk ht
    refine ⟨⟨k, i.map Prod.fst, handed, o, j.map Prod.fst⟩, rfl, rfl, rfl, rfl, hlog, htaken,
      hkind hkinds, fun _ => hwants, hover.front, fun _ => hover.whole, hover.failsFast,
      fun _ => hover.broken, fun hno => ?_⟩
    cases hwants.symm.trans hno
  · rcases hs : i.session.skipKind (some k) with ⟨r, n, s⟩
    rw [hs] at ht
    cases ht
    refine ⟨⟨k, i.map Prod.fst, [], _, _⟩, rfl, rfl, rfl, rfl, (List.append_nil _).symm, htaken,
      hkind (by simp), fun hno => absurd rfl hno, List.nil_prefix, fun hyes => absurd hyes hwants,
      .accepted .nil, fun hyes => absurd hyes hwants, fun _ f hf => ?_⟩
    rw [← hf]
    exact congrArg Prod.fst hs

/-! ### The records of all arrays -/

/-- What is asked about the arrays is what is asked during visits that follow each other. -/
theorem tour_takeKinds (h : Handler σ) {i j : Import (σ × List Call)} {o : Except Failure Unit}
    (ht : i.takeKinds h.recorded = (o, j)) :
    ∃ visits, j.state.2 = i.state.2 ++ visits.flatMap Visit.calls ∧
      Tour h (i.map Prod.fst) visits o (j.map Prod.fst) := by
  fun_induction takeKinds i h.recorded with
  | case1 i f s hn =>
    cases ht
    exact ⟨[], (List.append_nil _).symm, .lost hn⟩
  | case2 i s hn =>
    cases ht
    exact ⟨[], (List.append_nil _).symm, .finished hn⟩
  | case3 i k s hn f j' hk =>
    cases ht
    obtain ⟨v, rfl, hstart, houtcome, hstop, hlog, hfair⟩ :=
      visit_takeKind h (Session.current_of_nextKind hn) hk
    refine ⟨[v], by rw [hlog]; simp, ?_⟩
    rw [← hstop]
    exact .broken hn hstart hfair houtcome
  | case4 i k s hn j' hk ih =>
    obtain ⟨v, rfl, hstart, houtcome, hstop, hlog, hfair⟩ :=
      visit_takeKind h (Session.current_of_nextKind hn) hk
    obtain ⟨vs, hlogs, htour⟩ := ih ht
    refine ⟨v :: vs, by rw [hlogs, hlog]; simp, ?_⟩
    rw [← hstop] at htour
    exact .visited hn hstart hfair houtcome htour

end Import

/-! ### Where a tour ends -/

section

variable {data : List UInt8} {i j : Import σ} {h : Handler σ} {k : Kind} {o : Except Failure Unit}

namespace Session.Opened

theorem deliver (hs : i.session.Opened data) {r : Reader} (hr : r.kind = i.session.current)
    (hd : i.deliver h k r = (o, j)) : j.session.Opened data := by
  fun_induction Import.deliver i h k r with
  | case1 i r r' s hp => cases hd; exact hs.of_poll hr hp
  | case2 i r f r' s hp => cases hd; exact hs.of_poll hr hp
  | case3 i r x r' s hp f st hh => cases hd; exact hs.of_poll hr hp
  | case4 i r x r' s hp st hh ih =>
    refine ih (hs.of_poll hr hp) ?_ hd
    rw [Reader.kind_poll hp, hr, (kept_poll hp).current_eq]

theorem takeKind (hs : i.session.Opened data) (ht : i.takeKind h k = (o, j)) :
    j.session.Opened data := by
  unfold Import.takeKind at ht
  split_ifs at ht
  · exact hs.deliver rfl ht
  · rcases hk : i.session.skipKind (some k) with ⟨r, n, s⟩
    rw [hk] at ht
    cases ht
    exact hs.of_skipKind hk

end Session.Opened

namespace Session.Enveloped

theorem deliver (hs : i.session.Enveloped data) (ho : i.session.Opened data) {r : Reader}
    (hr : r.kind = i.session.current) (hd : i.deliver h k r = (.ok (), j)) :
    j.session.Enveloped data := by
  fun_induction Import.deliver i h k r with
  | case1 i r r' s hp => cases hd; exact hs.poll ho hr hp (by simp)
  | case2 i r f r' s hp => cases hd
  | case3 i r x r' s hp f st hh => cases hd
  | case4 i r x r' s hp st hh ih =>
    refine ih (hs.poll ho hr hp (by simp)) (ho.of_poll hr hp) ?_ hd
    rw [Reader.kind_poll hp, hr, (kept_poll hp).current_eq]

theorem takeKind (hs : i.session.Enveloped data) (ho : i.session.Opened data)
    (ht : i.takeKind h k = (.ok (), j)) : j.session.Enveloped data := by
  unfold Import.takeKind at ht
  split_ifs at ht
  · exact hs.deliver ho rfl ht
  · rcases hk : i.session.skipKind (some k) with ⟨f | _, n, s⟩
    · rw [hk] at ht
      cases ht
    · rw [hk] at ht
      cases ht
      exact hs.skipKind ho hk

end Session.Enveloped

end

namespace Tour

variable {h : Handler σ} {i j : Import σ} {vs : List (Visit σ)} {o : Except Failure Unit}

/-- A tour that comes to its end ends behind the last brace. -/
theorem braceRead {data : List UInt8} (ht : Tour h i vs (.ok ()) j)
    (hs : i.session.Opened data) : j.session.BraceRead data := by
  generalize ho : Except.ok () = o at ht
  induction ht with
  | finished hn => exact hs.braceRead_of_nextKind hn
  | lost => cases ho
  | broken => cases ho
  | visited hn hstart hfair _ _ ih =>
    refine ih ?_ ho
    have htaken := hfair.taken
    rw [hstart] at htaken
    exact (hs.of_nextKind hn).takeKind htaken

/-- A tour through the envelope that comes to its end ends behind the brace that closes it. -/
theorem envelopeRead {data : List UInt8} (ht : Tour h i vs (.ok ()) j)
    (hs : i.session.Enveloped data) (hi : i.session.Opened data) : j.session.EnvelopeRead data := by
  generalize ho : Except.ok () = o at ht
  induction ht with
  | finished hn =>
    exact (hs.nextKind hi hn).envelopeRead (hi.braceRead_of_nextKind hn).exhausted_eq
  | lost => cases ho
  | broken => cases ho
  | visited hn hstart hfair houtcome _ ih =>
    have htaken := hfair.taken
    rw [hstart, houtcome] at htaken
    have hnext := hi.of_nextKind hn
    exact ih ((hs.nextKind hi hn).takeKind hnext htaken) (hnext.takeKind htaken) ho

/-- What is asked about the arrays fails fast, as every visit does. -/
theorem failsFast (ht : Tour h i vs o j) : FailsFast (vs.flatMap Visit.calls) o := by
  induction ht with
  | finished => exact .accepted .nil
  | lost => exact .accepted .nil
  | broken _ _ hfair ho =>
    rw [← ho]
    simpa using hfair.failsFast
  | visited _ _ hfair ho _ ih =>
    have hall := hfair.failsFast
    rw [ho] at hall
    rw [List.flatMap_cons]
    exact ih.append hall.all_of_ok

end Tour

/-! ### Whole imports -/

/-- What is asked while a session is taken to the end of its export. -/
structure Transcript (σ : Type) where
  /-- The answer to the header. -/
  header : Except Failure Unit
  /-- What is done about the arrays. -/
  visits : List (Visit σ)
  /-- What is asked behind the arrays. -/
  closing : List Call

namespace Transcript

/-- What is asked, in order. -/
def calls (t : Transcript σ) (i : Import σ) : List Call :=
  .told (.header i.session.build i.session.generation) t.header ::
    (t.visits.flatMap Visit.calls ++ t.closing)

/-- The import whose handler was told the header. -/
def greeted (h : Handler σ) (i : Import σ) : Import σ :=
  (i.tell h (.header i.session.build i.session.generation)).2

/-- The transcript keeps to the order of events, and the outcome is what it says. -/
structure Keeps (data : List UInt8) (h : Handler σ) (i : Import σ) (o : Except Failure Unit)
    (t : Transcript σ) : Prop where
  /-- Nothing is asked behind the first refusal, and that is the outcome. -/
  failsFast : FailsFast (t.calls i) o
  /-- If the header is refused no array is visited. -/
  unheard : ∀ f, t.header = .error f → t.visits = [] ∧ t.closing = []
  /-- If the end is not told, the tour through the arrays failed, and that is the outcome. -/
  stopped : t.header = .ok () → t.closing = [] →
    ∃ f j, o = .error f ∧ Tour h (greeted h i) t.visits (.error f) j
  /-- The end is told only behind the last array, when the last brace was read; and that closes the
  envelope, if the session stood inside of it before. -/
  ended : t.closing ≠ [] →
    ∃ j, Tour h (greeted h i) t.visits (.ok ()) j ∧ j.session.BraceRead data ∧
      (i.session.Enveloped data → j.session.EnvelopeRead data)
  /-- The end is told once, and what is done when all went well is done behind it, if it was
  accepted. -/
  closing_eq : t.closing = [] ∨ (∃ a, t.closing = [.told .finish a]) ∨
    ∃ a, t.closing = [.told .finish (.ok ()), .finalized a]
  /-- All went well exactly if the end was accepted and what is done then did not fail. -/
  done : o = .ok () ↔ t.closing = [.told .finish (.ok ()), .finalized (.ok ())]

end Transcript

theorem Transcript.Keeps.of_closing {data : List UInt8} {h : Handler σ} {i j : Import σ}
    {vs : List (Visit σ)} {closing : List Call} {o : Except Failure Unit}
    (htour : Tour h (greeted h i) vs (.ok ()) j) (hi : i.session.Opened data)
    (hfast : FailsFast closing o)
    (hclosing : (∃ a, closing = [.told .finish a]) ∨
      ∃ a, closing = [.told .finish (.ok ()), .finalized a])
    (hdone : o = .ok () ↔ closing = [.told .finish (.ok ()), .finalized (.ok ())]) :
    (⟨.ok (), vs, closing⟩ : Transcript σ).Keeps data h i o where
  failsFast := .append (.singleton rfl) (.append htour.failsFast.all_of_ok hfast)
  unheard _ := nofun
  stopped _ hno := by
    obtain ⟨a, rfl⟩ | ⟨a, rfl⟩ := hclosing <;> cases hno
  ended _ := ⟨j, htour, htour.braceRead hi, fun hs => htour.envelopeRead hs hi⟩
  closing_eq := .inr hclosing
  done := hdone

namespace Import

/-- **The order of events.** However an opened session was used before, and whatever the stream, the
sinks and the handler do: the header is told first and once, then the records of the arrays in the
order of the stream, those of each array with its kind and none of a kind that is not wanted, then
the end, once and only behind the last brace, which closes the envelope unless the session failed
before, and at last what is done when all went well. The first failure stops it all and is the
outcome, and all went well exactly if the end was accepted and what is done then did not fail. -/
theorem drive_protocol {data : List UInt8} {i : Import σ} (hi : i.session.Opened data)
    (h : Handler σ) :
    Prod.map id (map Prod.fst) (i.recording.drive h.recorded) = i.drive h ∧
      ∃ t : Transcript σ, i.asked h = t.calls i ∧ t.Keeps data h i (i.drive h).1 := by
  refine ⟨drive_recorded i h, ?_⟩
  have houtcome : (i.drive h).1 = (i.recording.drive h.recorded).1 := by
    rw [← drive_recorded]
    rfl
  rw [houtcome]
  unfold asked drive
  have hfinish {j j' : Import (σ × List Call)} {e : Event} {r : Except Failure Unit}
      (ht : j.tell h.recorded e = (r, j')) : j'.state.2 = j.state.2 ++ [.told e r] := by
    cases ht
    rfl
  have hfinal {st st' : σ × List Call} {r : Except Failure Unit}
      (hz : h.recorded.finalize st = (r, st')) : st'.2 = st.2 ++ [.finalized r] := by
    cases hz
    rfl
  rcases hh : i.recording.tell h.recorded
    (.header i.recording.session.build i.recording.session.generation) with ⟨f | _, i₁⟩
  · refine ⟨⟨.error f, [], []⟩, hfinish hh, ?_⟩
    exact ⟨.singleton rfl, fun _ _ => ⟨rfl, rfl⟩, by simp, fun hno => absurd rfl hno, .inl rfl,
      by simp⟩
  have hgreeted : i₁.map Prod.fst = Transcript.greeted h i := by
    have hmap := tell_map h.recorded_maps i.recording
      (.header i.recording.session.build i.recording.session.generation)
    rw [hh] at hmap
    exact (congrArg Prod.snd hmap).symm
  simp only
  rcases ht : i₁.takeKinds h.recorded with ⟨f | _, i₂⟩
  all_goals
    obtain ⟨visits, hlog, htour⟩ := tour_takeKinds h ht
    rw [hgreeted] at htour
  · refine ⟨⟨.ok (), visits, []⟩, ?_, ?_⟩
    · rw [hlog, hfinish hh]
      simp [Transcript.calls, recording]
    · refine ⟨?_, fun _ => by simp, fun _ _ => ⟨f, _, rfl, htour⟩, fun hno => absurd rfl hno,
        .inl rfl, by simp⟩
      exact .append (.singleton rfl) (by simpa using htour.failsFast)
  simp only
  rcases he : i₂.tell h.recorded .finish with ⟨f | _, i₃⟩
  · refine ⟨⟨.ok (), visits, [.told .finish (.error f)]⟩, ?_, ?_⟩
    · rw [hfinish he, hlog, hfinish hh]
      simp [Transcript.calls, recording]
    · exact .of_closing htour hi (.singleton rfl) (.inl ⟨_, rfl⟩) (by simp)
  simp only
  rcases hz : h.recorded.finalize i₃.state with ⟨f | _, st⟩
  · refine ⟨⟨.ok (), visits, [.told .finish (.ok ()), .finalized (.error f)]⟩, ?_, ?_⟩
    · simp only [hfinal hz, hfinish he, hlog, hfinish hh]
      simp [Transcript.calls, recording]
    · exact .of_closing htour hi (.append (.singleton rfl) (.singleton rfl)) (.inr ⟨_, rfl⟩)
        (by simp)
  · refine ⟨⟨.ok (), visits, [.told .finish (.ok ()), .finalized (.ok ())]⟩, ?_, ?_⟩
    · simp only [conclude, hfinal hz, hfinish he, hlog, hfinish hh]
      simp [Transcript.calls, recording]
    · exact .of_closing htour hi
        (.accepted ((AllAccepted.singleton rfl).append (.singleton rfl))) (.inr ⟨_, rfl⟩)
        ⟨fun _ => rfl, fun _ => rfl⟩

/-- The bytes `{"DocsDeletions":[{"Key":"a"},{"Key":"b"},{"Key":"c"}],"Docs":[]}` and a handler that
takes no second record: it is told the header and two records, and that is all. -/
theorem drive_protocol_refusal :
    let supply : Supply :=
      { rest := [123, 34, 68, 111, 99, 115, 68, 101, 108, 101, 116, 105, 111, 110, 115, 34, 58, 91,
          123, 34, 75, 101, 121, 34, 58, 34, 97, 34, 125, 44, 123, 34, 75, 101, 121, 34, 58, 34, 98,
          34, 125, 44, 123, 34, 75, 101, 121, 34, 58, 34, 99, 34, 125, 93, 44, 34, 68, 111, 99, 115,
          34, 58, 91, 93, 125] }
    let h : Handler Nat :=
      { handle := fun e n =>
          match e with
          | .record .. => (if n = 1 then .error (.general .invalidArgs "enough") else .ok (), n + 1)
          | _ => (.ok (), n) }
    ∃ s, (Session.start supply {} {}).begin = (.ok (), s) ∧
      (∃ t : Transcript Nat,
        asked { session := s, sinks := .memory, state := 0 } h =
            t.calls { session := s, sinks := .memory, state := 0 } ∧
          t.Keeps supply.rest h { session := s, sinks := .memory, state := 0 }
            (drive { session := s, sinks := .memory, state := 0 } h).1) ∧
      (asked { session := s, sinks := .memory, state := 0 } h).map
          (fun c => (c.event?.bind Event.kind, c.answer.isOk)) =
        [(none, true), (some .legacyDocumentDeletions, true),
          (some .legacyDocumentDeletions, false)] := by
  intro supply h
  have hopened : (Session.start supply {} {}).begin.1.isOk = true := by decide +kernel
  rcases hopen : (Session.start supply {} {}).begin with ⟨f | _, s⟩
  · rw [hopen] at hopened
    cases hopened
  have hs : s = (Session.start supply {} {}).begin.2 := by rw [hopen]
  refine ⟨s, rfl, (drive_protocol (.begin rfl hopen) h).2, ?_⟩
  rw [hs]
  decide +kernel

end Import

end ExportStream

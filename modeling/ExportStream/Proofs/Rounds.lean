import ExportStream.Session.Import
/-!
# Loops, one round at a time

The loops of the library recur on a number that every token lowers, so that their definitions carry
what their termination needs. Here each of them is one round in plain words: what the round reads,
and with what the loop goes on.
-/

namespace ExportStream

theorem Cursor.readToken_eq (c : Cursor) :
    c.readToken =
      match c.scanner.scan c.buffer with
      | .token t rest => (.ok t, c.advance (c.buffer.length - rest.length) .idle)
      | .fail f => (.error (c.malformed (.token f)), { c with scanner := .idle })
      | .more s =>
        match (c.useUp s).refill with
        | (.error f, c') => (.error f, c')
        | (.ok 0, c') => (.error c'.endedInToken, c')
        | (.ok (_ + 1), c') => readToken c' := by
  rw [readToken]
  rcases c.scanner.scan c.buffer with ⟨t, rest⟩ | s | f
  · rfl
  · simp only
    rcases (c.useUp s).refill with ⟨f | _ | n, c'⟩ <;> rfl
  · rfl

theorem Copying.move_eq {ω : Type} [Writer ω] (w : Copying ω) (size left : Nat)
    (moved : List (List UInt8)) :
    w.move size left moved =
      if left = 0 then (.ok moved, w)
      else
        match w.cursor.readRaw (min left w.copier.bufferSize) with
        | (.error f, cursor) => (.error f, { w with cursor })
        | (.ok [], cursor) => (.error (({ w with cursor } : Copying ω).tooShort size left),
            { w with cursor })
        | (.ok (b :: bs), cursor) =>
          match Writer.write w.sink (b :: bs) with
          | (.error f, sink) =>
            (.error ((Failure.ofDevice f).within "Writing attachment payload"),
              { w with cursor, sink })
          | (.ok (), sink) =>
            move
              { copier := { w.copier with copied := w.copier.copied + (b :: bs).length }
                cursor, sink }
              size (left - (b :: bs).length) ((b :: bs) :: moved) := by
  rewrite [move]
  rcases w.cursor.readRaw (min left w.copier.bufferSize) with ⟨f | _ | ⟨b, bs⟩, cursor⟩
  · rfl
  · rfl
  · rcases hw : Writer.write w.sink (b :: bs) with ⟨f | _, sink⟩ <;> simp only [hw]

theorem Assembler.go_eq (a : Assembler) (t : Token) (c : Cursor) :
    a.go t c =
      match Assembly.accept a.maxDepth a.frames t with
      | .done v => (.ok v, { a with frames := [], built := a.built + 1 }, c)
      | .refused f frames => (.error (.ofStream (c.locate f)), { a with frames }, c)
      | .more frames =>
        match c.readToken with
        | (.ok t, c') => go { a with frames } t c'
        | (.error f, c') => (.error f, { a with frames }, c') := by
  rw [go]
  rcases Assembly.accept a.maxDepth a.frames t with frames | v | ⟨f, frames⟩
  · simp only
    rcases c.readToken with ⟨f | t, c'⟩ <;> rfl
  · rfl
  · rfl

namespace Session

theorem dropValue_eq (s : Session) (label : String) (depth : Nat) :
    s.dropValue label depth =
      match s.readToken with
      | (.error f, s') => (.error f, s')
      | (.ok t, s') =>
        match depthAfter depth t with
        | none => (.error (s'.malformed (.unbalanced label)), s')
        | some 0 => (.ok (), s')
        | some (d + 1) => dropValue s' label (d + 1) := by
  rw [dropValue]
  rcases s.readToken with ⟨f | t, s'⟩
  · rfl
  · rcases hd : depthAfter depth t with _ | _ | d <;> simp only [hd]

theorem dropElements_eq (s : Session) (n : Nat) :
    s.dropElements n =
      match s.nextElement with
      | (.error f, s') => (.error f, n, s')
      | (.ok none, s') => (.ok (), n, s')
      | (.ok (some v), s') =>
        match s'.dropPayload v with
        | (.error f, s'') => (.error f, n, s'')
        | (.ok (), s'') => dropElements s'' (n + 1) := by
  rw [dropElements]
  rcases s.nextElement with ⟨f | _ | v, s'⟩
  · rfl
  · rfl
  · simp only
    rcases s'.dropPayload v with ⟨f | _, s''⟩ <;> rfl

theorem closed_of_readElement {s s' : Session} (h : s.readElement = (.ok none, s')) :
    s'.array = .closed := by
  unfold readElement at h
  split at h
  · cases h
  · cases h
    rfl
  · split at h <;> cases h

/-- Behind the last element the array is closed. -/
theorem closed_of_nextElement {s s' : Session} (h : s.nextElement = (.ok none, s')) :
    s'.array = .closed := by
  unfold nextElement at h
  split at h
  · next hclosed =>
    cases h
    exact hclosed
  · exact closed_of_readElement h
  · split at h
    · cases h
    · exact closed_of_readElement h

/-- An array that is closed has nothing more to pass over. -/
theorem finishCurrent_of_closed {s : Session} (h : s.array = .closed) :
    s.finishCurrent = (.ok (), s.leave) := by
  unfold finishCurrent
  cases s.current with
  | none => rfl
  | some k => simp only [h, if_true]

theorem dropElements_of_closed {s : Session} (h : s.array = .closed) (n : Nat) :
    s.dropElements n = (.ok (), n, s) := by
  have hnone : s.nextElement = (.ok none, s) := by
    unfold nextElement
    rw [h]
  rw [dropElements_eq, hnone]

theorem nextLabel_eq (s : Session) :
    s.nextLabel =
      if s.exhausted then (.ok none, s)
      else
        match s.readLabel with
        | (.error f, s') => (.error f, s')
        | (.ok none, s') => (.ok none, s'.exhaust)
        | (.ok (some label), s') =>
          match Label.resolve label with
          | .kind k => (.ok (some k), s'.enter k)
          | .unknown => (.error (s'.unknownLabel label), s')
          | .buildVersion =>
            match s'.readBuild with
            | (.error f, s'') => (.error f, s'')
            | (.ok (), s'') => nextLabel s''
          | .retired =>
            match s'.dropSection label with
            | (.error f, s'') => (.error f, s'')
            | (.ok (), s'') => nextLabel s'' := by
  rw [nextLabel]
  cases s.exhausted with
  | true => rfl
  | false =>
    simp only [Bool.false_eq_true, if_false]
    rcases s.readLabel with ⟨f | _ | label, s'⟩
    · rfl
    · rfl
    · simp only
      cases Label.resolve label with
      | kind k => rfl
      | unknown => rfl
      | buildVersion =>
        simp only
        rcases s'.readBuild with ⟨f | _, s''⟩ <;> rfl
      | retired =>
        simp only
        rcases s'.dropSection label with ⟨f | _, s''⟩ <;> rfl

end Session

theorem Reader.pull_eq (g : Staging) (form k : Kind) (s : Session) :
    pull g form k s =
      match s.nextElement with
      | (.error f, s') => (.error f, g, s')
      | (.ok none, s') => (.ok none, g.finish form k s')
      | (.ok (some v), s') =>
        match g.decode form k v s' with
        | (.error f, g, s) => (.error f, g, s)
        | (.ok (.record r), g, s) => (.ok (some r), g, s.countRead k)
        | (.ok .deferred, g, s) => pull g form k s
        | (.ok .ignored, g, s) => pull g form k s
        | (.ok .skipped, g, s) => pull g form k (s.countSkipped k 1)
        | (.ok (.rejected f v), g, s) => pull g form k (s.reject k f v) := by
  rw [pull]
  rcases s.nextElement with ⟨f | _ | v, s'⟩
  · rfl
  · rfl
  · simp only
    rcases g.decode form k v s' with ⟨f | d, g', s''⟩
    · rfl
    · cases d <;> rfl

/-- The session that counted what became of an element. -/
def Decoded.settle (k : Kind) (s : Session) : Decoded → Session
  | .record _ => s.countRead k
  | .deferred => s
  | .skipped => s.countSkipped k 1
  | .ignored => s
  | .rejected f shown => s.reject k f shown

/-- A reader hands out a record, and goes on behind every other element. -/
theorem Reader.pull_of_decode {g g' : Staging} {form k : Kind} {s s' s'' : Session} {v : Json}
    {d : Decoded} (hn : s.nextElement = (.ok (some v), s'))
    (hd : g.decode form k v s' = (.ok d, g', s'')) :
    pull g form k s =
      match d with
      | .record r => (.ok (some r), g', d.settle k s'')
      | _ => pull g' form k (d.settle k s'') := by
  rw [pull_eq, hn]
  simp only [hd]
  cases d <;> rfl

/-- Induction on the elements that a reader has before it: what holds of a reader if it holds of the
reader behind the next element holds of every one. -/
theorem Reader.element_induction (form k : Kind) {motive : Staging → Session → Prop}
    (step : ∀ g s, (∀ v s' d g' s'', s.nextElement = (.ok (some v), s') →
      g.decode form k v s' = (.ok d, g', s'') → motive g' (d.settle k s'')) → motive g s)
    (g : Staging) (s : Session) : motive g s := by
  induction hfuel : s.fuel using Nat.strongRecOn generalizing g s with
  | ind n ih =>
    apply step
    intro v s' d g' s'' hn hd
    have hless := ((Session.spent_nextElement hn).trans (Staging.spent_decode hd)).fuel_lt
    have hsettled : (d.settle k s'').fuel = s''.fuel := by cases d <;> rfl
    exact ih _ (by rw [hsettled, ← hfuel]; exact hless) g' _ rfl

namespace Import

variable {σ : Type}

theorem deliver_eq (i : Import σ) (h : Handler σ) (k : Kind) (r : Reader) :
    i.deliver h k r =
      match r.poll i.session with
      | (none, r, session) => (.ok (), { i with session, sinks := r.staging.sinks })
      | (some (.error f), r, session) => (.error f, { i with session, sinks := r.staging.sinks })
      | (some (.ok x), r, session) =>
        match h.handle (.record k x) i.state with
        | (.error f, state) => (.error f, { i with session, state, sinks := r.staging.sinks })
        | (.ok (), state) => deliver { i with session, state } h k r := by
  rw [deliver]
  rcases r.poll i.session with ⟨_ | f | x, r', session⟩
  · rfl
  · rfl
  · rcases hx : h.handle (.record k x) i.state with ⟨f | _, state⟩ <;> simp only [hx]

theorem takeKinds_eq (i : Import σ) (h : Handler σ) :
    i.takeKinds h =
      match i.session.nextKind with
      | (.error f, session) => (.error f, { i with session })
      | (.ok none, session) => (.ok (), { i with session })
      | (.ok (some k), session) =>
        match ({ i with session } : Import σ).takeKind h k with
        | (.error f, i') => (.error f, i')
        | (.ok (), i') => takeKinds i' h := by
  rw [takeKinds]
  rcases i.session.nextKind with ⟨f | _ | k, session⟩
  · rfl
  · rfl
  · simp only
    rcases ({ i with session } : Import σ).takeKind h k with ⟨f | _, i'⟩ <;> rfl

end Import

end ExportStream

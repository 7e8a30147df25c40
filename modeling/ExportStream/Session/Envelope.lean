import ExportStream.Session.Elements
/-!
# The envelope of an export

An export is one object. Its labels name kinds of records, the build that wrote it, or sections of
older exports, which are passed over. The session reads labels until it stands at a kind or behind
the last brace.
-/

namespace ExportStream.Session

/-- Reads a label, or the brace that ends the export. -/
def readLabel (s : Session) : Except Failure (Option String) × Session :=
  match s.readToken with
  | (.error f, s) => (.error f, s)
  | (.ok (.string label), s) => (.ok (some label), s)
  | (.ok .endObject, s) => (.ok none, s)
  | (.ok t, s) => (.error (s.malformed (.label t)), s)

/-- The session that knows the build. -/
def setBuild (s : Session) (n : Int) : Session :=
  { s with
    build := n
    generation := .ofBuild n
    tally := { s.tally with build := some n, generation := .ofBuild n } }

/-- Reads the number of the build. -/
def readBuild (s : Session) : Except Failure Unit × Session :=
  match s.readToken with
  | (.error f, s) => (.error f, s)
  | (.ok (.integer n), s) => (.ok (), s.setBuild n)
  | (.ok t, s) => (.error (s.malformed (.buildNumber t)), s)

/-- How many brackets are open behind a token; none is known if the token closes what nobody
opened. -/
def depthAfter (depth : Nat) : Token → Option Nat
  | .startArray | .startObject => some (depth + 1)
  | .endArray | .endObject => if depth = 0 then none else some (depth - 1)
  | _ => some depth

/-- Passes over a value by its brackets alone, so many of which are open. -/
def dropValue (s : Session) (label : String) (depth : Nat) : Except Failure Unit × Session :=
  match _h : s.readToken with
  | (.error f, s') => (.error f, s')
  | (.ok t, s') =>
    match depthAfter depth t with
    | none => (.error (s'.malformed (.unbalanced label)), s')
    | some 0 => (.ok (), s')
    | some (d + 1) => dropValue s' label (d + 1)
termination_by s.fuel
decreasing_by exact (spent_readToken _h).fuel_lt

/-- Passes over a section of older exports. -/
def dropSection (s : Session) (label : String) : Except Failure Unit × Session :=
  match s.dropValue label 0 with
  | (.error f, s) => (.error f, s)
  | (.ok (), s) => (.ok (), s.note (.retired label))

/-- The failure of a label that nobody knows. -/
def unknownLabel (s : Session) (label : String) : Failure :=
  .ofStream (.unknownLabel label s.position)

/-- The session at the beginning of a kind. -/
def enter (s : Session) (k : Kind) : Session :=
  ({ s with current := some k, array := .notStarted } : Session).note (.dispatched k s.position)

/-- The session behind the last brace. -/
def exhaust (s : Session) : Session :=
  ({ s with exhausted := true } : Session).note
    (.exhausted s.bytesRead s.tally.totalRead s.tally.totalErrored s.tally.warnings.size)

/-! ### What is left -/

/-- A label uses fuel. -/
theorem spent_readLabel {s s' : Session} {label : Option String}
    (h : s.readLabel = (.ok label, s')) : Spent 1 s s' := by
  unfold readLabel at h
  split at h
  · simp at h
  · next hr => simp only [Prod.mk.injEq] at h; rw [← h.2]; exact spent_readToken hr
  · next hr => simp only [Prod.mk.injEq] at h; rw [← h.2]; exact spent_readToken hr
  · simp at h

/-- The build uses fuel. -/
theorem spent_readBuild {s s' : Session} (h : s.readBuild = (.ok (), s')) : Spent 1 s s' := by
  unfold readBuild at h
  split at h
  · simp at h
  · next hr =>
    simp only [Prod.mk.injEq] at h
    rw [← h.2]
    exact (spent_readToken hr).congr rfl rfl rfl
  · simp at h

/-- A value that is passed over uses fuel. -/
theorem spent_dropValue {s s' : Session} {label : String} {depth : Nat}
    (h : s.dropValue label depth = (.ok (), s')) : Spent 1 s s' := by
  fun_induction dropValue s label depth with
  | case1 => simp at h
  | case2 => simp at h
  | case3 s depth t s1 h1 _ =>
    simp only [Prod.mk.injEq] at h
    rw [← h.2]
    exact spent_readToken h1
  | case4 s depth t s1 h1 _ _ ih => exact ((spent_readToken h1).trans (ih h)).weaken (by omega)

/-- A section that is passed over uses fuel. -/
theorem spent_dropSection {s s' : Session} {label : String}
    (h : s.dropSection label = (.ok (), s')) : Spent 1 s s' := by
  unfold dropSection at h
  split at h
  · simp at h
  · next hd =>
    simp only [Prod.mk.injEq] at h
    rw [← h.2]
    exact (spent_dropValue hd).congr rfl rfl rfl

/-! ### From kind to kind -/

/-- Reads labels until the session stands at a kind or behind the last brace. -/
def nextLabel (s : Session) : Except Failure (Option Kind) × Session :=
  if s.exhausted then (.ok none, s)
  else
    match _h : s.readLabel with
    | (.error f, s') => (.error f, s')
    | (.ok none, s') => (.ok none, s'.exhaust)
    | (.ok (some label), s') =>
      match Label.resolve label with
      | .kind k => (.ok (some k), s'.enter k)
      | .unknown => (.error (s'.unknownLabel label), s')
      | .buildVersion =>
        match _h' : s'.readBuild with
        | (.error f, s'') => (.error f, s'')
        | (.ok (), s'') => nextLabel s''
      | .retired =>
        match _h' : s'.dropSection label with
        | (.error f, s'') => (.error f, s'')
        | (.ok (), s'') => nextLabel s''
termination_by s.fuel
decreasing_by
  · exact ((spent_readLabel _h).trans (spent_readBuild _h')).fuel_lt
  · exact ((spent_readLabel _h).trans (spent_dropSection _h')).fuel_lt

/-- Leaves the current kind and goes to the next one, if there is one. -/
def nextKind (s : Session) : Except Failure (Option Kind) × Session :=
  match s.finishCurrent with
  | (.error f, s) => (.error f, s)
  | (.ok (), s) =>
    match s.pending with
    | some k => (.ok (some k), ({ s with pending := none } : Session).enter k)
    | none => s.nextLabel

/-- Reads the first label: the build, or a kind that waits until it is asked for. -/
def readFirstLabel (s : Session) : Except Failure Unit × Session :=
  match s.readLabel with
  | (.error f, s) => (.error f, s)
  | (.ok none, s) => (.ok (), { s with exhausted := true })
  | (.ok (some label), s) =>
    match Label.resolve label with
    | .buildVersion => s.readBuild
    | .kind k => (.ok (), { s with pending := some k })
    | .retired => s.dropSection label
    | .unknown => (.error (s.unknownLabel label), s)

/-- The session whose beginning is read. -/
def opened (s : Session) : Session :=
  ({ s with tally := { s.tally with generation := s.generation } } : Session).note
    (.opened s.build s.generation s.cursor.capacity)

/-- Reads the beginning of an export, if its options allow it. -/
def begin (s : Session) : Except Failure Unit × Session :=
  match s.options.validate with
  | .error f => (.error (.ofSetting f), s)
  | .ok () =>
    match s.readToken with
    | (.error f, s) => (.error f, s)
    | (.ok .startObject, s) =>
      match s.readFirstLabel with
      | (.error f, s) => (.error f, s)
      | (.ok (), s) => (.ok (), s.opened)
    | (.ok t, s) => (.error (s.malformed (.envelope t)), s)

/-! ### What the next kind costs -/

/-- Labels are read up to a kind, which uses fuel. -/
theorem spent_nextLabel {s s' : Session} {k : Kind} (h : s.nextLabel = (.ok (some k), s')) :
    Spent 1 s s' := by
  fun_induction nextLabel s with
  | case1 => simp at h
  | case2 => simp at h
  | case3 => simp at h
  | case4 s _ label s1 h1 k' _ =>
    simp only [Prod.mk.injEq] at h
    rw [← h.2]
    exact (spent_readLabel h1).congr rfl rfl rfl
  | case5 => simp at h
  | case6 => simp at h
  | case7 s _ label s1 h1 _ s2 h2 ih =>
    exact (((spent_readLabel h1).trans (spent_readBuild h2)).trans (ih h)).weaken (by omega)
  | case8 => simp at h
  | case9 s _ label s1 h1 _ s2 h2 ih =>
    exact (((spent_readLabel h1).trans (spent_dropSection h2)).trans (ih h)).weaken (by omega)

/-- A number that every kind lowers: the fuel, and one for a kind that waits. -/
def kindFuel (s : Session) : Nat := s.fuel + (if s.pending.isSome then 1 else 0)

/-- Reading within a kind does not raise that number. -/
theorem Spent.kindFuel_le {n : Nat} {s s' : Session} (h : Spent n s s') :
    s'.kindFuel ≤ s.kindFuel := by
  have := h.fuel_le
  unfold kindFuel
  rw [h.pending_eq]
  omega

/-- Every kind lowers that number. -/
theorem kindFuel_nextKind {s s' : Session} {k : Kind} (h : s.nextKind = (.ok (some k), s')) :
    s'.kindFuel < s.kindFuel := by
  unfold nextKind at h
  split at h
  · simp at h
  · next t hf =>
    have hle := (spent_finishCurrent hf).kindFuel_le
    split at h
    · next k' hp =>
      simp only [Prod.mk.injEq] at h
      rw [← h.2]
      refine Nat.lt_of_lt_of_le ?_ hle
      have he : (({ t with pending := none } : Session).enter k').kindFuel = t.fuel := rfl
      rw [he]
      simp [kindFuel, hp]
    · have hs := spent_nextLabel h
      have := hs.fuel_lt
      refine Nat.lt_of_lt_of_le ?_ hle
      unfold kindFuel
      rw [hs.pending_eq]
      omega

end ExportStream.Session

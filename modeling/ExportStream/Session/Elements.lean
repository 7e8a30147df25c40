import ExportStream.Session.Basic
/-!
# Elements of the current kind

The array of the current kind is taken off the stream element by element. An element that announces
the payload of an attachment is followed by the raw bytes of it, which have to be taken off too,
whether anyone wants them or not: `dropElements` takes the rest of an array off the stream without
reading records.
-/

namespace ExportStream.Session

/-- Reads the bracket that opens the array of the current kind. -/
def openArray (s : Session) : Except Failure Unit × Session :=
  match s.readToken with
  | (.error f, s) => (.error f, s)
  | (.ok .startArray, s) => (.ok (), { s with array := .isOpen })
  | (.ok t, s) => (.error (s.malformed (.records s.current t)), s)

/-- Reads an element, or the bracket that closes the array. -/
def readElement (s : Session) : Except Failure (Option Json) × Session :=
  match s.readToken with
  | (.error f, s) => (.error f, s)
  | (.ok .endArray, s) => (.ok none, { s with array := .closed })
  | (.ok t, s) =>
    match s.readValue t with
    | (.error f, s) => (.error f, s)
    | (.ok v, s) => (.ok (some v), s)

/-- The next element of the current kind, or none behind the last. -/
def nextElement (s : Session) : Except Failure (Option Json) × Session :=
  match s.array with
  | .closed => (.ok none, s)
  | .isOpen => s.readElement
  | .notStarted =>
    match s.openArray with
    | (.error f, s) => (.error f, s)
    | (.ok (), s) => s.readElement

/-- The size of the payload behind a marker. Without it the end of the payload cannot be found. -/
def payloadSize (s : Session) (marker : Json) : Except Failure Nat :=
  match marker.markerSize? with
  | some n => .ok n
  | none => .error (s.malformed .markerSize)

/-- Takes a payload off the stream. -/
def dropBytes (s : Session) (size : Nat) : Except Failure Unit × Session :=
  match s.copyPayload size Sink.discard with
  | (.error f, _, s) => (.error f, s)
  | (.ok _, _, s) => (.ok (), s)

/-- Takes the payload behind an element off the stream, if the element announces one. -/
def dropPayload (s : Session) (v : Json) : Except Failure Unit × Session :=
  if s.current.any Kind.carriesAttachments && v.isMarker then
    match s.payloadSize v with
    | .error f => (.error f, s)
    | .ok size => s.dropBytes size
  else (.ok (), s)

/-! ### What is left -/

/-- Opening the array uses fuel. -/
theorem spent_openArray {s s' : Session} (h : s.openArray = (.ok (), s')) : Spent 1 s s' := by
  unfold openArray at h
  split at h
  · simp at h
  · next hr =>
    simp only [Prod.mk.injEq] at h
    rw [← h.2]
    exact (spent_readToken hr).congr rfl rfl rfl
  · simp at h

/-- An element, and the end of the array, use fuel. -/
theorem spent_readElement {s s' : Session} {v : Option Json} (h : s.readElement = (.ok v, s')) :
    Spent 1 s s' := by
  unfold readElement at h
  split at h
  · simp at h
  · next hr =>
    simp only [Prod.mk.injEq] at h
    rw [← h.2]
    exact (spent_readToken hr).congr rfl rfl rfl
  · next hr =>
    split at h
    · simp at h
    · next hv =>
      simp only [Prod.mk.injEq] at h
      rw [← h.2]
      exact (spent_readToken hr).trans (spent_readValue hv)

/-- An element uses fuel. -/
theorem spent_nextElement {s s' : Session} {v : Json} (h : s.nextElement = (.ok (some v), s')) :
    Spent 1 s s' := by
  unfold nextElement at h
  split at h
  · simp at h
  · exact spent_readElement h
  · split at h
    · simp at h
    · next ho => exact ((spent_openArray ho).trans (spent_readElement h)).weaken (by omega)

/-- The end of an array is read from what is left. -/
theorem spent_nextElement_none {s s' : Session} (h : s.nextElement = (.ok none, s')) :
    Spent 0 s s' := by
  unfold nextElement at h
  split at h
  · simp only [Prod.mk.injEq] at h; rw [← h.2]; exact .refl _
  · exact (spent_readElement h).weaken (by omega)
  · split at h
    · simp at h
    · next ho => exact ((spent_openArray ho).trans (spent_readElement h)).weaken (by omega)

/-- Bytes are dropped from what is left. -/
theorem spent_dropBytes {s s' : Session} {size : Nat} (h : s.dropBytes size = (.ok (), s')) :
    Spent 0 s s' := by
  unfold dropBytes at h
  split at h
  · simp at h
  · next hc =>
    simp only [Prod.mk.injEq] at h
    rw [← h.2]
    exact spent_copyPayload hc

/-- A payload is dropped from what is left. -/
theorem spent_dropPayload {s s' : Session} {v : Json} (h : s.dropPayload v = (.ok (), s')) :
    Spent 0 s s' := by
  unfold dropPayload at h
  split at h
  · split at h
    · simp at h
    · exact spent_dropBytes h
  · simp only [Prod.mk.injEq] at h; rw [← h.2]; exact .refl _

/-! ### Whole arrays -/

/-- Takes the rest of the array off the stream; `n` elements were taken off before. Answers how many
were taken off, also if this ends in a failure. -/
def dropElements (s : Session) (n : Nat) : Except Failure Unit × Nat × Session :=
  match _h : s.nextElement with
  | (.error f, s') => (.error f, n, s')
  | (.ok none, s') => (.ok (), n, s')
  | (.ok (some v), s') =>
    match _h' : s'.dropPayload v with
    | (.error f, s'') => (.error f, n, s'')
    | (.ok (), s'') => dropElements s'' (n + 1)
termination_by s.fuel
decreasing_by exact ((spent_nextElement _h).trans (spent_dropPayload _h')).fuel_lt

/-- Elements are dropped from what is left. -/
theorem spent_dropElements {s s' : Session} {n m : Nat}
    (h : s.dropElements n = (.ok (), m, s')) : Spent 0 s s' := by
  fun_induction dropElements s n with
  | case1 => simp at h
  | case2 s n s1 h1 =>
    simp only [Prod.mk.injEq] at h
    rw [← h.2.2]
    exact spent_nextElement_none h1
  | case3 => simp at h
  | case4 s n v s1 h1 s2 h2 ih =>
    exact (((spent_nextElement h1).trans (spent_dropPayload h2)).trans (ih h)).weaken (by omega)

/-- Passes over what is left of the records of a kind, which has to be the current one. Answers how
many elements were taken off, also if this ends in a failure; they count as passed over only if it
does not. -/
def skipKind (s : Session) (kind : Option Kind) : Except Failure Unit × Nat × Session :=
  match kind with
  | none => (.ok (), 0, s)
  | some k =>
    if s.current = some k then
      match s.dropElements 0 with
      | (.error f, n, s) => (.error f, n, s)
      | (.ok (), n, s) => (.ok (), n, (s.countSkipped k n).note (.skipped k n))
    else
      (.error (.general .invalidArgs
        ("Cannot skip " ++ k.name ++ " while positioned at " ++ Kind.nameOrNone s.current)), 0, s)

/-- Counts elements that nobody read. -/
def countDrained (s : Session) (k : Kind) (n : Nat) : Session :=
  if n = 0 then s else (s.countSkipped k n).note (.drained k n)

/-- The session between two kinds. -/
def leave (s : Session) : Session := { s with current := none, array := .closed }

/-- Leaves the current kind, passing over what is left of it. -/
def finishCurrent (s : Session) : Except Failure Unit × Session :=
  match s.current with
  | none => (.ok (), s.leave)
  | some k =>
    if s.array = .closed then (.ok (), s.leave)
    else
      match s.dropElements 0 with
      | (.error f, _, s) => (.error f, s)
      | (.ok (), n, s) => (.ok (), (s.countDrained k n).leave)

/-- Elements are skipped from what is left. -/
theorem spent_skipKind {s s' : Session} {kind : Option Kind} {n : Nat}
    (h : s.skipKind kind = (.ok (), n, s')) : Spent 0 s s' := by
  unfold skipKind at h
  split at h
  · simp only [Prod.mk.injEq] at h; rw [← h.2.2]; exact .refl _
  · split at h
    · split at h
      · simp at h
      · next hd =>
        simp only [Prod.mk.injEq] at h
        rw [← h.2.2]
        exact (spent_dropElements hd).congr rfl rfl rfl
    · simp at h

/-- A kind is left with what is left. -/
theorem spent_finishCurrent {s s' : Session} (h : s.finishCurrent = (.ok (), s')) :
    Spent 0 s s' := by
  unfold finishCurrent at h
  split at h
  · simp only [Prod.mk.injEq] at h; rw [← h.2]; exact (Spent.refl s).congr rfl rfl rfl
  · split at h
    · simp only [Prod.mk.injEq] at h; rw [← h.2]; exact (Spent.refl s).congr rfl rfl rfl
    · split at h
      · simp at h
      · next hd =>
        simp only [Prod.mk.injEq] at h
        rw [← h.2]
        refine (spent_dropElements hd).congr ?_ ?_ ?_ <;> unfold countDrained leave <;> split <;>
          rfl

end ExportStream.Session

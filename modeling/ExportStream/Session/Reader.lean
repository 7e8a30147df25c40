import ExportStream.Session.Decoding
/-!
# Readers

A reader hands out the records of the current kind one by one. Elements that are rejected or passed
over are counted and do not stop it; a failure that ends the import is handed out once, and after
it, as after the last record, the reader is done.
-/

namespace ExportStream

/-- Do the elements of two kinds have the same form? -/
def Kind.sameForm (a b : Kind) : Bool :=
  a = b || (a.carriesAttachments && b.carriesAttachments)

/-- A reader of records. -/
structure Reader where
  /-- The kind whose form the elements have. -/
  form : Kind
  /-- The kind at which the session stood when the reader was made. -/
  kind : Option Kind
  /-- What waits for a document, and where payloads go. -/
  staging : Staging
  /-- Is there nothing more to hand out? -/
  done : Bool := false

namespace Reader

/-- A reader of what a session stands at. -/
def start (s : Session) (form : Kind) (sinks : Sinks) : Reader where
  form := form
  kind := s.current
  staging := { sinks }

/-- The next record of the kind `k`, or none behind the last. -/
def pull (g : Staging) (form k : Kind) (s : Session) :
    Except Failure (Option Record) × Staging × Session :=
  match _h : s.nextElement with
  | (.error f, s') => (.error f, g, s')
  | (.ok none, s') => (.ok none, g.finish form k s')
  | (.ok (some v), s') =>
    match _h' : g.decode form k v s' with
    | (.error f, g, s) => (.error f, g, s)
    | (.ok (.record r), g, s) => (.ok (some r), g, s.countRead k)
    | (.ok .deferred, g, s) => pull g form k s
    | (.ok .ignored, g, s) => pull g form k s
    | (.ok .skipped, g, s) => pull g form k (s.countSkipped k 1)
    | (.ok (.rejected f v), g, s) => pull g form k (s.reject k f v)
termination_by s.fuel
decreasing_by
  all_goals
    have hs := ((Session.spent_nextElement _h).trans (Staging.spent_decode _h')).fuel_lt
    exact hs

/-- The failure of a reader that is made for elements of another form. -/
def wrongForm (k : Kind) : Failure :=
  .general .invalidArgs ("This reader cannot decode " ++ k.name ++ " records")

/-- The next record, or none behind the last. -/
def next (r : Reader) (s : Session) : Except Failure (Option Record) × Reader × Session :=
  match r.kind with
  | none => (.ok none, r, s)
  | some k =>
    if r.form.sameForm k then
      match pull r.staging r.form k s with
      | (x, staging, s) => (x, { r with staging }, s)
    else (.error (wrongForm k), r, s)

/-- Hands out the next record or the failure that ends the import; none when there is nothing more.
-/
def poll (r : Reader) (s : Session) : Option (Except Failure Record) × Reader × Session :=
  if r.done then (none, r, s)
  else
    match r.next s with
    | (.ok (some x), r, s) => (some (.ok x), r, s)
    | (.ok none, r, s) => (none, { r with done := true }, s)
    | (.error f, r, s) =>
      (some (.error (f.within ("Reading " ++ Kind.nameOrNone r.kind))), { r with done := true }, s)

/-! ### What is left -/

/-- A record uses fuel. -/
theorem spent_pull {g g' : Staging} {form k : Kind} {s s' : Session} {x : Record}
    (h : pull g form k s = (.ok (some x), g', s')) : s.Spent 1 s' := by
  fun_induction pull g form k s with
  | case1 => simp at h
  | case2 => simp at h
  | case3 => simp at h
  | case4 g s v s1 h1 r g2 s2 h2 =>
    simp only [Prod.mk.injEq] at h
    rw [← h.2.2]
    exact ((Session.spent_nextElement h1).trans (Staging.spent_decode h2)).congr rfl rfl rfl
  | case5 g s v s1 h1 g2 s2 h2 ih =>
    exact (((Session.spent_nextElement h1).trans (Staging.spent_decode h2)).trans
      (ih h)).weaken (by omega)
  | case6 g s v s1 h1 g2 s2 h2 ih =>
    exact (((Session.spent_nextElement h1).trans (Staging.spent_decode h2)).trans
      (ih h)).weaken (by omega)
  | case7 g s v s1 h1 g2 s2 h2 ih =>
    exact ((((Session.spent_nextElement h1).trans (Staging.spent_decode h2)).congr
      (u := s2.countSkipped k 1) rfl rfl rfl).trans (ih h)).weaken (by omega)
  | case8 g s v s1 h1 f w g2 s2 h2 ih =>
    exact ((((Session.spent_nextElement h1).trans (Staging.spent_decode h2)).congr
      (u := s2.reject k f w) rfl rfl rfl).trans (ih h)).weaken (by omega)

/-- The end of the records is read from what is left. -/
theorem spent_pull_none {g g' : Staging} {form k : Kind} {s s' : Session}
    (h : pull g form k s = (.ok none, g', s')) : s.Spent 0 s' := by
  fun_induction pull g form k s with
  | case1 => simp at h
  | case2 g s s1 h1 =>
    simp only [Prod.mk.injEq] at h
    have he : s' = (g.finish form k s1).2 := by rw [h.2]
    rw [he]
    exact ((Session.spent_nextElement_none h1).trans (Staging.spent_finish ..)).weaken (by omega)
  | case3 => simp at h
  | case4 => simp at h
  | case5 g s v s1 h1 g2 s2 h2 ih =>
    exact (((Session.spent_nextElement h1).trans (Staging.spent_decode h2)).trans
      (ih h)).weaken (by omega)
  | case6 g s v s1 h1 g2 s2 h2 ih =>
    exact (((Session.spent_nextElement h1).trans (Staging.spent_decode h2)).trans
      (ih h)).weaken (by omega)
  | case7 g s v s1 h1 g2 s2 h2 ih =>
    exact ((((Session.spent_nextElement h1).trans (Staging.spent_decode h2)).congr
      (u := s2.countSkipped k 1) rfl rfl rfl).trans (ih h)).weaken (by omega)
  | case8 g s v s1 h1 f w g2 s2 h2 ih =>
    exact ((((Session.spent_nextElement h1).trans (Staging.spent_decode h2)).congr
      (u := s2.reject k f w) rfl rfl rfl).trans (ih h)).weaken (by omega)

/-- A record that is handed out uses fuel. -/
theorem spent_poll {r r' : Reader} {s s' : Session} {x : Record}
    (h : r.poll s = (some (.ok x), r', s')) : s.Spent 1 s' := by
  unfold poll at h
  split at h
  · simp at h
  · split at h
    · next hn =>
      unfold next at hn
      split at hn
      · simp at hn
      · split at hn
        · next hp =>
          simp only [Prod.mk.injEq] at hn h
          obtain ⟨hx, -, rfl⟩ := hn
          rw [← h.2.2]
          exact spent_pull (Prod.ext hx (Prod.ext rfl rfl))
        · simp at hn
    · simp at h
    · simp at h

/-- The end of the records is handed out from what is left. -/
theorem spent_poll_none {r r' : Reader} {s s' : Session}
    (h : r.poll s = (none, r', s')) : s.Spent 0 s' := by
  unfold poll at h
  split at h
  · simp only [Prod.mk.injEq] at h; rw [← h.2.2]; exact .refl s
  · split at h
    · simp at h
    · next hn =>
      unfold next at hn
      split at hn
      · simp only [Prod.mk.injEq] at hn h
        rw [← h.2.2, ← hn.2.2]
        exact .refl s
      · split at hn
        · next hp =>
          simp only [Prod.mk.injEq] at hn h
          obtain ⟨hx, -, rfl⟩ := hn
          rw [← h.2.2]
          exact spent_pull_none (Prod.ext hx (Prod.ext rfl rfl))
        · simp at hn
    · simp at h

end Reader

/-! ### Kinds -/

namespace Reader

theorem kind_next (r : Reader) (s : Session) : (r.next s).2.1.kind = r.kind := by
  unfold next
  cases hk : r.kind with
  | none => exact hk
  | some k =>
    simp only
    split
    · rfl
    · exact hk

/-- A reader keeps its kind. -/
theorem kind_poll {r r' : Reader} {s t : Session} {x : Option (Except Failure Record)}
    (h : r.poll s = (x, r', t)) : r'.kind = r.kind := by
  have hkind := r.kind_next s
  unfold poll at h
  split at h
  · cases h
    rfl
  · rcases hn : r.next s with ⟨f | _ | y, q, u⟩
    all_goals
      rw [hn] at h hkind
      cases h
      exact hkind

end Reader

/-- Behind a marker there is no record. -/
theorem Staging.stage_ne_record {g g' : Staging} {k : Kind} {marker : Json} {s s' : Session}
    {x : Record} : g.stage k marker s ≠ (.ok (.record x), g', s') := by
  intro h
  unfold stage stageNamed at h
  split at h
  · cases h
  · split at h
    · split at h
      · cases h
      · split at h <;> cases h
    · split at h <;> cases h

/-- A record that is read in the form of its array is of the kind of the array. -/
theorem Staging.kindAs_decode {g g' : Staging} {form k : Kind} (hform : form.sameForm k = true)
    {v : Json} {s s' : Session} {x : Record}
    (h : g.decode form k v s = (.ok (.record x), g', s')) : x.kindAs k = k := by
  have hparsed {α : Type} {record : α → Record} {parsed : Except RecordFault α}
      (hkind : ∀ a, (record a).kindAs k = k)
      (h : Decoded.ofParsed v record parsed = .record x) : x.kindAs k = k := by
    cases parsed with
    | error f => cases h
    | ok a =>
      cases h
      exact hkind a
  have hdeletion {idOf : String → String} {policy : DeletionPolicy}
      (h : decodeDeletion idOf policy v = .record x) : x.kindAs k = k := by
    unfold decodeDeletion at h
    split at h
    · cases h
      rfl
    · split at h <;> cases h
  have hanswer {d : Decoded} {g₁ : Staging} {s₁ : Session}
      (h : (Except.ok d, g₁, s₁) = ((.ok (.record x), g', s') : Except Failure Decoded × _ × _)) :
      d = .record x := by
    cases h
    rfl
  cases form
  case documents | revisionDocuments =>
    simp only [decode, decodeDocument] at h
    split at h
    · exact absurd h stage_ne_record
    · split at h <;> cases h
      rfl
  -- every other form is that of its kind alone
  all_goals
    obtain rfl : _ = k := by simpa [Kind.sameForm, Kind.carriesAttachments] using hform
    simp only [decode] at h
  case tombstones | conflicts | indexes | identities | compareExchange =>
    exact hparsed (fun _ => rfl) (hanswer h)
  case legacyDocumentDeletions | legacyAttachmentDeletions => exact hdeletion (hanswer h)
  case legacyAttachments =>
    unfold decodeLegacyAttachment at h
    split at h
    · cases h
    · simp only at h
      split at h
      · cases h
      · split at h
        · cases h
        · split at h <;> cases h
          rfl

namespace Reader

theorem kindAs_pull {g g' : Staging} {form k : Kind} (hform : form.sameForm k = true)
    {s s' : Session} {x : Record} (h : pull g form k s = (.ok (some x), g', s')) :
    x.kindAs k = k := by
  fun_induction pull g form k s with
  | case1 => cases h
  | case2 => cases h
  | case3 => cases h
  | case4 g s v s₁ hn y g₂ s₂ hd =>
    cases h
    exact Staging.kindAs_decode hform hd
  | case5 _ _ _ _ _ _ _ _ ih => exact ih h
  | case6 _ _ _ _ _ _ _ _ ih => exact ih h
  | case7 _ _ _ _ _ _ _ _ ih => exact ih h
  | case8 _ _ _ _ _ _ _ _ _ _ ih => exact ih h

/-- **A record is of the kind of its array.** -/
theorem kindAs_poll {r r' : Reader} {k : Kind} (hk : r.kind = some k) {s s' : Session} {x : Record}
    (h : r.poll s = (some (.ok x), r', s')) : x.kindAs k = k := by
  have hnext : r.next s =
      if r.form.sameForm k then
        match pull r.staging r.form k s with
        | (x, staging, s) => (x, { r with staging }, s)
      else (.error (wrongForm k), r, s) := by
    simp only [next, hk]
  unfold poll at h
  rw [hnext] at h
  split at h
  · cases h
  · split at h
    · next hx =>
      cases h
      split at hx
      · next hform =>
        obtain ⟨hpull, -⟩ := Prod.mk.inj hx
        exact kindAs_pull hform (Prod.ext hpull rfl)
      · cases hx
    · cases h
    · cases h

end Reader

end ExportStream

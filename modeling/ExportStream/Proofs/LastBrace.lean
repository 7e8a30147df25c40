import ExportStream.Proofs.Spelling
import ExportStream.Proofs.Workings
/-!
# The last brace

An opened export is used in any order: it goes to the next kind, kinds are passed over, readers are
polled, and each of these may fail (`Session.Opened`). Whatever was done, a session counts as
exhausted only behind the brace that ends the export: it read that brace where a label was due,
stands right behind it and at no kind, and no kind waits (**`Session.Opened.sealed`**).
-/

namespace ExportStream

/-! ### Closing braces -/

theorem Token.spells_endObject {text : List UInt8} (h : Token.endObject.Spells text) :
    text = [125] := by
  generalize ht : Token.endObject = t at h
  cases h with
  | endObject => rfl
  | number _ _ hn =>
    have hnumber := Scanner.isNumber_of_numberToken hn
    rw [← ht] at hnumber
    cases hnumber
  | word w => cases w <;> cases ht
  | _ => cases ht

/-- The last byte of a closing brace is a brace, however the bytes arrived. -/
theorem Scanner.brace_of_scan {s : Scanner} {bytes rest : List UInt8}
    (h : s.scan bytes = .token .endObject rest) : ∃ front, bytes = front ++ 125 :: rest := by
  cases s with
  | idle =>
    obtain ⟨gap, text, rfl, -, ht, -⟩ := scan_idle_iff.mp h
    rw [Token.spells_endObject ht]
    exact ⟨gap, rfl⟩
  | string raw escaped =>
    obtain ⟨body, rfl, -, ht⟩ := scan_string_iff.mp h
    obtain ⟨s, -, hs⟩ := stringToken_eq_ok_iff.mp ht
    cases hs
  | number raw =>
    obtain ⟨body, b, more, rfl, -, -, -, ht⟩ := scan_number_iff.mp h
    cases isNumber_of_numberToken ht
  | word w due =>
    cases due with
    | nil =>
      cases bytes with
      | nil => simp [scan] at h
      | cons b bytes =>
        simp only [scan, Scan.token.injEq] at h
        cases w <;> cases h.1
    | cons c due =>
      obtain ⟨-, ht⟩ := (scan_word_iff (by simp)).mp h
      cases w <;> cases ht

theorem Cursor.brace_of_readToken {c c' : Cursor} (h : c.readToken = (.ok .endObject, c')) :
    ∃ front, c.remaining = front ++ 125 :: c'.remaining := by
  fun_induction Cursor.readToken c with
  | case1 c t rest hs =>
    cases h
    obtain ⟨front, hfront⟩ := Scanner.brace_of_scan hs
    have hcount : c.buffer.length - rest.length = (front ++ [125]).length := by
      rw [hfront]
      simp
      omega
    have hbuffer : c.remaining = (front ++ [125]) ++ (rest ++ c.source.supply.rest) := by
      rw [remaining, hfront]
      simp
    refine ⟨front, ?_⟩
    rw [remaining_advance c (Nat.sub_le ..), hcount, hbuffer, List.drop_left]
    simp
  | case2 => cases h
  | case3 => cases h
  | case4 => cases h
  | case5 c s hs n c' hr ih =>
    obtain ⟨front, hfront⟩ := ih h
    obtain ⟨-, hrest, -⟩ := refill_append hr
    refine ⟨c.buffer ++ front, ?_⟩
    rw [List.append_assoc, ← hfront, remaining, remaining, hrest]
    rfl

namespace Session

variable {data : List UInt8} {s t : Session}

/-! ### Opened exports -/

/-- A session of an export that was opened and used in any order, whatever came of it. -/
inductive Opened (data : List UInt8) : Session → Prop where
  /-- The export is opened. -/
  | begin {supply : Supply} {options : Options} {tally : Tally} {s : Session} :
      supply.rest = data → (start supply options tally).begin = (.ok (), s) → Opened data s
  /-- The session went to the next kind. -/
  | nextKind {s : Session} : Opened data s → Opened data s.nextKind.2
  /-- A kind was passed over. -/
  | skipKind {s : Session} (kind : Option Kind) : Opened data s → Opened data (s.skipKind kind).2.2
  /-- A reader that was made there was polled. -/
  | poll {s : Session} {r : Reader} : Opened data s → r.kind = s.current →
      Opened data (r.poll s).2.2

namespace Opened

theorem of_nextKind (h : s.Opened data) {r : Except Failure (Option Kind)}
    (hn : s.nextKind = (r, t)) : t.Opened data := by
  have hnext := h.nextKind
  rwa [hn] at hnext

theorem of_skipKind (h : s.Opened data) {kind : Option Kind} {n : Nat} {r : Except Failure Unit}
    (hk : s.skipKind kind = (r, n, t)) : t.Opened data := by
  have hskip := h.skipKind kind
  rwa [hk] at hskip

theorem of_poll (h : s.Opened data) {q q' : Reader} (hq : q.kind = s.current)
    {x : Option (Except Failure Record)} (hp : q.poll s = (x, q', t)) : t.Opened data := by
  have hpoll := h.poll hq
  rwa [hp] at hpoll

end Opened

/-! ### Labels -/

/-- Labels of no kind were read, each with what belongs to it. -/
inductive LabelsRead : Session → Session → Prop where
  /-- None. -/
  | done (s : Session) : LabelsRead s s
  /-- That of the build, and its number. -/
  | build {s t u v : Session} {label : String} : s.readLabel = (.ok (some label), t) →
      Label.resolve label = .buildVersion → t.readBuild = (.ok (), u) → LabelsRead u v →
      LabelsRead s v
  /-- That of a section of older exports, which was passed over. -/
  | retired {s t u v : Session} {label : String} : s.readLabel = (.ok (some label), t) →
      Label.resolve label = .retired → t.dropSection label = (.ok (), u) → LabelsRead u v →
      LabelsRead s v

/-- What the labels of an export leave alone. -/
structure SameKind (s t : Session) : Prop where
  /-- The kind at which the session stands. -/
  current_eq : t.current = s.current
  /-- Where its array stands. -/
  array_eq : t.array = s.array
  /-- The kind that waits. -/
  pending_eq : t.pending = s.pending
  /-- Whether the last brace is read. -/
  exhausted_eq : t.exhausted = s.exhausted

theorem SameKind.trans {u : Session} (h : s.SameKind t) (h' : t.SameKind u) : s.SameKind u :=
  ⟨h'.current_eq.trans h.current_eq, h'.array_eq.trans h.array_eq,
    h'.pending_eq.trans h.pending_eq, h'.exhausted_eq.trans h.exhausted_eq⟩

/-- A session whose cursor moved is at the same kind. -/
theorem SameKind.of_moves (h : t = { s with cursor := t.cursor }) : s.SameKind t := by
  rw [h]
  exact ⟨rfl, rfl, rfl, rfl⟩

theorem sameKind_readBuild {r : Except Failure Unit} (h : s.readBuild = (r, t)) :
    s.SameKind t := by
  unfold readBuild at h
  split at h
  · next hr => cases h; exact .of_moves (readToken_moves hr)
  · next hr =>
    cases h
    have hkind := SameKind.of_moves (readToken_moves hr)
    exact ⟨hkind.current_eq, hkind.array_eq, hkind.pending_eq, hkind.exhausted_eq⟩
  · next hr => cases h; exact .of_moves (readToken_moves hr)

theorem LabelsRead.turns (h : s.LabelsRead t) : s.Turns t := by
  induction h with
  | done => exact .refl
  | build hl _ hb _ ih => exact ((works_readLabel hl).turns.trans (turns_readBuild hb)).trans ih
  | retired hl _ hd _ ih =>
    exact ((works_readLabel hl).turns.trans (works_dropSection hd).turns).trans ih

theorem LabelsRead.sameKind (h : s.LabelsRead t) : s.SameKind t := by
  induction h with
  | done => exact ⟨rfl, rfl, rfl, rfl⟩
  | build hl _ hb _ ih =>
    exact ((SameKind.of_moves (readLabel_moves hl)).trans (sameKind_readBuild hb)).trans ih
  | retired hl _ hd _ ih =>
    exact ((SameKind.of_moves (readLabel_moves hl)).trans (.of_moves (dropSection_moves hd))).trans
      ih

/-- A session that read labels of no kind found the end of them. -/
inductive FoundEnd (s : Session) : Session → Prop where
  /-- Some labels were read, and then there was none. -/
  | intro {u v : Session} : s.LabelsRead u → u.readLabel = (.ok none, v) → FoundEnd s v.exhaust

theorem FoundEnd.behind_build {u v : Session} {label : String}
    (hl : s.readLabel = (.ok (some label), t)) (hlabel : Label.resolve label = .buildVersion)
    (hb : t.readBuild = (.ok (), u)) (h : u.FoundEnd v) : s.FoundEnd v := by
  obtain ⟨hread, hnone⟩ := h
  exact .intro (.build hl hlabel hb hread) hnone

theorem FoundEnd.behind_retired {u v : Session} {label : String}
    (hl : s.readLabel = (.ok (some label), t)) (hlabel : Label.resolve label = .retired)
    (hd : t.dropSection label = (.ok (), u)) (h : u.FoundEnd v) : s.FoundEnd v := by
  obtain ⟨hread, hnone⟩ := h
  exact .intro (.retired hl hlabel hd hread) hnone

/-- Behind the labels that it reads, a session is exhausted exactly if it found the end of them. -/
theorem exhausted_nextLabel (hs : s.exhausted = false) {r : Except Failure (Option Kind)}
    (h : s.nextLabel = (r, t)) :
    (t.exhausted = false ∧ r ≠ .ok none) ∨ (r = .ok none ∧ s.FoundEnd t) := by
  fun_induction nextLabel s with
  | case1 s he => exact absurd (hs.symm.trans he) (by decide)
  | case2 s _ f s₁ h₁ =>
    cases h
    exact .inl ⟨(SameKind.of_moves (readLabel_moves h₁)).exhausted_eq.trans hs, by simp⟩
  | case3 s _ s₁ h₁ =>
    cases h
    exact .inr ⟨rfl, .intro (.done s) h₁⟩
  | case4 s _ label s₁ h₁ k _ =>
    cases h
    exact .inl ⟨(SameKind.of_moves (readLabel_moves h₁)).exhausted_eq.trans hs, by simp⟩
  | case5 s _ label s₁ h₁ _ =>
    cases h
    exact .inl ⟨(SameKind.of_moves (readLabel_moves h₁)).exhausted_eq.trans hs, by simp⟩
  | case6 s _ label s₁ h₁ _ f s₂ h₂ =>
    cases h
    have hkind := (SameKind.of_moves (readLabel_moves h₁)).trans (sameKind_readBuild h₂)
    exact .inl ⟨hkind.exhausted_eq.trans hs, by simp⟩
  | case7 s _ label s₁ h₁ hl s₂ h₂ ih =>
    have hkind := (SameKind.of_moves (readLabel_moves h₁)).trans (sameKind_readBuild h₂)
    exact (ih (hkind.exhausted_eq.trans hs) h).imp_right (And.imp_right (.behind_build h₁ hl h₂))
  | case8 s _ label s₁ h₁ _ f s₂ h₂ =>
    cases h
    have hkept := ((works_readLabel h₁).trans (works_dropSection h₂)).kept
    exact .inl ⟨hkept.exhausted_eq.trans hs, by simp⟩
  | case9 s _ label s₁ h₁ hl s₂ h₂ ih =>
    have hkind := (SameKind.of_moves (readLabel_moves h₁)).trans (.of_moves (dropSection_moves h₂))
    exact (ih (hkind.exhausted_eq.trans hs) h).imp_right (And.imp_right (.behind_retired h₁ hl h₂))

/-! ### Exhausted sessions -/

/-- A session came to the end of the labels of the export: where the first one was due there was
none, or behind a kind that was left, when none waited, there was none but of the build and of older
sections. -/
inductive EndOfLabels (data : List UInt8) : Session → Prop where
  /-- The export has no labels. -/
  | first {supply : Supply} {options : Options} {tally : Tally} {s t : Session} :
      supply.rest = data → (start supply options tally).readToken = (.ok .startObject, s) →
      s.readLabel = (.ok none, t) → EndOfLabels data t
  /-- The session was used, and asked for the next kind. -/
  | later {s t u v : Session} : s.Opened data → s.exhausted = false →
      s.finishCurrent = (.ok (), t) → t.pending = none → t.LabelsRead u →
      u.readLabel = (.ok none, v) → EndOfLabels data v

/-- The last brace of an export is read: it was found at the end of the labels, and the session
stands right behind it. -/
structure BraceRead (data : List UInt8) (s : Session) : Prop where
  /-- The session knows. -/
  exhausted_eq : s.exhausted = true
  /-- It came to the end of the labels, and read nothing since. -/
  read : ∃ t, EndOfLabels data t ∧ s.position = t.position ∧
    s.cursor.remaining = t.cursor.remaining
  /-- The byte before the position is the brace. -/
  stands : ∃ front, data = front ++ 125 :: s.cursor.remaining ∧ s.position = front.length + 1

theorem BraceRead.congr (h : s.BraceRead data) (he : t.exhausted = s.exhausted)
    (hp : t.position = s.position) (hr : t.cursor.remaining = s.cursor.remaining) :
    t.BraceRead data where
  exhausted_eq := he.trans h.exhausted_eq
  read := by
    rw [hp, hr]
    exact h.read
  stands := by
    rw [hp, hr]
    exact h.stands

/-- A session that found no label stands behind a brace. -/
theorem braceRead_of_readLabel (hs : s.cursor.Placed data) (h : s.readLabel = (.ok none, t))
    (hend : EndOfLabels data t) : ({ t with exhausted := true } : Session).BraceRead data := by
  refine ⟨rfl, ⟨t, hend, rfl, rfl⟩, ?_⟩
  have ht : t.cursor.Placed data := (works_readLabel h).turns.placed hs
  have htoken : s.readToken = (.ok .endObject, t) := readLabel_eq_ok_iff.mp h
  unfold readToken at htoken
  rcases hc : s.cursor.readToken with ⟨r, c⟩
  rw [hc] at htoken
  cases htoken
  obtain ⟨front, hfront⟩ := Cursor.brace_of_readToken hc
  have hdata : data = (data.take s.cursor.position ++ front) ++ 125 :: c.remaining := by
    rw [List.append_assoc, ← hfront, hs.remaining_eq, List.take_append_drop]
  refine ⟨_, hdata, ?_⟩
  -- what is left behind the brace says where it was
  have hleft := congrArg List.length ht.remaining_eq
  have hlen := congrArg List.length hdata
  have hle := ht.position_le
  simp only [List.length_append, List.length_cons, List.length_drop, position] at hleft hlen hle ⊢
  omega

/-- The session knows where it stands, and it is exhausted only behind the last brace, at no kind,
when no kind waits. -/
structure Sealed (data : List UInt8) (s : Session) : Prop where
  /-- The cursor. -/
  placed : s.cursor.Placed data
  /-- The last brace. -/
  brace : s.exhausted = true → s.BraceRead data
  /-- No kind. -/
  current_eq : s.exhausted = true → s.current = none
  /-- No kind waits. -/
  pending_eq : s.exhausted = true → s.pending = none

namespace Sealed

theorem of_not_exhausted (hs : s.cursor.Placed data) (h : s.exhausted = false) :
    s.Sealed data where
  placed := hs
  brace he := absurd (he.symm.trans h) (by decide)
  current_eq he := absurd (he.symm.trans h) (by decide)
  pending_eq he := absurd (he.symm.trans h) (by decide)

/-- What leaves a session where it is leaves it sealed. -/
theorem congr (h : s.Sealed data) (ht : t.cursor.Placed data) (hp : t.position = s.position)
    (he : t.exhausted = s.exhausted) (hc : s.current = none → t.current = none)
    (hw : s.pending = none → t.pending = none) : t.Sealed data where
  placed := ht
  brace hx := by
    refine (h.brace (he.symm.trans hx)).congr he hp ?_
    rw [ht.remaining_eq, h.placed.remaining_eq]
    exact congrArg data.drop hp
  current_eq hx := hc (h.current_eq (he.symm.trans hx))
  pending_eq hx := hw (h.pending_eq (he.symm.trans hx))

end Sealed

/-! ### Kinds -/

theorem kept_finishCurrent {r : Except Failure Unit} (h : s.finishCurrent = (r, t)) :
    t.exhausted = s.exhausted ∧ t.pending = s.pending ∧
      (r = .ok () → t.current = none ∧ t.array = .closed) := by
  unfold finishCurrent at h
  split at h
  · cases h; exact ⟨rfl, rfl, fun _ => ⟨rfl, rfl⟩⟩
  · split_ifs at h
    · cases h; exact ⟨rfl, rfl, fun _ => ⟨rfl, rfl⟩⟩
    · split at h
      · next hd =>
        cases h
        exact ⟨(works_dropElements hd).kept.exhausted_eq, (works_dropElements hd).kept.pending_eq,
          nofun⟩
      · next k _ _ _ n s₁ hd =>
        cases h
        have hkept := ((works_dropElements hd).trans (works_countDrained s₁ k n)).kept
        exact ⟨hkept.exhausted_eq, hkept.pending_eq, fun _ => ⟨rfl, rfl⟩⟩

/-- A session is exhausted behind the next kind exactly if there was none. -/
theorem exhausted_nextKind (hs : s.exhausted = false) {r : Except Failure (Option Kind)}
    (h : s.nextKind = (r, t)) :
    (t.exhausted = false ∧ r ≠ .ok none) ∨
      (r = .ok none ∧ ∃ u, s.finishCurrent = (.ok (), u) ∧ u.current = none ∧ u.array = .closed ∧
        u.pending = none ∧ u.FoundEnd t) := by
  unfold nextKind at h
  rcases hf : s.finishCurrent with ⟨f | _, s₁⟩
  · rw [hf] at h
    cases h
    exact .inl ⟨(kept_finishCurrent hf).1.trans hs, nofun⟩
  · obtain ⟨he, -, hleft⟩ := kept_finishCurrent hf
    rw [hf] at h
    cases hp : s₁.pending with
    | some k =>
      simp only [hp] at h
      cases h
      exact .inl ⟨he.trans hs, nofun⟩
    | none =>
      simp only [hp] at h
      exact (exhausted_nextLabel (he.trans hs) h).imp_right fun hend =>
        ⟨hend.1, s₁, rfl, (hleft rfl).1, (hleft rfl).2, hp, hend.2⟩

/-- Behind the last brace there is no kind any more. -/
theorem Sealed.nextKind_eq (hs : s.Sealed data) (he : s.exhausted = true) :
    s.nextKind = (.ok none, s.leave) := by
  have hf : s.finishCurrent = (.ok (), s.leave) := by
    unfold finishCurrent
    rw [hs.current_eq he]
  have hp : s.leave.pending = none := hs.pending_eq he
  have hx : s.leave.exhausted = true := he
  unfold nextKind
  rw [hf]
  simp only [hp]
  rw [nextLabel_eq, if_pos hx]

theorem Sealed.nextKind (hs : s.Sealed data) (ho : s.Opened data)
    {r : Except Failure (Option Kind)} (h : s.nextKind = (r, t)) : t.Sealed data := by
  have ht := (turns_nextKind h).placed hs.placed
  cases he : s.exhausted with
  | true =>
    rw [hs.nextKind_eq he] at h
    cases h
    exact hs.congr ht rfl rfl (fun _ => rfl) fun hp => hp
  | false =>
    obtain ⟨hno, -⟩ | ⟨-, u, hu, huc, -, hup, hread, hnone⟩ := exhausted_nextKind he h
    · exact .of_not_exhausted ht hno
    · have hbrace := braceRead_of_readLabel (((turns_finishCurrent hu).trans hread.turns).placed
        hs.placed) hnone (.later ho he hu hup hread hnone)
      have hlast := hread.sameKind.trans (.of_moves (readLabel_moves hnone))
      exact ⟨ht, fun _ => hbrace.congr rfl rfl rfl, fun _ => hlast.current_eq.trans huc,
        fun _ => hlast.pending_eq.trans hup⟩

/-! ### Kinds that are passed over, and readers -/

/-- At no kind there is nothing to pass over. -/
theorem skipKind_of_none (hs : s.current = none) {kind : Option Kind} {n : Nat}
    {r : Except Failure Unit} (h : s.skipKind kind = (r, n, t)) : t = s := by
  cases kind with
  | none =>
    cases h
    rfl
  | some k =>
    unfold skipKind at h
    rw [hs] at h
    cases h
    rfl

theorem Sealed.skipKind (hs : s.Sealed data) {kind : Option Kind} {n : Nat}
    {r : Except Failure Unit} (h : s.skipKind kind = (r, n, t)) : t.Sealed data := by
  cases he : s.exhausted with
  | true =>
    rw [skipKind_of_none (hs.current_eq he) h]
    exact hs
  | false =>
    have hworks := works_skipKind h
    exact .of_not_exhausted (hworks.turns.placed hs.placed) (hworks.kept.exhausted_eq.trans he)

/-- A reader of no kind reads nothing. -/
theorem poll_of_none {r : Reader} (h : r.kind = none) :
    r.poll s = (none, { r with done := true }, s) := by
  unfold Reader.poll Reader.next
  cases hdone : r.done with
  | true => rw [if_pos rfl, ← hdone]
  | false =>
    rw [if_neg nofun]
    simp only [h]

theorem Sealed.poll (hs : s.Sealed data) {q q' : Reader} (hq : q.kind = s.current)
    {r : Option (Except Failure Record)} (h : q.poll s = (r, q', t)) : t.Sealed data := by
  cases he : s.exhausted with
  | true =>
    rw [poll_of_none (hq.trans (hs.current_eq he))] at h
    cases h
    exact hs
  | false =>
    have hexhausted := (kept_poll h).exhausted_eq.trans he
    obtain ⟨hworks, -⟩ | ⟨k, u, record, -, -, hworks, rfl⟩ := works_poll h
    · exact .of_not_exhausted (hworks.turns.placed hs.placed) hexhausted
    · exact .of_not_exhausted (hworks.turns.placed hs.placed) hexhausted

/-! ### Whatever was done -/

theorem sealed_readFirstLabel {supply : Supply} {options : Options} {tally : Tally}
    (hr : (start supply options tally).readToken = (.ok .startObject, s))
    (h : s.readFirstLabel = (.ok (), t)) : t.Sealed supply.rest := by
  have hworks := works_readToken hr
  have hs : s.cursor.Placed supply.rest := hworks.turns.placed (Cursor.placed_start ..)
  have ht := (turns_readFirstLabel h).placed hs
  have he : s.exhausted = false := hworks.kept.exhausted_eq
  unfold readFirstLabel at h
  rcases hl : s.readLabel with ⟨f | _ | label, s₁⟩
  · rw [hl] at h
    cases h
  · have hkept := (hworks.trans (works_readLabel hl)).kept
    rw [hl] at h
    cases h
    exact ⟨ht, fun _ => braceRead_of_readLabel hs hl (.first rfl hr hl), fun _ => hkept.current_eq,
      fun _ => hkept.pending_eq⟩
  · have hkept := (works_readLabel hl).kept
    rw [hl] at h
    refine .of_not_exhausted ht ?_
    rw [← he, ← hkept.exhausted_eq]
    simp only at h
    split at h
    · exact (sameKind_readBuild h).exhausted_eq
    · cases h; rfl
    · exact (works_dropSection h).kept.exhausted_eq
    · cases h

theorem sealed_begin {supply : Supply} {options : Options} {tally : Tally}
    (h : (start supply options tally).begin = (.ok (), s)) : s.Sealed supply.rest := by
  unfold begin at h
  split at h
  · cases h
  · split at h
    · cases h
    · next s₁ hr =>
      split at h
      · cases h
      · next s₂ hf =>
        cases h
        have hs₂ := sealed_readFirstLabel hr hf
        exact hs₂.congr ((Cursor.lasting_placed _).note hs₂.placed _) rfl rfl id id
    · cases h

/-- **Only the last brace exhausts a session**, whatever was done with it. -/
theorem Opened.sealed (h : s.Opened data) : s.Sealed data := by
  induction h with
  | begin hdata hopen => exact hdata ▸ sealed_begin hopen
  | nextKind ho ih => exact ih.nextKind ho rfl
  | skipKind kind _ ih => exact ih.skipKind rfl
  | poll _ hr ih => exact ih.poll hr rfl

/-- Without a next kind the last brace is read. -/
theorem Opened.braceRead_of_nextKind (ho : s.Opened data) (h : s.nextKind = (.ok none, t)) :
    t.BraceRead data := by
  refine (ho.sealed.nextKind ho h).brace ?_
  cases he : s.exhausted with
  | true =>
    rw [ho.sealed.nextKind_eq he] at h
    cases h
    exact he
  | false =>
    obtain ⟨-, hno⟩ | ⟨-, u, -, -, -, -, -, -⟩ := exhausted_nextKind he h
    · exact absurd rfl hno
    · rfl

end Session

end ExportStream

import ExportStream.Proofs.Ledger
/-!
# What the operations of a session post

Each operation posts to the tally what its ledger says. Reading posts nothing, whether tokens,
elements, payloads or labels are read. What is passed over is taken off element by element
(`Session.postsHere_dropElements`) and posted at once, behind the last one
(`Session.postsHere_skipKind`, `Session.posts_nextKind`).
-/

namespace ExportStream

/-- A value that is put together is counted. -/
theorem Assembler.built_go {a a' : Assembler} {t : Token} {c c' : Cursor} {v : Json}
    (h : a.go t c = (.ok v, a', c')) : a'.built = a.built + 1 := by
  fun_induction go a t c with
  | case1 =>
    cases h
    rfl
  | case2 => cases h
  | case3 a t c frames ha t' c' hr ih => exact ih h
  | case4 => cases h

namespace Session

variable {s t : Session}

/-! ### Elements -/

theorem postsHere_readToken {u : Token} (h : s.readToken = (.ok u, t)) : s.PostsHere 0 [] t := by
  unfold readToken at h
  rcases hr : s.cursor.readToken with ⟨r, c⟩
  rw [hr] at h
  cases h
  exact { posts_nil rfl rfl (fun _ => rfl) rfl rfl with current_eq := rfl, generation_eq := rfl }

theorem postsHere_readValue {u : Token} {v : Json} (h : s.readValue u = (.ok v, t)) :
    s.PostsHere 1 [] t := by
  unfold readValue Assembler.build at h
  rcases hg : s.assembler.reset.go u s.cursor with ⟨r, a, c⟩
  rw [hg] at h
  cases h
  have hbuilt : a.built = s.assembler.built + 1 := by
    have hgo := Assembler.built_go hg
    exact hgo
  have hposts : s.Posts 1 [] { s with assembler := a, cursor := c } :=
    posts_nil rfl hbuilt (fun _ => rfl) rfl rfl
  exact { hposts with current_eq := rfl, generation_eq := rfl }

theorem postsHere_copyPayload {size : Nat} {sink sink' : Sink} {hash : String}
    (h : s.copyPayload size sink = (.ok hash, sink', t)) : s.PostsHere 0 [] t := by
  unfold copyPayload at h
  simp only [Prod.mk.injEq] at h
  rw [← h.2.2]
  exact { posts_nil rfl rfl (fun _ => rfl) rfl rfl with current_eq := rfl, generation_eq := rfl }

/-- Where the array of a kind stands is no matter of the tally. -/
theorem PostsHere.array {n : Nat} {log : List LedgerEntry} (h : s.PostsHere n log t)
    (state : ArrayState) : s.PostsHere n log { t with array := state } :=
  { h with }

theorem PostsHere.note {n : Nat} {log : List LedgerEntry} (h : s.PostsHere n log t)
    (notice : Notice) : s.PostsHere n log (t.note notice) :=
  { h with }

theorem postsHere_openArray (h : s.openArray = (.ok (), t)) : s.PostsHere 0 [] t := by
  unfold openArray at h
  split at h
  · cases h
  · next hr =>
    cases h
    exact (postsHere_readToken hr).array _
  · cases h

theorem postsHere_readElement {v : Option Json} (h : s.readElement = (.ok v, t)) :
    s.PostsHere v.toList.length [] t := by
  unfold readElement at h
  split at h
  · cases h
  · next hr =>
    cases h
    exact (postsHere_readToken hr).array _
  · next hr =>
    split at h
    · cases h
    · next hv =>
      cases h
      exact (postsHere_readToken hr).trans (postsHere_readValue hv)

theorem postsHere_nextElement {v : Option Json} (h : s.nextElement = (.ok v, t)) :
    s.PostsHere v.toList.length [] t := by
  unfold nextElement at h
  split at h
  · cases h
    exact .refl s
  · exact postsHere_readElement h
  · split at h
    · cases h
    · next ho =>
      have hpost := (postsHere_openArray ho).trans (postsHere_readElement h)
      rw [Nat.zero_add] at hpost
      exact hpost

theorem postsHere_dropBytes {size : Nat} (h : s.dropBytes size = (.ok (), t)) :
    s.PostsHere 0 [] t := by
  unfold dropBytes at h
  split at h
  · cases h
  · next hc =>
    cases h
    exact postsHere_copyPayload hc

theorem postsHere_dropPayload {v : Json} (h : s.dropPayload v = (.ok (), t)) :
    s.PostsHere 0 [] t := by
  unfold dropPayload at h
  split at h
  · split at h
    · cases h
    · exact postsHere_dropBytes h
  · cases h
    exact .refl s

/-! ### What is passed over -/

/-- Elements of a kind that were passed over. -/
def PassedAt (k : Kind) (log : List LedgerEntry) : Prop :=
  ∀ e ∈ log, ∃ v, e = .taken (some k) v .passed

/-- Elements are taken off one by one, and counted later. -/
theorem postsHere_dropElements {k : Kind} (hk : s.current = some k) {n m : Nat}
    (h : s.dropElements n = (.ok (), m, t)) :
    s.PostsHere s.ledgerOfDrop.length [] t ∧ m = n + s.ledgerOfDrop.length ∧
      PassedAt k s.ledgerOfDrop := by
  fun_induction dropElements s n with
  | case1 => cases h
  | case2 s n s₁ hs =>
    cases h
    rw [ledgerOfDrop_eq, hs]
    refine ⟨postsHere_nextElement hs, rfl, ?_⟩
    intro e he
    cases he
  | case3 => cases h
  | case4 s n v s₁ hs s₂ hd ih =>
    have htake := (postsHere_nextElement hs).trans (postsHere_dropPayload hd)
    have hk₁ : s₁.current = some k := (postsHere_nextElement hs).current_eq.trans hk
    obtain ⟨hrest, hm, hpassed⟩ := ih (htake.current_eq.trans hk) h
    rw [ledgerOfDrop_eq, hs]
    simp only [hd]
    refine ⟨?_, ?_, ?_⟩
    · have hall := htake.trans hrest
      have hlen : [v].length + 0 + s₂.ledgerOfDrop.length = s₂.ledgerOfDrop.length + 1 :=
        Nat.add_comm ..
      rw [List.length_cons, ← hlen]
      exact hall
    · rw [hm, List.length_cons]
      omega
    · intro e he
      rcases List.mem_cons.mp he with rfl | he
      · exact ⟨v, by rw [hk₁]⟩
      · exact hpassed e he

theorem PassedAt.countP_eq {k : Kind} {log : List LedgerEntry} (h : PassedAt k log)
    {p : LedgerEntry → Bool} {b : Bool}
    (hp : ∀ v, p (.taken (some k) v .passed) = b) : log.countP p = if b then log.length else 0 := by
  induction log with
  | nil => simp
  | cons e log ih =>
    obtain ⟨v, rfl⟩ := h e (List.mem_cons_self ..)
    have htail : PassedAt k log := fun e he => h e (List.mem_cons_of_mem _ he)
    rw [List.countP_cons, ih htail, hp]
    cases b <;> simp

theorem PassedAt.flatMap_eq_nil {k : Kind} {log : List LedgerEntry} (h : PassedAt k log)
    {α : Type} {f : LedgerEntry → List α} (hf : ∀ v, f (.taken (some k) v .passed) = []) :
    log.flatMap f = [] := by
  rw [List.flatMap_eq_nil_iff]
  intro e he
  obtain ⟨v, rfl⟩ := h e he
  exact hf v

/-- What was passed over is posted by counting it. -/
theorem postsHere_countPassed {k : Kind} {log : List LedgerEntry} (h : PassedAt k log) :
    s.PostsHere 0 log (s.countSkipped k log.length) where
  sound := by
    intro e he
    obtain ⟨v, rfl⟩ := h e he
    trivial
  options_eq := rfl
  built_eq := rfl
  read_eq := by
    intro l
    rw [h.countP_eq (b := false) (fun v => by simp [LedgerEntry.has, Fate.isRead])]
    by_cases hl : l = k
    · rw [hl, countSkipped, Tally.get_modify_self]
      rfl
    · rw [countSkipped, Tally.get_modify_of_ne hl]
      rfl
  errored_eq := by
    intro l
    rw [h.countP_eq (b := false) (fun v => by simp [LedgerEntry.has, Fate.isRejected])]
    by_cases hl : l = k
    · rw [hl, countSkipped, Tally.get_modify_self]
      rfl
    · rw [countSkipped, Tally.get_modify_of_ne hl]
      rfl
  skipped_eq := by
    intro l
    by_cases hl : l = k
    · rw [hl, h.countP_eq (b := true) (fun v => by simp [LedgerEntry.has, Fate.isPassed]),
        countSkipped, Tally.get_modify_self]
      rfl
    · have hl' : ¬ k = l := fun he => hl he.symm
      rw [h.countP_eq (b := false) (fun v => by simp [LedgerEntry.has, hl']), countSkipped,
        Tally.get_modify_of_ne hl]
      rfl
  attachments_eq := by
    rw [h.flatMap_eq_nil fun v => rfl]
    simp [countSkipped]
  warnings_eq := by
    rw [h.flatMap_eq_nil fun v => rfl]
    simp [countSkipped]
  current_eq := rfl
  generation_eq := rfl

theorem PassedAt.countP_isTaken {k : Kind} {log : List LedgerEntry} (h : PassedAt k log) :
    log.countP LedgerEntry.isTaken = log.length := by
  rw [h.countP_eq (b := true) fun v => rfl]
  rfl

theorem postsHere_skipKind {kind : Option Kind} {n : Nat}
    (h : s.skipKind kind = (.ok (), n, t)) :
    s.PostsHere ((s.ledgerOfSkip kind).countP LedgerEntry.isTaken) (s.ledgerOfSkip kind) t := by
  unfold skipKind at h
  cases kind with
  | none =>
    cases h
    exact .refl s
  | some k =>
    simp only at h
    split at h
    · next hk =>
      split at h
      · cases h
      · next m u hd =>
        cases h
        obtain ⟨hdrop, hm, hpassed⟩ := postsHere_dropElements hk hd
        rw [Nat.zero_add] at hm
        subst hm
        have hledger : s.ledgerOfSkip (some k) = s.ledgerOfDrop := rfl
        rw [hledger, hpassed.countP_isTaken]
        exact (hdrop.trans (postsHere_countPassed hpassed)).note _
    · cases h

/-! ### From kind to kind -/

theorem Posts.leave {n : Nat} {log : List LedgerEntry} (h : s.Posts n log t) :
    s.Posts n log t.leave :=
  { h with }

theorem Posts.enter {n : Nat} {log : List LedgerEntry} (h : s.Posts n log t) (k : Kind) :
    s.Posts n log (t.enter k) :=
  { h with }

theorem Posts.pending {n : Nat} {log : List LedgerEntry} (h : s.Posts n log t)
    (kind : Option Kind) : s.Posts n log { t with pending := kind } :=
  { h with }

theorem Posts.exhausted {n : Nat} {log : List LedgerEntry} (h : s.Posts n log t) :
    s.Posts n log { t with exhausted := true } :=
  { h with }

theorem Posts.note {n : Nat} {log : List LedgerEntry} (h : s.Posts n log t) (notice : Notice) :
    s.Posts n log (t.note notice) :=
  { h with }

theorem posts_finishCurrent (h : s.finishCurrent = (.ok (), t)) :
    s.Posts (s.ledgerOfFinish.countP LedgerEntry.isTaken) s.ledgerOfFinish t := by
  unfold finishCurrent at h
  split at h
  · next hk =>
    cases h
    have hledger : s.ledgerOfFinish = [] := by simp [ledgerOfFinish, hk]
    rw [hledger]
    exact (PostsHere.refl s).toPosts.leave
  · next k hk =>
    split at h
    · next ha =>
      cases h
      have hledger : s.ledgerOfFinish = [] := by simp [ledgerOfFinish, ha]
      rw [hledger]
      exact (PostsHere.refl s).toPosts.leave
    · next ha =>
      split at h
      · cases h
      · next m u hd =>
        cases h
        obtain ⟨hdrop, hm, hpassed⟩ := postsHere_dropElements hk hd
        rw [Nat.zero_add] at hm
        subst hm
        have hledger : s.ledgerOfFinish = s.ledgerOfDrop := by simp [ledgerOfFinish, hk, ha]
        have hcount : s.PostsHere s.ledgerOfDrop.length s.ledgerOfDrop
            (u.countDrained k s.ledgerOfDrop.length) := by
          unfold countDrained
          split
          · next hz =>
            rw [List.length_eq_zero_iff.mp hz] at hdrop ⊢
            exact hdrop
          · exact (hdrop.trans (postsHere_countPassed hpassed)).note _
        rw [hledger, hpassed.countP_isTaken]
        exact hcount.toPosts.leave

theorem posts_readLabel {label : Option String} (h : s.readLabel = (.ok label, t)) :
    s.Posts 0 [] t := by
  unfold readLabel at h
  split at h
  · cases h
  · next hr =>
    cases h
    exact (postsHere_readToken hr).toPosts
  · next hr =>
    cases h
    exact (postsHere_readToken hr).toPosts
  · cases h

theorem posts_setBuild (s : Session) (n : Int) : s.Posts 0 [] (s.setBuild n) :=
  posts_nil rfl rfl (fun k => by cases k <;> rfl) rfl rfl

theorem posts_readBuild (h : s.readBuild = (.ok (), t)) : s.Posts 0 [] t := by
  unfold readBuild at h
  split at h
  · cases h
  · next hr =>
    cases h
    exact (postsHere_readToken hr).toPosts.trans (posts_setBuild ..)
  · cases h

theorem posts_dropValue {label : String} {depth : Nat} (h : s.dropValue label depth = (.ok (), t)) :
    s.Posts 0 [] t := by
  fun_induction dropValue s label depth with
  | case1 => cases h
  | case2 => cases h
  | case3 s depth u s₁ hs hdepth =>
    cases h
    exact (postsHere_readToken hs).toPosts
  | case4 s depth u s₁ hs d hdepth ih => exact (postsHere_readToken hs).toPosts.trans (ih h)

theorem posts_dropSection {label : String} (h : s.dropSection label = (.ok (), t)) :
    s.Posts 0 [] t := by
  unfold dropSection at h
  split at h
  · cases h
  · next hd =>
    cases h
    exact (posts_dropValue hd).note _

theorem posts_nextLabel {k : Option Kind} (h : s.nextLabel = (.ok k, t)) : s.Posts 0 [] t := by
  fun_induction nextLabel s with
  | case1 =>
    cases h
    exact (PostsHere.refl t).toPosts
  | case2 => cases h
  | case3 s he s₁ hs =>
    cases h
    exact (posts_readLabel hs).exhausted.note _
  | case4 s he label s₁ hs l hl =>
    cases h
    exact (posts_readLabel hs).enter l
  | case5 => cases h
  | case6 => cases h
  | case7 s he label s₁ hs hl s₂ hb ih =>
    exact ((posts_readLabel hs).trans (posts_readBuild hb)).trans (ih h)
  | case8 => cases h
  | case9 s he label s₁ hs hl s₂ hd ih =>
    exact ((posts_readLabel hs).trans (posts_dropSection hd)).trans (ih h)

theorem posts_nextKind {k : Option Kind} (h : s.nextKind = (.ok k, t)) :
    s.Posts (s.ledgerOfFinish.countP LedgerEntry.isTaken) s.ledgerOfFinish t := by
  unfold nextKind at h
  split at h
  · cases h
  · next u hf =>
    have hfinish := posts_finishCurrent hf
    split at h
    · next k' hp =>
      cases h
      exact (hfinish.pending none).enter k'
    · have hall := hfinish.trans (posts_nextLabel h)
      rw [List.append_nil] at hall
      exact hall

theorem posts_readFirstLabel (h : s.readFirstLabel = (.ok (), t)) : s.Posts 0 [] t := by
  unfold readFirstLabel at h
  split at h
  · cases h
  · next hr =>
    cases h
    exact (posts_readLabel hr).exhausted
  · next label u hr =>
    have hlabel := posts_readLabel hr
    split at h
    · exact hlabel.trans (posts_readBuild h)
    · cases h
      exact hlabel.pending _
    · exact hlabel.trans (posts_dropSection h)
    · cases h

theorem posts_opened (s : Session) : s.Posts 0 [] s.opened :=
  posts_nil rfl rfl (fun k => by cases k <;> rfl) rfl rfl

/-- The beginning of an export posts nothing. -/
theorem posts_begin (h : s.begin = (.ok (), t)) : s.Posts 0 [] t := by
  unfold begin at h
  split at h
  · cases h
  · split at h
    · cases h
    · next hr =>
      split at h
      · cases h
      · next hl =>
        cases h
        exact ((postsHere_readToken hr).toPosts.trans (posts_readFirstLabel hl)).trans
          (posts_opened _)
    · cases h

end Session

end ExportStream

import ExportStream.Proofs.ReaderPostings
/-!
# Conservation of elements

Whoever works with a session goes to the next kind, passes over a kind, makes readers and polls
them, in any order, and gives a reader up at any point (`Desk.run`). As long as nothing fails, no
element is lost: every one that was taken off an array was read, rejected, passed over, put aside as
the marker of an attachment, or ignored as the options say, and the tally shows how many were what;
and the warnings are those that the rejected elements, the attachments and the batches that were
dropped give rise to, in the order in which this happened (**`Desk.balanced_of_run`**).

What one operation posts is known (`Desk.posts_act`), so the run is an induction on the operations.
The invariant that it carries is that the reader at work belongs to the kind at which the session
stands.
-/

namespace ExportStream

/-! ### Operations -/

/-- A session, and the reader that is at work. -/
structure Desk where
  /-- The session. -/
  session : Session
  /-- The reader. -/
  reader : Option Reader := none

/-- What can be done with a session. -/
inductive Operation where
  /-- Goes to the next kind. -/
  | nextKind
  /-- Passes over what is left of a kind. -/
  | skipKind (kind : Option Kind)
  /-- Makes a reader of elements in a form, whose payloads go to some sinks. -/
  | read (form : Kind) (sinks : Sinks)
  /-- Polls the reader at work. -/
  | poll

namespace Desk

/-- What an operation leads to, if it does not fail. A reader is given up when the session is used
otherwise. -/
def act (d : Desk) : Operation → Option Desk
  | .nextKind =>
    match d.session.nextKind with
    | (.ok _, session) => some { session }
    | (.error _, _) => none
  | .skipKind kind =>
    match d.session.skipKind kind with
    | (.ok (), _, session) => some { session }
    | (.error _, _) => none
  | .read form sinks => some { d with reader := some (.start d.session form sinks) }
  | .poll =>
    match d.reader with
    | none => none
    | some r =>
      match r.poll d.session with
      | (some (.error _), _) => none
      | (_, r, session) => some { session, reader := some r }

/-- The ledger of an operation. -/
def entries (d : Desk) : Operation → List LedgerEntry
  | .nextKind => d.session.ledgerOfFinish
  | .skipKind kind => d.session.ledgerOfSkip kind
  | .read .. => []
  | .poll => d.reader.elim [] fun r => r.ledger d.session

/-- What operations lead to, if none of them fails. -/
def run (d : Desk) : List Operation → Option Desk
  | [] => some d
  | o :: os => (d.act o).bind fun d => d.run os

/-- The ledger of operations. -/
def ledger (d : Desk) : List Operation → List LedgerEntry
  | [] => []
  | o :: os => d.entries o ++ (d.act o).elim [] fun d => d.ledger os

/-- The reader at work belongs to the kind at which the session stands. -/
def Fits (d : Desk) : Prop := ∀ r, d.reader = some r → r.kind = d.session.current

/-! ### What operations post -/

variable {d e : Desk}

/-- An operation that does not fail posts its ledger. -/
theorem posts_act (hd : d.Fits) {o : Operation} (h : d.act o = some e) :
    d.session.Posts ((d.entries o).countP LedgerEntry.isTaken) (d.entries o) e.session ∧
      e.Fits := by
  cases o with
  | nextKind =>
    simp only [act] at h
    split at h
    · next k s hs =>
      cases h
      refine ⟨Session.posts_nextKind hs, ?_⟩
      intro r hr
      cases hr
    · cases h
  | skipKind kind =>
    simp only [act] at h
    split at h
    · next n s hs =>
      cases h
      refine ⟨(Session.postsHere_skipKind hs).toPosts, ?_⟩
      intro r hr
      cases hr
    · cases h
  | read form sinks =>
    cases h
    refine ⟨(Session.PostsHere.refl d.session).toPosts, ?_⟩
    intro r hr
    cases hr
    rfl
  | poll =>
    simp only [act] at h
    split at h
    · cases h
    · next r hr =>
      have hkind := hd r hr
      have hentries : d.entries .poll = r.ledger d.session := by simp [entries, hr]
      rw [hentries]
      have hpolled {x : Option Record} {r' : Reader} {s : Session}
          (hp : r.poll d.session = (x.map .ok, r', s)) :
          d.session.Posts ((r.ledger d.session).countP LedgerEntry.isTaken) (r.ledger d.session)
              s ∧
            ({ session := s, reader := some r' } : Desk).Fits := by
        obtain ⟨hposts, hr'⟩ := Reader.postsHere_poll hkind hp
        refine ⟨hposts.toPosts, ?_⟩
        intro r₁ hr₁
        cases hr₁
        exact (hr'.trans hkind).trans hposts.current_eq.symm
      rcases hp : r.poll d.session with ⟨_ | f | x, r', s⟩
      · rw [hp] at h
        cases h
        exact hpolled (x := none) hp
      · rw [hp] at h
        cases h
      · rw [hp] at h
        cases h
        exact hpolled (x := some x) hp

/-- Operations that do not fail post their ledger. -/
theorem posts_run (hd : d.Fits) {os : List Operation} (h : d.run os = some e) :
    d.session.Posts ((d.ledger os).countP LedgerEntry.isTaken) (d.ledger os) e.session ∧
      e.Fits := by
  induction os generalizing d with
  | nil =>
    cases h
    exact ⟨(Session.PostsHere.refl _).toPosts, hd⟩
  | cons o os ih =>
    obtain ⟨d₁, hact, hrun⟩ := Option.bind_eq_some_iff.mp h
    obtain ⟨hposts, hd₁⟩ := posts_act hd hact
    obtain ⟨hrest, he⟩ := ih hd₁ hrun
    have hledger : d.ledger (o :: os) = d.entries o ++ d₁.ledger os := by simp [ledger, hact]
    rw [hledger, List.countP_append]
    exact ⟨hposts.trans hrest, he⟩

end Desk

/-! ### Adding a ledger up -/

namespace LedgerEntry

/-- Was an element rejected? -/
def isRejected : LedgerEntry → Bool
  | .taken _ _ fate => fate.isRejected
  | .lost .. => false

/-- An element of a kind. -/
abbrev isOf (k : Kind) : LedgerEntry → Bool := has k fun _ => true

/-- Every element of a kind has one fate. -/
theorem countP_isOf (k : Kind) (log : List LedgerEntry) :
    log.countP (isOf k) =
      log.countP (has k Fate.isRead) + log.countP (has k Fate.isRejected) +
        log.countP (has k Fate.isPassed) + log.countP (has k Fate.isIgnored) +
          log.countP (has k Fate.isStaged) := by
  induction log with
  | nil => rfl
  | cons e log ih =>
    simp only [List.countP_cons, ih]
    cases e with
    | lost staged reason =>
      simp only [has, Bool.false_eq_true, if_false]
      omega
    | taken kind v fate =>
      by_cases hk : kind = some k
      · cases fate <;>
          simp only [has, hk, decide_true, Bool.true_and, Fate.isRead, Fate.isRejected,
            Fate.isPassed, Fate.isIgnored, Fate.isStaged, if_true, Bool.false_eq_true,
            if_false] <;>
          omega
      · simp only [has, hk, decide_false, Bool.false_and, Bool.false_eq_true, if_false]
        omega

/-- Markers of attachments are not put aside among records that carry none. -/
theorem countP_isStaged_eq_zero {o : Options} {k : Kind} (hk : k.carriesAttachments = false)
    {log : List LedgerEntry} (h : ∀ e ∈ log, e.Sound o) :
    log.countP (has k Fate.isStaged) = 0 := by
  rw [List.countP_eq_zero]
  intro e he
  have hsound := h e he
  cases e with
  | lost staged reason => simp [has]
  | taken kind v fate =>
    cases fate with
    | staged arrived =>
      cases kind with
      | none => exact hsound.elim
      | some l =>
        intro hhas
        simp only [has, Fate.isStaged, Bool.and_true, decide_eq_true_eq, Option.some.injEq]
          at hhas
        subst hhas
        exact absurd (hk.symm.trans hsound.1) (by decide)
    | _ => simp [has, Fate.isStaged]

/-- Every marker that is put aside, among documents or their former states, is one attachment. -/
theorem length_arrived {o : Options} {log : List LedgerEntry} (h : ∀ e ∈ log, e.Sound o) :
    (log.flatMap arrived).length =
      log.countP (has .documents Fate.isStaged) +
        log.countP (has .revisionDocuments Fate.isStaged) := by
  induction log with
  | nil => rfl
  | cons e log ih =>
    have hsound := h e (List.mem_cons_self ..)
    rw [List.flatMap_cons, List.length_append, ih fun e he => h e (List.mem_cons_of_mem _ he),
      List.countP_cons, List.countP_cons]
    cases e with
    | lost staged reason =>
      simp [arrived, has]
    | taken kind v fate =>
      cases fate with
      | staged as =>
        cases kind with
        | none => exact hsound.elim
        | some l =>
          obtain ⟨hl, hone⟩ := hsound
          cases l with
          | documents =>
            simp only [arrived, has, Fate.isStaged, hone]
            simp
            omega
          | revisionDocuments =>
            simp only [arrived, has, Fate.isStaged, hone]
            simp
            omega
          | _ => cases hl
      | _ => simp [arrived, has, Fate.isStaged]

/-- The rejected elements of all kinds. -/
theorem countP_isRejected {o : Options} {log : List LedgerEntry} (h : ∀ e ∈ log, e.Sound o) :
    Kind.all.foldr (fun k n => log.countP (has k Fate.isRejected) + n) 0 =
      log.countP isRejected := by
  induction log with
  | nil => rfl
  | cons e log ih =>
    have hsound := h e (List.mem_cons_self ..)
    have ih := ih fun e he => h e (List.mem_cons_of_mem _ he)
    rw [List.countP_cons, ← ih]
    simp only [Kind.all, List.foldr_cons, List.foldr_nil, List.countP_cons]
    cases e with
    | lost staged reason =>
      simp only [has, isRejected, Bool.false_eq_true, if_false]
      omega
    | taken kind v fate =>
      cases kind with
      | none => exact hsound.elim
      | some l =>
        cases hf : fate.isRejected with
        | false =>
          simp only [has, isRejected, hf, Bool.and_false, Bool.false_eq_true, if_false]
          omega
        | true => cases l <;> simp [has, isRejected, hf] <;> omega

/-- Every rejected element gives rise to one warning, and so does every attachment that is not what
its marker declares, where hashes are compared, and every batch that is lost. -/
theorem length_warnings {o : Options} {log : List LedgerEntry} (h : ∀ e ∈ log, e.Sound o) :
    (log.flatMap (warnings o)).length =
      log.countP isRejected +
        (log.flatMap arrived).countP (fun a => o.verifyAttachmentHashes && !a.isVerified) +
          log.countP isLost := by
  induction log with
  | nil => rfl
  | cons e log ih =>
    have hsound := h e (List.mem_cons_self ..)
    rw [List.flatMap_cons, List.length_append, ih fun e he => h e (List.mem_cons_of_mem _ he),
      List.flatMap_cons, List.countP_append, List.countP_cons, List.countP_cons]
    cases e with
    | lost staged reason =>
      simp [warnings, arrived, isRejected, isLost]
      omega
    | taken kind v fate =>
      cases kind with
      | none => exact hsound.elim
      | some l =>
        cases fate with
        | staged as =>
          simp only [warnings, arrived, isRejected, isLost, Fate.isRejected, List.length_map,
            ← List.countP_eq_length_filter]
          simp
          omega
        | rejected f shown =>
          simp [warnings, arrived, isRejected, isLost, Fate.isRejected]
          omega
        | _ => simp [warnings, arrived, isRejected, isLost, Fate.isRejected]

end LedgerEntry

/-! ### The balance -/

/-- The tally of a session balances the elements that were taken off so far. -/
structure Balanced (o : Options) (log : List LedgerEntry) (s : Session) : Prop where
  /-- Every element that was put together is in the ledger. -/
  built_eq : s.assembler.built = log.countP LedgerEntry.isTaken
  /-- The entries are in order: only deletions without a key are ignored, where the options say so,
  and attachments come one by one among documents. -/
  sound : ∀ e ∈ log, e.Sound o
  /-- The elements of a kind that carries no attachments. -/
  total_eq : ∀ k, k.carriesAttachments = false →
    (s.tally.get k).total + log.countP (LedgerEntry.has k Fate.isIgnored) = log.countP (LedgerEntry.isOf k)
  /-- The elements of the two kinds of documents. -/
  documents_eq :
    (s.tally.get .documents).total + (s.tally.get .revisionDocuments).total +
        (log.countP (LedgerEntry.has .documents Fate.isIgnored) +
          log.countP (LedgerEntry.has .revisionDocuments Fate.isIgnored)) + s.tally.attachments =
      log.countP (LedgerEntry.isOf .documents) + log.countP (LedgerEntry.isOf .revisionDocuments)
  /-- The rejected elements of a kind. -/
  errored_eq : ∀ k, (s.tally.get k).errored = log.countP (LedgerEntry.has k Fate.isRejected)
  /-- The warnings, in order. -/
  warnings_eq : s.tally.warnings.toList = log.flatMap (LedgerEntry.warnings o)
  /-- The number of warnings. -/
  size_warnings : s.tally.warnings.size =
    s.tally.totalErrored +
      (log.flatMap LedgerEntry.arrived).countP
        (fun a => o.verifyAttachmentHashes && !a.isVerified) +
      log.countP LedgerEntry.isLost

/-- A ledger that was posted from nothing balances. -/
theorem Session.Posts.balanced {o : Options} {s t : Session} {log : List LedgerEntry}
    (h : s.Posts (log.countP LedgerEntry.isTaken) log t) (ho : s.options = o)
    (hbuilt : s.assembler.built = 0) (hget : ∀ k, s.tally.get k = {})
    (ha : s.tally.attachments = 0) (hw : s.tally.warnings = #[]) : Balanced o log t := by
  subst ho
  have hread (k : Kind) : (t.tally.get k).read = log.countP (LedgerEntry.has k Fate.isRead) := by
    rw [h.read_eq, hget, Nat.zero_add]
  have herrored (k : Kind) :
      (t.tally.get k).errored = log.countP (LedgerEntry.has k Fate.isRejected) := by
    rw [h.errored_eq, hget, Nat.zero_add]
  have hskipped (k : Kind) :
      (t.tally.get k).skipped = log.countP (LedgerEntry.has k Fate.isPassed) := by
    rw [h.skipped_eq, hget, Nat.zero_add]
  have hwarnings : t.tally.warnings.toList = log.flatMap (LedgerEntry.warnings s.options) := by
    rw [h.warnings_eq, hw, List.nil_append]
  refine ⟨?_, h.sound, ?_, ?_, herrored, hwarnings, ?_⟩
  · rw [h.built_eq, hbuilt, Nat.zero_add]
  · intro k hk
    rw [LedgerEntry.countP_isOf, LedgerEntry.countP_isStaged_eq_zero hk h.sound, Counts.total,
      hread, herrored, hskipped, Nat.add_zero]
  · rw [LedgerEntry.countP_isOf, LedgerEntry.countP_isOf, Counts.total, Counts.total, hread,
      herrored, hskipped, hread, herrored, hskipped, h.attachments_eq, ha,
      LedgerEntry.length_arrived h.sound]
    omega
  · have hrejected : t.tally.totalErrored = log.countP LedgerEntry.isRejected := by
      rw [← LedgerEntry.countP_isRejected h.sound]
      simp only [Tally.totalErrored, herrored]
    rw [hrejected, ← LedgerEntry.length_warnings h.sound, ← hwarnings]
    exact Array.length_toList.symm

namespace Desk

/-- **Nothing is lost.** After any operations that did not fail, on any stream and from an empty
tally, the tally balances the elements that were taken off, and what is done later only adds to the
warnings. -/
theorem balanced_of_run {supply : Supply} {options : Options} {s : Session}
    (hopen : (Session.start supply options {}).begin = (.ok (), s)) {os : List Operation} {d : Desk}
    (hrun : ({ session := s } : Desk).run os = some d) :
    Balanced options (({ session := s } : Desk).ledger os) d.session ∧
      ∀ later e, d.run later = some e →
        d.session.tally.warnings.toList <+: e.session.tally.warnings.toList := by
  have hbegin := Session.posts_begin hopen
  have hfits : ({ session := s } : Desk).Fits := by
    intro r hr
    cases hr
  obtain ⟨hposts, hd⟩ := posts_run hfits hrun
  have hall := hbegin.trans hposts
  rw [Nat.zero_add] at hall
  refine ⟨hall.balanced rfl rfl (fun k => by cases k <;> rfl) rfl rfl, ?_⟩
  intro later e hlater
  obtain ⟨hmore, -⟩ := posts_run hd hlater
  rw [hmore.warnings_eq]
  exact List.prefix_append ..

/-- The bytes `{"Docs":[{}],"DocsDeletions":[{},1]}` in portions of three, with a reader for each of
the two arrays: the document is rejected, and the two deletions without a key are ignored. -/
theorem balanced_of_ignored_deletions :
    let supply : Supply :=
      { rest := [123, 34, 68, 111, 99, 115, 34, 58, 91, 123, 125, 93, 44, 34, 68, 111, 99, 115, 68,
          101, 108, 101, 116, 105, 111, 110, 115, 34, 58, 91, 123, 125, 44, 49, 93, 125],
        portions := [3] }
    let os : List Operation := [.nextKind, .read .documents .memory, .poll, .nextKind,
      .read .legacyDocumentDeletions .memory, .poll]
    ∃ s d, (Session.start supply {} {}).begin = (.ok (), s) ∧
      ({ session := s } : Desk).run os = some d ∧
      Balanced {} (({ session := s } : Desk).ledger os) d.session ∧
      d.session.tally.documents = ⟨0, 1, 0⟩ ∧ d.session.tally.legacyDocumentDeletions = {} ∧
      d.session.assembler.built = 3 := by
  intro supply os
  have hopened : (Session.start supply {} {}).begin.1.isOk = true := by decide +kernel
  rcases hopen : (Session.start supply {} {}).begin with ⟨f | _, s⟩
  · rw [hopen] at hopened
    cases hopened
  have hs : s = (Session.start supply {} {}).begin.2 := by rw [hopen]
  have hdone : (({ session := s } : Desk).run os).map (fun d =>
      (d.session.tally.documents, d.session.tally.legacyDocumentDeletions,
        d.session.assembler.built)) = some (⟨0, 1, 0⟩, {}, 3) := by
    rw [hs]
    decide +kernel
  obtain ⟨d, hrun, hd⟩ := Option.map_eq_some_iff.mp hdone
  simp only [Prod.mk.injEq] at hd
  exact ⟨s, d, rfl, hrun, (balanced_of_run hopen hrun).1, hd.1, hd.2.1, hd.2.2⟩

end Desk

end ExportStream

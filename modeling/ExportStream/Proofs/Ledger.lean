import ExportStream.Proofs.Rounds
import Mathlib.Tactic.SplitIfs
/-!
# Ledgers

A ledger says of every element that was taken off an array what became of it, and which attachments
were lost on the way. The ledgers of readers and of what is passed over follow the loops that take
the elements off, round by round, and read nothing of the tally (`Reader.ledgerOfPull`,
`Session.ledgerOfDrop`).

The tally is what the ledger adds up to: `Session.Posts` says that from one session to another the
entries of a ledger were posted, and nothing else. Postings are put together by `Posts.trans`, so
that there is one small lemma for each operation, and inductions for the loops only. What stays
within the array of one kind also leaves the session at that kind (`Session.PostsHere`).
-/

namespace ExportStream

/-! ### Entries -/

/-- What became of an element that was taken off an array. -/
inductive Fate where
  /-- It was read as a record. -/
  | read
  /-- It announced attachments, which wait for their document now. -/
  | staged (arrived : List Attachment)
  /-- It was passed over and counted. -/
  | passed
  /-- It was passed over and not counted. -/
  | ignored
  /-- It was rejected, and the warning shows a value. -/
  | rejected (f : RecordFault) (shown : Json)

namespace Fate

/-- Was the element read? -/
def isRead : Fate → Bool
  | .read => true
  | _ => false

/-- Was the element the marker of attachments? -/
def isStaged : Fate → Bool
  | .staged _ => true
  | _ => false

/-- Was the element passed over and counted? -/
def isPassed : Fate → Bool
  | .passed => true
  | _ => false

/-- Was the element passed over and not counted? -/
def isIgnored : Fate → Bool
  | .ignored => true
  | _ => false

/-- Was the element rejected? -/
def isRejected : Fate → Bool
  | .rejected .. => true
  | _ => false

/-- The counts of a kind with one more element of such a fate. -/
def count (fate : Fate) (c : Counts) : Counts where
  read := c.read + fate.isRead.toNat
  errored := c.errored + fate.isRejected.toNat
  skipped := c.skipped + fate.isPassed.toNat

end Fate

/-- An entry of a ledger. -/
inductive LedgerEntry where
  /-- An element was taken off the array of the kind at which the session stood. -/
  | taken (kind : Option Kind) (v : Json) (fate : Fate)
  /-- Attachments that waited for a document were lost, for a reason. -/
  | lost (staged : List Attachment) (reason : String)

namespace LedgerEntry

/-- Was an element taken? -/
def isTaken : LedgerEntry → Bool
  | .taken .. => true
  | .lost .. => false

/-- Was an element taken off an array of a kind, with such a fate? -/
def has (k : Kind) (p : Fate → Bool) : LedgerEntry → Bool
  | .taken kind _ fate => kind = some k && p fate
  | .lost .. => false

/-- Were attachments lost? -/
def isLost : LedgerEntry → Bool
  | .taken .. => false
  | .lost .. => true

/-- The attachments that came. -/
def arrived : LedgerEntry → List Attachment
  | .taken _ _ (.staged arrived) => arrived
  | _ => []

/-- The warnings that an entry gives rise to, in order. -/
def warnings (o : Options) : LedgerEntry → List String
  | .taken (some k) _ (.rejected f shown) =>
    [Session.rejectionWarning k f (shown.snapshot o.maxWarningSnapshot)]
  | .taken _ _ (.staged arrived) =>
    (arrived.filter fun a => o.verifyAttachmentHashes && !a.isVerified).map Staging.mismatchWarning
  | .taken .. => []
  | .lost staged reason => [Staging.dropWarning staged reason]

/-- What holds of every entry: elements are taken at a kind, one attachment at a time comes and only
among documents, and only deletions without a key are ignored, where the options say so. -/
def Sound (o : Options) : LedgerEntry → Prop
  | .taken none _ _ => False
  | .taken (some k) _ (.staged arrived) => k.carriesAttachments = true ∧ arrived.length = 1
  | .taken (some k) v .ignored =>
    o.deletionPolicy = .ignore ∧ deletedKey? v = none ∧
      (k = .legacyDocumentDeletions ∨ k = .legacyAttachmentDeletions)
  | .taken (some _) _ _ => True
  | .lost staged _ => staged ≠ []

/-- The entry on attachments that are lost, if there are some. -/
def batch (staged : List Attachment) (reason : String) : List LedgerEntry :=
  if staged.isEmpty then [] else [.lost staged reason]

end LedgerEntry

/-! ### The ledgers of the loops -/

/-- The entries on an element, from what waited before and behind it. -/
def Decoded.entries (kind : Option Kind) (v : Json) (g g' : Staging) : Decoded → List LedgerEntry
  | .record _ => [.taken kind v .read]
  | .deferred => [.taken kind v (.staged (g'.staged.drop g.staged.length))]
  | .skipped => [.taken kind v .passed]
  | .ignored => [.taken kind v .ignored]
  | .rejected f shown =>
    LedgerEntry.batch (if g'.staged.isEmpty then g.staged else []) "their host document was rejected" ++
      [.taken kind v (.rejected f shown)]

/-- The ledger of the next record. -/
def Reader.ledgerOfPull (g : Staging) (form k : Kind) (s : Session) : List LedgerEntry :=
  match _h : s.nextElement with
  | (.error _, _) => []
  | (.ok none, _) =>
    if form.carriesAttachments then LedgerEntry.batch g.staged "they had no host document" else []
  | (.ok (some v), s') =>
    match _h' : g.decode form k v s' with
    | (.error _, _, _) => []
    | (.ok (.record r), g', _) => (Decoded.record r).entries s'.current v g g'
    | (.ok .deferred, g', s) => Decoded.deferred.entries s'.current v g g' ++ ledgerOfPull g' form k s
    | (.ok .ignored, g', s) => Decoded.ignored.entries s'.current v g g' ++ ledgerOfPull g' form k s
    | (.ok .skipped, g', s) =>
      Decoded.skipped.entries s'.current v g g' ++ ledgerOfPull g' form k (s.countSkipped k 1)
    | (.ok (.rejected f w), g', s) =>
      (Decoded.rejected f w).entries s'.current v g g' ++ ledgerOfPull g' form k (s.reject k f w)
termination_by s.fuel
decreasing_by
  all_goals
    have hs := ((Session.spent_nextElement _h).trans (Staging.spent_decode _h')).fuel_lt
    exact hs

/-- The ledger of a poll. -/
def Reader.ledger (r : Reader) (s : Session) : List LedgerEntry :=
  match r.kind with
  | none => []
  | some k => if r.done || !r.form.sameForm k then [] else ledgerOfPull r.staging r.form k s

/-- The ledger of the rest of an array that is passed over. -/
def Session.ledgerOfDrop (s : Session) : List LedgerEntry :=
  match _h : s.nextElement with
  | (.error _, _) => []
  | (.ok none, _) => []
  | (.ok (some v), s') =>
    match _h' : s'.dropPayload v with
    | (.error _, _) => []
    | (.ok (), s'') => .taken s'.current v .passed :: ledgerOfDrop s''
termination_by s.fuel
decreasing_by exact ((spent_nextElement _h).trans (spent_dropPayload _h')).fuel_lt

/-- The ledger of passing over the records of a kind. -/
def Session.ledgerOfSkip (s : Session) (kind : Option Kind) : List LedgerEntry :=
  if kind.isSome then s.ledgerOfDrop else []

/-- The ledger of leaving the current kind. -/
def Session.ledgerOfFinish (s : Session) : List LedgerEntry :=
  if s.current.isNone || s.array = .closed then [] else s.ledgerOfDrop

theorem Reader.ledgerOfPull_eq (g : Staging) (form k : Kind) (s : Session) :
    ledgerOfPull g form k s =
      match s.nextElement with
      | (.error _, _) => []
      | (.ok none, _) =>
        if form.carriesAttachments then LedgerEntry.batch g.staged "they had no host document" else []
      | (.ok (some v), s') =>
        match g.decode form k v s' with
        | (.error _, _, _) => []
        | (.ok (.record r), g', _) => (Decoded.record r).entries s'.current v g g'
        | (.ok .deferred, g', s) =>
          Decoded.deferred.entries s'.current v g g' ++ ledgerOfPull g' form k s
        | (.ok .ignored, g', s) =>
          Decoded.ignored.entries s'.current v g g' ++ ledgerOfPull g' form k s
        | (.ok .skipped, g', s) =>
          Decoded.skipped.entries s'.current v g g' ++ ledgerOfPull g' form k (s.countSkipped k 1)
        | (.ok (.rejected f w), g', s) =>
          (Decoded.rejected f w).entries s'.current v g g' ++
            ledgerOfPull g' form k (s.reject k f w) := by
  rw [ledgerOfPull]
  rcases s.nextElement with ⟨f | _ | v, s'⟩
  · rfl
  · rfl
  · simp only
    rcases g.decode form k v s' with ⟨f | d, g', s''⟩
    · rfl
    · cases d <;> rfl

theorem Reader.ledgerOfPull_of_decode {g g' : Staging} {form k : Kind} {s s' s'' : Session}
    {v : Json} {d : Decoded} (hn : s.nextElement = (.ok (some v), s'))
    (hd : g.decode form k v s' = (.ok d, g', s'')) :
    ledgerOfPull g form k s =
      d.entries s'.current v g g' ++
        match d with
        | .record _ => []
        | _ => ledgerOfPull g' form k (d.settle k s'') := by
  rw [ledgerOfPull_eq, hn]
  simp only [hd]
  cases d with
  | record r => rw [List.append_nil]
  | _ => rfl

theorem Session.ledgerOfDrop_eq (s : Session) :
    s.ledgerOfDrop =
      match s.nextElement with
      | (.error _, _) => []
      | (.ok none, _) => []
      | (.ok (some v), s') =>
        match s'.dropPayload v with
        | (.error _, _) => []
        | (.ok (), s'') => .taken s'.current v .passed :: ledgerOfDrop s'' := by
  rw [ledgerOfDrop]
  rcases s.nextElement with ⟨f | _ | v, s'⟩
  · rfl
  · rfl
  · simp only
    rcases s'.dropPayload v with ⟨f | _, s''⟩ <;> rfl

/-! ### Postings -/

@[simp] theorem Tally.attachments_modify (t : Tally) (k : Kind) (f : Counts → Counts) :
    (t.modify k f).attachments = t.attachments := by
  cases k <;> rfl

@[simp] theorem Tally.warnings_modify (t : Tally) (k : Kind) (f : Counts → Counts) :
    (t.modify k f).warnings = t.warnings := by
  cases k <;> rfl

namespace Session

/-- From `s` to `s'` exactly `n` elements were put together, and the entries of a ledger were posted
to the tally. -/
structure Posts (s : Session) (n : Nat) (log : List LedgerEntry) (s' : Session) : Prop where
  /-- The entries are in order. -/
  sound : ∀ e ∈ log, e.Sound s.options
  /-- The options. -/
  options_eq : s'.options = s.options
  /-- The elements put together. -/
  built_eq : s'.assembler.built = s.assembler.built + n
  /-- The records read. -/
  read_eq : ∀ k, (s'.tally.get k).read = (s.tally.get k).read + log.countP (LedgerEntry.has k Fate.isRead)
  /-- The elements rejected. -/
  errored_eq : ∀ k,
    (s'.tally.get k).errored = (s.tally.get k).errored + log.countP (LedgerEntry.has k Fate.isRejected)
  /-- The elements passed over. -/
  skipped_eq : ∀ k,
    (s'.tally.get k).skipped = (s.tally.get k).skipped + log.countP (LedgerEntry.has k Fate.isPassed)
  /-- The attachments that came. -/
  attachments_eq :
    s'.tally.attachments = s.tally.attachments + (log.flatMap LedgerEntry.arrived).length
  /-- The warnings. -/
  warnings_eq :
    s'.tally.warnings.toList = s.tally.warnings.toList ++ log.flatMap (LedgerEntry.warnings s.options)

/-- Entries were posted, and the session stands at the same kind of the same export. -/
structure PostsHere (s : Session) (n : Nat) (log : List LedgerEntry) (s' : Session) : Prop
    extends s.Posts n log s' where
  /-- The kind. -/
  current_eq : s'.current = s.current
  /-- The generation. -/
  generation_eq : s'.generation = s.generation

variable {s t u : Session} {m n : Nat} {a b : List LedgerEntry}

theorem Posts.trans (h : s.Posts m a t) (h' : t.Posts n b u) : s.Posts (m + n) (a ++ b) u where
  sound := by
    intro e he
    rcases List.mem_append.mp he with he | he
    · exact h.sound e he
    · have hsound := h'.sound e he
      rw [h.options_eq] at hsound
      exact hsound
  options_eq := h'.options_eq.trans h.options_eq
  built_eq := by rw [h'.built_eq, h.built_eq, Nat.add_assoc]
  read_eq := by
    intro k
    rw [h'.read_eq, h.read_eq, List.countP_append, Nat.add_assoc]
  errored_eq := by
    intro k
    rw [h'.errored_eq, h.errored_eq, List.countP_append, Nat.add_assoc]
  skipped_eq := by
    intro k
    rw [h'.skipped_eq, h.skipped_eq, List.countP_append, Nat.add_assoc]
  attachments_eq := by
    rw [h'.attachments_eq, h.attachments_eq, List.flatMap_append, List.length_append,
      Nat.add_assoc]
  warnings_eq := by
    rw [h'.warnings_eq, h.warnings_eq, h.options_eq, List.flatMap_append, List.append_assoc]

theorem PostsHere.trans (h : s.PostsHere m a t) (h' : t.PostsHere n b u) :
    s.PostsHere (m + n) (a ++ b) u :=
  { h.toPosts.trans h'.toPosts with
    current_eq := h'.current_eq.trans h.current_eq
    generation_eq := h'.generation_eq.trans h.generation_eq }

/-- What changes no count and no warning posts nothing. -/
theorem posts_nil (ho : t.options = s.options)
    (hb : t.assembler.built = s.assembler.built + n) (hget : ∀ k, t.tally.get k = s.tally.get k)
    (ha : t.tally.attachments = s.tally.attachments) (hw : t.tally.warnings = s.tally.warnings) :
    s.Posts n [] t where
  sound := by simp
  options_eq := ho
  built_eq := hb
  read_eq := fun k => by simp [hget]
  errored_eq := fun k => by simp [hget]
  skipped_eq := fun k => by simp [hget]
  attachments_eq := by simp [ha]
  warnings_eq := by simp [hw]

theorem PostsHere.refl (s : Session) : s.PostsHere 0 [] s :=
  { posts_nil rfl rfl (fun _ => rfl) rfl rfl with current_eq := rfl, generation_eq := rfl }

/-! ### Entries one by one -/

theorem countP_has_self (k : Kind) (p : Fate → Bool) (v : Json) (fate : Fate) :
    [LedgerEntry.taken (some k) v fate].countP (LedgerEntry.has k p) = (p fate).toNat := by
  cases h : p fate <;> simp [LedgerEntry.has, h]

theorem countP_has_of_ne {k l : Kind} (h : l ≠ k) (p : Fate → Bool) (v : Json) (fate : Fate) :
    [LedgerEntry.taken (some k) v fate].countP (LedgerEntry.has l p) = 0 := by
  have h' : ¬ k = l := fun he => h he.symm
  simp [LedgerEntry.has, h']

/-- An element is posted by counting its fate and warning of it. -/
theorem postsHere_taken {k : Kind} (hk : s.current = some k) {v : Json} {fate : Fate}
    (hsound : (LedgerEntry.taken (some k) v fate).Sound s.options)
    (ho : t.options = s.options)
    (hb : t.assembler.built = s.assembler.built) (hc : t.current = s.current)
    (hg : t.generation = s.generation)
    (hself : t.tally.get k = fate.count (s.tally.get k))
    (hother : ∀ l, l ≠ k → t.tally.get l = s.tally.get l)
    (ha : t.tally.attachments =
      s.tally.attachments + (LedgerEntry.taken (some k) v fate).arrived.length)
    (hw : t.tally.warnings.toList =
      s.tally.warnings.toList ++ (LedgerEntry.taken (some k) v fate).warnings s.options) :
    s.PostsHere 0 [.taken s.current v fate] t where
  sound := by
    intro e he
    rw [List.mem_singleton.mp he, hk]
    exact hsound
  options_eq := ho
  built_eq := hb
  read_eq := by
    intro l
    rw [hk]
    by_cases h : l = k
    · rw [h, hself, countP_has_self]
      rfl
    · rw [hother l h, countP_has_of_ne h, Nat.add_zero]
  errored_eq := by
    intro l
    rw [hk]
    by_cases h : l = k
    · rw [h, hself, countP_has_self]
      rfl
    · rw [hother l h, countP_has_of_ne h, Nat.add_zero]
  skipped_eq := by
    intro l
    rw [hk]
    by_cases h : l = k
    · rw [h, hself, countP_has_self]
      rfl
    · rw [hother l h, countP_has_of_ne h, Nat.add_zero]
  attachments_eq := by
    rw [ha, hk]
    simp
  warnings_eq := by
    rw [hw, hk]
    simp
  current_eq := hc
  generation_eq := hg

theorem postsHere_countRead {k : Kind} (hk : s.current = some k) (v : Json) :
    s.PostsHere 0 [.taken s.current v .read] (s.countRead k) :=
  postsHere_taken hk trivial rfl rfl rfl rfl (Tally.get_modify_self ..)
    (fun _ h => Tally.get_modify_of_ne h ..) (Tally.attachments_modify ..)
    (by simp [countRead, LedgerEntry.warnings])

theorem postsHere_countSkipped {k : Kind} (hk : s.current = some k) (v : Json) :
    s.PostsHere 0 [.taken s.current v .passed] (s.countSkipped k 1) :=
  postsHere_taken hk trivial rfl rfl rfl rfl (Tally.get_modify_self ..)
    (fun _ h => Tally.get_modify_of_ne h ..) (Tally.attachments_modify ..)
    (by simp [countSkipped, LedgerEntry.warnings])

theorem postsHere_reject {k : Kind} (hk : s.current = some k) (v : Json) (f : RecordFault)
    (shown : Json) :
    s.PostsHere 0 [.taken s.current v (.rejected f shown)] (s.reject k f shown) :=
  postsHere_taken hk trivial rfl rfl rfl rfl (Tally.get_modify_self ..)
    (fun _ h => Tally.get_modify_of_ne h ..) (Tally.attachments_modify ..)
    (by simp [reject, note, Tally.warn, LedgerEntry.warnings])

theorem postsHere_ignore {k : Kind} (hk : s.current = some k) {v : Json}
    (hsound : (LedgerEntry.taken (some k) v .ignored).Sound s.options) :
    s.PostsHere 0 [.taken s.current v .ignored] s :=
  postsHere_taken hk hsound rfl rfl rfl rfl rfl (fun _ _ => rfl) rfl (by simp [LedgerEntry.warnings])

end Session

end ExportStream

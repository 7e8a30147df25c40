import ExportStream.Proofs.Stretches
import Mathlib.Algebra.Ring.Nat
/-!
# No attachment is lost without a word

The warning about attachments that are dropped begins with their number (`Staging.droppedIn`), and no
other warning begins with a number. So the warnings of an import tell how many attachments were
dropped.
-/

namespace ExportStream

/-! ### Warnings that tell numbers -/

namespace Staging

/-- The number of attachments that a warning tells to be dropped: the number with which it begins, if
the words behind that say so. -/
def droppedIn (warning : String) : Nat :=
  let cs := warning.toList
  if " attachment stream(s) dropped, ".toList.isPrefixOf (cs.dropWhile Char.isDigit) then
    Nat.ofDigitChars 10 (cs.takeWhile Char.isDigit) 0
  else 0

theorem droppedIn_dropWarning (staged : List Attachment) (reason : String) :
    droppedIn (dropWarning staged reason) = staged.length := by
  have hdigits : ∀ c ∈ Nat.toDigits 10 staged.length, c.isDigit = true := fun c hc =>
    Nat.isDigit_of_mem_toDigits (by decide) (by decide) hc
  have hlist : ∃ rest, (dropWarning staged reason).toList =
      Nat.toDigits 10 staged.length ++ (" attachment stream(s) dropped, ".toList ++ rest) := by
    refine ⟨(reason ++ ": " ++ String.intercalate ", " (staged.map Attachment.tag)).toList, ?_⟩
    unfold dropWarning
    simp only [String.toList_append, List.append_assoc]
    rw [Nat.toString_eq_repr, Nat.toList_repr]
  obtain ⟨rest, hrest⟩ := hlist
  -- the number ends at the blank
  have hblank : " attachment stream(s) dropped, ".toList =
      ' ' :: "attachment stream(s) dropped, ".toList := rfl
  have htake (cs : List Char) : (' ' :: cs).takeWhile Char.isDigit = [] := rfl
  have hdrop (cs : List Char) : (' ' :: cs).dropWhile Char.isDigit = ' ' :: cs := rfl
  unfold droppedIn
  simp only [hrest, List.takeWhile_append_of_pos hdigits, List.dropWhile_append_of_pos hdigits]
  rw [hblank, List.cons_append, htake, hdrop, List.append_nil, Nat.ofDigitChars_ten_toDigits,
    if_pos]
  rw [ List.isPrefixOf_iff_prefix, ← List.cons_append]
  exact List.prefix_append ..

/-- A warning that begins with a letter tells of no number. -/
theorem droppedIn_eq_zero {warning : String} {c : Char} {rest : List Char}
    (h : warning.toList = c :: rest) (hc : c.isDigit = false) : droppedIn warning = 0 := by
  unfold droppedIn
  rw [h]
  simp [hc]

theorem droppedIn_mismatchWarning (a : Attachment) : droppedIn (mismatchWarning a) = 0 := by
  have hlist : ∃ rest, (mismatchWarning a).toList = 'A' :: rest := by
    unfold mismatchWarning
    simp only [String.toList_append]
    exact ⟨_, rfl⟩
  obtain ⟨rest, hrest⟩ := hlist
  exact droppedIn_eq_zero hrest rfl

theorem droppedIn_rejectionWarning (k : Kind) (f : RecordFault) (snapshot : String) :
    droppedIn (Session.rejectionWarning k f snapshot) = 0 := by
  have hlist : ∃ rest, (Session.rejectionWarning k f snapshot).toList = 'C' :: rest := by
    unfold Session.rejectionWarning
    simp only [String.toList_append]
    exact ⟨_, rfl⟩
  obtain ⟨rest, hrest⟩ := hlist
  exact droppedIn_eq_zero hrest rfl

end Staging

/-! ### Ledgers that tell numbers -/

namespace LedgerEntry

/-- The attachments that were lost. -/
def dropped : LedgerEntry → List Attachment
  | .taken .. => []
  | .lost staged _ => staged

theorem sum_warnings (o : Options) (e : LedgerEntry) :
    ((e.warnings o).map Staging.droppedIn).sum = e.dropped.length := by
  cases e with
  | lost staged reason => simp [warnings, dropped, Staging.droppedIn_dropWarning]
  | taken kind v fate =>
    cases fate with
    | rejected f shown =>
      cases kind with
      | none => rfl
      | some k => simp [warnings, dropped, Staging.droppedIn_rejectionWarning]
    | staged arrived =>
      simp [warnings, dropped, Function.comp_def, Staging.droppedIn_mismatchWarning,
        List.map_const']
    | _ => cases kind <;> rfl

theorem sum_flatMap_warnings (o : Options) (log : List LedgerEntry) :
    ((log.flatMap (warnings o)).map Staging.droppedIn).sum = (log.flatMap dropped).length := by
  induction log with
  | nil => rfl
  | cons e log ih =>
    rw [List.flatMap_cons, List.map_append, List.sum_append, List.flatMap_cons,
      List.length_append, sum_warnings, ih]

theorem dropped_batch (staged : List Attachment) (reason : String) :
    (batch staged reason).flatMap dropped = staged := by
  cases staged with
  | nil => rfl
  | cons a staged => simp [batch, dropped]

theorem arrived_batch (staged : List Attachment) (reason : String) :
    (batch staged reason).flatMap arrived = [] := by
  cases staged <;> rfl

end LedgerEntry

/-- The number of attachments that the warnings tell to be dropped. -/
def Session.dropped (s : Session) : Nat :=
  (s.tally.warnings.toList.map Staging.droppedIn).sum

/-- What is posted tells how many attachments were lost. -/
theorem Session.Posts.dropped_eq {s t : Session} {n : Nat} {log : List LedgerEntry}
    (h : s.Posts n log t) : t.dropped = s.dropped + (log.flatMap LedgerEntry.dropped).length := by
  unfold Session.dropped
  rw [h.warnings_eq, List.map_append, List.sum_append, LedgerEntry.sum_flatMap_warnings]

/-! ### What is staged is handed out or lost -/

/-- The number of attachments that are handed out with an element. -/
def Decoded.handed : Decoded → Nat
  | .record r => r.attachmentCount
  | _ => 0

namespace Staging

variable {g g' : Staging} {form k : Kind} {s t : Session} {v : Json} {d : Decoded}

theorem staged_decodeLegacyAttachment (h : g.decodeLegacyAttachment v s = (.ok d, g', t)) :
    g'.staged = g.staged ∧ d.handed = 0 := by
  unfold decodeLegacyAttachment at h
  split at h
  · cases h
    exact ⟨rfl, rfl⟩
  · simp only at h
    split at h
    · cases h
      exact ⟨rfl, rfl⟩
    · split at h
      · cases h
      · split at h
        · cases h
        · cases h
          exact ⟨rfl, rfl⟩

/-- Where no attachments come between elements, nothing is staged and nothing handed out. -/
theorem staged_decode (hform : form.carriesAttachments = false)
    (h : g.decode form k v s = (.ok d, g', t)) : g'.staged = g.staged ∧ d.handed = 0 := by
  have hparsed {α : Type} (record : α → Record) (hcount : ∀ a, (record a).attachmentCount = 0)
      (x : Except RecordFault α) : (Decoded.ofParsed v record x).handed = 0 := by
    cases x with
    | ok a => exact hcount a
    | error f => rfl
  have hdeletion (idOf : String → String) (policy : DeletionPolicy) :
      (decodeDeletion idOf policy v).handed = 0 := by
    unfold decodeDeletion
    cases deletedKey? v with
    | some key => rfl
    | none => cases policy <;> rfl
  unfold decode at h
  cases form with
  | documents => cases hform
  | revisionDocuments => cases hform
  | legacyAttachments => exact staged_decodeLegacyAttachment h
  | legacyDocumentDeletions =>
    cases h
    exact ⟨rfl, hdeletion ..⟩
  | legacyAttachmentDeletions =>
    cases h
    exact ⟨rfl, hdeletion ..⟩
  | _ =>
    cases h
    exact ⟨rfl, hparsed _ (fun _ => rfl) _⟩

/-- **An element accounts for its attachments**: what was staged, and what came, is handed out, lost
or staged still. -/
theorem decode_accounts (h : g.decode form k v s = (.ok d, g', t)) :
    g.staged.length + ((d.entries s.current v g g').flatMap LedgerEntry.arrived).length =
      d.handed + ((d.entries s.current v g g').flatMap LedgerEntry.dropped).length +
        g'.staged.length := by
  cases hform : form.carriesAttachments with
  | false =>
    obtain ⟨hstaged, hhanded⟩ := staged_decode hform h
    rw [hhanded, hstaged]
    cases d with
    | deferred => simp [Decoded.entries, hstaged, LedgerEntry.arrived, LedgerEntry.dropped]
    | rejected f shown =>
      simp only [Decoded.entries, hstaged, batch_of_unchanged]
      simp [LedgerEntry.arrived, LedgerEntry.dropped]
    | _ => simp [Decoded.entries, LedgerEntry.arrived, LedgerEntry.dropped]
  | true =>
    rw [decode_of_carriesAttachments hform] at h
    obtain ⟨m, hentries, hstaged, hno⟩ | ⟨-, hstaged, ⟨p, -, rfl⟩ | ⟨f, -, rfl⟩⟩ :=
      decodeDocument_cases h
    · have hnothing : d.handed = 0 := by
        cases d with
        | record r => exact absurd rfl (hno r)
        | _ => rfl
      rw [hnothing, hentries, hstaged]
      cases m <;> simp [Marker.entry, Marker.brought, LedgerEntry.arrived, LedgerEntry.dropped]
    · simp [Decoded.entries, Decoded.handed, Record.attachmentCount, LedgerEntry.arrived,
        LedgerEntry.dropped, hstaged]
    · simp [Decoded.entries, Decoded.handed, hstaged, LedgerEntry.arrived_batch,
        LedgerEntry.dropped_batch, LedgerEntry.arrived, LedgerEntry.dropped]

end Staging

namespace Reader

variable {g g' : Staging} {form k : Kind} {s t : Session} {x : Option Record}

/-- The number of attachments that come with an answer. -/
def handed (x : Option Record) : Nat := x.elim 0 Record.attachmentCount

/-- What a reader takes off accounts for its attachments. -/
theorem pull_accounts (hsame : form.sameForm k = true) (hk : s.current = some k)
    (h : pull g form k s = (.ok x, g', t)) :
    g.staged.length + ((ledgerOfPull g form k s).flatMap LedgerEntry.arrived).length =
      handed x + ((ledgerOfPull g form k s).flatMap LedgerEntry.dropped).length +
        g'.staged.length := by
  induction g, s using element_induction form k with
  | step g s ih =>
    rcases hs : s.nextElement with ⟨f | _ | v, s₁⟩
    · rw [pull_eq, hs] at h
      cases h
    · have hempty := Staging.isEmpty_drop g k "they had no host document" s₁
      rw [pull_eq, hs] at h
      rw [ledgerOfPull_eq, hs]
      simp only [Staging.finish] at h ⊢
      cases hform : form.carriesAttachments with
      | false =>
        simp only [hform, Bool.false_eq_true, if_false] at h ⊢
        cases h
        exact (Nat.zero_add _).symm
      | true =>
        simp only [hform, if_true] at h ⊢
        rcases hdrop : g.drop k "they had no host document" s₁ with ⟨g₁, s₂⟩
        rw [hdrop] at h hempty
        cases h
        rw [LedgerEntry.arrived_batch, LedgerEntry.dropped_batch, List.isEmpty_iff.mp hempty]
        exact (Nat.zero_add _).symm
    · rcases hd : g.decode form k v s₁ with ⟨f | d, g₂, s₂⟩
      · rw [pull_eq, hs] at h
        simp only [hd] at h
        cases h
      · have haccounts := Staging.decode_accounts hd
        have hk' := (postsHere_round hk hsame hs hd).current_eq.trans hk
        have hrest := ih v s₁ d g₂ s₂ hs hd hk'
        rw [pull_of_decode hs hd] at h
        rw [ledgerOfPull_of_decode hs hd]
        cases d with
        | record r =>
          cases h
          rw [List.append_nil]
          exact haccounts
        | _ =>
          have hrest := hrest h
          simp only [List.flatMap_append, List.length_append]
          simp only [Decoded.handed] at haccounts
          omega

/-- A reader that began with nothing staged ends with nothing staged. -/
theorem staged_pull (hsame : form.sameForm k = true) (hk : s.current = some k)
    (hg : g.staged = []) (h : pull g form k s = (.ok x, g', t)) : g'.staged = [] := by
  cases hform : form.carriesAttachments with
  | true =>
    obtain ⟨-, -, -, -, hempty⟩ := pull_stretches hform hsame hk [] hg h
    exact hempty
  | false =>
    induction g, s using element_induction form k with
    | step g s ih =>
      rcases hs : s.nextElement with ⟨f | _ | v, s₁⟩
      · rw [pull_eq, hs] at h
        cases h
      · rw [pull_eq, hs] at h
        simp only [Staging.finish, hform, Bool.false_eq_true, if_false] at h
        cases h
        exact hg
      · rcases hd : g.decode form k v s₁ with ⟨f | d, g₂, s₂⟩
        · rw [pull_eq, hs] at h
          simp only [hd] at h
          cases h
        · have hk' := (postsHere_round hk hsame hs hd).current_eq.trans hk
          have hg₂ := (Staging.staged_decode hform hd).1.trans hg
          rw [pull_of_decode hs hd] at h
          cases d with
          | record r =>
            cases h
            exact hg₂
          | _ => exact ih v s₁ _ g₂ s₂ hs hd hk' hg₂ h

/-- **A poll accounts for attachments**: those that came were handed out with the record, or the
warnings tell that they were dropped. -/
theorem poll_accounts {r r' : Reader} (ha : r.Attends k s) (hg : r.staging.staged = [])
    (h : r.poll s = (x.map .ok, r', t)) :
    t.tally.attachments + s.dropped = s.tally.attachments + handed x + t.dropped ∧
      r'.staging.staged = [] := by
  obtain ⟨hposts, -⟩ := postsHere_poll (ha.kind_eq.trans ha.current_eq.symm) h
  rw [hposts.attachments_eq, hposts.toPosts.dropped_eq]
  cases hdone : r.done with
  | true =>
    unfold poll at h
    rw [if_pos hdone] at h
    cases x with
    | some x => cases h
    | none =>
      cases h
      rw [ledger_of_done hdone]
      exact ⟨rfl, hg⟩
  | false =>
    rw [ha.poll_eq hdone] at h
    rcases hp : pull r.staging r.form k s with ⟨f | y, g, u⟩
    · rw [hp] at h
      cases x <;> cases h
    have haccounts := pull_accounts ha.form ha.current_eq hp
    have hempty := staged_pull ha.form ha.current_eq hg hp
    rw [hg, hempty, List.length_nil] at haccounts
    rw [hp] at h
    rw [ha.ledger_eq hdone]
    cases y <;> cases x <;> cases h
    all_goals exact ⟨by omega, hempty⟩

end Reader

/-! ### Whole imports -/

theorem Session.nothing_of_ledgerOfDrop (s : Session) :
    s.ledgerOfDrop.flatMap LedgerEntry.arrived = [] ∧
      s.ledgerOfDrop.flatMap LedgerEntry.dropped = [] := by
  fun_induction Session.ledgerOfDrop s with
  | case4 s v s₁ hs s₂ hd ih => exact ih
  | _ => exact ⟨rfl, rfl⟩

namespace Import

/-- From `i` to `j` the attachments that were counted are those that the handler heard of and those
that the warnings tell to be dropped. -/
def Accounts (i j : Import Census) : Prop :=
  j.session.tally.attachments + i.state.attachments + i.session.dropped =
    i.session.tally.attachments + j.state.attachments + j.session.dropped

theorem Accounts.trans {i j l : Import Census} (h : i.Accounts j) (h' : j.Accounts l) :
    i.Accounts l := by
  unfold Accounts at *
  omega

/-- On the way to the next kind no attachment is counted, and none is dropped. -/
theorem accounts_nextKind {i : Import Census} {x : Option Kind} {s : Session}
    (h : i.session.nextKind = (.ok x, s)) : i.Accounts { i with session := s } := by
  have hposts := Session.posts_nextKind h
  have hnothing : i.session.ledgerOfFinish.flatMap LedgerEntry.arrived = [] ∧
      i.session.ledgerOfFinish.flatMap LedgerEntry.dropped = [] := by
    unfold Session.ledgerOfFinish
    split_ifs
    · exact ⟨rfl, rfl⟩
    · exact i.session.nothing_of_ledgerOfDrop
  have hcounted := hposts.attachments_eq
  have hdropped := hposts.dropped_eq
  rw [hnothing.1] at hcounted
  rw [hnothing.2] at hdropped
  unfold Accounts
  simp only [hcounted, hdropped]
  rfl

theorem accounts_deliver {i j : Import Census} {k : Kind} {r : Reader}
    (ha : r.Attends k i.session) (hg : r.staging.staged = [])
    (h : i.deliver Census.handler k r = (.ok (), j)) : i.Accounts j := by
  fun_induction deliver i Census.handler k r with
  | case1 i r r₁ s hp =>
    cases h
    obtain ⟨haccounts, -⟩ := Reader.poll_accounts (x := none) ha hg hp
    unfold Accounts
    simp only
    simp only [Reader.handed, Option.elim_none] at haccounts
    omega
  | case2 => cases h
  | case3 => cases h
  | case4 i r x r₁ s hp state hh ih =>
    obtain ⟨haccounts, hg₁⟩ := Reader.poll_accounts (x := some x) ha hg hp
    have hrest := ih (ha.poll (x := some x) hp) hg₁ h
    cases hh
    unfold Accounts at *
    simp only [Reader.handed, Option.elim_some, Census.add] at haccounts hrest ⊢
    omega

/-- A census wants every kind. -/
theorem accounts_takeKind {i j : Import Census} {k : Kind} (hk : i.session.current = some k)
    (h : i.takeKind Census.handler k = (.ok (), j)) : i.Accounts j :=
  accounts_deliver (Reader.attends_start hk i.sinks) rfl h

theorem accounts_takeKinds {i j : Import Census} (h : i.takeKinds Census.handler = (.ok (), j)) :
    i.Accounts j := by
  fun_induction takeKinds i Census.handler with
  | case1 => cases h
  | case2 i s hn =>
    cases h
    exact accounts_nextKind hn
  | case3 => cases h
  | case4 i k s hn i' ht ih =>
    exact ((accounts_nextKind hn).trans
      (accounts_takeKind (Session.current_of_nextKind hn) ht)).trans (ih h)

/-- **An import accounts for all attachments**, whatever was done with the session before. -/
theorem accounts_drive {i j : Import Census} (h : i.drive Census.handler = (.ok (), j)) :
    i.Accounts j := by
  have hheader : i.tell Census.handler (.header i.session.build i.session.generation) =
      (.ok (), i) := rfl
  unfold drive at h
  rw [hheader] at h
  rcases hk : i.takeKinds Census.handler with ⟨f | _, i₁⟩
  · simp only [hk] at h
    cases h
  · simp only [hk] at h
    cases h
    have haccounts := accounts_takeKinds hk
    exact haccounts

end Import

/-! ### What stretches tell -/

/-- The element that was taken. -/
def LedgerEntry.element? : LedgerEntry → Option Json
  | .taken _ v _ => some v
  | .lost .. => none

/-- The warning about attachments that are dropped, if there are some. -/
def Staging.dropWarnings (staged : List Attachment) (reason : String) : List String :=
  if staged.isEmpty then [] else [dropWarning staged reason]

/-- The warnings that a marker gives rise to. -/
def Marker.warnings (o : Options) (k : Kind) : Marker → List String
  | .named a _ =>
    if o.verifyAttachmentHashes && !a.isVerified then [Staging.mismatchWarning a] else []
  | .nameless v _ _ =>
    [Session.rejectionWarning k (.marker "marker has no Hash or Tag")
      (v.snapshot o.maxWarningSnapshot)]

namespace Stretch

/-- The warnings that a stretch gives rise to. If its host is rejected, or there is none, one of them
lists the attachments that came, and no other warning lists any. -/
def warnings (s : Session) (k : Kind) (a : Stretch) : List String :=
  a.markers.flatMap (Marker.warnings s.options k) ++
    match a.host with
    | none => Staging.dropWarnings a.arrived "they had no host document"
    | some v =>
      match s.documentOf v with
      | .ok _ => []
      | .error f =>
        Staging.dropWarnings a.arrived "their host document was rejected" ++
          [Session.rejectionWarning k f (Json.snapshot v s.options.maxWarningSnapshot)]

variable {s : Session} {k : Kind}

theorem arrived_entries (s : Session) (a : Stretch) :
    (a.entries s).flatMap LedgerEntry.arrived = a.arrived := by
  have hmarkers (markers : List Marker) :
      (markers.map (Marker.entry s)).flatMap LedgerEntry.arrived =
        markers.filterMap Marker.brought := by
    induction markers with
    | nil => rfl
    | cons m markers ih =>
      rw [List.map_cons, List.flatMap_cons, ih]
      cases m <;> rfl
  have hending : (a.ending s).flatMap LedgerEntry.arrived = [] := by
    unfold ending
    split
    · exact LedgerEntry.arrived_batch ..
    · split
      · rfl
      · rw [List.flatMap_append, LedgerEntry.arrived_batch]
        rfl
  unfold entries
  rw [List.flatMap_append, hmarkers, hending, List.append_nil]
  rfl

theorem elements_entries (s : Session) (a : Stretch) :
    (a.entries s).filterMap LedgerEntry.element? = a.elements := by
  have hmarkers (markers : List Marker) :
      (markers.map (Marker.entry s)).filterMap LedgerEntry.element? =
        markers.map Marker.element := by
    induction markers with
    | nil => rfl
    | cons m markers ih => cases m <;> simp [Marker.entry, LedgerEntry.element?, Marker.element, ih]
  have hbatch (staged : List Attachment) (reason : String) :
      (LedgerEntry.batch staged reason).filterMap LedgerEntry.element? = [] := by
    cases staged <;> rfl
  have hending : (a.ending s).filterMap LedgerEntry.element? = a.host.toList.map Subtype.val := by
    unfold ending
    split
    · next hnone =>
      rw [hbatch, hnone]
      rfl
    · next v hsome =>
      rw [hsome]
      split
      · rfl
      · rw [List.filterMap_append, hbatch]
        rfl
  unfold entries elements
  rw [List.filterMap_append, hmarkers, hending]

theorem warnings_entry (hk : s.current = some k) (m : Marker) :
    (m.entry s).warnings s.options = m.warnings s.options k := by
  cases m with
  | named a h =>
    simp only [Marker.entry, Marker.warnings, LedgerEntry.warnings, hk, List.filter_cons,
      List.filter_nil]
    split_ifs <;> rfl
  | nameless v hv h =>
    simp only [Marker.entry, hk]
    rfl

theorem warnings_entries (hk : s.current = some k) (a : Stretch) :
    (a.entries s).flatMap (LedgerEntry.warnings s.options) = a.warnings s k := by
  have hbatch (staged : List Attachment) (reason : String) :
      (LedgerEntry.batch staged reason).flatMap (LedgerEntry.warnings s.options) =
        Staging.dropWarnings staged reason := by
    cases staged <;> rfl
  have hmarkers : (a.markers.map (Marker.entry s)).flatMap (LedgerEntry.warnings s.options) =
      a.markers.flatMap (Marker.warnings s.options k) := by
    rw [List.flatMap_map]
    simp only [warnings_entry hk]
  unfold entries warnings ending
  rw [List.flatMap_append, hmarkers]
  cases a.host with
  | none => rw [← hbatch]
  | some v =>
    simp only
    cases s.documentOf v with
    | ok p => simp only [hk]; rfl
    | error f =>
      simp only [List.flatMap_append, hbatch, hk]
      rfl

end Stretch

/-! ### No attachment is lost without a word -/

/-- **Attachments are never lost without a word, doubled or given to another host.** In an array of
documents that readers take to its end, the elements fall into stretches, all but the last of which
have a host, and the records, the count of attachments and the warnings are what the stretches tell.
After a whole import the attachments that were counted are those that a census heard of and those that
the warnings tell to be dropped. -/
theorem attachments_accounted_for :
    (∀ {d e : Desk} {k : Kind} {os : List Operation}, d.session.current = some k →
      k.carriesAttachments = true → d.session.array ≠ .closed → d.reader = none →
      (∀ o ∈ os, o.isReading = true) → d.run os = some e → e.session.array = .closed →
      ∃ (l : List Stretch) (last : Stretch),
        (∀ a ∈ l, a.host.isSome = true) ∧ last.host = none ∧
        (d.ledger os).filterMap LedgerEntry.element? = (l ++ [last]).flatMap Stretch.elements ∧
        d.handed os = (l ++ [last]).filterMap (Stretch.record? d.session) ∧
        e.session.tally.attachments =
          d.session.tally.attachments + ((l ++ [last]).flatMap Stretch.arrived).length ∧
        e.session.tally.warnings.toList =
          d.session.tally.warnings.toList ++ (l ++ [last]).flatMap (Stretch.warnings d.session k)) ∧
      (∀ {i j : Import Census}, i.drive Census.handler = (.ok (), j) → i.Accounts j) ∧
      ∀ {supply : Supply} {options : Options} {sinks : Sinks} {i : Import Census},
        Import.run supply options {} sinks Census.handler {} = (.ok (), i) →
        i.session.tally.attachments = i.state.attachments + i.session.dropped := by
  refine ⟨?_, Import.accounts_drive, ?_⟩
  · intro d e k os hk hc hopen hreader hos hrun hclosed
    have hresting : d.Resting k := by
      refine ⟨hk, ?_, ?_, ?_⟩
      all_goals
        intro r hr
        rw [hreader] at hr
        cases hr
    have hfits : d.Fits := by
      intro r hr
      rw [hreader] at hr
      cases hr
    obtain ⟨hposts, -⟩ := Desk.posts_run hfits hrun
    obtain ⟨all, hledger, hhanded, hrow⟩ := Desk.stretches_run hc hresting hos hrun
    have hbefore : d.session.isBeforeEnd = true := by simp [Session.isBeforeEnd, hopen]
    have hafter : e.session.isBeforeEnd = false := by simp [Session.isBeforeEnd, hclosed]
    rw [hbefore, hafter] at hrow
    obtain - | - | @⟨l, last, hhosts, hlast⟩ := hrow
    refine ⟨l, last, hhosts, hlast, ?_, hhanded, ?_, ?_⟩
    · rw [hledger, List.filterMap_flatMap]
      simp only [Stretch.elements_entries]
    · rw [hposts.attachments_eq, hledger, List.flatMap_assoc]
      simp only [Stretch.arrived_entries]
    · rw [hposts.warnings_eq, hledger, List.flatMap_assoc]
      simp only [Stretch.warnings_entries hk]
  · intro supply options sinks i hrun
    unfold Import.run at hrun
    rcases hopened : (Session.start supply options {}).begin with ⟨f | _, s⟩
    · rw [hopened] at hrun
      cases hrun
    · rw [hopened] at hrun
      have hbegin := Session.posts_begin hopened
      have hcounted : s.tally.attachments = 0 := hbegin.attachments_eq
      have hdropped : s.dropped = 0 := hbegin.dropped_eq
      have haccounts := Import.accounts_drive hrun
      unfold Import.Accounts at haccounts
      simp only [hcounted, hdropped, Nat.add_zero, Nat.zero_add] at haccounts
      exact haccounts

/-- The documents `[A,B,{},A,{"@metadata":{"@id":"a"}},A]`, where `A` is a marker with a payload of one
byte and `B` is one without hash and tag, read by two readers that compare no hashes: one attachment
is dropped with the host that is rejected, one comes with the document, and one is dropped at the
end. -/
theorem attachments_accounted_for_three :
    let head : List UInt8 :=
      [123, 34, 64, 109, 101, 116, 97, 100, 97, 116, 97, 34, 58, 123, 34, 64, 101, 120, 112, 111,
        114, 116, 45, 116, 121, 112, 101, 34, 58, 34, 65, 116, 116, 97, 99, 104, 109, 101, 110, 116,
        34, 125, 44, 34, 83, 105, 122, 101, 34, 58, 49]
    let named : List UInt8 := head ++
      [44, 34, 72, 97, 115, 104, 34, 58, 34, 104, 34, 44, 34, 84, 97, 103, 34, 58, 34, 116, 34, 125,
        88]
    let supply : Supply := { rest :=
      [123, 34, 68, 111, 99, 115, 34, 58, 91] ++ named ++ [44] ++ head ++
      [125, 88, 44, 123, 125, 44] ++ named ++
      [44, 123, 34, 64, 109, 101, 116, 97, 100, 97, 116, 97, 34, 58, 123, 34, 64, 105, 100, 34, 58,
        34, 97, 34, 125, 125, 44] ++
      named ++ [93, 125] }
    let o : Options := { verifyAttachmentHashes := false }
    let d : Desk := { session := (Session.start supply o {}).begin.2.nextKind.2 }
    let os : List Operation :=
      [.read .documents .memory, .poll, .read .revisionDocuments .memory, .poll]
    let i := (Import.run supply o {} .memory Census.handler {}).2
    ∃ (e : Desk) (l : List Stretch) (last : Stretch), d.run os = some e ∧
      (∀ a ∈ l, a.host.isSome = true) ∧ last.host = none ∧
      d.handed os = (l ++ [last]).filterMap (Stretch.record? d.session) ∧
      (d.handed os).map Record.attachmentCount = [1] ∧
      ((l ++ [last]).flatMap Stretch.arrived).length = 3 ∧
      i.session.tally.attachments = 3 ∧ i.state.attachments = 1 ∧ i.session.dropped = 2 := by
  intro head named supply o d os i
  obtain ⟨hstretches, -, himport⟩ := attachments_accounted_for
  have hdone : (d.run os).map (fun e => (e.session.array, e.session.tally.attachments)) =
      some (.closed, 3) := by decide +kernel
  obtain ⟨e, hrun, he⟩ := Option.map_eq_some_iff.mp hdone
  simp only [Prod.mk.injEq] at he
  have hreading : ∀ o ∈ os, o.isReading = true := by simp [os, Operation.isReading]
  have hstart : d.session.current = some .documents ∧ d.session.array ≠ .closed ∧
      d.session.tally.attachments = 0 := by decide +kernel
  obtain ⟨l, last, hhosts, hlast, -, hhanded, hcounted, -⟩ :=
    hstretches hstart.1 rfl hstart.2.1 rfl hreading hrun he.1
  rw [he.2, hstart.2.2, Nat.zero_add] at hcounted
  have hcensus : (Import.run supply o {} .memory Census.handler {}).1.isOk = true ∧
      i.session.tally.attachments = 3 ∧ i.state.attachments = 1 := by decide +kernel
  have hwhole : i.session.tally.attachments = i.state.attachments + i.session.dropped := by
    rcases hr : Import.run supply o {} .memory Census.handler {} with ⟨f | _, j⟩
    · rw [hr] at hcensus
      cases hcensus.1
    · have hj := himport hr
      simp only [i, hr]
      exact hj
  refine ⟨e, l, last, hrun, hhosts, hlast, hhanded, by decide +kernel, hcounted.symm,
    hcensus.2.1, hcensus.2.2, ?_⟩
  omega

end ExportStream

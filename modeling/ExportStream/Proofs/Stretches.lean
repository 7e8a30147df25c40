import ExportStream.Proofs.Conservation
import ExportStream.Proofs.Walks
/-!
# Attachments and their hosts

In an array of documents the markers of attachments stand before the element that they belong to.
Such an array falls into stretches (`Stretch`): some markers, and behind them the first element that
is no marker, or the end of the array. A stretch says by itself what becomes of its attachments: they
go to the record that its host is read as (`Stretch.record?`), or they are lost together, with one
warning, if the host is rejected or there is none (`Stretch.entries`).

What a reader takes off an array is a row of stretches (`Reader.pull_stretches`). The induction is on
the elements and carries the markers of the stretch that is not yet at its end: what is staged is
what they brought. No reader is left with anything staged, so that the stretches of several readers
of one array follow each other (`Desk.stretches_run`).
-/

namespace ExportStream

/-! ### Stretches -/

/-- The attachment is one that its marker announces. -/
structure Attachment.Announced (a : Attachment) : Prop where
  /-- The marker is one. -/
  isMarker : a.marker.isMarker = true
  /-- The size. -/
  size_eq : a.marker.markerSize? = some a.size
  /-- The hash. -/
  hash_eq : a.marker.fieldText? "Hash" = some a.hash
  /-- The tag. -/
  tag_eq : a.marker.fieldText? "Tag" = some a.tag

/-- A marker in an array of documents. -/
inductive Marker where
  /-- It names an attachment, which comes. -/
  | named (a : Attachment) (h : a.Announced)
  /-- It has no hash or no tag. -/
  | nameless (v : Json) (hv : v.isMarker = true)
    (h : v.fieldText? "Hash" = none ∨ v.fieldText? "Tag" = none)

namespace Marker

/-- The marker as an element. -/
def element : Marker → Json
  | .named a _ => a.marker
  | .nameless v _ _ => v

/-- The attachment that comes with it. -/
def brought : Marker → Option Attachment
  | .named a _ => some a
  | .nameless .. => none

/-- The entry on a marker: its attachment came, or it is rejected. -/
def entry (s : Session) : Marker → LedgerEntry
  | .named a _ => .taken s.current a.marker (.staged [a])
  | .nameless v _ _ => .taken s.current v (.rejected (.marker "marker has no Hash or Tag") v)

end Marker

/-- Markers of an array of documents, and the first element behind them that is none; there is no
such element at the end of the array. -/
structure Stretch where
  /-- The markers. -/
  markers : List Marker
  /-- The element behind them. -/
  host : Option { v : Json // v.isMarker = false }

/-- What an element tells about a document, in the export that the session reads. -/
def Session.documentOf (s : Session) (v : Json) : Except RecordFault Document.Parsed :=
  Document.parse s.generation.isLegacy s.options.readLegacyEtag v

namespace Stretch

/-- The attachments that came. -/
def arrived (a : Stretch) : List Attachment := a.markers.filterMap Marker.brought

/-- The elements. -/
def elements (a : Stretch) : List Json :=
  a.markers.map Marker.element ++ a.host.toList.map Subtype.val

/-- The record that is handed out for the host, with all attachments that came and no other. -/
def record? (s : Session) (a : Stretch) : Option Record :=
  a.host.bind fun v =>
    match s.documentOf v with
    | .ok p => some (.document { p.document with attachments := a.arrived })
    | .error _ => none

/-- The entries on what ends a stretch. The attachments are lost, in one batch, unless the host is
read. -/
def ending (s : Session) (a : Stretch) : List LedgerEntry :=
  match a.host with
  | none => LedgerEntry.batch a.arrived "they had no host document"
  | some v =>
    match s.documentOf v with
    | .ok _ => [.taken s.current v .read]
    | .error f =>
      LedgerEntry.batch a.arrived "their host document was rejected" ++
        [.taken s.current v (.rejected f v)]

/-- The entries on a stretch. -/
def entries (s : Session) (a : Stretch) : List LedgerEntry :=
  a.markers.map (Marker.entry s) ++ a.ending s

end Stretch

/-- Sessions that stand at one kind of one export read the same stretches alike. -/
structure Session.SamePlace (s t : Session) : Prop where
  /-- The kind. -/
  current_eq : t.current = s.current
  /-- The generation. -/
  generation_eq : t.generation = s.generation
  /-- The options. -/
  options_eq : t.options = s.options

namespace Session.SamePlace

variable {s t : Session}

theorem of_postsHere {n : Nat} {log : List LedgerEntry} (h : s.PostsHere n log t) :
    s.SamePlace t := ⟨h.current_eq, h.generation_eq, h.options_eq⟩

theorem documentOf_eq (h : s.SamePlace t) : t.documentOf = s.documentOf := by
  unfold documentOf
  rw [h.generation_eq, h.options_eq]

theorem entry_eq (h : s.SamePlace t) : Marker.entry t = Marker.entry s := by
  funext m
  unfold Marker.entry
  rw [h.current_eq]

theorem record?_eq (h : s.SamePlace t) : Stretch.record? t = Stretch.record? s := by
  funext a
  unfold Stretch.record?
  rw [h.documentOf_eq]

theorem entries_eq (h : s.SamePlace t) : Stretch.entries t = Stretch.entries s := by
  funext a
  unfold Stretch.entries Stretch.ending
  rw [h.entry_eq, h.documentOf_eq, h.current_eq]

end Session.SamePlace

/-! ### One element -/

namespace Staging

variable {g g' : Staging} {k : Kind} {s t : Session} {v : Json} {d : Decoded}

theorem decode_of_carriesAttachments {form : Kind} (hform : form.carriesAttachments = true) :
    g.decode form k v s = g.decodeDocument k v s := by
  cases form with
  | documents => rfl
  | revisionDocuments => rfl
  | _ => cases hform

/-- **What becomes of an element among documents**: a marker stages its attachment or is rejected; a
document takes all that is staged; and a rejected document leaves nothing staged. -/
theorem decodeDocument_cases (h : g.decodeDocument k v s = (.ok d, g', t)) :
    (∃ m : Marker, d.entries s.current v g g' = [m.entry s] ∧
        g'.staged = g.staged ++ m.brought.toList ∧ ∀ r, d ≠ .record r) ∨
      v.isMarker = false ∧ g'.staged = [] ∧
        ((∃ p, s.documentOf v = .ok p ∧
            d = .record (.document { p.document with attachments := g.staged })) ∨
          ∃ f, s.documentOf v = .error f ∧ d = .rejected f v) := by
  unfold decodeDocument at h
  split at h
  · next hv =>
    left
    unfold stage at h
    rcases hsize : s.payloadSize v with f | size
    · rw [hsize] at h
      cases h
    have hannounced : v.markerSize? = some size := by
      unfold Session.payloadSize at hsize
      split at hsize
      · next n hn =>
        cases hsize
        exact hn
      · cases hsize
    rw [hsize] at h
    simp only at h
    split at h
    · next hash tag hhash htag =>
      unfold stageNamed at h
      split at h
      · cases h
      · split at h
        · cases h
        · next sink' u hcopy =>
          cases h
          exact ⟨.named _ ⟨hv, hannounced, hhash, htag⟩, by simp [Decoded.entries, Marker.entry],
            rfl, fun r hr => by cases hr⟩
    · next hnone =>
      split at h
      · cases h
      · cases h
        have hnameless : v.fieldText? "Hash" = none ∨ v.fieldText? "Tag" = none := by
          rcases hhash : v.fieldText? "Hash" with _ | hash
          · exact .inl rfl
          · rcases htag : v.fieldText? "Tag" with _ | tag
            · exact .inr rfl
            · exact absurd htag (hnone hash tag hhash)
        refine ⟨.nameless v hv hnameless, ?_, (List.append_nil _).symm, fun r hr => by cases hr⟩
        simp only [Decoded.entries, batch_of_unchanged]
        rfl
  · next hv =>
    refine .inr ⟨Bool.eq_false_iff.mpr hv, ?_⟩
    split at h
    · next p hp =>
      cases h
      exact ⟨rfl, .inl ⟨p, hp, rfl⟩⟩
    · next f hp =>
      have hempty := isEmpty_drop g k "their host document was rejected" s
      rcases hg : g.drop k "their host document was rejected" s with ⟨g₁, s₁⟩
      rw [hg] at h hempty
      cases h
      exact ⟨List.isEmpty_iff.mp hempty, .inr ⟨f, hp, rfl⟩⟩

end Staging

/-! ### What a reader takes off -/

namespace Reader

variable {g g' : Staging} {form k : Kind} {s t : Session}

/-- Behind an element that is no record a reader goes on. -/
theorem pull_of_other {s₁ s₂ : Session} {v : Json} {d : Decoded}
    (hn : s.nextElement = (.ok (some v), s₁)) (hd : g.decode form k v s₁ = (.ok d, g', s₂))
    (hno : ∀ r, d ≠ .record r) :
    pull g form k s = pull g' form k (d.settle k s₂) ∧
      ledgerOfPull g form k s =
        d.entries s₁.current v g g' ++ ledgerOfPull g' form k (d.settle k s₂) := by
  rw [pull_of_decode hn hd, ledgerOfPull_of_decode hn hd]
  cases d with
  | record r => exact absurd rfl (hno r)
  | _ => exact ⟨rfl, rfl⟩

/-- Stretches that a reader took off before it answered: all but the last have hosts, which were
rejected, and the last one is the answer. -/
structure Answered (s : Session) (l : List Stretch) (a : Stretch) (x : Option Record) : Prop where
  /-- There is an element behind the markers. -/
  hosts : ∀ b ∈ l, b.host.isSome = true
  /-- It is no document. -/
  rejected : ∀ b ∈ l, b.record? s = none
  /-- The answer. -/
  record?_eq : a.record? s = x
  /-- The reader answers nothing only at the end of the array. -/
  isSome_eq : a.host.isSome = x.isSome

theorem Answered.of_samePlace {l : List Stretch} {a : Stretch} {x : Option Record}
    (h : Answered t l a x) (hst : s.SamePlace t) : Answered s l a x where
  hosts := h.hosts
  rejected b hb := by
    rw [← hst.record?_eq]
    exact h.rejected b hb
  record?_eq := by
    rw [← hst.record?_eq]
    exact h.record?_eq
  isSome_eq := h.isSome_eq

theorem Answered.filterMap_eq {l : List Stretch} {a : Stretch} {x : Option Record}
    (h : Answered s l a x) : (l ++ [a]).filterMap (Stretch.record? s) = x.toList := by
  have hnone : l.filterMap (Stretch.record? s) = [] := List.filterMap_eq_nil_iff.mpr h.rejected
  rw [List.filterMap_append, hnone, List.nil_append, ← h.record?_eq]
  cases hx : a.record? s <;> simp [hx]

/-- **What a reader takes off an array of documents is a row of stretches**, the first of which began
with the markers that it took off before; and nothing stays staged. -/
theorem pull_stretches (hform : form.carriesAttachments = true) (hsame : form.sameForm k = true)
    (hk : s.current = some k) (markers : List Marker)
    (hg : g.staged = markers.filterMap Marker.brought) {x : Option Record}
    (h : pull g form k s = (.ok x, g', t)) :
    ∃ l a, markers.map (Marker.entry s) ++ ledgerOfPull g form k s =
        (l ++ [a]).flatMap (Stretch.entries s) ∧ Answered s l a x ∧ g'.staged = [] := by
  induction g, s using element_induction form k generalizing markers with
  | step g s ih =>
    rcases hs : s.nextElement with ⟨f | _ | v, s₁⟩
    · rw [pull_eq, hs] at h
      cases h
    · -- the array ends
      have hempty := Staging.isEmpty_drop g k "they had no host document" s₁
      rw [pull_eq, hs] at h
      simp only [Staging.finish, hform, if_true] at h
      rcases hdrop : g.drop k "they had no host document" s₁ with ⟨g₁, s₂⟩
      rw [hdrop] at h hempty
      cases h
      rw [ledgerOfPull_eq, hs]
      simp only [hform, if_true]
      refine ⟨[], ⟨markers, none⟩, ?_, ⟨by simp, by simp, rfl, rfl⟩, List.isEmpty_iff.mp hempty⟩
      rw [hg]
      simp [Stretch.entries, Stretch.ending, Stretch.arrived]
    · rcases hd : g.decode form k v s₁ with ⟨f | d, g₂, s₂⟩
      · rw [pull_eq, hs] at h
        simp only [hd] at h
        cases h
      · have htaken := Session.SamePlace.of_postsHere (Session.postsHere_nextElement hs)
        have hround := Session.SamePlace.of_postsHere (postsHere_round hk hsame hs hd)
        have hdoc : g.decodeDocument k v s₁ = (.ok d, g₂, s₂) :=
          Staging.decode_of_carriesAttachments hform ▸ hd
        have hk' := hround.current_eq.trans hk
        obtain ⟨m, hentries, hstaged, hno⟩ | ⟨hv, hstaged, ⟨p, hp, rfl⟩ | ⟨f, hp, rfl⟩⟩ :=
          Staging.decodeDocument_cases hdoc
        · -- one more marker of this stretch
          have hmore : g₂.staged = (markers ++ [m]).filterMap Marker.brought := by
            rw [hstaged, hg, List.filterMap_append]
            cases m <;> rfl
          obtain ⟨hpull, hledger⟩ := pull_of_other hs hd hno
          rw [hpull] at h
          obtain ⟨l, a, hrow, hanswer, hempty⟩ := ih v s₁ d g₂ s₂ hs hd hk' _ hmore h
          rw [hround.entries_eq, hround.entry_eq] at hrow
          rw [hledger, hentries, htaken.entry_eq, ← List.append_assoc, ← List.map_singleton,
            ← List.map_append]
          exact ⟨l, a, hrow, hanswer.of_samePlace hround, hempty⟩
        · -- the host is read
          have hparsed : s.documentOf v = .ok p := htaken.documentOf_eq ▸ hp
          rw [pull_of_decode hs hd] at h
          rw [ledgerOfPull_of_decode hs hd]
          cases h
          refine ⟨[], ⟨markers, some ⟨v, hv⟩⟩, ?_, ⟨by simp, by simp, ?_, rfl⟩, hstaged⟩
          · simp [Stretch.entries, Stretch.ending, hparsed, Decoded.entries, htaken.current_eq]
          · simp [Stretch.record?, Stretch.arrived, hparsed, hg]
        · -- the host is rejected, and the next stretch begins
          have hparsed : s.documentOf v = .error f := htaken.documentOf_eq ▸ hp
          obtain ⟨hpull, hledger⟩ := pull_of_other hs hd (fun r hr => by cases hr)
          rw [hpull] at h
          obtain ⟨l, a, hrow, hanswer, hempty⟩ := ih v s₁ _ g₂ s₂ hs hd hk' [] hstaged h
          rw [hround.entries_eq] at hrow
          refine ⟨⟨markers, some ⟨v, hv⟩⟩ :: l, a, ?_, ?_, hempty⟩
          · rw [hledger, List.cons_append, List.flatMap_cons, ← hrow]
            simp [Stretch.entries, Stretch.ending, Stretch.arrived, hparsed, Decoded.entries,
              htaken.current_eq, hstaged, hg]
          · obtain ⟨hhosts, hrejected, hx, hsome⟩ := hanswer.of_samePlace hround
            refine ⟨?_, ?_, hx, hsome⟩
            · rintro b (_ | ⟨_, hb⟩)
              · rfl
              · exact hhosts b hb
            · rintro b (_ | ⟨_, hb⟩)
              · simp [Stretch.record?, hparsed]
              · exact hrejected b hb

end Reader

/-! ### Where the array stands -/

/-- Is the array of the current kind not at its end yet? -/
def Session.isBeforeEnd (s : Session) : Bool := s.array ≠ .closed

namespace Session

variable {s t : Session}

theorem array_readToken {r : Except Failure Token} (h : s.readToken = (r, t)) :
    t.array = s.array := (congrArg (fun p => p.2.array) h).symm

theorem array_readValue {u : Token} {r : Except Failure Json} (h : s.readValue u = (r, t)) :
    t.array = s.array := (congrArg (fun p => p.2.array) h).symm

theorem array_copyPayload {size : Nat} {sink sink' : Sink} {r : Except Failure String}
    (h : s.copyPayload size sink = (r, sink', t)) : t.array = s.array :=
  (congrArg (fun p => p.2.2.array) h).symm

/-- Behind an element the array is open. -/
theorem array_of_nextElement {v : Json} (h : s.nextElement = (.ok (some v), t)) :
    t.array = .isOpen := by
  have hread {s t : Session} (h : s.readElement = (.ok (some v), t)) : t.array = s.array := by
    unfold readElement at h
    split at h
    · cases h
    · cases h
    · next ht =>
      split at h
      · cases h
      · next hv =>
        cases h
        exact (array_readValue hv).trans (array_readToken ht)
  unfold nextElement at h
  split at h
  · cases h
  · next hopen => exact (hread h).trans hopen
  · split at h
    · cases h
    · next ho =>
      rw [hread h]
      unfold openArray at ho
      split at ho
      · cases ho
      · cases ho
        rfl
      · cases ho

end Session

namespace Staging

variable {g g' : Staging} {k : Kind} {s t : Session} {v : Json} {d : Decoded}

theorem array_stage (h : g.stage k v s = (.ok d, g', t)) : t.array = s.array := by
  unfold stage at h
  split at h
  · cases h
  · split at h
    · unfold stageNamed at h
      split at h
      · cases h
      · split at h
        · cases h
        · next hcopy =>
          cases h
          rw [← Session.array_copyPayload hcopy]
          unfold verify
          split_ifs <;> rfl
    · unfold Session.dropBytes at h
      split at h
      · cases h
      · next hdrop =>
        split at hdrop
        · cases hdrop
        · next hcopy =>
          cases hdrop
          cases h
          exact Session.array_copyPayload hcopy

theorem array_decodeDocument (h : g.decodeDocument k v s = (.ok d, g', t)) : t.array = s.array := by
  unfold decodeDocument at h
  split at h
  · exact array_stage h
  · split at h
    · next p _ =>
      cases h
      cases p.etag <;> rfl
    · have hdrop (reason : String) : (g.drop k reason s).2.array = s.array := by
        unfold drop
        split_ifs <;> rfl
      cases h
      exact hdrop _

end Staging

/-- Behind a record the array is open. -/
theorem Reader.array_of_pull {g g' : Staging} {form k : Kind} {s t : Session} {x : Record}
    (hform : form.carriesAttachments = true) (h : pull g form k s = (.ok (some x), g', t)) :
    t.array = .isOpen := by
  induction g, s using element_induction form k with
  | step g s ih =>
    rcases hs : s.nextElement with ⟨f | _ | v, s₁⟩
    · rw [pull_eq, hs] at h
      cases h
    · rw [pull_eq, hs] at h
      cases h
    · rcases hd : g.decode form k v s₁ with ⟨f | d, g₂, s₂⟩
      · rw [pull_eq, hs] at h
        simp only [hd] at h
        cases h
      · rw [pull_of_decode hs hd] at h
        cases d with
        | record r =>
          cases h
          rw [Staging.decode_of_carriesAttachments hform] at hd
          exact (Staging.array_decodeDocument hd).trans (Session.array_of_nextElement hs)
        | _ => exact ih v s₁ _ g₂ s₂ hs hd h

/-! ### Several readers -/

/-- Stretches that follow each other in one array, which was or was not at its end before and behind
them: the stretch without a host stands at the end. -/
inductive Stretch.Row : Bool → Bool → List Stretch → Prop where
  /-- Behind the end there are none. -/
  | behind : Row false false []
  /-- Before the end they have hosts. -/
  | within {l : List Stretch} (h : ∀ b ∈ l, b.host.isSome = true) : Row true true l
  /-- The last one has none. -/
  | toEnd {l : List Stretch} {a : Stretch} (h : ∀ b ∈ l, b.host.isSome = true)
    (ha : a.host = none) : Row true false (l ++ [a])

theorem Stretch.Row.nil (p : Bool) : Row p p [] := by
  cases p with
  | false => exact .behind
  | true => exact .within fun b hb => by cases hb

theorem Stretch.Row.trans {p q r : Bool} {l m : List Stretch} (h : Row p q l) (h' : Row q r m) :
    Row p r (l ++ m) := by
  have hboth {l m : List Stretch} (h : ∀ b ∈ l, b.host.isSome = true)
      (h' : ∀ b ∈ m, b.host.isSome = true) : ∀ b ∈ l ++ m, b.host.isSome = true := by
    intro b hb
    rcases List.mem_append.mp hb with hb | hb
    · exact h b hb
    · exact h' b hb
  cases h with
  | behind => exact h'
  | within h =>
    cases h' with
    | within h' => exact .within (hboth h h')
    | toEnd h' ha =>
      rw [← List.append_assoc]
      exact .toEnd (hboth h h') ha
  | toEnd h ha =>
    cases h'
    rw [List.append_nil]
    exact .toEnd h ha

/-- Does an operation read, within the array at which the session stands? -/
def Operation.isReading : Operation → Bool
  | .read .. | .poll => true
  | _ => false

namespace Desk

/-- The records that an operation hands out. -/
def yields (d : Desk) : Operation → List Record
  | .poll =>
    match d.reader with
    | none => []
    | some r =>
      match r.poll d.session with
      | (some (.ok x), _, _) => [x]
      | _ => []
  | _ => []

/-- The records that operations hand out. -/
def handed (d : Desk) : List Operation → List Record
  | [] => []
  | o :: os => d.yields o ++ (d.act o).elim [] fun d => d.handed os

/-- The session stands at a kind, and the reader at work, which was made for the kind, has nothing
staged. -/
structure Resting (k : Kind) (d : Desk) : Prop where
  /-- The kind. -/
  current_eq : d.session.current = some k
  /-- The kind of the reader. -/
  kind_eq : ∀ r, d.reader = some r → r.kind = some k
  /-- What waits for a document. -/
  staged_eq : ∀ r, d.reader = some r → r.staging.staged = []
  /-- The reader is done only at the end of the array. -/
  closed : ∀ r, d.reader = some r → r.done = true → d.session.array = .closed

variable {k : Kind} {d e : Desk}

/-- What an operation takes off an array of documents is a row of stretches. -/
def Taking (d : Desk) (o : Operation) (e : Desk) : Prop :=
  ∃ l, d.entries o = l.flatMap (Stretch.entries d.session) ∧
    d.yields o = l.filterMap (Stretch.record? d.session) ∧
    Stretch.Row d.session.isBeforeEnd e.session.isBeforeEnd l

/-- A poll that does not fail is that of a reader which attends to the kind. -/
theorem poll_of_resting (hd : d.Resting k) (h : d.act .poll = some e) :
    ∃ r x r' s, d.reader = some r ∧ r.poll d.session = (Option.map .ok x, r', s) ∧
      e = { session := s, reader := some r' } ∧ d.yields .poll = x.toList ∧
      (r.done = false → r.Attends k d.session) := by
  simp only [act] at h
  rcases hr : d.reader with _ | r
  · rw [hr] at h
    cases h
  have hattends (hdone : r.done = false) (hok : ∀ f, (r.poll d.session).1 ≠ some (.error f)) :
      r.Attends k d.session := by
    refine ⟨hd.kind_eq r hr, hd.current_eq, ?_, hd.closed r hr⟩
    refine Decidable.byContradiction fun hform => ?_
    have hnext : r.next d.session = (.error (Reader.wrongForm k), r, d.session) := by
      unfold Reader.next
      rw [hd.kind_eq r hr]
      exact if_neg hform
    refine hok ((Reader.wrongForm k).within ("Reading " ++ Kind.nameOrNone r.kind)) ?_
    unfold Reader.poll
    rw [hdone, hnext]
    rfl
  rw [hr] at h
  rcases hp : r.poll d.session with ⟨_ | f | x, r', s⟩
  · simp only [hp] at h hattends
    cases h
    exact ⟨r, none, r', s, rfl, hp, rfl, by simp [yields, hr, hp],
      fun hdone => hattends hdone (by simp)⟩
  · simp only [hp] at h
    cases h
  · simp only [hp] at h hattends
    cases h
    exact ⟨r, some x, r', s, rfl, hp, rfl, by simp [yields, hr, hp],
      fun hdone => hattends hdone (by simp)⟩

/-- A poll of a reader that is done, or at the end of the array, takes nothing off. -/
theorem poll_of_closed {r r' : Reader} {x : Option Record} {s t : Session}
    (hr : r.staging.staged = []) (hattends : r.done = false → r.Attends k s)
    (hclosed : s.array = .closed) (hp : r.poll s = (x.map .ok, r', t)) :
    x = none ∧ r.ledger s = [] ∧ t.array = .closed ∧ r'.staging.staged = [] := by
  have hnone : s.nextElement = (.ok none, s) := by
    unfold Session.nextElement
    rw [hclosed]
  cases hdone : r.done with
  | true =>
    unfold Reader.poll at hp
    rw [if_pos hdone] at hp
    cases x with
    | some x => cases hp
    | none =>
      cases hp
      exact ⟨rfl, Reader.ledger_of_done hdone, hclosed, hr⟩
  | false =>
    have ha := hattends hdone
    have hfinish : r.staging.finish r.form k s = (r.staging, s) := by
      unfold Staging.finish Staging.drop
      simp [hr]
    rw [ha.poll_eq hdone, Reader.pull_eq, hnone] at hp
    simp only [hfinish] at hp
    cases x with
    | some x => cases hp
    | none =>
      cases hp
      refine ⟨rfl, ?_, hclosed, hr⟩
      rw [ha.ledger_eq hdone, Reader.ledgerOfPull_eq, hnone]
      simp only [hr]
      cases r.form.carriesAttachments <;> rfl

theorem resting_poll (hc : k.carriesAttachments = true) (hd : d.Resting k)
    (h : d.act .poll = some e) :
    e.Resting k ∧ d.session.SamePlace e.session ∧ d.Taking .poll e := by
  obtain ⟨r, x, r', s, hr, hp, rfl, hyields, hattends⟩ := poll_of_resting hd h
  have hkind := hd.kind_eq r hr
  have hstaged := hd.staged_eq r hr
  obtain ⟨hposts, hkind'⟩ := Reader.postsHere_poll (hkind.trans hd.current_eq.symm) hp
  have hplace := Session.SamePlace.of_postsHere hposts
  have hentries : d.entries .poll = r.ledger d.session := by simp [entries, hr]
  have hresting (hempty : r'.staging.staged = []) (hclosed : r'.done = true → s.array = .closed) :
      Resting k { session := s, reader := some r' } := by
    refine ⟨hplace.current_eq.trans hd.current_eq, ?_, ?_, ?_⟩
    all_goals
      intro q hq
      cases hq
    · exact hkind'.trans hkind
    · exact hempty
    · exact hclosed
  by_cases hclosed : d.session.array = .closed
  · obtain ⟨rfl, hledger, hlast, hempty⟩ := poll_of_closed hstaged hattends hclosed hp
    refine ⟨hresting hempty fun _ => hlast, hplace, [], hentries.trans hledger, hyields, ?_⟩
    simp only [Session.isBeforeEnd, hclosed, hlast]
    exact .behind
  · have hdone : r.done = false := Bool.eq_false_iff.mpr fun hdone => hclosed (hd.closed r hr hdone)
    have ha := hattends hdone
    have hform := (Kind.carriesAttachments_eq_of_sameForm ha.form).trans hc
    have hbefore : d.session.isBeforeEnd = true := by simp [Session.isBeforeEnd, hclosed]
    have hledger := ha.ledger_eq hdone
    rw [ha.poll_eq hdone] at hp
    rcases hpull : Reader.pull r.staging r.form k d.session with ⟨f | y, g, t⟩
    · rw [hpull] at hp
      cases x <;> cases hp
    obtain ⟨l, a, hrow, hanswer, hempty⟩ :=
      Reader.pull_stretches hform ha.form hd.current_eq [] hstaged hpull
    have hhanded := hanswer.filterMap_eq
    rw [hpull] at hp
    cases y with
    | none =>
      cases x with
      | some x => cases hp
      | none =>
        cases hp
        have hlast := Reader.closed_of_pull hpull
        have hend : a.host = none := Option.not_isSome_iff_eq_none.mp (by simp [hanswer.isSome_eq])
        refine ⟨hresting hempty fun _ => hlast, hplace, l ++ [a], ?_, ?_, ?_⟩
        · rw [hentries, hledger, ← hrow]
          rfl
        · rw [hyields, hhanded]
        · have hafter : s.isBeforeEnd = false := by simp [Session.isBeforeEnd, hlast]
          simp only [hbefore, hafter]
          exact .toEnd hanswer.hosts hend
    | some y =>
      cases x with
      | none => cases hp
      | some x =>
        cases hp
        have hopen := Reader.array_of_pull hform hpull
        refine ⟨hresting hempty fun hno => absurd (hno.symm.trans hdone) (by decide), hplace,
          l ++ [a], ?_, ?_, ?_⟩
        · rw [hentries, hledger, ← hrow]
          rfl
        · rw [hyields, hhanded]
        · have hafter : s.isBeforeEnd = true := by simp [Session.isBeforeEnd, hopen]
          simp only [hbefore, hafter]
          refine .within fun b hb => ?_
          rcases List.mem_append.mp hb with hb | hb
          · exact hanswer.hosts b hb
          · rw [List.mem_singleton.mp hb]
            exact hanswer.isSome_eq

/-- An operation within an array of documents takes a row of stretches off. -/
theorem resting_act (hc : k.carriesAttachments = true) (hd : d.Resting k) {o : Operation}
    (ho : o.isReading = true) (h : d.act o = some e) :
    e.Resting k ∧ d.session.SamePlace e.session ∧ d.Taking o e := by
  cases o with
  | nextKind => cases ho
  | skipKind => cases ho
  | read form sinks =>
    cases h
    refine ⟨⟨hd.current_eq, ?_, ?_, ?_⟩, ⟨rfl, rfl, rfl⟩, [], rfl, rfl, ?_⟩
    · intro r hr
      cases hr
      exact hd.current_eq
    · intro r hr
      cases hr
      rfl
    · intro r hr hdone
      cases hr
      cases hdone
    · exact .nil _
  | poll => exact resting_poll hc hd h

/-- **Several readers, one after another, take one row of stretches off.** -/
theorem stretches_run (hc : k.carriesAttachments = true) (hd : d.Resting k) {os : List Operation}
    (hos : ∀ o ∈ os, o.isReading = true) (h : d.run os = some e) :
    ∃ l, d.ledger os = l.flatMap (Stretch.entries d.session) ∧
      d.handed os = l.filterMap (Stretch.record? d.session) ∧
      Stretch.Row d.session.isBeforeEnd e.session.isBeforeEnd l := by
  induction os generalizing d with
  | nil =>
    cases h
    exact ⟨[], rfl, rfl, .nil _⟩
  | cons o os ih =>
    obtain ⟨d₁, hact, hrun⟩ := Option.bind_eq_some_iff.mp h
    obtain ⟨hd₁, hplace, l, hentries, hyields, hrow⟩ :=
      resting_act hc hd (hos o (List.mem_cons_self ..)) hact
    obtain ⟨m, hledger, hhanded, hrow'⟩ :=
      ih hd₁ (fun o ho => hos o (List.mem_cons_of_mem _ ho)) hrun
    rw [hplace.entries_eq] at hledger
    rw [hplace.record?_eq] at hhanded
    refine ⟨l ++ m, ?_, ?_, hrow.trans hrow'⟩
    · simp [ledger, hact, hentries, hledger]
    · simp [handed, hact, hyields, hhanded]

end Desk

end ExportStream

import ExportStream.Proofs.Rounds
import Mathlib.Logic.Relation
import Mathlib.Tactic.SplitIfs
/-!
# The workings of a session

Whatever an operation of a session comes to, and where it fails half-way, too, it consists of small
works: a token is read, a value is put together, a payload is copied, the array is opened or closed,
something is noted or counted (`Session.Work`). Between two kinds a session also turns to another
one, or learns of its export (`Session.Turn`). There is one lemma for each operation that says so,
in the order in which the operations use each other.

What one work leaves alone any number of them does. So whatever the outcome, a session at work stays
at its kind (`Session.Works.kept`) and counts no record as read. And to its cursor all that is done
is that bytes of the buffer are used, the buffer is filled and something is noted: what these keep
lasts (`Cursor.Lasting`), such as the place of the cursor in the bytes (`Cursor.Placed`).
-/

namespace ExportStream

/-! ### What lasts -/

/-- What lasts is kept by notes, by uses of the buffer and by refills. -/
structure Cursor.Lasting (P : Cursor → Prop) : Prop where
  /-- Something is noted. -/
  note : ∀ {c}, P c → ∀ n, P (c.note n)
  /-- Bytes of the buffer are used. -/
  advance : ∀ {c n}, P c → n ≤ c.buffer.length → ∀ s, P (c.advance n s)
  /-- The buffer, all bytes of which are used, is filled, or fails to be. -/
  refill : ∀ {c d r}, P c → c.buffer = [] → c.refill = (r, d) → P d

namespace Cursor.Lasting

variable {P : Cursor → Prop} {c d : Cursor} {w w' : Copying} {size left n : Nat}

theorem readToken (hP : Lasting P) (h : P c) {r : Except Failure Token}
    (hr : c.readToken = (r, d)) : P d := by
  have hfilled {c c' : Cursor} (h : P c) {s : Scanner} {r : Except Failure Nat}
      (hf : (c.useUp s).refill = (r, c')) : P c' :=
    hP.refill (hP.advance h (Nat.le_refl _) s) (buffer_useUp c s) hf
  fun_induction Cursor.readToken c with
  | case1 c t rest hs =>
    cases hr
    exact hP.advance h (Nat.sub_le ..) _
  | case2 c f hs =>
    cases hr
    exact hP.advance h (Nat.zero_le _) .idle
  | case3 c s hs f c' hf =>
    cases hr
    exact hfilled h hf
  | case4 c s hs c' hf =>
    cases hr
    exact hfilled h hf
  | case5 c s hs k c' hf ih => exact ih (hfilled h hf) hr

theorem readRaw (hP : Lasting P) (h : P c) {r : Except Failure (List UInt8)}
    (hr : c.readRaw n = (r, d)) : P d := by
  unfold Cursor.readRaw at hr
  split_ifs at hr with hn he
  · cases hr
    exact h
  · rcases hf : c.refill with ⟨f | k, c₁⟩
    all_goals
      have hfilled := hP.refill h (List.isEmpty_iff.mp he) hf
      rw [hf] at hr
      cases hr
    · exact hfilled
    · exact hP.advance hfilled (Nat.min_le_right ..) _
  · cases hr
    exact hP.advance h (Nat.min_le_right ..) _

theorem go (hP : Lasting P) (h : P c) {a a' : Assembler} {t : Token} {r : Except Failure Json}
    (hr : a.go t c = (r, a', d)) : P d := by
  fun_induction Assembler.go a t c with
  | case1 a t c v ha =>
    cases hr
    exact h
  | case2 a t c f frames ha =>
    cases hr
    exact h
  | case3 a t c frames ha u c' hread ih => exact ih (hP.readToken h hread) hr
  | case4 a t c frames ha f c' hread =>
    cases hr
    exact hP.readToken h hread

theorem move (hP : Lasting P) (h : P w.cursor) {moved : List (List UInt8)}
    {r : Except Failure (List (List UInt8))} (hm : w.move size left moved = (r, w')) :
    P w'.cursor := by
  fun_induction Copying.move w size left moved with
  | case1 w moved =>
    cases hm
    exact h
  | case2 w left moved hleft f cursor hr =>
    cases hm
    exact hP.readRaw h hr
  | case3 w left moved hleft cursor hr =>
    obtain ⟨-, hw⟩ := Prod.mk.inj hm
    rw [← hw]
    exact hP.readRaw h hr
  | case4 w left moved hleft b bs cursor hr f sink hw =>
    cases hm
    exact hP.readRaw h hr
  | case5 w left moved hleft b bs cursor hr sink hw copier ih => exact ih (hP.readRaw h hr) hm

theorem copy (hP : Lasting P) (h : P w.cursor) {r : Except Failure String}
    (hc : w.copy size = (r, w')) : P w'.cursor := by
  have hstart : P ({ w with copier := { w.copier with allocated := true } } : Copying).cursor := h
  unfold Copying.copy at hc
  split at hc
  · next hm =>
    cases hc
    exact hP.move hstart hm
  · next hm =>
    have hmoved := hP.move hstart hm
    split at hc <;> cases hc <;> exact hmoved

end Cursor.Lasting

/-! ### Where a cursor stands -/

namespace Cursor

/-- The cursor stands in some bytes where its position says. -/
structure Placed (data : List UInt8) (c : Cursor) : Prop where
  /-- The bytes from the position on are left. -/
  remaining_eq : c.remaining = data.drop c.position
  /-- The position is within the bytes. -/
  position_le : c.position ≤ data.length

theorem placed_start (supply : Supply) (bufferSize window : Nat) :
    (start supply bufferSize window).Placed supply.rest :=
  ⟨rfl, Nat.zero_le _⟩

theorem remaining_advance (c : Cursor) {n : Nat} (hn : n ≤ c.buffer.length) (s : Scanner) :
    (c.advance n s).remaining = c.remaining.drop n := by
  rw [remaining, remaining, buffer_advance, source_advance, List.drop_append_of_le_length hn]

/-- A refill loses nothing, whether it succeeds or not. -/
theorem remaining_refill {c : Cursor} (hb : c.buffer = []) :
    c.refill.2.remaining = c.remaining ∧ c.refill.2.position = c.position := by
  refine ⟨?_, by unfold refill; split <;> rfl⟩
  rcases hr : c.refill with ⟨f | n, c'⟩
  · obtain ⟨hbuffer, hrest, -⟩ := refill_error hr
    simp only [remaining, hbuffer, hrest, hb]
  · obtain ⟨-, hrest, -⟩ := refill_append hr
    simp only [remaining, hrest, hb, List.nil_append]

/-- Whatever is read, the cursor stays at its place in the bytes. -/
theorem lasting_placed (data : List UInt8) : Lasting (Placed data) where
  note h _ := ⟨h.remaining_eq, h.position_le⟩
  advance {c n} h hn s := by
    refine ⟨?_, ?_⟩
    · rw [remaining_advance c hn, h.remaining_eq, List.drop_drop]
      rfl
    · have hlen := congrArg List.length h.remaining_eq
      have hle := h.position_le
      simp only [remaining, List.length_append, List.length_drop] at hlen
      simp only [Cursor.advance]
      omega
  refill {c d r} h hb hr := by
    obtain ⟨hremaining, hposition⟩ := remaining_refill hb
    rw [hr] at hremaining hposition
    simp only at hremaining hposition
    exact ⟨by rw [hremaining, hposition, h.remaining_eq], by rw [hposition]; exact h.position_le⟩

end Cursor

theorem Assembler.maxDepth_go (a : Assembler) (t : Token) (c : Cursor) :
    (a.go t c).2.1.maxDepth = a.maxDepth := by
  fun_induction Assembler.go a t c with
  | case3 a t c frames ha u c' hr ih => exact ih
  | _ => rfl

namespace Session

/-! ### Works -/

/-- A small change that an operation makes while the session stays where it is. -/
inductive Work : Session → Session → Prop where
  /-- A token is read. -/
  | token (s : Session) : Work s s.readToken.2
  /-- A value is put together. -/
  | value (s : Session) (t : Token) : Work s (s.readValue t).2
  /-- A payload is copied. -/
  | payload (s : Session) (size : Nat) (sink : Sink) : Work s (s.copyPayload size sink).2.2
  /-- The array is opened or closed. -/
  | array (s : Session) (state : ArrayState) : Work s { s with array := state }
  /-- Something is noted. -/
  | noted (s : Session) (n : Notice) : Work s (s.note n)
  /-- Elements are counted as passed over. -/
  | skipped (s : Session) (k : Kind) (n : Nat) : Work s (s.countSkipped k n)
  /-- An element is counted as rejected. -/
  | rejected (s : Session) (k : Kind) (f : RecordFault) (v : Json) : Work s (s.reject k f v)
  /-- A warning is kept. -/
  | warned (s : Session) (k : Kind) (message : String) : Work s (s.warn k message)
  /-- An attachment is counted. -/
  | attachment (s : Session) : Work s s.countAttachment
  /-- The version of a document is kept. -/
  | documentEtag (s : Session) (etag : Option String) : Work s (s.keepDocumentEtag etag)
  /-- The version of an attachment is kept. -/
  | attachmentEtag (s : Session) (etag : Option String) : Work s (s.keepAttachmentEtag etag)

/-- Works, one after the other. -/
abbrev Works : Session → Session → Prop := Relation.ReflTransGen Work

variable {s t u : Session}

theorem Works.trans (h : s.Works t) (h' : t.Works u) : s.Works u := Relation.ReflTransGen.trans h h'

theorem Works.tail (h : s.Works t) (h' : t.Work u) : s.Works u := Relation.ReflTransGen.tail h h'

/-! ### One work for each reading -/

theorem works_readToken {r : Except Failure Token} (h : s.readToken = (r, t)) : s.Works t := by
  have hwork := Work.token s
  rw [h] at hwork
  exact .single hwork

theorem works_readValue {u : Token} {r : Except Failure Json} (h : s.readValue u = (r, t)) :
    s.Works t := by
  have hwork := Work.value s u
  rw [h] at hwork
  exact .single hwork

theorem works_copyPayload {size : Nat} {sink sink' : Sink} {r : Except Failure String}
    (h : s.copyPayload size sink = (r, sink', t)) : s.Works t := by
  have hwork := Work.payload s size sink
  rw [h] at hwork
  exact .single hwork

/-! ### Elements -/

theorem works_openArray {r : Except Failure Unit} (h : s.openArray = (r, t)) : s.Works t := by
  unfold openArray at h
  split at h
  · next hr => cases h; exact works_readToken hr
  · next hr => cases h; exact (works_readToken hr).tail (.array ..)
  · next hr => cases h; exact works_readToken hr

theorem works_readElement {r : Except Failure (Option Json)} (h : s.readElement = (r, t)) :
    s.Works t := by
  unfold readElement at h
  split at h
  · next hr => cases h; exact works_readToken hr
  · next hr => cases h; exact (works_readToken hr).tail (.array ..)
  · next hr =>
    split at h
    · next hv => cases h; exact (works_readToken hr).trans (works_readValue hv)
    · next hv => cases h; exact (works_readToken hr).trans (works_readValue hv)

theorem works_nextElement {r : Except Failure (Option Json)} (h : s.nextElement = (r, t)) :
    s.Works t := by
  unfold nextElement at h
  split at h
  · cases h; exact .refl
  · exact works_readElement h
  · split at h
    · next ho => cases h; exact works_openArray ho
    · next ho => exact (works_openArray ho).trans (works_readElement h)

theorem works_dropBytes {size : Nat} {r : Except Failure Unit} (h : s.dropBytes size = (r, t)) :
    s.Works t := by
  unfold dropBytes at h
  split at h
  · next hc => cases h; exact works_copyPayload hc
  · next hc => cases h; exact works_copyPayload hc

theorem works_dropPayload {v : Json} {r : Except Failure Unit} (h : s.dropPayload v = (r, t)) :
    s.Works t := by
  unfold dropPayload at h
  split at h
  · split at h
    · cases h; exact .refl
    · exact works_dropBytes h
  · cases h; exact .refl

theorem works_dropElements {n m : Nat} {r : Except Failure Unit}
    (h : s.dropElements n = (r, m, t)) : s.Works t := by
  fun_induction dropElements s n with
  | case1 s n f s₁ h₁ => cases h; exact works_nextElement h₁
  | case2 s n s₁ h₁ => cases h; exact works_nextElement h₁
  | case3 s n v s₁ h₁ f s₂ h₂ =>
    cases h
    exact (works_nextElement h₁).trans (works_dropPayload h₂)
  | case4 s n v s₁ h₁ s₂ h₂ ih =>
    exact ((works_nextElement h₁).trans (works_dropPayload h₂)).trans (ih h)

theorem works_skipKind {kind : Option Kind} {n : Nat} {r : Except Failure Unit}
    (h : s.skipKind kind = (r, n, t)) : s.Works t := by
  unfold skipKind at h
  split at h
  · cases h; exact .refl
  · split at h
    · split at h
      · next hd => cases h; exact works_dropElements hd
      · next hd => cases h; exact ((works_dropElements hd).tail (.skipped ..)).tail (.noted ..)
    · cases h; exact .refl

theorem works_countDrained (s : Session) (k : Kind) (n : Nat) : s.Works (s.countDrained k n) := by
  unfold countDrained
  split_ifs
  · exact .refl
  · exact (Relation.ReflTransGen.single (.skipped s k n)).tail (.noted ..)

/-! ### Records -/

theorem works_verify (k : Kind) (a : Attachment) (s : Session) :
    s.Works (Staging.verify k a s) := by
  unfold Staging.verify
  split_ifs
  · exact .single (.warned ..)
  · exact .refl

theorem works_stageNamed {g g' : Staging} {k : Kind} {marker : Json} {size : Nat}
    {hash tag : String} {r : Except Failure Decoded}
    (h : g.stageNamed k marker size hash tag s = (r, g', t)) : s.Works t := by
  unfold Staging.stageNamed at h
  split at h
  · cases h; exact .refl
  · split at h
    · next hc => cases h; exact works_copyPayload hc
    · next hc =>
      cases h
      exact ((works_copyPayload hc).trans (works_verify ..)).tail (.attachment _)

theorem works_stage {g g' : Staging} {k : Kind} {marker : Json} {r : Except Failure Decoded}
    (h : g.stage k marker s = (r, g', t)) : s.Works t := by
  unfold Staging.stage at h
  split at h
  · cases h; exact .refl
  · split at h
    · exact works_stageNamed h
    · split at h
      · next hd => cases h; exact works_dropBytes hd
      · next hd => cases h; exact works_dropBytes hd

theorem works_drop (g : Staging) (k : Kind) (reason : String) (s : Session) :
    s.Works (g.drop k reason s).2 := by
  unfold Staging.drop
  split_ifs
  · exact .refl
  · exact .single (.warned ..)

theorem works_decodeDocument {g g' : Staging} {k : Kind} {v : Json} {r : Except Failure Decoded}
    (h : g.decodeDocument k v s = (r, g', t)) : s.Works t := by
  unfold Staging.decodeDocument at h
  split at h
  · exact works_stage h
  · split at h
    · cases h; exact .single (.documentEtag ..)
    · cases h; exact works_drop ..

theorem works_decodeLegacyAttachment {g g' : Staging} {v : Json} {r : Except Failure Decoded}
    (h : g.decodeLegacyAttachment v s = (r, g', t)) : s.Works t := by
  have hkeep (e : Option String) :
      s.Works (if s.options.readLegacyEtag then s.keepAttachmentEtag e else s) := by
    split_ifs
    · exact .single (.attachmentEtag ..)
    · exact .refl
  unfold Staging.decodeLegacyAttachment at h
  split at h
  · cases h; exact .refl
  · simp only at h
    split at h
    · cases h; exact hkeep _
    · split at h
      · cases h; exact hkeep _
      · split at h
        · cases h; exact hkeep _
        · cases h; exact hkeep _

theorem works_decode {g g' : Staging} {form k : Kind} {v : Json} {r : Except Failure Decoded}
    (h : g.decode form k v s = (r, g', t)) : s.Works t := by
  unfold Staging.decode at h
  split at h
  all_goals
    first
    | exact works_decodeDocument h
    | exact works_decodeLegacyAttachment h
    | (cases h; exact .refl)

theorem works_finish (g : Staging) (form k : Kind) (s : Session) :
    s.Works (g.finish form k s).2 := by
  unfold Staging.finish
  split_ifs
  · exact works_drop ..
  · exact .refl

theorem works_settle (k : Kind) {d : Decoded} (hd : ∀ r, d ≠ .record r) (s : Session) :
    s.Works (d.settle k s) := by
  cases d with
  | record r => exact absurd rfl (hd r)
  | deferred => exact .refl
  | skipped => exact .single (.skipped ..)
  | ignored => exact .refl
  | rejected f v => exact .single (.rejected ..)

/-- A reader is at work up to a record, which is then counted; without a record that is all. -/
theorem works_pull {g g' : Staging} {form k : Kind} {r : Except Failure (Option Record)}
    (h : Reader.pull g form k s = (r, g', t)) :
    (s.Works t ∧ ∀ record, r ≠ .ok (some record)) ∨
      ∃ u record, r = .ok (some record) ∧ s.Works u ∧ t = u.countRead k := by
  induction g, s using Reader.element_induction form k with
  | step g s ih =>
    rcases hn : s.nextElement with ⟨f | _ | v, s₁⟩
    · rw [Reader.pull_eq, hn] at h
      cases h
      exact .inl ⟨works_nextElement hn, fun _ => nofun⟩
    · rw [Reader.pull_eq, hn] at h
      obtain ⟨rfl, hlast⟩ := Prod.mk.inj h
      have hfinish := works_finish g form k s₁
      rw [hlast] at hfinish
      exact .inl ⟨(works_nextElement hn).trans hfinish, fun _ => nofun⟩
    · have hvalue := works_nextElement hn
      rcases hd : g.decode form k v s₁ with ⟨f | d, g₂, s₂⟩
      · rw [Reader.pull_eq, hn] at h
        simp only [hd] at h
        cases h
        exact .inl ⟨hvalue.trans (works_decode hd), fun _ => nofun⟩
      · rw [Reader.pull_of_decode hn hd] at h
        have hread := hvalue.trans (works_decode hd)
        by_cases hrecord : ∃ x, d = .record x
        · obtain ⟨x, rfl⟩ := hrecord
          cases h
          exact .inr ⟨s₂, x, rfl, hread, rfl⟩
        · have hsettled := hread.trans (works_settle k (fun x hx => hrecord ⟨x, hx⟩) s₂)
          have hpull : Reader.pull g₂ form k (d.settle k s₂) = (r, g', t) := by
            cases d with
            | record x => exact absurd ⟨x, rfl⟩ hrecord
            | _ => exact h
          obtain ⟨hworks, hr⟩ | ⟨u, x, hr, hu, ht⟩ := ih v s₁ d g₂ s₂ hn hd hpull
          · exact .inl ⟨hsettled.trans hworks, hr⟩
          · exact .inr ⟨u, x, hr, hsettled.trans hu, ht⟩

/-- A reader that is polled is at work up to a record, which is then counted for the kind that the
reader was made for. -/
theorem works_poll {r r' : Reader} {x : Option (Except Failure Record)}
    (h : r.poll s = (x, r', t)) :
    (s.Works t ∧ ∀ record, x ≠ some (.ok record)) ∨
      ∃ k u record, r.kind = some k ∧ x = some (.ok record) ∧ s.Works u ∧ t = u.countRead k := by
  unfold Reader.poll Reader.next at h
  split_ifs at h with hdone
  · cases h
    exact .inl ⟨.refl, fun _ => nofun⟩
  cases hk : r.kind with
  | none =>
    simp only [hk] at h
    cases h
    exact .inl ⟨.refl, fun _ => nofun⟩
  | some k =>
    simp only [hk] at h
    split_ifs at h with hform
    · rcases hp : Reader.pull r.staging r.form k s with ⟨y, g, s₁⟩
      obtain ⟨hworks, hy⟩ | ⟨u, record, rfl, hu, rfl⟩ := works_pull hp
      · rw [hp] at h
        rcases y with f | _ | record
        · cases h
          exact .inl ⟨hworks, fun _ => nofun⟩
        · cases h
          exact .inl ⟨hworks, fun _ => nofun⟩
        · exact absurd rfl (hy record)
      · rw [hp] at h
        cases h
        exact .inr ⟨k, u, record, rfl, rfl, hu, rfl⟩
    · cases h
      exact .inl ⟨.refl, fun _ => nofun⟩

/-! ### Labels -/

/-- The token that stands where a label is due. -/
def labelToken : Option String → Token
  | some label => .string label
  | none => .endObject

theorem readLabel_eq_ok_iff {label : Option String} :
    s.readLabel = (.ok label, t) ↔ s.readToken = (.ok (labelToken label), t) := by
  unfold readLabel
  rcases s.readToken with ⟨f | u, s₁⟩
  · simp
  · cases label <;> cases u <;> simp [labelToken]

theorem works_readLabel {r : Except Failure (Option String)} (h : s.readLabel = (r, t)) :
    s.Works t := by
  unfold readLabel at h
  split at h
  all_goals
    next hr =>
      cases h
      exact works_readToken hr

theorem works_dropValue {label : String} {depth : Nat} {r : Except Failure Unit}
    (h : s.dropValue label depth = (r, t)) : s.Works t := by
  fun_induction dropValue s label depth with
  | case1 s depth f s₁ h₁ => cases h; exact works_readToken h₁
  | case2 s depth u s₁ h₁ hd => cases h; exact works_readToken h₁
  | case3 s depth u s₁ h₁ hd => cases h; exact works_readToken h₁
  | case4 s depth u s₁ h₁ d hd ih => exact (works_readToken h₁).trans (ih h)

theorem works_dropSection {label : String} {r : Except Failure Unit}
    (h : s.dropSection label = (r, t)) : s.Works t := by
  unfold dropSection at h
  split at h
  · next hd => cases h; exact works_dropValue hd
  · next hd => cases h; exact (works_dropValue hd).tail (.noted ..)

/-! Labels, and sections that are passed over, move the cursor and change nothing else. -/

theorem readToken_moves {r : Except Failure Token} (h : s.readToken = (r, t)) :
    t = { s with cursor := t.cursor } := by
  cases h
  rfl

/-- A session reads a token as its cursor does. -/
theorem readToken_cursor {r : Except Failure Token} (h : s.readToken = (r, t)) :
    s.cursor.readToken = (r, t.cursor) := by
  cases h
  rfl

theorem readLabel_moves {r : Except Failure (Option String)} (h : s.readLabel = (r, t)) :
    t = { s with cursor := t.cursor } := by
  unfold readLabel at h
  split at h
  all_goals
    next hr =>
      cases h
      exact readToken_moves hr

theorem dropValue_moves {label : String} {depth : Nat} {r : Except Failure Unit}
    (h : s.dropValue label depth = (r, t)) : t = { s with cursor := t.cursor } := by
  fun_induction dropValue s label depth with
  | case1 s depth f s₁ h₁ => cases h; exact readToken_moves h₁
  | case2 s depth u s₁ h₁ hd => cases h; exact readToken_moves h₁
  | case3 s depth u s₁ h₁ hd => cases h; exact readToken_moves h₁
  | case4 s depth u s₁ h₁ d hd ih =>
    have htail := ih h
    rw [readToken_moves h₁] at htail
    exact htail

theorem dropSection_moves {label : String} {r : Except Failure Unit}
    (h : s.dropSection label = (r, t)) : t = { s with cursor := t.cursor } := by
  unfold dropSection at h
  split at h
  · next hd => cases h; exact dropValue_moves hd
  · next hd =>
    cases h
    have hvalue := dropValue_moves hd
    exact congrArg (note · _) hvalue

/-! ### Turns -/

/-- A change that a session makes at a kind or between kinds. -/
inductive Turn : Session → Session → Prop where
  /-- It works. -/
  | work {s t : Session} (h : s.Work t) : Turn s t
  /-- It stands at a kind. -/
  | enter (s : Session) (k : Kind) : Turn s { s with current := some k, array := .notStarted }
  /-- It leaves a kind. -/
  | leave (s : Session) : Turn s s.leave
  /-- A kind waits, or waits no longer. -/
  | pending (s : Session) (kind : Option Kind) : Turn s { s with pending := kind }
  /-- The last brace is read. -/
  | exhausted (s : Session) : Turn s { s with exhausted := true }
  /-- The build is known. -/
  | build (s : Session) (n : Int) : Turn s (s.setBuild n)
  /-- The generation is put into the tally. -/
  | generation (s : Session) : Turn s { s with tally := { s.tally with generation := s.generation } }

/-- Turns, one after the other. -/
abbrev Turns : Session → Session → Prop := Relation.ReflTransGen Turn

theorem Turns.trans (h : s.Turns t) (h' : t.Turns u) : s.Turns u := Relation.ReflTransGen.trans h h'

theorem Turns.tail (h : s.Turns t) (h' : t.Turn u) : s.Turns u := Relation.ReflTransGen.tail h h'

theorem Works.turns (h : s.Works t) : s.Turns t :=
  h.lift id fun _ _ => Turn.work

theorem turns_enter (s : Session) (k : Kind) : s.Turns (s.enter k) :=
  (Relation.ReflTransGen.single (.enter s k)).tail (.work (.noted ..))

theorem turns_exhaust (s : Session) : s.Turns s.exhaust :=
  (Relation.ReflTransGen.single (.exhausted s)).tail (.work (.noted ..))

theorem turns_opened (s : Session) : s.Turns s.opened :=
  (Relation.ReflTransGen.single (.generation s)).tail (.work (.noted ..))

theorem turns_finishCurrent {r : Except Failure Unit} (h : s.finishCurrent = (r, t)) :
    s.Turns t := by
  unfold finishCurrent at h
  split at h
  · cases h; exact .single (.leave s)
  · split_ifs at h
    · cases h; exact .single (.leave s)
    · split at h
      · next hd => cases h; exact (works_dropElements hd).turns
      · next hd =>
        cases h
        exact ((works_dropElements hd).turns.trans (works_countDrained ..).turns).tail (.leave _)

theorem turns_readBuild {r : Except Failure Unit} (h : s.readBuild = (r, t)) : s.Turns t := by
  unfold readBuild at h
  split at h
  · next hr => cases h; exact (works_readToken hr).turns
  · next hr => cases h; exact (works_readToken hr).turns.tail (.build ..)
  · next hr => cases h; exact (works_readToken hr).turns

theorem turns_nextLabel {r : Except Failure (Option Kind)} (h : s.nextLabel = (r, t)) :
    s.Turns t := by
  fun_induction nextLabel s with
  | case1 => cases h; exact .refl
  | case2 s _ f s₁ h₁ => cases h; exact (works_readLabel h₁).turns
  | case3 s _ s₁ h₁ => cases h; exact (works_readLabel h₁).turns.trans (turns_exhaust _)
  | case4 s _ label s₁ h₁ k _ =>
    cases h
    exact (works_readLabel h₁).turns.trans (turns_enter ..)
  | case5 s _ label s₁ h₁ _ => cases h; exact (works_readLabel h₁).turns
  | case6 s _ label s₁ h₁ _ f s₂ h₂ =>
    cases h
    exact (works_readLabel h₁).turns.trans (turns_readBuild h₂)
  | case7 s _ label s₁ h₁ _ s₂ h₂ ih =>
    exact ((works_readLabel h₁).turns.trans (turns_readBuild h₂)).trans (ih h)
  | case8 s _ label s₁ h₁ _ f s₂ h₂ =>
    cases h
    exact (works_readLabel h₁).turns.trans (works_dropSection h₂).turns
  | case9 s _ label s₁ h₁ _ s₂ h₂ ih =>
    exact ((works_readLabel h₁).turns.trans (works_dropSection h₂).turns).trans (ih h)

theorem turns_nextKind {r : Except Failure (Option Kind)} (h : s.nextKind = (r, t)) :
    s.Turns t := by
  unfold nextKind at h
  split at h
  · next hf => cases h; exact turns_finishCurrent hf
  · next s₁ hf =>
    split at h
    · cases h
      exact ((turns_finishCurrent hf).tail (.pending s₁ none)).trans (turns_enter ..)
    · exact (turns_finishCurrent hf).trans (turns_nextLabel h)

theorem turns_readFirstLabel {r : Except Failure Unit} (h : s.readFirstLabel = (r, t)) :
    s.Turns t := by
  unfold readFirstLabel at h
  split at h
  · next hl => cases h; exact (works_readLabel hl).turns
  · next hl => cases h; exact (works_readLabel hl).turns.tail (.exhausted _)
  · next hl =>
    have hlabel := (works_readLabel hl).turns
    split at h
    · exact hlabel.trans (turns_readBuild h)
    · cases h; exact hlabel.tail (.pending ..)
    · exact hlabel.trans (works_dropSection h).turns
    · cases h; exact hlabel

theorem turns_begin {r : Except Failure Unit} (h : s.begin = (r, t)) : s.Turns t := by
  unfold begin at h
  split at h
  · cases h; exact .refl
  · split at h
    · next hr => cases h; exact (works_readToken hr).turns
    · next hr =>
      have hbrace := (works_readToken hr).turns
      split at h
      · next hf => cases h; exact hbrace.trans (turns_readFirstLabel hf)
      · next hf => cases h; exact (hbrace.trans (turns_readFirstLabel hf)).trans (turns_opened _)
    · next hr => cases h; exact (works_readToken hr).turns

/-! ### What works leave alone -/

/-- What every work leaves alone. -/
structure Kept (s t : Session) : Prop where
  /-- The options. -/
  options_eq : t.options = s.options
  /-- The build. -/
  build_eq : t.build = s.build
  /-- The generation. -/
  generation_eq : t.generation = s.generation
  /-- The kind that waits. -/
  pending_eq : t.pending = s.pending
  /-- The kind at which the session stands. -/
  current_eq : t.current = s.current
  /-- Whether the last brace is read. -/
  exhausted_eq : t.exhausted = s.exhausted

theorem Work.kept (h : s.Work t) : s.Kept t := by
  cases h with
  | documentEtag etag => cases etag <;> exact ⟨rfl, rfl, rfl, rfl, rfl, rfl⟩
  | attachmentEtag etag => cases etag <;> exact ⟨rfl, rfl, rfl, rfl, rfl, rfl⟩
  | _ => exact ⟨rfl, rfl, rfl, rfl, rfl, rfl⟩

/-- A session at work stays at its kind, of the same export. -/
theorem Works.kept (h : s.Works t) : s.Kept t := by
  induction h with
  | refl => exact ⟨rfl, rfl, rfl, rfl, rfl, rfl⟩
  | tail _ hwork ih =>
    have hkept := hwork.kept
    exact ⟨hkept.options_eq.trans ih.options_eq, hkept.build_eq.trans ih.build_eq,
      hkept.generation_eq.trans ih.generation_eq, hkept.pending_eq.trans ih.pending_eq,
      hkept.current_eq.trans ih.current_eq, hkept.exhausted_eq.trans ih.exhausted_eq⟩

/-- Counting a record is no work of the session, but it leaves what work leaves. -/
theorem kept_poll {r r' : Reader} {x : Option (Except Failure Record)}
    (h : r.poll s = (x, r', t)) : s.Kept t := by
  obtain ⟨hworks, -⟩ | ⟨k, u, record, -, -, hworks, rfl⟩ := works_poll h
  · exact hworks.kept
  · obtain ⟨hoptions, hbuild, hgeneration, hpending, hcurrent, hexhausted⟩ := hworks.kept
    exact ⟨hoptions, hbuild, hgeneration, hpending, hcurrent, hexhausted⟩

/-! ### What turns leave alone -/

/-- What holds on both sides of every turn holds on both sides of any number of them. -/
theorem Turns.invariant {P : Session → Prop} (hP : ∀ {s t : Session}, s.Turn t → P s → P t)
    (h : s.Turns t) (hs : P s) : P t := by
  induction h with
  | refl => exact hs
  | tail _ hturn ih => exact hP hturn ih

theorem Work.read_eq (h : s.Work t) (k : Kind) : (t.tally.get k).read = (s.tally.get k).read := by
  have hcounts {f : Counts → Counts} (hf : ∀ c, (f c).read = c.read) (l : Kind) :
      ((s.tally.modify l f).get k).read = (s.tally.get k).read := by
    by_cases hl : k = l
    · rw [hl, Tally.get_modify_self, hf]
    · rw [Tally.get_modify_of_ne hl]
  have hwarn (u : Tally) (message : String) : (u.warn message).get k = u.get k := by
    cases k <;> rfl
  cases h with
  | skipped l n => exact hcounts (f := .addSkipped n) (fun _ => rfl) l
  | rejected l f v =>
    simp only [reject, note, hwarn]
    exact hcounts (f := .addErrored) (fun _ => rfl) l
  | warned l message => simp only [warn, note, hwarn]
  | documentEtag etag => cases etag <;> cases k <;> rfl
  | attachmentEtag etag => cases etag <;> cases k <;> rfl
  | _ => cases k <;> rfl

/-- No turn counts a record as read. -/
theorem Turns.read_eq (h : s.Turns t) (k : Kind) :
    (t.tally.get k).read = (s.tally.get k).read := by
  refine h.invariant (P := fun u => (u.tally.get k).read = (s.tally.get k).read) ?_ rfl
  intro u v hturn hu
  rw [← hu]
  cases hturn with
  | work hwork => exact hwork.read_eq k
  | _ => cases k <;> rfl

theorem Work.lasting {P : Cursor → Prop} (hP : Cursor.Lasting P) (h : s.Work t)
    (hs : P s.cursor) : P t.cursor := by
  cases h with
  | token => exact hP.readToken hs rfl
  | value u => exact hP.go hs rfl
  | payload size sink => exact hP.copy hs rfl
  | noted n => exact hP.note hs n
  | rejected k f v => exact hP.note hs _
  | warned k message => exact hP.note hs _
  | documentEtag etag => cases etag <;> exact hs
  | attachmentEtag etag => cases etag <;> exact hs
  | _ => exact hs

/-- Turns keep what lasts. -/
theorem Turns.lasting {P : Cursor → Prop} (hP : Cursor.Lasting P) (h : s.Turns t)
    (hs : P s.cursor) : P t.cursor := by
  refine h.invariant (P := fun u => P u.cursor) ?_ hs
  intro u v hturn hu
  cases hturn with
  | work hwork => exact hwork.lasting hP hu
  | _ => exact hu

/-- They do not lose the place in the bytes. -/
theorem Turns.placed {data : List UInt8} (h : s.Turns t) (hs : s.cursor.Placed data) :
    t.cursor.Placed data := h.lasting (Cursor.lasting_placed data) hs

/-- Turns leave the options alone, and so the depth of elements. -/
theorem Turns.maxDepth_eq (h : s.Turns t) (hs : s.assembler.maxDepth = s.options.maxDepth) :
    t.assembler.maxDepth = t.options.maxDepth := by
  refine h.invariant (P := fun u => u.assembler.maxDepth = u.options.maxDepth) ?_ hs
  intro u v hturn hu
  cases hturn with
  | work hwork =>
    cases hwork with
    | value w => exact (Assembler.maxDepth_go ..).trans hu
    | documentEtag etag => cases etag <;> exact hu
    | attachmentEtag etag => cases etag <;> exact hu
    | _ => exact hu
  | _ => exact hu

end Session

end ExportStream

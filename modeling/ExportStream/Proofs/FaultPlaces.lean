import ExportStream.Proofs.Rounds
import Mathlib.Tactic.SplitIfs
/-!
# Where faults of form are found

A fault of form is found by a session at the place where it stands, and it stays there: whatever
operation fails with it, the fault names the position behind the operation, and shows what the
window shows then (`Failure.FoundAt`). There is one lemma for each operation, in the order in which
the operations use each other.

Sinks and handlers may fail as they like. Those are plain that do not make faults of form up
(`Sinks.Plain`, `Handler.Plain`). With such ones, whatever use of a session fails with a fault of
form, the fault is found where the session stands (**`Session.Failing.foundAt`**).
-/

namespace ExportStream

/-! ### Faults of form -/

namespace Failure

/-- If this is a fault of form it is found at the cursor: it names the position, and shows the
window. -/
def FoundAt (f : Failure) (c : Cursor) : Prop :=
  ∀ cause p text, f.cause = .stream (.malformed cause p text) →
    p = some c.position ∧ text = some c.source.window.recent

/-- This is no fault of form. -/
def Plain (f : Failure) : Prop := ∀ cause p text, f.cause ≠ .stream (.malformed cause p text)

variable {f : Failure} {c d : Cursor}

theorem Plain.foundAt (h : f.Plain) (c : Cursor) : f.FoundAt c :=
  fun cause p text hf => absurd hf (h cause p text)

theorem FoundAt.within (h : f.FoundAt c) (context : String) : (f.within context).FoundAt c :=
  h

theorem Plain.within (h : f.Plain) (context : String) : (f.within context).Plain := h

theorem plain_ofDevice (g : DeviceFault) : (ofDevice g).Plain := by
  intro cause p text hf
  cases hf

theorem plain_general (status : Status) (message : String) : (general status message).Plain := by
  intro cause p text hf
  cases hf

theorem plain_ofSetting (g : SettingFault) : (ofSetting g).Plain := by
  intro cause p text hf
  cases hf

theorem plain_ended (shortage : Shortage) (p : Nat) (expected got : Option Nat) :
    (ofStream (.ended shortage p expected got)).Plain := by
  intro cause q text hf
  cases hf

theorem plain_unknownLabel (label : String) (p : Nat) :
    (ofStream (.unknownLabel label p)).Plain := by
  intro cause q text hf
  cases hf

theorem foundAt_locate (c : Cursor) (g : StreamFault) : (ofStream (c.locate g)).FoundAt c := by
  intro cause p text hf
  cases g <;> cases hf
  exact ⟨rfl, rfl⟩

theorem foundAt_malformed (c : Cursor) (cause : Malformation) : (c.malformed cause).FoundAt c :=
  foundAt_locate c _

end Failure

/-- If the outcome is a fault of form it is found at the cursor. -/
def Cursor.Finds {α : Type} (c : Cursor) (r : Except Failure α) : Prop :=
  ∀ f, r = .error f → f.FoundAt c

namespace Cursor

variable {α β : Type} {c d : Cursor} {f : Failure}

theorem finds_ok (a : α) : c.Finds (.ok a : Except Failure α) := by
  intro f hf
  cases hf

theorem finds_error (h : f.FoundAt c) : c.Finds (.error f : Except Failure α) := by
  intro g hg
  cases hg
  exact h

theorem finds_plain (h : f.Plain) : c.Finds (.error f : Except Failure α) :=
  finds_error (h.foundAt c)

theorem Finds.foundAt (h : c.Finds (.error f : Except Failure α)) : f.FoundAt c := h f rfl

/-- What would have been answered does not matter. -/
theorem Finds.cast (h : c.Finds (.error f : Except Failure α)) :
    c.Finds (.error f : Except Failure β) :=
  finds_error h.foundAt

/-! ### Tokens, values and payloads -/

theorem finds_refill {r : Except Failure Nat} (h : c.refill = (r, d)) : d.Finds r := by
  unfold refill at h
  split at h
  · cases h
    exact finds_ok _
  · cases h
    exact finds_plain ((Failure.plain_ofDevice _).within _)

theorem finds_readToken {r : Except Failure Token} (h : c.readToken = (r, d)) : d.Finds r := by
  fun_induction readToken c with
  | case1 c t rest hs =>
    cases h
    exact finds_ok _
  | case2 c g hs =>
    cases h
    exact finds_error (Failure.foundAt_malformed c _)
  | case3 c s hs g c' hr =>
    cases h
    exact (finds_refill hr).cast
  | case4 c s hs c' hr =>
    cases h
    exact finds_plain (Failure.plain_ended _ _ _ _)
  | case5 c s hs n c' hr ih => exact ih h

theorem finds_readRaw {n : Nat} {r : Except Failure (List UInt8)} (h : c.readRaw n = (r, d)) :
    d.Finds r := by
  unfold readRaw at h
  split_ifs at h
  · cases h
    exact finds_ok _
  · rcases hr : c.refill with ⟨f | k, c₁⟩ <;> rw [hr] at h <;> cases h
    · exact (finds_refill hr).cast
    · exact finds_ok _
  · cases h
    exact finds_ok _

end Cursor

open Cursor

theorem Copying.finds_move {w w' : Copying} {size left : Nat} {moved : List (List UInt8)}
    {r : Except Failure (List (List UInt8))} (h : w.move size left moved = (r, w')) :
    w'.cursor.Finds r := by
  fun_induction move w size left moved with
  | case1 w moved =>
    cases h
    exact finds_ok _
  | case2 w left moved hleft f cursor hr =>
    cases h
    exact (finds_readRaw hr).cast
  | case3 w left moved hleft cursor hr =>
    obtain ⟨rfl, hw⟩ := Prod.mk.inj h
    rw [← hw]
    exact finds_plain (Failure.plain_ended _ _ _ _)
  | case4 w left moved hleft b bs cursor hr f sink hw =>
    cases h
    exact finds_plain ((Failure.plain_ofDevice _).within _)
  | case5 w left moved hleft b bs cursor hr sink hw copier ih => exact ih h

theorem Copying.finds_copy {w w' : Copying} {size : Nat} {r : Except Failure String}
    (h : w.copy size = (r, w')) : w'.cursor.Finds r := by
  unfold copy at h
  split at h
  · next hm =>
    cases h
    exact (finds_move hm).cast
  · split at h
    · cases h
      exact finds_plain ((Failure.plain_ofDevice _).within _)
    · cases h
      exact finds_ok _

theorem Assembler.finds_go {a a' : Assembler} {t : Token} {c d : Cursor} {r : Except Failure Json}
    (h : a.go t c = (r, a', d)) : d.Finds r := by
  fun_induction go a t c with
  | case1 a t c v ha =>
    cases h
    exact finds_ok _
  | case2 a t c f frames ha =>
    cases h
    exact finds_error (Failure.foundAt_locate _ _)
  | case3 a t c frames ha u d' hr ih => exact ih h
  | case4 a t c frames ha f d' hr =>
    cases h
    exact (finds_readToken hr).cast

/-! ### Sessions -/

namespace Session

variable {s t : Session} {f : Failure}

theorem finds_readToken {r : Except Failure Token} (h : s.readToken = (r, t)) :
    t.cursor.Finds r := by
  unfold readToken at h
  rcases hr : s.cursor.readToken with ⟨r', c⟩
  rw [hr] at h
  cases h
  exact Cursor.finds_readToken hr

theorem finds_readValue {u : Token} {r : Except Failure Json} (h : s.readValue u = (r, t)) :
    t.cursor.Finds r := by
  unfold readValue Assembler.build at h
  rcases hg : s.assembler.reset.go u s.cursor with ⟨r', a, c⟩
  rw [hg] at h
  cases h
  exact Assembler.finds_go hg

theorem finds_copyPayload {size : Nat} {sink sink' : Sink} {r : Except Failure String}
    (h : s.copyPayload size sink = (r, sink', t)) : t.cursor.Finds r := by
  unfold copyPayload at h
  rcases hc : ({ copier := s.copier, cursor := s.cursor, sink } : Copying).copy size with ⟨r', w⟩
  rw [hc] at h
  cases h
  exact Copying.finds_copy hc

/-! ### Elements -/

theorem finds_openArray {r : Except Failure Unit} (h : s.openArray = (r, t)) :
    t.cursor.Finds r := by
  unfold openArray at h
  split at h
  · next hr =>
    cases h
    exact (finds_readToken hr).cast
  · cases h
    exact finds_ok _
  · cases h
    exact finds_error (Failure.foundAt_malformed _ _)

theorem finds_readElement {r : Except Failure (Option Json)} (h : s.readElement = (r, t)) :
    t.cursor.Finds r := by
  unfold readElement at h
  split at h
  · next hr =>
    cases h
    exact (finds_readToken hr).cast
  · cases h
    exact finds_ok _
  · split at h
    · next hv =>
      cases h
      exact (finds_readValue hv).cast
    · cases h
      exact finds_ok _

theorem finds_nextElement {r : Except Failure (Option Json)} (h : s.nextElement = (r, t)) :
    t.cursor.Finds r := by
  unfold nextElement at h
  split at h
  · cases h
    exact finds_ok _
  · exact finds_readElement h
  · split at h
    · next ho =>
      cases h
      exact (finds_openArray ho).cast
    · exact finds_readElement h

theorem finds_payloadSize (s : Session) (v : Json) : s.cursor.Finds (s.payloadSize v) := by
  unfold payloadSize
  split
  · exact finds_ok _
  · exact finds_error (Failure.foundAt_malformed _ _)

theorem finds_dropBytes {size : Nat} {r : Except Failure Unit} (h : s.dropBytes size = (r, t)) :
    t.cursor.Finds r := by
  unfold dropBytes at h
  split at h
  · next hc =>
    cases h
    exact (finds_copyPayload hc).cast
  · cases h
    exact finds_ok _

theorem finds_dropPayload {v : Json} {r : Except Failure Unit} (h : s.dropPayload v = (r, t)) :
    t.cursor.Finds r := by
  unfold dropPayload at h
  split at h
  · split at h
    · next hp =>
      have hsize := s.finds_payloadSize v
      rw [hp] at hsize
      cases h
      exact hsize.cast
    · exact finds_dropBytes h
  · cases h
    exact finds_ok _

theorem finds_dropElements {n m : Nat} {r : Except Failure Unit}
    (h : s.dropElements n = (r, m, t)) : t.cursor.Finds r := by
  fun_induction dropElements s n with
  | case1 s n f s₁ h₁ =>
    cases h
    exact (finds_nextElement h₁).cast
  | case2 s n s₁ h₁ =>
    cases h
    exact finds_ok _
  | case3 s n v s₁ h₁ f s₂ h₂ =>
    cases h
    exact (finds_dropPayload h₂).cast
  | case4 s n v s₁ h₁ s₂ h₂ ih => exact ih h

theorem finds_skipKind {kind : Option Kind} {n : Nat} {r : Except Failure Unit}
    (h : s.skipKind kind = (r, n, t)) : t.cursor.Finds r := by
  unfold skipKind at h
  split at h
  · cases h
    exact finds_ok _
  · split_ifs at h
    · split at h
      · next hd =>
        cases h
        exact (finds_dropElements hd).cast
      · cases h
        exact finds_ok _
    · cases h
      exact finds_plain (Failure.plain_general _ _)

theorem finds_finishCurrent {r : Except Failure Unit} (h : s.finishCurrent = (r, t)) :
    t.cursor.Finds r := by
  unfold finishCurrent at h
  split at h
  · cases h
    exact finds_ok _
  · split_ifs at h
    · cases h
      exact finds_ok _
    · split at h
      · next hd =>
        cases h
        exact (finds_dropElements hd).cast
      · cases h
        exact finds_ok _

/-! ### The envelope -/

theorem finds_readLabel {r : Except Failure (Option String)} (h : s.readLabel = (r, t)) :
    t.cursor.Finds r := by
  unfold readLabel at h
  split at h
  · next hr =>
    cases h
    exact (finds_readToken hr).cast
  · cases h
    exact finds_ok _
  · cases h
    exact finds_ok _
  · cases h
    exact finds_error (Failure.foundAt_malformed _ _)

theorem finds_readBuild {r : Except Failure Unit} (h : s.readBuild = (r, t)) :
    t.cursor.Finds r := by
  unfold readBuild at h
  split at h
  · next hr =>
    cases h
    exact (finds_readToken hr).cast
  · cases h
    exact finds_ok _
  · cases h
    exact finds_error (Failure.foundAt_malformed _ _)

theorem finds_dropValue {label : String} {depth : Nat} {r : Except Failure Unit}
    (h : s.dropValue label depth = (r, t)) : t.cursor.Finds r := by
  fun_induction dropValue s label depth with
  | case1 s depth f s₁ h₁ =>
    cases h
    exact (finds_readToken h₁).cast
  | case2 s depth u s₁ h₁ hd =>
    cases h
    exact finds_error (Failure.foundAt_malformed _ _)
  | case3 s depth u s₁ h₁ hd =>
    cases h
    exact finds_ok _
  | case4 s depth u s₁ h₁ d hd ih => exact ih h

theorem finds_dropSection {label : String} {r : Except Failure Unit}
    (h : s.dropSection label = (r, t)) : t.cursor.Finds r := by
  unfold dropSection at h
  split at h
  · next hd =>
    cases h
    exact finds_dropValue hd
  · cases h
    exact finds_ok _

theorem finds_nextLabel {r : Except Failure (Option Kind)} (h : s.nextLabel = (r, t)) :
    t.cursor.Finds r := by
  fun_induction nextLabel s with
  | case1 =>
    cases h
    exact finds_ok _
  | case2 s _ f s₁ h₁ =>
    cases h
    exact (finds_readLabel h₁).cast
  | case3 s _ s₁ h₁ =>
    cases h
    exact finds_ok _
  | case4 s _ label s₁ h₁ k _ =>
    cases h
    exact finds_ok _
  | case5 s _ label s₁ h₁ _ =>
    cases h
    exact finds_plain (Failure.plain_unknownLabel _ _)
  | case6 s _ label s₁ h₁ _ f s₂ h₂ =>
    cases h
    exact (finds_readBuild h₂).cast
  | case7 s _ label s₁ h₁ _ s₂ h₂ ih => exact ih h
  | case8 s _ label s₁ h₁ _ f s₂ h₂ =>
    cases h
    exact (finds_dropSection h₂).cast
  | case9 s _ label s₁ h₁ _ s₂ h₂ ih => exact ih h

theorem finds_nextKind {r : Except Failure (Option Kind)} (h : s.nextKind = (r, t)) :
    t.cursor.Finds r := by
  unfold nextKind at h
  split at h
  · next hf =>
    cases h
    exact (finds_finishCurrent hf).cast
  · split at h
    · cases h
      exact finds_ok _
    · exact finds_nextLabel h

theorem finds_readFirstLabel {r : Except Failure Unit} (h : s.readFirstLabel = (r, t)) :
    t.cursor.Finds r := by
  unfold readFirstLabel at h
  split at h
  · next hl =>
    cases h
    exact (finds_readLabel hl).cast
  · cases h
    exact finds_ok _
  · split at h
    · exact finds_readBuild h
    · cases h
      exact finds_ok _
    · exact finds_dropSection h
    · cases h
      exact finds_plain (Failure.plain_unknownLabel _ _)

theorem finds_begin {r : Except Failure Unit} (h : s.begin = (r, t)) : t.cursor.Finds r := by
  unfold begin at h
  split at h
  · cases h
    exact finds_plain (Failure.plain_ofSetting _)
  · split at h
    · next hr =>
      cases h
      exact (finds_readToken hr).cast
    · split at h
      · next hf =>
        cases h
        exact finds_readFirstLabel hf
      · cases h
        exact finds_ok _
    · cases h
      exact finds_error (Failure.foundAt_malformed _ _)

end Session

/-! ### Readers -/

/-- A maker of sinks makes no faults of form up. -/
def Sinks.Plain (s : Sinks) : Prop := ∀ n tag f, s.make n tag = .error f → f.Plain

namespace Staging

variable {g g' : Staging} {s t : Session} {k : Kind} {v : Json} {r : Except Failure Decoded}

theorem finds_stageNamed {size : Nat} {hash tag : String} (hg : g.sinks.Plain)
    (h : g.stageNamed k v size hash tag s = (r, g', t)) : t.cursor.Finds r ∧ g'.sinks.Plain := by
  unfold stageNamed Sinks.create at h
  split at h
  · next hm =>
    cases h
    obtain ⟨hmake, rfl⟩ := Prod.mk.inj hm
    exact ⟨finds_plain (hg _ _ _ hmake), hg⟩
  · next hm =>
    obtain ⟨-, rfl⟩ := Prod.mk.inj hm
    split at h
    · next hc =>
      cases h
      exact ⟨(Session.finds_copyPayload hc).cast, hg⟩
    · cases h
      exact ⟨finds_ok _, hg⟩

theorem finds_stage (hg : g.sinks.Plain) (h : g.stage k v s = (r, g', t)) :
    t.cursor.Finds r ∧ g'.sinks.Plain := by
  unfold stage at h
  split at h
  · next hp =>
    have hsize := s.finds_payloadSize v
    rw [hp] at hsize
    cases h
    exact ⟨hsize.cast, hg⟩
  · split at h
    · exact finds_stageNamed hg h
    · split at h
      · next hd =>
        cases h
        exact ⟨(Session.finds_dropBytes hd).cast, hg⟩
      · cases h
        exact ⟨finds_ok _, hg⟩

theorem sinks_drop (g : Staging) (k : Kind) (reason : String) (s : Session) :
    (g.drop k reason s).1.sinks = g.sinks := by
  unfold drop
  split <;> rfl

theorem finds_decodeDocument (hg : g.sinks.Plain) (h : g.decodeDocument k v s = (r, g', t)) :
    t.cursor.Finds r ∧ g'.sinks.Plain := by
  unfold decodeDocument at h
  split_ifs at h
  · exact finds_stage hg h
  · split at h
    · cases h
      exact ⟨finds_ok _, hg⟩
    · have hsinks := sinks_drop g k "their host document was rejected" s
      rcases hd : g.drop k "their host document was rejected" s with ⟨g₁, s₁⟩
      rw [hd] at h hsinks
      cases h
      exact ⟨finds_ok _, hsinks ▸ hg⟩

theorem plain_store {sink : Sink} {payload : List UInt8} {f : Failure}
    (h : store sink payload = .error f) : f.Plain := by
  unfold store at h
  split at h
  · cases h
    exact Failure.plain_ofDevice _
  · split at h
    · cases h
      exact Failure.plain_ofDevice _
    · cases h

theorem finds_decodeLegacyAttachment (hg : g.sinks.Plain)
    (h : g.decodeLegacyAttachment v s = (r, g', t)) : t.cursor.Finds r ∧ g'.sinks.Plain := by
  unfold decodeLegacyAttachment Sinks.create at h
  split at h
  · cases h
    exact ⟨finds_ok _, hg⟩
  · simp only at h
    split at h
    · cases h
      exact ⟨finds_ok _, hg⟩
    · split at h
      · next hm =>
        cases h
        obtain ⟨hmake, rfl⟩ := Prod.mk.inj hm
        exact ⟨finds_plain (hg _ _ _ hmake), hg⟩
      · next hm =>
        obtain ⟨-, rfl⟩ := Prod.mk.inj hm
        split at h
        · next hstore =>
          cases h
          exact ⟨finds_plain (plain_store hstore), hg⟩
        · cases h
          exact ⟨finds_ok _, hg⟩

theorem finds_decode {form : Kind} (hg : g.sinks.Plain) (h : g.decode form k v s = (r, g', t)) :
    t.cursor.Finds r ∧ g'.sinks.Plain := by
  unfold decode at h
  split at h
  all_goals
    first
    | exact finds_decodeDocument hg h
    | exact finds_decodeLegacyAttachment hg h
    | cases h
      exact ⟨finds_ok _, hg⟩

end Staging

namespace Reader

variable {s t : Session}

theorem finds_pull {g g' : Staging} {form k : Kind} {r : Except Failure (Option Record)}
    (hg : g.sinks.Plain) (h : pull g form k s = (r, g', t)) :
    t.cursor.Finds r ∧ g'.sinks.Plain := by
  induction g, s using element_induction form k with
  | step g s ih =>
    rcases hn : s.nextElement with ⟨f | v, s₁⟩
    · rw [pull_eq, hn] at h
      cases h
      exact ⟨(Session.finds_nextElement hn).cast, hg⟩
    · cases v with
      | none =>
        rw [pull_eq, hn] at h
        have hsinks : (g.finish form k s₁).1.sinks = g.sinks := by
          unfold Staging.finish
          split
          · exact Staging.sinks_drop ..
          · rfl
        rcases hf : g.finish form k s₁ with ⟨g₁, s₂⟩
        rw [hf] at hsinks
        simp only [hf] at h
        cases h
        exact ⟨finds_ok _, hsinks ▸ hg⟩
      | some v =>
        rcases hd : g.decode form k v s₁ with ⟨f | d, g₁, s₂⟩
        · obtain ⟨hfinds, hg₁⟩ := Staging.finds_decode hg hd
          rw [pull_eq, hn] at h
          simp only [hd] at h
          cases h
          exact ⟨hfinds.cast, hg₁⟩
        · obtain ⟨-, hg₁⟩ := Staging.finds_decode hg hd
          rw [pull_of_decode hn hd] at h
          cases d with
          | record x =>
            cases h
            exact ⟨finds_ok _, hg₁⟩
          | _ => exact ih v s₁ _ g₁ s₂ hn hd hg₁ h

theorem finds_next {r r' : Reader} {x : Except Failure (Option Record)}
    (hr : r.staging.sinks.Plain) (h : r.next s = (x, r', t)) :
    t.cursor.Finds x ∧ r'.staging.sinks.Plain := by
  unfold next at h
  split at h
  · cases h
    exact ⟨finds_ok _, hr⟩
  · split_ifs at h
    · split at h
      next hp =>
        cases h
        exact finds_pull hr hp
    · cases h
      exact ⟨finds_plain (Failure.plain_general _ _), hr⟩

theorem finds_poll {r r' : Reader} {x : Option (Except Failure Record)}
    (hr : r.staging.sinks.Plain) (h : r.poll s = (x, r', t)) :
    (∀ y, x = some y → t.cursor.Finds y) ∧ r'.staging.sinks.Plain := by
  unfold poll at h
  split_ifs at h
  · cases h
    exact ⟨by simp, hr⟩
  · rcases hn : r.next s with ⟨f | y, r₁, s₁⟩
    all_goals
      obtain ⟨hfinds, hr₁⟩ := finds_next hr hn
      rw [hn] at h
    · simp only [Prod.mk.injEq] at h
      obtain ⟨rfl, rfl, rfl⟩ := h
      refine ⟨?_, hr₁⟩
      intro y hy
      rw [← Option.some.inj hy]
      have hwithin := hfinds.foundAt.within ("Reading " ++ Kind.nameOrNone r₁.kind)
      exact finds_error hwithin
    · cases y with
      | none =>
        simp only [Prod.mk.injEq] at h
        obtain ⟨rfl, rfl, rfl⟩ := h
        exact ⟨by simp, hr₁⟩
      | some y =>
        simp only [Prod.mk.injEq] at h
        obtain ⟨rfl, rfl, rfl⟩ := h
        refine ⟨?_, hr₁⟩
        intro z hz
        rw [← Option.some.inj hz]
        exact finds_ok y

end Reader

/-! ### Imports -/

/-- A handler makes no faults of form up. -/
structure Handler.Plain {σ : Type} (h : Handler σ) : Prop where
  /-- Not when it is told of an event. -/
  handle : ∀ e a f, (h.handle e a).1 = .error f → f.Plain
  /-- Not in the end. -/
  finalize : ∀ a f, (h.finalize a).1 = .error f → f.Plain

namespace Import

variable {σ : Type} {i j : Import σ} {h : Handler σ} {k : Kind} {r : Except Failure Unit}

theorem finds_tell (hh : h.Plain) {e : Event} (ht : i.tell h e = (r, j)) :
    j.session.cursor.Finds r ∧ j.sinks = i.sinks := by
  unfold tell at ht
  rcases he : h.handle e i.state with ⟨r', state⟩
  rw [he] at ht
  cases ht
  refine ⟨?_, rfl⟩
  intro f hf
  exact (hh.handle e i.state f (by rw [he, hf])).foundAt _

theorem finds_deliver (hh : h.Plain) {reader : Reader} (hr : reader.staging.sinks.Plain)
    (hd : i.deliver h k reader = (r, j)) : j.session.cursor.Finds r ∧ j.sinks.Plain := by
  fun_induction deliver i h k reader with
  | case1 i r₀ r₁ s₁ h₁ =>
    cases hd
    exact ⟨finds_ok _, (Reader.finds_poll hr h₁).2⟩
  | case2 i r₀ f r₁ s₁ h₁ =>
    cases hd
    obtain ⟨hfinds, hr₁⟩ := Reader.finds_poll hr h₁
    exact ⟨(hfinds _ rfl).cast, hr₁⟩
  | case3 i r₀ x r₁ s₁ h₁ f state h₂ =>
    cases hd
    have hplain := hh.handle _ _ f (congrArg Prod.fst h₂)
    exact ⟨finds_plain hplain, (Reader.finds_poll hr h₁).2⟩
  | case4 i r₀ x r₁ s₁ h₁ state h₂ ih => exact ih (Reader.finds_poll hr h₁).2 hd

theorem finds_takeKind (hh : h.Plain) (hi : i.sinks.Plain) (ht : i.takeKind h k = (r, j)) :
    j.session.cursor.Finds r ∧ j.sinks.Plain := by
  unfold takeKind at ht
  split_ifs at ht
  · exact finds_deliver hh hi ht
  · rcases hs : i.session.skipKind (some k) with ⟨r₁, n, s₁⟩
    rw [hs] at ht
    cases ht
    exact ⟨Session.finds_skipKind hs, hi⟩

theorem finds_takeKinds (hh : h.Plain) (hi : i.sinks.Plain) (ht : i.takeKinds h = (r, j)) :
    j.session.cursor.Finds r ∧ j.sinks.Plain := by
  fun_induction takeKinds i h with
  | case1 i f s₁ h₁ =>
    cases ht
    exact ⟨(Session.finds_nextKind h₁).cast, hi⟩
  | case2 i s₁ h₁ =>
    cases ht
    exact ⟨finds_ok _, hi⟩
  | case3 i k s₁ h₁ f i₁ h₂ =>
    cases ht
    exact finds_takeKind (i := { i with session := s₁ }) hh hi h₂
  | case4 i k s₁ h₁ i₁ h₂ ih =>
    exact ih (finds_takeKind (i := { i with session := s₁ }) hh hi h₂).2 ht

theorem finds_drive (hh : h.Plain) (hi : i.sinks.Plain) (hd : i.drive h = (r, j)) :
    j.session.cursor.Finds r := by
  unfold drive at hd
  split at hd
  · next ht =>
    cases hd
    exact (finds_tell hh ht).1
  · next ht =>
    obtain ⟨-, hsinks⟩ := finds_tell hh ht
    split at hd
    · next hk =>
      cases hd
      exact (finds_takeKinds hh (hsinks ▸ hi) hk).1
    · split at hd
      · next he =>
        cases hd
        exact (finds_tell hh he).1
      · split at hd
        · next hf =>
          cases hd
          exact finds_plain (hh.finalize _ _ (congrArg Prod.fst hf))
        · cases hd
          exact finds_ok _

end Import

/-! ### Uses that fail -/

/-- A use of a session that fails: with what, and where that leaves the session. Its sinks and its
handler are plain. -/
inductive Session.Failing : Session → Failure → Session → Prop where
  /-- Going to the next kind. -/
  | nextKind {s t : Session} {f : Failure} : s.nextKind = (.error f, t) → Failing s f t
  /-- Passing over what is left of one. -/
  | skipKind {s t : Session} {kind : Option Kind} {n : Nat} {f : Failure} :
      s.skipKind kind = (.error f, n, t) → Failing s f t
  /-- Polling a reader. -/
  | poll {s t : Session} {r r' : Reader} {f : Failure} :
      r.staging.sinks.Plain → r.poll s = (some (.error f), r', t) → Failing s f t
  /-- Giving all of the export to a handler. -/
  | drive {σ : Type} {i j : Import σ} {h : Handler σ} {f : Failure} :
      h.Plain → i.sinks.Plain → i.drive h = (.error f, j) → Failing i.session f j.session

/-- **Faults of form are found where the session stands**, whatever use of it fails: the fault names
the position of the session, and shows what its window shows. -/
theorem Session.Failing.foundAt {s t : Session} {f : Failure} (h : s.Failing f t) :
    f.FoundAt t.cursor := by
  cases h with
  | nextKind h => exact (finds_nextKind h).foundAt
  | skipKind h => exact (finds_skipKind h).foundAt
  | poll hsinks h => exact ((Reader.finds_poll hsinks h).1 _ rfl).foundAt
  | drive hh hsinks h => exact (Import.finds_drive hh hsinks h).foundAt

end ExportStream

import ExportStream.Proofs.Grammar
import ExportStream.Proofs.Values
import Mathlib.Tactic.SplitIfs
/-!
# Tokens between brackets

Whoever only counts brackets, without a look at what kind they are, comes to the end of a value when
the last of them is closed (`Session.Evened`), and until then stands inside of some
(`Session.Inside`). The tokens that derive a value are counted to their end and no further
(`Session.Evened.of_derives`). A session counts so when it passes over a value, and there are but
three ways in which that ends (`Session.ValueEnd`).
-/

namespace ExportStream

/-- Does the token close an array or an object? -/
def Token.closes : Token → Bool
  | .endArray | .endObject => true
  | _ => false

namespace Session

variable {s t : Session} {label : String} {depth d e : Nat} {ts us : List Token}

/-! ### Tokens between brackets -/

/-- With so many brackets open the tokens close the last one at their end, and not before; tokens
that are no brackets do so where none is open. -/
inductive Evened : Nat → List Token → Prop where
  /-- The last token. -/
  | last {depth : Nat} {u : Token} : depthAfter depth u = some 0 → Evened depth [u]
  /-- A token behind which brackets are open. -/
  | more {depth d : Nat} {u : Token} {us : List Token} : depthAfter depth u = some (d + 1) →
      Evened (d + 1) us → Evened depth (u :: us)

/-- With so many brackets open the tokens leave so many open, and some are open behind each. -/
inductive Inside : Nat → List Token → Nat → Prop where
  /-- There are none. -/
  | nil (depth : Nat) : Inside depth [] depth
  /-- A token behind which brackets are open. -/
  | cons {depth d e : Nat} {u : Token} {us : List Token} : depthAfter depth u = some (d + 1) →
      Inside (d + 1) us e → Inside depth (u :: us) e

theorem Inside.append (h : Inside depth ts d) (h' : Inside d us e) : Inside depth (ts ++ us) e := by
  induction h with
  | nil => exact h'
  | cons hu _ ih => exact .cons hu (ih h')

/-- A token that closes the last bracket ends them. -/
theorem Inside.evened (h : Inside depth ts d) {u : Token} (hu : depthAfter d u = some 0) :
    Evened depth (ts ++ [u]) := by
  induction h with
  | nil => exact .last hu
  | cons hv _ ih => exact .more hv (ih hu)

/-- Brackets that are open all the while count for nothing. -/
theorem depthAfter_add {u : Token} (h : depthAfter depth u = some d) (n : Nat) :
    depthAfter (depth + n) u = some (d + n) := by
  cases u with
  | startArray | startObject =>
    cases h
    exact congrArg some (by omega)
  | endArray | endObject =>
    simp only [depthAfter] at h ⊢
    split_ifs at h with hzero
    cases h
    rw [if_neg (by omega)]
    exact congrArg some (by omega)
  | _ =>
    cases h
    rfl

/-- Inside of other brackets the tokens are inside all the while, and leave these open. -/
theorem Evened.inside (h : Evened depth ts) (n : Nat) : Inside (depth + n + 1) ts (n + 1) := by
  induction h with
  | last hu =>
    refine .cons (d := n) ?_ (.nil _)
    rw [Nat.add_assoc, depthAfter_add hu, Nat.zero_add]
  | more hu _ ih =>
    refine .cons ?_ ih
    rw [Nat.add_assoc, depthAfter_add hu, ← Nat.add_assoc]

/-- The tokens that complete a value close the last of its brackets at their end. -/
theorem Evened.of_completes {maxDepth : Nat} {frames : List Frame} {v : Json}
    (h : Assembly.Completes maxDepth (.more frames) ts v) : Evened frames.length ts := by
  induction ts generalizing frames with
  | nil => cases h
  | cons u us ih =>
    cases h with
    | more h =>
      cases haccept : Assembly.accept maxDepth frames u with
      | done w =>
        rw [haccept] at h
        cases h
        exact .last (Assembly.depthAfter_of_done haccept)
      | more frames' =>
        obtain ⟨hdepth, hopen⟩ := Assembly.depthAfter_of_more haccept
        obtain ⟨frame, outer, rfl⟩ := List.exists_cons_of_ne_nil hopen
        rw [haccept] at h
        exact .more hdepth (ih h)
      | refused f frames' =>
        rw [haccept] at h
        cases h

theorem Evened.of_derives {v : Json} (h : Json.Derives depth ts v) : Evened 0 ts :=
  .of_completes (Assembly.completes_iff_derives.mpr h)

/-! ### Where the count ends -/

theorem depthAfter_eq_none_iff {u : Token} :
    depthAfter depth u = none ↔ depth = 0 ∧ u.closes = true := by
  cases u <;> simp [depthAfter, Token.closes]

/-- How passing over a value from the cursor `c` ends, with so many brackets open: with the outcome
`r`, at the cursor `e`. -/
inductive ValueEnd (label : String) (depth : Nat) (c : Cursor) :
    Except Failure Unit → Cursor → Prop where
  /-- At the end of the value. -/
  | even {us : List Token} {e : Cursor} : c.Gives us e → Evened depth us →
      ValueEnd label depth c (.ok ()) e
  /-- At a bracket that closes while none is open. -/
  | unbalanced {u : Token} {e : Cursor} : depth = 0 → c.readToken = (.ok u, e) → u.closes = true →
      ValueEnd label depth c (.error (e.malformed (.unbalanced label))) e
  /-- Where the stream fails before the end of the value. -/
  | cut {us : List Token} {n : Nat} {d e : Cursor} {f : Failure} : c.Gives us d →
      Inside depth us n → d.readToken = (.error f, e) → ValueEnd label depth c (.error f) e

/-- A token behind which brackets are open leaves the end where it is. -/
theorem ValueEnd.more {d : Nat} {u : Token} {c c' e : Cursor} {r : Except Failure Unit}
    (hread : c.readToken = (.ok u, c')) (hdepth : depthAfter depth u = some (d + 1))
    (h : ValueEnd label (d + 1) c' r e) : ValueEnd label depth c r e := by
  cases h with
  | even hgives heven => exact .even (.cons hread hgives) (.more hdepth heven)
  | unbalanced hzero => cases hzero
  | cut hgives hinside hfail => exact .cut (.cons hread hgives) (.cons hdepth hinside) hfail

theorem readToken_eq_iff {r : Except Failure Token} :
    s.readToken = (r, t) ↔ ∃ c, s.cursor.readToken = (r, c) ∧ t = { s with cursor := c } := by
  unfold readToken
  constructor
  · intro h
    cases h
    exact ⟨_, rfl, rfl⟩
  · rintro ⟨c, hread, rfl⟩
    rw [hread]

theorem exists_valueEnd (s : Session) (label : String) (depth : Nat) :
    ∃ r c, ValueEnd label depth s.cursor r c ∧
      s.dropValue label depth = (r, { s with cursor := c }) := by
  fun_induction dropValue s label depth with
  | case1 s depth f s₁ hr =>
    obtain ⟨c, hread, rfl⟩ := readToken_eq_iff.mp hr
    exact ⟨_, c, .cut (.nil _) (.nil _) hread, rfl⟩
  | case2 s depth u s₁ hr hd =>
    obtain ⟨c, hread, rfl⟩ := readToken_eq_iff.mp hr
    obtain ⟨hzero, hcloses⟩ := depthAfter_eq_none_iff.mp hd
    exact ⟨_, c, .unbalanced hzero hread hcloses, rfl⟩
  | case3 s depth u s₁ hr hd =>
    obtain ⟨c, hread, rfl⟩ := readToken_eq_iff.mp hr
    exact ⟨_, c, .even (.cons hread (.nil _)) (.last hd), rfl⟩
  | case4 s depth u s₁ hr d hd ih =>
    obtain ⟨c, hread, rfl⟩ := readToken_eq_iff.mp hr
    obtain ⟨r, c', hend, hdrop⟩ := ih
    exact ⟨r, c', hend.more hread hd, hdrop⟩

/-- The session comes to the end of the value at the last bracket. -/
theorem dropValue_of_evened (heven : Evened depth ts) {c : Cursor} (h : s.cursor.Gives ts c) :
    s.dropValue label depth = (.ok (), { s with cursor := c }) := by
  induction heven generalizing s with
  | @last depth u hd =>
    cases h with
    | @cons _ c₁ _ _ _ hread hrest =>
      cases hrest
      rw [dropValue_eq, readToken_eq_iff.mpr ⟨_, hread, rfl⟩]
      simp only [hd]
  | @more depth d u us hd _ ih =>
    cases h with
    | @cons _ c₁ _ _ _ hread hrest =>
      rw [dropValue_eq, readToken_eq_iff.mpr ⟨_, hread, rfl⟩]
      simp only [hd]
      exact ih hrest

end Session

end ExportStream

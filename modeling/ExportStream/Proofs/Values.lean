import ExportStream.Proofs.Reading
import ExportStream.Proofs.Rounds
/-!
# Texts of values

A text is read as a value if a cursor over it and a builder come to that value
(`Json.ReadFrom`); what has to be known of the text is then what tokens stand in it and what the
builder makes of them (`Assembly.Builds`). The comma behind the text is there since a number needs a
byte that ends it.

A text that is read as a value is so read wherever it stands, whatever follows it, unless the value
is a number and a byte follows that a number may hold (`Json.ReadFrom.before`). And whoever only
counts brackets comes to its end just as well (`Assembly.leaves_accept`).
-/

namespace ExportStream

/-! ### Cursors before some bytes -/

/-- A cursor in order that has these bytes left, of which no token has begun. -/
structure Cursor.At (c : Cursor) (bytes : List UInt8) : Prop where
  /-- The buffer is in order. -/
  sound : c.Sound
  /-- No token has begun. -/
  idle : c.scanner = .idle
  /-- The bytes that are left. -/
  remaining_eq : c.remaining = bytes

namespace Cursor

theorem at_start {supply : Supply} (hs : supply.Steady) (bufferSize window : Nat) :
    (start supply bufferSize window).At supply.rest :=
  ⟨sound_start hs bufferSize window, rfl, rfl⟩

/-- A token takes the bytes up to its end. -/
theorem At.readToken_counted {c : Cursor} {bytes rest : List UInt8} {t : Token} (h : c.At bytes)
    (hscan : Scanner.scan .idle bytes = .token t rest) :
    ∃ c', c.readToken = (.ok t, c') ∧ c'.At rest ∧
      c'.position + rest.length = c.position + bytes.length := by
  obtain ⟨front, hfront⟩ := Scanner.suffix_of_scan hscan
  rw [← h.idle, ← h.remaining_eq] at hscan
  obtain ⟨c', hread, hahead, hrest, hidle⟩ := readToken_of_token h.sound hscan
  refine ⟨c', hread, ⟨hahead.sound, hidle, hrest⟩, ?_⟩
  rw [hahead.position_eq, h.remaining_eq, hfront, List.length_append]
  omega

theorem At.readToken {c : Cursor} {bytes rest : List UInt8} {t : Token} (h : c.At bytes)
    (hscan : Scanner.scan .idle bytes = .token t rest) :
    ∃ c', c.readToken = (.ok t, c') ∧ c'.At rest := by
  obtain ⟨c', hread, hat, -⟩ := h.readToken_counted hscan
  exact ⟨c', hread, hat⟩

theorem At.of_readToken {c c' : Cursor} {bytes : List UInt8} {t : Token} (h : c.At bytes)
    (hread : c.readToken = (.ok t, c')) :
    ∃ rest, Scanner.scan .idle bytes = .token t rest ∧ c'.At rest := by
  cases hscan : Scanner.scan .idle bytes with
  | token u rest =>
    obtain ⟨d, hd, hat⟩ := h.readToken hscan
    rw [hd] at hread
    cases hread
    exact ⟨rest, rfl, hat⟩
  | fail f =>
    rw [← h.idle, ← h.remaining_eq] at hscan
    obtain ⟨p, w, d, hd⟩ := readToken_of_fail h.sound hscan
    rw [hd] at hread
    cases hread
  | more s =>
    rw [← h.idle, ← h.remaining_eq] at hscan
    obtain ⟨d, hd⟩ := readToken_of_more h.sound hscan
    rw [hd] at hread
    cases hread

end Cursor

/-! ### What a builder makes of tokens -/

namespace Assembly

/-- From a token, with these frames open, the tokens at the front of some bytes make up a value, and
the rest is left. -/
inductive Builds (maxDepth : Nat) :
    List Frame → Token → List UInt8 → Json → List UInt8 → Prop where
  /-- The token completes the value. -/
  | done {frames : List Frame} {t : Token} {bytes : List UInt8} {v : Json} :
      accept maxDepth frames t = .done v → Builds maxDepth frames t bytes v bytes
  /-- More tokens are due. -/
  | more {frames frames' : List Frame} {t u : Token} {bytes bytes' rest : List UInt8} {v : Json} :
      accept maxDepth frames t = .more frames' → Scanner.scan .idle bytes = .token u bytes' →
      Builds maxDepth frames' u bytes' v rest → Builds maxDepth frames t bytes v rest

variable {maxDepth : Nat} {frames frames' : List Frame} {t : Token} {v w : Json}
  {bytes rest : List UInt8}

/-! ### Brackets -/

theorem place_eq_done (h : place frames v = .done w) : frames = [] ∧ w = v := by
  unfold place at h
  split at h
  · cases h
    exact ⟨rfl, rfl⟩
  all_goals cases h

/-- What a token left: either the value is complete and no bracket is open, or so many are. -/
def Leaves (depth : Option Nat) : Assembly → Prop
  | .done _ => depth = some 0
  | .more frames => depth = some frames.length ∧ frames ≠ []
  | .refused .. => True

theorem leaves_place (frames : List Frame) (v : Json) :
    (place frames v).Leaves (some frames.length) := by
  unfold place
  split
  · rfl
  · exact ⟨rfl, List.cons_ne_nil _ _⟩
  · exact ⟨rfl, List.cons_ne_nil _ _⟩
  · trivial

theorem leaves_openFrame (maxDepth : Nat) (frames : List Frame) (frame : Frame) :
    (openFrame maxDepth frames frame).Leaves (some (frames.length + 1)) := by
  unfold openFrame
  split
  · trivial
  · exact ⟨rfl, List.cons_ne_nil _ _⟩

/-- While tokens are accepted, the brackets that are open are those of the frames. -/
theorem leaves_accept (maxDepth : Nat) (frames : List Frame) (t : Token) :
    (accept maxDepth frames t).Leaves (Session.depthAfter frames.length t) := by
  cases t with
  | startObject => exact leaves_openFrame ..
  | startArray => exact leaves_openFrame ..
  | endObject =>
    simp only [accept]
    split
    · exact leaves_place ..
    all_goals trivial
  | endArray =>
    simp only [accept]
    split
    · exact leaves_place ..
    all_goals trivial
  | string s =>
    simp only [accept]
    split
    · exact ⟨rfl, List.cons_ne_nil _ _⟩
    · exact leaves_place ..
  | integer i => exact leaves_place ..
  | real x => exact leaves_place ..
  | bool b => exact leaves_place ..
  | null => exact leaves_place ..

/-- A token that completes a value closes the last bracket, if there is one. -/
theorem depthAfter_of_done (h : accept maxDepth frames t = .done v) :
    Session.depthAfter frames.length t = some 0 := by
  have hleaves := leaves_accept maxDepth frames t
  rw [h] at hleaves
  exact hleaves

theorem depthAfter_of_more (h : accept maxDepth frames t = .more frames') :
    Session.depthAfter frames.length t = some frames'.length ∧ frames' ≠ [] := by
  have hleaves := leaves_accept maxDepth frames t
  rw [h] at hleaves
  exact hleaves

/-- A number completes a value only by being it. -/
theorem number_of_done (h : accept maxDepth frames t = .done v) (ht : t.isNumber = true) :
    frames = [] ∧ ∃ n, v = .number n := by
  cases t with
  | integer i =>
    obtain ⟨hnil, rfl⟩ := place_eq_done h
    exact ⟨hnil, _, rfl⟩
  | real x =>
    obtain ⟨hnil, rfl⟩ := place_eq_done h
    exact ⟨hnil, _, rfl⟩
  | _ => cases ht

/-! ### Where a text stands -/

/-- What is left of the bytes stands at their end. -/
theorem Builds.suffix (h : Builds maxDepth frames t bytes v rest) :
    ∃ front, bytes = front ++ rest := by
  induction h with
  | done h => exact ⟨[], rfl⟩
  | more h hscan _ ih =>
    obtain ⟨front, hfront⟩ := Scanner.suffix_of_scan hscan
    obtain ⟨front', hfront'⟩ := ih
    exact ⟨front ++ front', by rw [hfront, hfront', List.append_assoc]⟩

/-- No value goes on with the comma alone. -/
theorem Builds.ne_comma (h : Builds maxDepth frames t [44] v rest) :
    accept maxDepth frames t = .done v := by
  cases h with
  | done h => exact h
  | more h hscan _ => cases hscan

/-- A token before some bytes is the same token before others, unless it is a number that the first
of the bytes behind it ends. -/
theorem scan_before {xs ys zs rest : List UInt8}
    (h : Scanner.scan .idle (xs ++ zs) = .token t (rest ++ zs))
    (hend : rest = [] → t.EndsBefore ys) :
    Scanner.scan .idle (xs ++ ys) = .token t (rest ++ ys) := by
  obtain ⟨gap, text, hbytes, hgap, hspells, hends⟩ := Scanner.scan_idle_iff.mp h
  have hxs : xs = gap ++ (text ++ rest) := by
    have hcut : xs ++ zs = (gap ++ (text ++ rest)) ++ zs := by
      rw [hbytes]
      simp only [List.append_assoc]
    exact List.append_cancel_right hcut
  refine Scanner.scan_idle_iff.mpr ⟨gap, text, ?_, hgap, hspells, ?_⟩
  · rw [hxs]
    simp only [List.append_assoc]
  · cases rest with
    | nil => exact hend rfl
    | cons b rest =>
      intro hn
      obtain ⟨c, more, heq, hc⟩ := hends hn
      cases heq
      exact ⟨b, rest ++ ys, rfl, hc⟩

/-- **What is built before a comma is built before anything else.** The number of a text can only
stand at its end if it is the whole value, and then no more tokens are due. -/
theorem Builds.before (h : Builds maxDepth frames t bytes v rest) {xs gap : List UInt8}
    (hxs : bytes = xs ++ [44]) (hgap : rest = gap ++ [44]) (ys : List UInt8) :
    Builds maxDepth frames t (xs ++ ys) v (gap ++ ys) := by
  induction h generalizing xs with
  | done h =>
    have heq : xs = gap := List.append_cancel_right (hxs.symm.trans hgap)
    rw [heq]
    exact .done h
  | @more frames frames' t u bytes bytes' rest v h hscan hbuilds ih =>
    obtain ⟨front, hfront⟩ := hbuilds.suffix
    have hbytes' : bytes' = (front ++ gap) ++ [44] := by
      rw [hfront, hgap, List.append_assoc]
    rw [hxs, hbytes'] at hscan
    refine .more h (scan_before hscan ?_) (ih hbytes' hgap)
    -- A number at the end of the text is the whole value, but this token is due inside of one.
    intro hnil hn
    rw [hbytes', hnil] at hbuilds
    obtain ⟨hframes, -⟩ := number_of_done hbuilds.ne_comma hn
    exact absurd hframes (depthAfter_of_more h).2

end Assembly

/-! ### Builders at cursors -/

/-- A builder at a cursor builds what the tokens make up. -/
theorem Assembler.go_of_builds {maxDepth : Nat} {frames : List Frame} {t : Token}
    {bytes rest : List UInt8} {v : Json} (h : Assembly.Builds maxDepth frames t bytes v rest)
    {a : Assembler} {c : Cursor} (hdepth : a.maxDepth = maxDepth) (hframes : a.frames = frames)
    (hc : c.At bytes) :
    ∃ a' c', a.go t c = (.ok v, a', c') ∧ c'.At rest ∧ a'.maxDepth = maxDepth := by
  induction h generalizing a c with
  | done h =>
    rw [← hdepth, ← hframes] at h
    rw [go_eq, h]
    exact ⟨_, c, rfl, hc, hdepth⟩
  | @more frames frames' t u bytes bytes' rest v h hscan _ ih =>
    rw [← hdepth, ← hframes] at h
    obtain ⟨c', hread, hc'⟩ := hc.readToken hscan
    obtain ⟨a', c'', hgo, hat, hdepth'⟩ := ih (a := { a with frames := frames' }) hdepth rfl hc'
    rw [go_eq, h]
    simp only [hread]
    exact ⟨a', c'', hgo, hat, hdepth'⟩

/-- What a builder at a cursor builds is what the tokens make up. -/
theorem Assembler.builds_of_go {a a' : Assembler} {t : Token} {c c' : Cursor} {v : Json}
    (h : a.go t c = (.ok v, a', c')) {bytes : List UInt8} (hc : c.At bytes) :
    ∃ rest, Assembly.Builds a.maxDepth a.frames t bytes v rest ∧ c'.At rest := by
  fun_induction go a t c generalizing bytes with
  | case1 a t c w ha =>
    cases h
    exact ⟨bytes, .done ha, hc⟩
  | case2 => cases h
  | case3 a t c frames ha u d hread ih =>
    obtain ⟨rest, hscan, hd⟩ := hc.of_readToken hread
    obtain ⟨rest', hbuilds, hat⟩ := ih h hd
    exact ⟨rest', .more ha hscan hbuilds, hat⟩
  | case4 => cases h

/-! ### Texts that are read as values -/

/-- Reads a value off a text by itself, with a comma behind it. Answers what is left, too. -/
def Json.readAlone? (maxDepth : Nat) (text : List UInt8) : Option (Json × List UInt8) :=
  match (Cursor.start { rest := text ++ [44] } 1 0).readToken with
  | (.error _, _) => none
  | (.ok t, c) =>
    match ({ maxDepth } : Assembler).build t c with
    | (.error _, _, _) => none
    | (.ok v, _, c) => some (v, c.remaining)

/-- A text is read as a value: a builder puts the value together from it, and before the comma only
the gap is left. -/
def Json.ReadFrom (maxDepth : Nat) (text : List UInt8) (v : Json) (gap : List UInt8) : Prop :=
  readAlone? maxDepth text = some (v, gap ++ [44])

instance (maxDepth : Nat) (text : List UInt8) (v : Json) (gap : List UInt8) :
    Decidable (v.ReadFrom maxDepth text gap) :=
  inferInstanceAs (Decidable (_ = _))

theorem Json.ReadFrom.exists_build {maxDepth : Nat} {text gap : List UInt8} {v : Json}
    (h : v.ReadFrom maxDepth text gap) :
    ∃ t c a c', (Cursor.start { rest := text ++ [44] } 1 0).readToken = (.ok t, c) ∧
      ({ maxDepth } : Assembler).build t c = (.ok v, a, c') ∧ c'.remaining = gap ++ [44] := by
  unfold ReadFrom readAlone? at h
  split at h
  · cases h
  · next t c hread =>
    split at h
    · cases h
    · next w a c' hbuild =>
      simp only [Option.some.injEq, Prod.mk.injEq] at h
      obtain ⟨rfl, hrest⟩ := h
      exact ⟨t, c, a, c', hread, hbuild, hrest⟩

/-- **A text that is read as a value is so read wherever it stands**, behind any separators and
before any bytes, of which the first ends a number unless the value is none. -/
theorem Json.ReadFrom.before {maxDepth : Nat} {text gap : List UInt8} {v : Json}
    (h : v.ReadFrom maxDepth text gap) {front : List UInt8}
    (hfront : front.all Scanner.isSeparator = true) {ys : List UInt8}
    (hys : (∀ n, v ≠ .number n) ∨ ∃ b more, ys = b :: more ∧ Scanner.isNumberByte b = false) :
    ∃ t rest, Scanner.scan .idle (front ++ (text ++ ys)) = .token t rest ∧
      Assembly.Builds maxDepth [] t rest v (gap ++ ys) := by
  obtain ⟨t, c, a, c', hread, hbuild, hrest⟩ := h.exists_build
  have hsteady : ({ rest := text ++ [44] } : Supply).Steady := by simp [Supply.Steady]
  obtain ⟨rest, hscan, hc⟩ := (Cursor.at_start hsteady 1 0).of_readToken hread
  obtain ⟨rest', hbuilds, hc'⟩ := Assembler.builds_of_go hbuild hc
  rw [hc'.remaining_eq] at hrest
  subst hrest
  obtain ⟨front', hsuffix⟩ := hbuilds.suffix
  have hxs : rest = (front' ++ gap) ++ [44] := by rw [hsuffix, List.append_assoc]
  rw [hxs] at hscan hbuilds
  refine ⟨t, (front' ++ gap) ++ ys, ?_, hbuilds.before rfl rfl ys⟩
  rw [Scanner.scan_gap hfront]
  refine Assembly.scan_before hscan ?_
  intro hnil hn
  rw [hnil] at hbuilds
  obtain ⟨-, n, hv⟩ := Assembly.number_of_done hbuilds.ne_comma hn
  rcases hys with hys | hys
  · exact absurd hv (hys n)
  · exact hys

end ExportStream

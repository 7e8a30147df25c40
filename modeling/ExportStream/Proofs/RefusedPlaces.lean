import ExportStream.Proofs.CoupledReaders
import ExportStream.Proofs.Memories
import ExportStream.Proofs.Twins
import Mathlib.Data.List.Induction
/-!
# The places of refused tokens

The bytes of a token are refused at the first byte with which it cannot go on
(`Scanner.RefusedAt`). What the cursor names is another place: a refusal takes nothing of the part
that it occurs in, so that the position is where that part begins. If the token begins in the same
part this is where the cursor stood before; otherwise it is further on, but not behind the refused
byte (`Cursor.readToken_refused`).

So the position of a fault depends on how the stream was read, and that is the only way in which it
does (`SamePlace`). All readings of the same bytes fail alike at one place, except that the bytes of
a token are refused at the beginning of the part in which the refused byte comes
(**`Import.place_of_form_fault`**). Two of them are coupled (`Gatherings`), the first of which has
all bytes in its buffer; its place is the one from which the token is looked for. An export of three
bytes is refused at the first of them or at the third (`Import.place_depends_on_portions`).
-/

namespace ExportStream

/-! ### Refused bytes -/

namespace Scanner

/-- The scanner goes on with the first `k` of the bytes, and refuses the next one. -/
structure RefusedAt (s : Scanner) (bytes : List UInt8) (k : Nat) (f : Fault) : Prop where
  /-- The byte is there. -/
  lt_length : k < bytes.length
  /-- The bytes before it are used up. -/
  before : ∃ s', s.scan (bytes.take k) = .more s'
  /-- With it they are refused. -/
  scan_eq_fail : s.scan (bytes.take (k + 1)) = .fail f

variable {s s' : Scanner} {bytes front rest : List UInt8} {k : Nat} {f g : Fault}

/-- What is refused is refused at a byte. -/
theorem exists_refusedAt (h : s.scan bytes = .fail f) : ∃ k, s.RefusedAt bytes k f := by
  induction bytes using List.reverseRecOn with
  | nil =>
    rw [scan] at h
    cases h
  | append_singleton bytes b ih =>
    rw [scan_append] at h
    cases hs : s.scan bytes with
    | token t rest =>
      rw [hs] at h
      cases h
    | more s' =>
      refine ⟨bytes.length, ?_, ⟨s', ?_⟩, ?_⟩
      · rw [List.length_append]
        exact Nat.lt_succ_self _
      · rw [List.take_left]
        exact hs
      · rw [List.take_of_length_le (by simp), scan_append]
        exact h
    | fail g =>
      rw [hs] at h
      obtain ⟨k, hlt, ⟨s', hbefore⟩, hfail⟩ := ih (hs.trans (congrArg Scan.fail (Scan.fail.inj h)))
      refine ⟨k, ?_, ⟨s', ?_⟩, ?_⟩
      · rw [List.length_append]
        omega
      · rw [List.take_append_of_le_length (Nat.le_of_lt hlt)]
        exact hbefore
      · rw [List.take_append_of_le_length hlt]
        exact hfail

/-- What is refused at a byte is refused with all bytes behind it. -/
theorem RefusedAt.scan_eq (h : s.RefusedAt bytes k f) : s.scan bytes = .fail f := by
  rw [← List.take_append_drop (k + 1) bytes, scan_append, h.scan_eq_fail]
  rfl

/-- The refused byte lies in the part that is refused. -/
theorem RefusedAt.lt_of_fail (h : s.RefusedAt (front ++ rest) k f) (hs : s.scan front = .fail g) :
    k < front.length := by
  refine Nat.lt_of_not_le fun hle => ?_
  obtain ⟨s', hbefore⟩ := h.before
  rw [List.take_append, List.take_of_length_le hle, scan_append, hs] at hbefore
  cases hbefore

/-- It lies behind a part that is used up. -/
theorem RefusedAt.behind (h : s.RefusedAt (front ++ rest) k f) (hs : s.scan front = .more s') :
    front.length ≤ k ∧ s'.RefusedAt rest (k - front.length) f := by
  have hle : front.length ≤ k := by
    refine Nat.le_of_not_lt fun hlt => ?_
    have hfail := h.scan_eq_fail
    rw [List.take_append_of_le_length hlt] at hfail
    rw [← List.take_append_drop (k + 1) front, scan_append, hfail] at hs
    cases hs
  have hpart (n : Nat) (hn : front.length ≤ n) :
      s.scan ((front ++ rest).take n) = s'.scan (rest.take (n - front.length)) := by
    rw [List.take_append, List.take_of_length_le hn, scan_append, hs]
    rfl
  refine ⟨hle, ?_, ?_, ?_⟩
  · have hlt := h.lt_length
    rw [List.length_append] at hlt
    omega
  · obtain ⟨s'', hbefore⟩ := h.before
    exact ⟨s'', (hpart k hle).symm.trans hbefore⟩
  · have hfail := h.scan_eq_fail
    rw [hpart (k + 1) (Nat.le_succ_of_le hle), Nat.succ_sub hle] at hfail
    exact hfail

end Scanner

namespace Cursor

variable {c d : Cursor} {data : List UInt8} {k n : Nat} {f : Scanner.Fault}

/-- **A refusal names the beginning of a part**: the part holds the refused byte, which lies less
than a filling of the buffer behind the position that is named, and that is not before the one at
which the cursor stood. -/
theorem readToken_refused (h : c.Sound) (hk : c.scanner.RefusedAt c.remaining k f) :
    ∃ p text d,
      c.readToken = (.error (.ofStream (.malformed (.token f) (some p) (some text))), d) ∧
      c.position ≤ p ∧ p ≤ c.position + k ∧ c.position + k < p + c.capacity := by
  fun_induction readToken c generalizing k with
  | case1 c t rest hs =>
    have hfail := hk.scan_eq
    rw [remaining, Scanner.scan_append, hs] at hfail
    cases hfail
  | case2 c g hs =>
    have hfail := hk.scan_eq
    rw [remaining, Scanner.scan_append, hs] at hfail
    obtain rfl := Scanner.Scan.fail.inj hfail
    have hlt := hk.lt_of_fail hs
    have hle : c.buffer.length ≤ c.capacity := by
      rw [length_buffer]
      exact Nat.le_trans (Nat.sub_le ..) h.loaded_le
    exact ⟨c.position, _, _, rfl, Nat.le_refl _, Nat.le_add_right .., by omega⟩
  | case3 c s hs g c' hr =>
    obtain ⟨n, d, hd, -⟩ := (h.advance (Nat.le_refl _) s).sound.refill (buffer_useUp c s)
    rw [useUp, hd] at hr
    cases hr
  | case4 c s hs c' hr =>
    -- the stream ends in the token, and nothing is refused
    obtain ⟨n, d, hd, -, -, hend, -⟩ :=
      (h.advance (Nat.le_refl c.buffer.length) s).sound.refill (buffer_useUp c s)
    rw [useUp, hd] at hr
    cases hr
    have hrest : c.source.supply.rest = [] := by
      have hnone := hend rfl
      rw [remaining] at hnone
      exact (List.append_eq_nil_iff.mp hnone).2
    have hfail := hk.scan_eq
    rw [remaining, hrest, List.append_nil, hs] at hfail
    cases hfail
  | case5 c s hs n c' hr ih =>
    have hused := h.advance (Nat.le_refl c.buffer.length) s
    obtain ⟨m, d, hd, hahead, -, -, hscanner⟩ := hused.sound.refill (buffer_useUp c s)
    obtain ⟨-, -, -, hcapacity⟩ := refill_append hr
    rw [useUp, hd] at hr
    cases hr
    obtain ⟨hle, hbehind⟩ := hk.behind hs
    have hrest : c'.remaining = c.source.supply.rest := by
      rw [hahead.remaining_eq, List.drop_zero, remaining, buffer_advance, List.drop_length]
      rfl
    have hposition : c'.position = c.position + c.buffer.length := hahead.position_eq
    have hsize : c'.capacity = c.capacity := hcapacity
    have hrefused : c'.scanner.RefusedAt c'.remaining (k - c.buffer.length) f := by
      rw [hrest, show c'.scanner = s from hscanner]
      exact hbehind
    obtain ⟨p, text, d, hread, hp, hpk, hfill⟩ := ih hahead.sound hrefused
    exact ⟨p, text, d, hread, by omega, by omega, by omega⟩

/-! ### Streams that come at once -/

/-- All bytes that are left are in the buffer, or all of them come with the next refill. -/
structure Gathered (c : Cursor) : Prop where
  /-- The supply gives as much as is wanted. -/
  whole : c.source.supply.Whole
  /-- The buffer can hold all that it has left. -/
  rest_le : c.source.supply.rest.length ≤ c.capacity
  /-- It has nothing left, or nothing waits in the buffer. -/
  rest_or : c.source.supply.rest = [] ∨ c.buffer = []

theorem lasting_gathered : Lasting Gathered where
  note h _ := ⟨h.whole, h.rest_le, h.rest_or⟩
  advance h _ _ := by
    refine ⟨h.whole, h.rest_le, h.rest_or.imp_right fun hnone => ?_⟩
    rw [buffer_advance, hnone, List.drop_nil]
  refill {c d r} h _ hr := by
    obtain ⟨c', hc', -, hrest, hwhole, -⟩ :=
      refill_whole h.whole rfl (List.drop_of_length_le h.rest_le)
    rw [hc'] at hr
    cases hr
    refine ⟨hwhole, ?_, .inl hrest⟩
    rw [hrest]
    exact Nat.zero_le _

theorem lasting_capacity (size : Nat) : Lasting (·.capacity = size) where
  note h _ := h
  advance h _ _ := h
  refill {c d r} h _ hr := by
    unfold refill at hr
    split at hr <;> cases hr <;> exact h

/-- A token that is refused with all bytes in one part is refused where the cursor stands. -/
theorem Gathered.readToken_refused (h : c.Gathered) (hidle : c.scanner = .idle)
    (hs : c.scanner.scan c.remaining = .fail f) :
    ∃ text d, c.readToken =
      (.error (.ofStream (.malformed (.token f) (some c.position) (some text))), d) := by
  obtain hrest | hbuffer := h.rest_or
  · have hscan : c.scanner.scan c.buffer = .fail f := by
      rw [remaining, hrest, List.append_nil] at hs
      exact hs
    exact ⟨_, _, readToken_fail hscan⟩
  · have hscan : c.scanner.scan c.buffer = .more .idle := by
      rw [hidle, hbuffer]
      rfl
    rw [remaining, hbuffer, List.nil_append, hidle] at hs
    obtain ⟨d, hd, hall, -, -, -, hscanner, hposition, -⟩ :=
      refill_whole (c := c.useUp .idle) h.whole (List.take_of_length_le h.rest_le) rfl
    have hscan' : d.scanner.scan d.buffer = .fail f := by
      rw [hscanner, hall]
      exact hs
    have hp : d.position = c.position := by
      rw [hposition, useUp, hbuffer]
      rfl
    obtain ⟨n, hn⟩ : ∃ n, (c.useUp .idle).source.supply.rest.length = n + 1 := by
      refine Nat.exists_eq_succ_of_ne_zero fun hzero => ?_
      have hnone : c.source.supply.rest = [] := List.eq_nil_of_length_eq_zero hzero
      rw [hnone] at hs
      cases hs
    rw [hn] at hd
    rw [readToken_more hscan hd, readToken_fail hscan', ← hp]
    exact ⟨_, _, rfl⟩

end Cursor

/-! ### Faults that are placed alike -/

/-- Where two readings may place one fault, which the first one, in whose buffer all bytes are,
places at `p`: at the same place, or, if the bytes of a token are refused, further on, up to the
refused byte, which comes in a part of at most `size` bytes. -/
inductive SamePlace (data : List UInt8) (size : Nat) :
    Malformation → Option Nat → Option Nat → Prop where
  /-- At the same place. -/
  | same (cause : Malformation) (p : Option Nat) : SamePlace data size cause p p
  /-- Further on in the token. -/
  | further {f : Scanner.Fault} {p q k : Nat} :
      Scanner.idle.RefusedAt (data.drop p) k f → p ≤ q → q ≤ p + k → p + k < q + size →
      SamePlace data size (.token f) (some p) (some q)

/-- Two failures are the same but for the window and for how they are placed. -/
inductive SameFault (data : List UInt8) (size : Nat) : Failure → Failure → Prop where
  /-- They are the same. -/
  | same (f : Failure) : SameFault data size f f
  /-- They are faults of form. -/
  | placed {cause : Malformation} {p q : Option Nat} (text text' : Option String)
      (contexts : List String) : SamePlace data size cause p q →
      SameFault data size ⟨.stream (.malformed cause p text), contexts⟩
        ⟨.stream (.malformed cause q text'), contexts⟩

/-- The position that a fault of form names. -/
def Failure.place? (f : Failure) : Option Nat :=
  match f.cause with
  | .stream (.malformed _ p _) => p
  | _ => none

namespace SameFault

variable {data : List UInt8} {size : Nat} {f g : Failure}

theorem within (h : SameFault data size f g) (context : String) :
    SameFault data size (f.within context) (g.within context) := by
  cases h with
  | same => exact .same _
  | placed text text' contexts h => exact .placed text text' _ h

/-- If the second failure is a fault of form, the first one is the same fault. -/
theorem left (h : SameFault data size f g) {cause : Malformation} {q : Option Nat}
    {text : Option String} (hg : g.cause = .stream (.malformed cause q text)) :
    ∃ p text', f.cause = .stream (.malformed cause p text') ∧ f.contexts = g.contexts ∧
      SamePlace data size cause p q := by
  cases h with
  | same => exact ⟨q, text, hg, rfl, .same _ _⟩
  | placed text₁ text₂ contexts hplace =>
    cases hg
    exact ⟨_, _, rfl, rfl, hplace⟩

/-- If the first failure is a fault of form, the second one is the same fault. -/
theorem right (h : SameFault data size f g) {cause : Malformation} {p : Option Nat}
    {text : Option String} (hf : f.cause = .stream (.malformed cause p text)) :
    ∃ q text', g.cause = .stream (.malformed cause q text') ∧ g.contexts = f.contexts ∧
      SamePlace data size cause p q := by
  cases h with
  | same => exact ⟨p, text, hf, rfl, .same _ _⟩
  | placed text₁ text₂ contexts hplace =>
    cases hf
    exact ⟨_, _, rfl, rfl, hplace⟩

end SameFault

/-- Of two places, each of which is where a reading with all bytes at once places the fault. -/
theorem SamePlace.antisymm {data : List UInt8} {size size' : Nat} {cause : Malformation}
    {p q : Option Nat} (h : SamePlace data size cause p q) (h' : SamePlace data size' cause q p) :
    p = q := by
  cases h with
  | same => rfl
  | further _ hle =>
    cases h' with
    | same => rfl
    | further _ hle' => exact congrArg some (Nat.le_antisymm hle hle')

/-! ### The coupling -/

/-- Two cursors at the same position of some bytes. The first one has all that is left of them in
its buffer, or gets it at once; the second one has a buffer of the given size. -/
structure Cursor.Gathers (data : List UInt8) (size : Nat) (c d : Cursor) : Prop where
  /-- The first one stands in the bytes. -/
  left : c.Within data
  /-- So does the second one. -/
  right : d.Within data
  /-- They stand at the same position. -/
  position_eq : c.position = d.position
  /-- The first one has all bytes at once. -/
  gathered : c.Gathered
  /-- The second one has a buffer of the size. -/
  capacity_eq : d.capacity = size

/-- Two readings of the same bytes, of which the first one has all of them in its buffer. -/
def Gatherings (data : List UInt8) (size : Nat) : Coupling :=
  { Twins with
    cursors := Cursor.Gathers data size
    alike := SameFault data size }

namespace Gatherings

variable {data : List UInt8} {size : Nat} {a b : Cursor}

theorem twin (h : a.Gathers data size b) : a.Twin b where
  left := h.left.sound
  right := h.right.sound
  remaining_eq := by rw [h.left.remaining_eq, h.right.remaining_eq, h.position_eq]
  position_eq := h.position_eq
  scanner_eq := by rw [h.left.idle, h.right.idle]

/-- A reading that takes both cursors over as many bytes keeps them together. -/
theorem ahead {a' b' : Cursor} {n : Nat} (h : a.Gathers data size b) (ha : a.Ahead n a')
    (hb : b.Ahead n b') (hidle : a'.scanner = .idle) (hidle' : b'.scanner = .idle)
    (hgathered : a'.Gathered) (hcapacity : b'.capacity = size) : a'.Gathers data size b' where
  left := h.left.ahead ha hidle
  right := h.right.ahead hb hidle'
  position_eq := by rw [ha.position_eq, hb.position_eq, h.position_eq]
  gathered := hgathered
  capacity_eq := hcapacity

/-- The same token is read, or refused. -/
theorem readToken (h : a.Gathers data size b) :
    (Gatherings data size).Meets (Cursor.Gathers data size) (fun _ _ => True) a.readToken
      b.readToken := by
  have htwin := twin h
  have hsame : b.scanner.scan b.remaining = a.scanner.scan a.remaining := by
    rw [htwin.scanner_eq, htwin.remaining_eq]
  cases hscan : a.scanner.scan a.remaining with
  | token t rest =>
    obtain ⟨a', ha, haahead, -, haidle⟩ := Cursor.readToken_of_token htwin.left hscan
    obtain ⟨b', hb, hbahead, -, hbidle⟩ :=
      Cursor.readToken_of_token htwin.right (hsame.trans hscan)
    rw [← htwin.remaining_eq] at hbahead
    have hgathered := Cursor.lasting_gathered.readToken h.gathered ha
    have hcapacity := (Cursor.lasting_capacity size).readToken h.capacity_eq hb
    rw [ha, hb]
    exact .ok (ahead h haahead hbahead haidle hbidle hgathered hcapacity)
  | fail f =>
    obtain ⟨k, hk⟩ := Scanner.exists_refusedAt hscan
    obtain ⟨text, a', ha⟩ := h.gathered.readToken_refused h.left.idle hscan
    obtain ⟨q, text', b', hb, hq, hqk, hfill⟩ := Cursor.readToken_refused htwin.right
      (htwin.scanner_eq ▸ htwin.remaining_eq ▸ hk)
    rw [← htwin.position_eq] at hq hqk hfill
    rw [h.left.idle, h.left.remaining_eq] at hk
    rw [ha, hb]
    exact .fail (.placed _ _ [] (.further hk hq hqk (h.capacity_eq ▸ hfill))) trivial
  | more s =>
    obtain ⟨a', ha⟩ := Cursor.readToken_of_more htwin.left hscan
    obtain ⟨b', hb⟩ := Cursor.readToken_of_more htwin.right (hsame.trans hscan)
    rw [ha, hb, htwin.position_eq, htwin.remaining_eq]
    exact .fail (.same _) trivial

/-- The same payload is copied. -/
theorem copy {v w : Copying} (h : (Gatherings data size).Copyings v w) (n : Nat) :
    (Gatherings data size).Meets (Gatherings data size).Copyings (fun _ _ => True) (v.copy n)
      (w.copy n) := by
  obtain ⟨hcursor, ⟨hv, hw⟩, hsink, hwilling⟩ := h
  have htwin := twin hcursor
  have hremaining := htwin.remaining_eq
  rcases Nat.lt_or_ge v.cursor.remaining.length n with hlt | hle
  · obtain ⟨v', hv'⟩ := Copying.copy_short htwin.left hwilling hv hlt
    obtain ⟨w', hw'⟩ :=
      Copying.copy_short htwin.right (hsink ▸ hwilling) hw (hremaining ▸ hlt)
    rw [hv', hw', htwin.position_eq, hremaining]
    exact .fail (.same _) trivial
  · obtain ⟨v', hv', hva, hvscan, hvsink, hvsize⟩ := Copying.copy_enough htwin.left hwilling hv hle
    obtain ⟨w', hw', hwa, hwscan, hwsink, hwsize⟩ :=
      Copying.copy_enough htwin.right (hsink ▸ hwilling) hw (hremaining ▸ hle)
    have hgathered := Cursor.lasting_gathered.copy hcursor.gathered hv'
    have hcapacity := (Cursor.lasting_capacity size).copy hcursor.capacity_eq hw'
    rw [hv', hw', hremaining]
    refine .ok ⟨?_, ⟨hvsize ▸ hv, hwsize ▸ hw⟩, ?_, ?_⟩
    · exact ahead hcursor hva hwa (hvscan.trans hcursor.left.idle)
        (hwscan.trans hcursor.right.idle) hgathered hcapacity
    · rw [hvsink, hwsink, hsink, hremaining]
    · rw [hvsink]
      exact hwilling.take _

theorem locate (h : a.Gathers data size b) (f : StreamFault) :
    SameFault data size (.ofStream (a.locate f)) (.ofStream (b.locate f)) := by
  cases f with
  | malformed cause p text =>
    show SameFault data size ⟨.stream (.malformed cause (some a.position) _), _⟩
      ⟨.stream (.malformed cause (some b.position) _), _⟩
    rw [h.position_eq]
    exact .placed _ _ _ (.same _ _)
  | ended shortage p expected got =>
    simp only [Cursor.locate, StreamFault.withPosition, StreamFault.withWindow, h.position_eq]
    exact .same _
  | unknownLabel label p =>
    simp only [Cursor.locate, StreamFault.withPosition, StreamFault.withWindow, h.position_eq]
    exact .same _
  | limit what bound p =>
    simp only [Cursor.locate, StreamFault.withPosition, StreamFault.withWindow, h.position_eq]
    exact .same _

theorem lawful (data : List UInt8) (size : Nat) : (Gatherings data size).Lawful where
  alike_refl f := .same f
  alike_within h context := h.within context
  cut_within h _ := h
  note h m n := by
    obtain ⟨hleft, hright, hposition, hgathered, hcapacity⟩ := h
    exact ⟨⟨hleft.sound.note m, hleft.idle, hleft.position_le, hleft.remaining_eq⟩,
      ⟨hright.sound.note n, hright.idle, hright.position_le, hright.remaining_eq⟩, hposition,
      Cursor.lasting_gathered.note hgathered m, hcapacity⟩
  position_eq h := h.position_eq
  locate h f := locate h f
  readToken h := readToken h
  copy h n := copy h n
  store h payload := by
    obtain ⟨a', b', ha, hb, hsinks⟩ | ⟨f, g, ha, hb, -⟩ := Twins.lawful.store h payload
    · exact .inl ⟨a', b', ha, hb, hsinks⟩
    · obtain ⟨rfl, hwilling⟩ := h
      rw [hwilling.store_eq] at ha
      cases ha
  create := by
    rintro a _ ⟨rfl, hwilling⟩ tag
    obtain ⟨x, a', ha, hx, ha'⟩ | ⟨f, a', ha⟩ := hwilling.create tag
    · exact .inl ⟨x, x, a', a', ha, ha, ⟨rfl, hx⟩, rfl, ha'⟩
    · exact .inr ⟨f, f, a', a', ha, ha, .same f⟩
  sinks_discard := Twins.lawful.sinks_discard
  tallies := Twins.lawful.tallies

section

variable {α σ : Type} {R E : σ → σ → Prop} {x y : Except Failure α × σ} {f : Failure} {s : σ}

/-- If the second reading fails the first one does. -/
theorem fails_left (h : (Gatherings data size).Meets R E x y) (hy : y = (.error f, s)) :
    ∃ g t, x = (.error g, t) ∧ SameFault data size g f := by
  obtain ⟨a, t, t', -, hy', -⟩ | ⟨g, f', t, t', hx, hy', hgf, -⟩ | ⟨g, t, -, hno⟩ := h
  · cases hy.symm.trans hy'
  · cases hy.symm.trans hy'
    exact ⟨g, t, hx, hgf⟩
  · exact hno.elim

/-- If the first reading fails the second one does. -/
theorem fails_right (h : (Gatherings data size).Meets R E x y) (hx : x = (.error f, s)) :
    ∃ g t, y = (.error g, t) ∧ SameFault data size f g := by
  obtain ⟨g, t, hy, hfg, -⟩ | ⟨g, t, -, hno⟩ := h.of_error hx
  · exact ⟨g, t, hy, hfg⟩
  · exact hno.elim

end

theorem exact (data : List UInt8) (size : Nat) : (Gatherings data size).Exact :=
  fun _ _ h => h.1

end Gatherings

/-! ### Imports -/

/-- A way to read some bytes: a supply of them that never fails, and options that differ from the
given ones at most in the window and in the sizes of the buffers, which can hold something. -/
structure Reads (data : List UInt8) (options : Options) (supply : Supply) (o : Options) : Prop where
  /-- The bytes. -/
  rest_eq : supply.rest = data
  /-- The supply never fails. -/
  steady : supply.Steady
  /-- The options. -/
  alike : options.Alike o
  /-- The buffer for reading. -/
  bufferSize_pos : 0 < o.bufferSize
  /-- The buffer for payloads. -/
  writeBufferSize_pos : 0 < o.writeBufferSize

namespace Reads

variable {data : List UInt8} {options o p : Options} {u v : Supply}

theorem between (hu : Reads data options u o) (hv : Reads data options v p) : o.Alike p where
  readLegacyEtag_eq := hu.alike.readLegacyEtag_eq.symm.trans hv.alike.readLegacyEtag_eq
  deletionPolicy_eq := hu.alike.deletionPolicy_eq.symm.trans hv.alike.deletionPolicy_eq
  maxDepth_eq := hu.alike.maxDepth_eq.symm.trans hv.alike.maxDepth_eq
  maxWarningSnapshot_eq := hu.alike.maxWarningSnapshot_eq.symm.trans hv.alike.maxWarningSnapshot_eq
  verifyAttachmentHashes_eq :=
    hu.alike.verifyAttachmentHashes_eq.symm.trans hv.alike.verifyAttachmentHashes_eq

theorem within_start (hu : Reads data options u o) (tally : Tally) :
    (Session.start u o tally).cursor.Within data where
  sound := Cursor.sound_start hu.steady _ _
  idle := rfl
  position_le := Nat.zero_le _
  remaining_eq := hu.rest_eq

/-- Two readings of the same bytes, of which the first one has all of them at once, are coupled at
the start. -/
theorem gathers_start (hu : Reads data options u o) (hv : Reads data options v p)
    (hwhole : u.Whole) (hsize : data.length ≤ o.bufferSize) (tally : Tally) :
    (Gatherings data p.bufferSize).Sessions (Session.start u o tally) (Session.start v p tally) :=
  { (Session.twin_start hu.steady hv.steady (hu.rest_eq.trans hv.rest_eq.symm) (hu.between hv)
      tally).sessions with
    cursor :=
      { left := hu.within_start tally
        right := hv.within_start tally
        position_eq := rfl
        gathered := ⟨hwhole, hu.rest_eq ▸ Nat.le_trans hsize (Nat.le_max_left ..), .inr rfl⟩
        capacity_eq := Nat.max_eq_left hv.bufferSize_pos } }

/-- The way to read all bytes at once. -/
theorem whole (data : List UInt8) (options : Options) :
    Reads data options { rest := data }
      { options with bufferSize := max data.length 1, writeBufferSize := 1 } where
  rest_eq := rfl
  steady := by simp [Supply.Steady]
  alike := ⟨rfl, rfl, rfl, rfl, rfl⟩
  bufferSize_pos := Nat.lt_of_lt_of_le Nat.zero_lt_one (Nat.le_max_right ..)
  writeBufferSize_pos := Nat.zero_lt_one

end Reads

namespace Import

variable {σ : Type} {data : List UInt8} {options o p : Options} {u v : Supply} {sinks : Sinks}
  {tally : Tally} {state : σ} {cause : Malformation}

/-- A reading that has all bytes at once comes to the same end as any other one, or both fail alike.
-/
theorem run_gathers (h : Handler σ) (hu : Reads data options u o) (hv : Reads data options v p)
    (hwhole : u.Whole) (hsize : data.length ≤ o.bufferSize) (hsinks : sinks.Willing) :
    (Gatherings data p.bufferSize).Meets (fun _ _ => True) (fun _ _ => True)
      (run u o tally sinks h state) (run v p tally sinks h state) := by
  have hvalid := (hu.between hv).validate_eq hu.bufferSize_pos hu.writeBufferSize_pos
    hv.bufferSize_pos hv.writeBufferSize_pos
  have hc := Gatherings.lawful data p.bufferSize
  have hx := Gatherings.exact data p.bufferSize
  unfold run
  obtain ⟨x, s, t, hs, ht, hst⟩ | ⟨f, g, s, t, hs, ht, hf, -⟩ | ⟨g, t, -, hno⟩ :=
    (hu.gathers_start hv hwhole hsize tally).begin hc hvalid
  · rw [hs, ht]
    have himports : (Gatherings data p.bufferSize).Imports
        ({ session := s, sinks, state } : Import σ) { session := t, sinks, state } :=
      ⟨hst, ⟨rfl, hsinks⟩, rfl⟩
    obtain ⟨y, i, j, hi, hj, -⟩ | ⟨f, g, i, j, hi, hj, hf, -⟩ | ⟨g, j, -, hno⟩ :=
      (himports.drive h hc hx).1
    · simp only [hi, hj]
      exact .ok trivial
    · simp only [hi, hj]
      exact .fail hf trivial
    · exact hno.elim
  · rw [hs, ht]
    exact .fail hf trivial
  · exact hno.elim

/-- **All readings of the same bytes fail with a fault of form at one place.** If one of them fails
so, there is a place at which every reading that has all bytes at once places the fault, and every
other one fails with the same fault and the same contexts at this place too, unless the bytes of a
token are refused: then it may name any place from there up to the refused byte, which comes less
than a filling of its buffer behind. -/
theorem place_of_form_fault (h : Handler σ) (hsinks : sinks.Willing) (hu : Reads data options u o)
    {f : Failure} {i : Import σ} (hr : run u o tally sinks h state = (.error f, i))
    {q : Option Nat} {text : Option String}
    (hf : f.cause = .stream (.malformed cause q text)) :
    ∃ place, ∀ v p, Reads data options v p → ∃ g j q text,
      run v p tally sinks h state = (.error g, j) ∧
        g.cause = .stream (.malformed cause q text) ∧ g.contexts = f.contexts ∧
        SamePlace data p.bufferSize cause place q ∧
        (v.Whole → data.length ≤ p.bufferSize → q = place) := by
  have hwhole := Reads.whole data options
  have hsize : data.length ≤ max data.length 1 := Nat.le_max_left ..
  obtain ⟨f₀, i₀, hr₀, hf₀⟩ :=
    Gatherings.fails_left (run_gathers h hwhole hu ⟨rfl, rfl⟩ hsize hsinks) hr
  obtain ⟨place, text₀, hcause₀, hcontexts₀, -⟩ := hf₀.left hf
  refine ⟨place, fun v p hv => ?_⟩
  obtain ⟨g, j, hj, hg⟩ :=
    Gatherings.fails_right (run_gathers h hwhole hv ⟨rfl, rfl⟩ hsize hsinks) hr₀
  obtain ⟨q', text', hcause, hcontexts, hplace⟩ := hg.right hcause₀
  refine ⟨g, j, q', text', hj, hcause, hcontexts.trans hcontexts₀, hplace, ?_⟩
  -- a reading that has all bytes at once may stand on either side
  intro hv_whole hv_size
  obtain ⟨f₁, i₁, hr₁, hf₁⟩ :=
    Gatherings.fails_right (run_gathers h hv hwhole hv_whole hv_size hsinks) hj
  cases hr₀.symm.trans hr₁
  obtain ⟨place', text₁, hcause₁, -, hplace'⟩ := hf₁.right hcause
  cases hcause₀.symm.trans hcause₁
  exact hplace'.antisymm hplace

/-- A failure that names a position is a fault of form. -/
theorem fault_of_place {x : Except Failure Unit × Import σ} {n : Nat}
    (hx : x.1.mapError Failure.place? = .error (some n)) :
    ∃ f i cause text, x = (.error f, i) ∧ f.cause = .stream (.malformed cause (some n) text) := by
  obtain ⟨f | _, i⟩ := x
  · have hplace : f.place? = some n := Except.error.inj hx
    unfold Failure.place? at hplace
    split at hplace
    · next cause q text hcause =>
      cases hplace
      exact ⟨f, i, cause, text, rfl, hcause⟩
    · cases hplace
  · cases hx

/-- Two blanks and a byte with which no token begins: at once they are refused at the first blank,
so every reading refuses them there or further on. -/
theorem place_of_form_fault_blanks :
    let data : List UInt8 := [32, 32, 64]
    ∃ cause, ∀ v p, Reads data {} v p → ∃ g j q text,
      run v p {} .memory Collection.handler {} = (.error g, j) ∧
        g.cause = .stream (.malformed cause q text) ∧
        SamePlace data p.bufferSize cause (some 0) q := by
  intro data
  let u : Supply := { rest := data }
  have hu : Reads data {} u {} :=
    ⟨rfl, by simp [Supply.Steady, u], .refl _, by decide, by decide⟩
  obtain ⟨f, i, cause, text, hr, hf⟩ :=
    fault_of_place (x := run u {} {} .memory Collection.handler {}) (n := 0) (by decide +kernel)
  obtain ⟨place, hplace⟩ :=
    place_of_form_fault Collection.handler Sinks.willing_memory_all hu hr hf
  -- the reading at once places the fault at `place`
  obtain ⟨g, j, q, text', hr', hcause, -, -, hwhole⟩ := hplace u {} hu
  cases hr.symm.trans hr'
  cases hf.symm.trans hcause
  refine ⟨cause, fun v p hv => ?_⟩
  obtain ⟨g, j, q, text', hv_run, hv_cause, -, hv_place, -⟩ := hplace v p hv
  rw [← hwhole ⟨rfl, rfl⟩ (by decide)] at hv_place
  exact ⟨g, j, q, text', hv_run, hv_cause, hv_place⟩

/-- **The position of a fault depends on how the stream was read.** The bytes of two blanks and a
sign are refused at position 0 if they come at once, and at position 2 if they come one by one. -/
theorem place_depends_on_portions :
    let data : List UInt8 := [32, 32, 64]
    let u : Supply := { rest := data }
    let v : Supply := { rest := data, portions := [1] }
    Reads data {} u {} ∧ Reads data {} v {} ∧
      (run u {} {} .memory Collection.handler {}).1.mapError Failure.place? = .error (some 0) ∧
      (run v {} {} .memory Collection.handler {}).1.mapError Failure.place? = .error (some 2) := by
  intro data u v
  have hreads (portions : List Nat) : Reads data {} { rest := data, portions } {} :=
    ⟨rfl, by simp [Supply.Steady], .refl _, by decide, by decide⟩
  exact ⟨hreads [], hreads [1], by decide +kernel, by decide +kernel⟩

end Import

end ExportStream

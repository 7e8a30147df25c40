import ExportStream.Proofs.Reading
import ExportStream.Proofs.Tokenizing
/-!
# Tokens that arrive in parts

A scanner is given one part of a stream after the other. `Scanner.next` is one such call: it answers
how many bytes of the part are used and the token, if it is complete, or why the bytes are refused,
and keeps what is known of an unfinished token. A cursor reads its tokens by it
(`Cursor.readToken_eq_next`), and so does the program that works with indices
(`Indexed.nextToken_eq_next`).

Where the stream is cut does not matter, whatever had begun before the cut and wherever in a token it
falls (**`Scanner.next_append`**).
-/

namespace ExportStream

namespace Scanner

/-- One call with a part of the stream: the bytes that are used and the token, if it is complete, or
why the bytes are refused; and what is known of an unfinished token. -/
def next (s : Scanner) (part : List UInt8) : Except Fault (Nat × Option Token) × Scanner :=
  match s.scan part with
  | .token t rest => (.ok (part.length - rest.length, some t), .idle)
  | .more s' => (.ok (part.length, none), s')
  | .fail f => (.error f, .idle)

variable {s s' : Scanner} {part more rest : List UInt8} {t : Token} {f : Fault} {n : Nat}

theorem next_eq_token_iff :
    s.next part = (.ok (n, some t), s') ↔
      s' = .idle ∧ ∃ rest, s.scan part = .token t rest ∧ n = part.length - rest.length := by
  unfold next
  cases s.scan part with
  | token u rest => simp [eq_comm, and_comm, and_assoc]
  | more s' => simp
  | fail g => simp

theorem next_eq_more_iff :
    s.next part = (.ok (n, none), s') ↔ n = part.length ∧ s.scan part = .more s' := by
  unfold next
  cases s.scan part with
  | token u rest => simp
  | more s' => simp [eq_comm]
  | fail g => simp

theorem next_eq_error_iff :
    s.next part = (.error f, s') ↔ s' = .idle ∧ s.scan part = .fail f := by
  unfold next
  cases s.scan part with
  | token u rest => simp
  | more s' => simp
  | fail g => simp [eq_comm, and_comm]

/-- The answer of a call, if the part had stood behind so many bytes that are used. -/
def behind (size : Nat) (answer : Except Fault (Nat × Option Token)) :
    Except Fault (Nat × Option Token) :=
  answer.map fun r => (size + r.1, r.2)

end Scanner

namespace Cursor

/-- A cursor reads a token by calls of the scanner, one for each filling of its buffer. -/
theorem readToken_eq_next (c : Cursor) :
    c.readToken =
      match c.scanner.next c.buffer with
      | (.ok (n, some t), s) => (.ok t, c.advance n s)
      | (.error f, s) => (.error (c.malformed (.token f)), { c with scanner := s })
      | (.ok (n, none), s) =>
        match (c.advance n s).refill with
        | (.error f, c') => (.error f, c')
        | (.ok 0, c') => (.error c'.endedInToken, c')
        | (.ok (_ + 1), c') => c'.readToken := by
  rw [readToken, Scanner.next]
  cases c.scanner.scan c.buffer with
  | token t rest => rfl
  | fail f => rfl
  | more s =>
    simp only [useUp]
    rcases (c.advance c.buffer.length s).refill with ⟨f | _ | n, c'⟩ <;> rfl

end Cursor

namespace Indexed

/-- The program that works with indices answers a call as the scanner does, and knows the same
behind it. -/
theorem nextToken_eq_next {known : Option Begun} (h : ∀ b ∈ known, b.Sound) (input : List UInt8) :
    ∃ known', nextToken known input = some (((scannerOf known).next input).1, known') ∧
      scannerOf known' = ((scannerOf known).next input).2 ∧ ∀ b ∈ known', b.Sound := by
  obtain ⟨answer, hanswer, hanswers⟩ := nextToken_spec h input
  rw [hanswer, Scanner.next]
  cases hscan : (scannerOf known).scan input with
  | token t rest =>
    rw [hscan] at hanswers
    cases hanswers with
    | token t hn =>
      refine ⟨none, ?_, rfl, by simp⟩
      simp only [← hn, Nat.add_sub_cancel]
  | more s =>
    rw [hscan] at hanswers
    cases hanswers with
    | more hsound hs => exact ⟨_, rfl, hs.symm, hsound⟩
  | fail f =>
    rw [hscan] at hanswers
    cases hanswers
    exact ⟨none, rfl, rfl, by simp⟩

end Indexed

namespace Scanner

/-! ### Cuts -/

variable {s s' : Scanner} {part : List UInt8} {t : Token} {f : Fault} {n : Nat}

/-- A token that is complete, and bytes that are refused, are so whatever follows. -/
theorem next_append_of_token (h : s.next part = (.ok (n, some t), s')) (more : List UInt8) :
    s.next (part ++ more) = (.ok (n, some t), .idle) := by
  obtain ⟨-, rest, hscan, rfl⟩ := next_eq_token_iff.mp h
  refine next_eq_token_iff.mpr ⟨rfl, rest ++ more, ?_, ?_⟩
  · rw [scan_append, hscan]
    rfl
  · simp only [List.length_append, Nat.add_sub_add_right]

theorem next_append_of_error (h : s.next part = (.error f, s')) (more : List UInt8) :
    s.next (part ++ more) = (.error f, .idle) := by
  obtain ⟨-, hscan⟩ := next_eq_error_iff.mp h
  refine next_eq_error_iff.mpr ⟨rfl, ?_⟩
  rw [scan_append, hscan]
  rfl

/-- What is known of an unfinished token stands for the bytes that are used. -/
theorem next_append_of_more (h : s.next part = (.ok (n, none), s')) (more : List UInt8) :
    s.next (part ++ more) = (behind part.length (s'.next more).1, (s'.next more).2) := by
  obtain ⟨-, hscan⟩ := next_eq_more_iff.mp h
  have hboth : s.scan (part ++ more) = s'.scan more := by
    rw [scan_append, hscan]
    rfl
  unfold next
  rw [hboth]
  cases hmore : s'.scan more with
  | token t rest =>
    obtain ⟨front, rfl⟩ := suffix_of_scan hmore
    simp only [behind, Except.map, List.length_append, Nat.add_sub_cancel, ← Nat.add_assoc]
  | more s'' =>
    simp only [behind, Except.map, List.length_append]
  | fail f => rfl

/-- **A stream may be cut anywhere.** Whatever is known of a token: one that is complete in a part, and
a refusal, are the same with more bytes behind the part; where a part is used up without either, the
call with the next part answers as one call with both, counting from the cut, and knows the same
behind it. No token is unfinished after one that is complete and after a refusal. -/
theorem next_append (s : Scanner) (part more : List UInt8) :
    (∀ n t s', s.next part = (.ok (n, some t), s') →
      s' = .idle ∧ s.next (part ++ more) = (.ok (n, some t), .idle)) ∧
    (∀ f s', s.next part = (.error f, s') →
      s' = .idle ∧ s.next (part ++ more) = (.error f, .idle)) ∧
    (∀ n s', s.next part = (.ok (n, none), s') →
      n = part.length ∧
        s.next (part ++ more) = (behind part.length (s'.next more).1, (s'.next more).2)) ∧
    (∀ a s', s.next part = (a, s') → (∀ n, a ≠ .ok (n, none)) → s'.isPartial = false) := by
  refine ⟨?_, ?_, ?_, ?_⟩
  · intro n t s' h
    exact ⟨(next_eq_token_iff.mp h).1, next_append_of_token h more⟩
  · intro f s' h
    exact ⟨(next_eq_error_iff.mp h).1, next_append_of_error h more⟩
  · intro n s' h
    exact ⟨(next_eq_more_iff.mp h).1, next_append_of_more h more⟩
  · intro a s' h hdone
    rcases a with f | ⟨n, _ | t⟩
    · rw [(next_eq_error_iff.mp h).1]
      rfl
    · exact absurd rfl (hdone n)
    · rw [(next_eq_token_iff.mp h).1]
      rfl

/-- A text that is cut behind a backslash: the letter of the escape and the closing quote come with
the next part. -/
theorem next_append_behind_backslash :
    Scanner.idle.next [34, 97, 92] = (.ok (3, none), .string [92, 97] true) ∧
      (Scanner.string [92, 97] true).next [110, 34, 125] =
        (.ok (2, some (.string "a\n")), .idle) ∧
      Scanner.idle.next [34, 97, 92, 110, 34, 125] = (.ok (5, some (.string "a\n")), .idle) := by
  have hcut : Scanner.idle.next [34, 97, 92] = (.ok (3, none), .string [92, 97] true) :=
    next_eq_more_iff.mpr ⟨rfl, by decide⟩
  have hrest : (Scanner.string [92, 97] true).next [110, 34, 125] =
      (.ok (2, some (.string "a\n")), .idle) :=
    next_eq_token_iff.mpr ⟨rfl, [125], by decide +kernel, rfl⟩
  obtain ⟨-, hboth⟩ := (next_append .idle [34, 97, 92] [110, 34, 125]).2.2.1 3 _ hcut
  rw [hrest] at hboth
  exact ⟨hcut, hrest, hboth⟩

end Scanner

end ExportStream

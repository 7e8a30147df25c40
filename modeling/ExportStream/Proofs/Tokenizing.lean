import ExportStream.Proofs.Unescaping
/-!
# Scanning tokens by indices

A token is read from a buffer as a program in front of it does: separators are passed by an index, a
string is searched for the next quote or backslash, a number for its first byte that is none of a
number, and a word compared letter by letter. What is known of an unfinished token is kept in the
order of its bytes, and of a word how many letters have come. An access out of range answers `none`.

None is: `Indexed.nextToken` answers what `Scanner.scan` does, with the number of bytes that it used
(**`Indexed.nextToken_spec`**).
-/

namespace ExportStream

namespace Indexed

/-- What is known of a token that has begun. -/
inductive Begun where
  /-- A string; the bytes so far, and whether a backslash waits for its partner. -/
  | string (raw : List UInt8) (escaped : Bool)
  /-- A number; the bytes so far. -/
  | number (raw : List UInt8)
  /-- A word, and how many of its letters have come. -/
  | word (w : Word) (matched : Nat)

/-- The same as the scanner keeps it. -/
def Begun.scanner : Begun → Scanner
  | .string raw escaped => .string raw.reverse escaped
  | .number raw => .number raw.reverse
  | .word w matched => .word w (w.letters.drop matched)

/-- Of a word at least one letter is due. -/
def Begun.Sound : Begun → Prop
  | .word w matched => matched < w.letters.length
  | _ => True

/-- What is known of the next token, as the scanner keeps it. -/
def scannerOf : Option Begun → Scanner
  | none => .idle
  | some b => b.scanner

/-- The bytes that are used and the token, if it is complete, or why there is none; and what is known
of an unfinished one. -/
abbrev Answer := Except Scanner.Fault (Nat × Option Token) × Option Begun

/-! ### The program -/

/-- What a byte opens. -/
inductive Opened where
  /-- A token of one byte. -/
  | token (t : Token)
  /-- A token that goes on. -/
  | begun (b : Begun)
  /-- No token begins so. -/
  | refused

/-- What a byte opens. -/
def openedBy (b : UInt8) : Opened :=
  if b = 123 then .token .startObject
  else if b = 125 then .token .endObject
  else if b = 91 then .token .startArray
  else if b = 93 then .token .endArray
  else if b = 34 then .begun (.string [] false)
  else if b = 45 ∨ Text.isDigit b then .begun (.number [b])
  else if b = 116 then .begun (.word .true 1)
  else if b = 102 then .begun (.word .false 1)
  else if b = 110 then .begun (.word .null 1)
  else .refused

/-- The index of the first byte from an index on that is no separator. -/
def skipSeparators (input : List UInt8) (pos : Nat) : Option Nat :=
  if pos < input.length then
    match input[pos]? with
    | none => none
    | some b => if Scanner.isSeparator b then skipSeparators input (pos + 1) else some pos
  else some pos
termination_by input.length - pos

/-- Where a string ends. -/
inductive Quote where
  /-- Not in these bytes; and whether a backslash waits for its partner. -/
  | unfinished (escaped : Bool)
  /-- At the quote with this index. -/
  | closed (i : Nat)

/-- Searches the bytes of a string from an index on. -/
def findQuote (part : List UInt8) (i : Nat) (escaped : Bool) : Option Quote :=
  if escaped then
    if i = part.length then some (.unfinished true) else findQuote part (i + 1) false
  else
    match _hs : slice? part i part.length with
    | none => none
    | some rest =>
      match _hf : rest.findIdx? fun b => b = 34 ∨ b = 92 with
      | none => some (.unfinished false)
      | some off =>
        match part[i + off]? with
        | none => none
        | some b => if b = 92 then findQuote part (i + off + 1) true else some (.closed (i + off))
termination_by 2 * (part.length - i) + (if escaped then 1 else 0)
decreasing_by
  all_goals simp_all only [if_true, Bool.false_eq_true, if_false]
  · omega
  · have hlength := length_of_slice? _hs
    obtain ⟨hoff, -⟩ := List.findIdx?_eq_some_iff_getElem.mp _hf
    omega

/-- Compares the bytes from an index on with the letters of a word from another on. -/
def matchWord (w : Word) (input : List UInt8) (pos matched : Nat) : Option Answer :=
  if matched < w.letters.length then
    match input[pos]? with
    | none => some (.ok (pos, none), some (.word w matched))
    | some b =>
      match w.letters[matched]? with
      | none => none
      | some c =>
        if b = c then matchWord w input (pos + 1) (matched + 1)
        else some (.error (.word w), none)
  else some (.ok (pos, some w.token), none)
termination_by w.letters.length - matched

/-- A token that ends at an index, or the fault of its bytes. -/
def ended (t : Except Scanner.Fault Token) (pos : Nat) : Answer :=
  match t with
  | .ok t => (.ok (pos, some t), none)
  | .error f => (.error f, none)

/-- The token that the bytes between two quotes stand for. -/
def stringToken (raw : List UInt8) : Option (Except Scanner.Fault Token) := do
  match ← unescape raw with
  | .ok s => return .ok (.string s)
  | .error f => return .error (.string f)

/-- Goes on with a token that has begun. -/
def goOn (input : List UInt8) (pos : Nat) : Begun → Option Answer
  | .string raw escaped => do
    let part ← slice? input pos input.length
    match ← findQuote part 0 escaped with
    | .unfinished escaped =>
      return (.ok (input.length, none), some (.string (raw ++ part) escaped))
    | .closed i => return ended (← stringToken (raw ++ (← slice? part 0 i))) (pos + i + 1)
  | .number raw => do
    let part ← slice? input pos input.length
    match part.findIdx? fun b => !Scanner.isNumberByte b with
    | some n => return ended (Scanner.numberToken (raw ++ (← slice? part 0 n))) (pos + n)
    | none => return (.ok (input.length, none), some (.number (raw ++ part)))
  | .word w matched => matchWord w input pos matched

/-- Reads the next token of the input. -/
def nextToken (known : Option Begun) (input : List UInt8) : Option Answer :=
  match known with
  | some b => goOn input 0 b
  | none => do
    let pos ← skipSeparators input 0
    match input[pos]? with
    | none => return (.ok (pos, none), none)
    | some b =>
      match openedBy b with
      | .token t => return (.ok (pos + 1, some t), none)
      | .begun known => goOn input (pos + 1) known
      | .refused => return (.error (.byte b), none)

/-! ### What it answers -/

/-- The answer of the program where the scanner comes to a result; so many bytes are the input. -/
inductive Answers (size : Nat) : Scanner.Scan → Answer → Prop where
  /-- The bytes before the rest are used. -/
  | token (t : Token) {rest : List UInt8} {n : Nat} (h : n + rest.length = size) :
      Answers size (.token t rest) (.ok (n, some t), none)
  /-- All bytes are used. -/
  | more {s : Scanner} {known : Option Begun} (h : ∀ b ∈ known, b.Sound) (hs : s = scannerOf known) :
      Answers size (.more s) (.ok (size, none), known)
  /-- The bytes are refused. -/
  | fail (f : Scanner.Fault) : Answers size (.fail f) (.error f, none)

variable {front part rest : List UInt8}

theorem skipSeparators_spec (front bytes : List UInt8) :
    ∃ gap rest, bytes = gap ++ rest ∧ gap.all Scanner.isSeparator ∧
      (∀ b ∈ rest.head?, Scanner.isSeparator b = false) ∧
      skipSeparators (front ++ bytes) front.length = some (front ++ gap).length := by
  induction bytes generalizing front with
  | nil =>
    refine ⟨[], [], rfl, rfl, by simp, ?_⟩
    rw [skipSeparators, if_neg (by simp), List.append_nil]
  | cons b bytes ih =>
    by_cases hb : Scanner.isSeparator b = true
    · obtain ⟨gap, rest, hbytes, hgap, hrest, hskip⟩ := ih (front ++ [b])
      refine ⟨b :: gap, rest, by rw [hbytes, List.cons_append], ?_, hrest, ?_⟩
      · rw [List.all_cons, hb, hgap]
        rfl
      · rw [skipSeparators, if_pos (by simp), getElem?_append_head]
        simp only [List.head?_cons, hb, if_true]
        rw [List.append_assoc, List.append_assoc, List.length_append] at hskip
        exact hskip
    · refine ⟨[], b :: bytes, rfl, rfl, ?_, ?_⟩
      · intro c hc
        cases hc
        exact Bool.eq_false_iff.mpr hb
      · rw [skipSeparators, if_pos (by simp), getElem?_append_head, List.append_nil]
        simp only [List.head?_cons, if_neg hb]

/-! ### Strings -/

/-- A byte that is found stands behind bytes that are not sought. -/
theorem split_of_findIdx? {p : UInt8 → Bool} {bytes : List UInt8} {n : Nat}
    (h : bytes.findIdx? p = some n) :
    ∃ plain b rest, bytes = plain ++ b :: rest ∧ plain.length = n ∧ (∀ x ∈ plain, p x = false) ∧
      p b = true := by
  induction bytes generalizing n with
  | nil => cases h
  | cons c bytes ih =>
    rw [List.findIdx?_cons] at h
    by_cases hc : p c = true
    · rw [if_pos hc] at h
      cases h
      exact ⟨[], c, bytes, rfl, rfl, by simp, hc⟩
    · rw [if_neg hc] at h
      obtain ⟨m, hm, rfl⟩ := Option.map_eq_some_iff.mp h
      obtain ⟨plain, b, rest, rfl, rfl, hplain, hb⟩ := ih hm
      refine ⟨c :: plain, b, rest, rfl, rfl, ?_, hb⟩
      intro x hx
      rcases List.mem_cons.mp hx with rfl | hx
      · exact Bool.eq_false_iff.mpr hc
      · exact hplain x hx

/-- Neither quotes nor backslashes end or escape anything. -/
theorem scan_string_plain {plain : List UInt8} (h : ∀ x ∈ plain, x ≠ 34 ∧ x ≠ 92)
    (raw rest : List UInt8) :
    Scanner.scan (.string raw false) (plain ++ rest) =
      Scanner.scan (.string (plain.reverse ++ raw) false) rest := by
  induction plain generalizing raw with
  | nil => rfl
  | cons x plain ih =>
    obtain ⟨hquote, hslash⟩ := h x (List.mem_cons_self ..)
    have hescaped : (x == 92) = false := by simpa using hslash
    rw [List.cons_append, Scanner.scan, if_neg hquote, hescaped,
      ih (fun y hy => h y (List.mem_cons_of_mem _ hy))]
    simp

/-- What is found of a string from the bytes behind an index. -/
def Quote.Found (front bytes : List UInt8) (escaped : Bool) : Quote → Prop
  | .unfinished e => ∀ raw, Scanner.scan (.string raw escaped) bytes =
      .more (.string (bytes.reverse ++ raw) e)
  | .closed i => ∃ body rest, bytes = body ++ 34 :: rest ∧ i = (front ++ body).length ∧
      ∀ raw, Scanner.scan (.string raw escaped) bytes =
        Scanner.finish (Scanner.stringToken (body.reverse ++ raw).reverse) rest

/-- What is found behind the bytes of a string that go before is found from them on. -/
theorem Quote.Found.before {front text bytes : List UInt8} {escaped before : Bool} {q : Quote}
    (h : q.Found (front ++ text) bytes escaped)
    (hscan : ∀ raw, Scanner.scan (.string raw before) (text ++ bytes) =
      Scanner.scan (.string (text.reverse ++ raw) escaped) bytes) :
    q.Found front (text ++ bytes) before := by
  cases q with
  | unfinished e =>
    intro raw
    rw [hscan, h, List.reverse_append, List.append_assoc]
  | closed i =>
    obtain ⟨body, rest, hbytes, hi, hfound⟩ := h
    refine ⟨text ++ body, rest, by rw [hbytes, List.append_assoc], by rw [hi, List.append_assoc], ?_⟩
    intro raw
    rw [hscan, hfound, ← List.append_assoc, ← List.reverse_append]

theorem findQuote_spec (front bytes : List UInt8) (escaped : Bool) :
    ∃ q, findQuote (front ++ bytes) front.length escaped = some q ∧
      q.Found front bytes escaped := by
  induction hn : bytes.length using Nat.strongRecOn generalizing front bytes escaped with
  | ind n ih =>
    subst hn
    -- the bytes behind a part that is done are fewer
    have hnext (text rest : List UInt8) (e : Bool) (hne : bytes = text ++ rest)
        (hlt : 0 < text.length) :
        ∃ q, findQuote (front ++ bytes) (front ++ text).length e = some q ∧
          q.Found (front ++ text) rest e := by
      subst hne
      rw [← List.append_assoc]
      exact ih rest.length (by simp only [List.length_append]; omega) (front ++ text) rest e rfl
    cases escaped with
    | true =>
      rw [findQuote]
      simp only [if_true]
      rcases bytes with _ | ⟨b, rest⟩
      · rw [if_pos (by simp)]
        refine ⟨_, rfl, ?_⟩
        intro raw
        rw [Scanner.scan]
        rfl
      · rw [if_neg (by simp)]
        obtain ⟨q, hq, hfound⟩ := hnext [b] rest false rfl (by simp)
        rw [List.length_append] at hq
        have hscan (raw : List UInt8) : Scanner.scan (.string raw true) ([b] ++ rest) =
            Scanner.scan (.string ([b].reverse ++ raw) false) rest := by
          rw [List.singleton_append, Scanner.scan]
          rfl
        exact ⟨q, hq, hfound.before hscan⟩
    | false =>
      have hslice := slice?_append front bytes
      rw [findQuote]
      simp only [Bool.false_eq_true, if_false]
      split
      · next hnone => cases hslice.symm.trans hnone
      next rest hrest =>
      cases hslice.symm.trans hrest
      split
      · next hnone =>
        have hall := List.findIdx?_eq_none_iff.mp hnone
        refine ⟨_, rfl, ?_⟩
        intro raw
        have hplain : ∀ x ∈ bytes, x ≠ 34 ∧ x ≠ 92 := by simpa using hall
        have hscan := scan_string_plain hplain raw []
        rw [List.append_nil] at hscan
        rw [hscan, Scanner.scan]
      · next off hsome =>
        obtain ⟨plain, b, rest, rfl, rfl, hplain, hb⟩ := split_of_findIdx? hsome
        have hneither : ∀ x ∈ plain, x ≠ 34 ∧ x ≠ 92 := by simpa using hplain
        have hscan := scan_string_plain hneither
        rw [getElem?_append_at]
        simp only [List.getElem?_append_right (Nat.le_refl _), Nat.sub_self, List.getElem?_cons_zero]
        by_cases hslash : b = 92
        · subst hslash
          obtain ⟨q, hq, hfound⟩ := hnext (plain ++ [92]) rest true (by simp) (by simp)
          have hopen (raw : List UInt8) : Scanner.scan (.string raw false) (plain ++ [92] ++ rest) =
              Scanner.scan (.string ((plain ++ [92]).reverse ++ raw) true) rest := by
            rw [List.append_assoc, List.singleton_append, hscan, Scanner.scan, if_neg (by decide),
              List.reverse_append]
            rfl
          have hbefore := hfound.before hopen
          rw [List.append_assoc, List.singleton_append] at hbefore
          rw [List.length_append, List.length_append, ← Nat.add_assoc] at hq
          rw [if_pos rfl]
          exact ⟨q, hq, hbefore⟩
        · have hquote : b = 34 := by simpa [hslash] using hb
          subst hquote
          refine ⟨_, if_neg hslash, plain, rest, rfl, by simp, ?_⟩
          intro raw
          rw [hscan, Scanner.scan, if_pos rfl]

/-! ### Numbers and words -/

/-- Bytes of a number are taken as they come. -/
theorem scan_number_plain {plain : List UInt8} (h : ∀ x ∈ plain, Scanner.isNumberByte x = true)
    (raw rest : List UInt8) :
    Scanner.scan (.number raw) (plain ++ rest) =
      Scanner.scan (.number (plain.reverse ++ raw)) rest := by
  induction plain generalizing raw with
  | nil => rfl
  | cons x plain ih =>
    rw [List.cons_append, Scanner.scan, if_pos (h x (List.mem_cons_self ..)),
      ih (fun y hy => h y (List.mem_cons_of_mem _ hy))]
    simp

/-- A token that ends before the rest of the input. -/
theorem answers_ended (t : Except Scanner.Fault Token) {size n : Nat} (h : n + rest.length = size) :
    Answers size (Scanner.finish t rest) (ended t n) := by
  rcases t with f | t
  · exact .fail f
  · exact .token t h

/-- The next letter of a word. -/
theorem scan_word_cons (w : Word) (c b : UInt8) (due rest : List UInt8) :
    Scanner.scan (.word w (c :: due)) (b :: rest) =
      if b = c then (if due = [] then .token w.token rest else Scanner.scan (.word w due) rest)
      else .fail (.word w) := by
  rcases due with _ | ⟨d, due⟩
  · rw [Scanner.scan, if_pos rfl]
  · have hne : d :: due ≠ [] := List.cons_ne_nil d due
    rw [Scanner.scan, if_neg hne]
    exact hne

theorem matchWord_spec (w : Word) (front bytes : List UInt8) {matched : Nat}
    (hdue : matched < w.letters.length) :
    ∃ a, matchWord w (front ++ bytes) front.length matched = some a ∧
      Answers (front ++ bytes).length
        (Scanner.scan (.word w (w.letters.drop matched)) bytes) a := by
  induction bytes generalizing front matched with
  | nil =>
    rw [matchWord, if_pos hdue, getElem?_append_head, Scanner.scan, List.append_nil]
    refine ⟨_, rfl, .more ?_ rfl⟩
    intro b hb
    cases hb
    exact hdue
  | cons b bytes ih =>
    have hletter : w.letters[matched]? = some w.letters[matched] := List.getElem?_eq_getElem hdue
    rw [matchWord, if_pos hdue, getElem?_append_head, List.drop_eq_getElem_cons hdue, hletter,
      scan_word_cons]
    simp only [List.head?_cons]
    by_cases hb : b = w.letters[matched]
    · rw [if_pos hb, if_pos hb]
      by_cases hnext : matched + 1 < w.letters.length
      · have hfront : front ++ b :: bytes = (front ++ [b]) ++ bytes := by simp
        have hmore : w.letters.drop (matched + 1) ≠ [] := by
          intro hnil
          exact absurd (List.drop_eq_nil_iff.mp hnil) (Nat.not_le_of_lt hnext)
        obtain ⟨a, ha, hanswers⟩ := ih (front ++ [b]) hnext
        rw [← hfront, List.length_append] at ha
        rw [← hfront] at hanswers
        rw [if_neg hmore]
        exact ⟨a, ha, hanswers⟩
      · rw [matchWord, if_neg hnext, List.drop_of_length_le (Nat.le_of_not_lt hnext), if_pos rfl]
        exact ⟨_, rfl, .token _ (by simp only [List.length_append, List.length_cons]; omega)⟩
    · rw [if_neg hb, if_neg hb]
      exact ⟨_, rfl, .fail _⟩

/-! ### Tokens -/

theorem stringToken_eq (raw : List UInt8) : stringToken raw = some (Scanner.stringToken raw) := by
  rw [stringToken, unescape_eq, Scanner.stringToken]
  rcases Escape.decode raw with f | s <;> rfl

/-- What an opened token is for the scanner. -/
def Opened.opening : Opened → Scanner.Opening
  | .token t => .token t
  | .begun b => .begun b.scanner
  | .refused => .refused

theorem opening_openedBy (b : UInt8) : (openedBy b).opening = Scanner.opening b := by
  simp only [openedBy, Scanner.opening, apply_ite Opened.opening]
  rfl

theorem sound_of_openedBy {b : UInt8} {known : Begun} (h : openedBy b = .begun known) :
    known.Sound := by
  unfold openedBy at h
  split_ifs at h
  all_goals
    cases h
    simp [Begun.Sound, Word.letters, Word.tail]

/-- A token that has begun goes on as the scanner does, from any index on. -/
theorem goOn_spec {b : Begun} (h : b.Sound) (front bytes : List UInt8) :
    ∃ a, goOn (front ++ bytes) front.length b = some a ∧
      Answers (front ++ bytes).length (b.scanner.scan bytes) a := by
  have hslice := slice?_append front bytes
  cases b with
  | string raw escaped =>
    obtain ⟨q, hq, hfound⟩ := findQuote_spec [] bytes escaped
    rw [List.nil_append, List.length_nil] at hq
    simp only [goOn, hslice, hq, bind, Option.bind, pure]
    cases q with
    | unfinished e =>
      refine ⟨_, rfl, ?_⟩
      rw [Begun.scanner, hfound, ← List.reverse_append]
      exact .more (by simp [Begun.Sound]) rfl
    | closed i =>
      obtain ⟨body, rest, rfl, rfl, hscan⟩ := hfound
      simp only [List.nil_append, slice?_front, stringToken_eq]
      refine ⟨_, rfl, ?_⟩
      rw [Begun.scanner, hscan, ← List.reverse_append, List.reverse_reverse]
      exact answers_ended _ (by simp only [List.length_append, List.length_cons]; omega)
  | number raw =>
    simp only [goOn, hslice, bind, Option.bind, pure]
    rcases hfind : bytes.findIdx? fun b => !Scanner.isNumberByte b with _ | n
    · have hall : ∀ x ∈ bytes, Scanner.isNumberByte x = true := by
        simpa using List.findIdx?_eq_none_iff.mp hfind
      have hscan := scan_number_plain hall raw.reverse []
      rw [List.append_nil] at hscan
      refine ⟨_, rfl, ?_⟩
      rw [Begun.scanner, hscan, Scanner.scan, ← List.reverse_append]
      exact .more (by simp [Begun.Sound]) rfl
    · obtain ⟨plain, b, rest, rfl, rfl, hplain, hb⟩ := split_of_findIdx? hfind
      have hall : ∀ x ∈ plain, Scanner.isNumberByte x = true := by simpa using hplain
      have hend : ¬Scanner.isNumberByte b = true := by simpa using hb
      simp only [slice?_front]
      refine ⟨_, rfl, ?_⟩
      rw [Begun.scanner, scan_number_plain hall, Scanner.scan, if_neg hend, ← List.reverse_append,
        List.reverse_reverse]
      exact answers_ended _ (by simp only [List.length_append, List.length_cons]; omega)
  | word w matched => exact matchWord_spec w front bytes h

/-- **A token is read by indices that are in range**, and as the scanner reads it. -/
theorem nextToken_spec {known : Option Begun} (h : ∀ b ∈ known, b.Sound) (input : List UInt8) :
    ∃ a, nextToken known input = some a ∧
      Answers input.length ((scannerOf known).scan input) a := by
  cases known with
  | some b => exact goOn_spec (h b rfl) [] input
  | none =>
    obtain ⟨gap, rest, rfl, hgap, hrest, hskip⟩ := skipSeparators_spec [] input
    rw [List.nil_append, List.length_nil, List.nil_append] at hskip
    rw [scannerOf, Scanner.scan_gap hgap]
    simp only [nextToken, hskip, bind, Option.bind, pure, getElem?_append_head]
    rcases rest with _ | ⟨b, rest⟩
    · rw [Scanner.scan]
      refine ⟨_, rfl, ?_⟩
      rw [List.append_nil]
      exact .more (by simp) rfl
    · have hopening := opening_openedBy b
      rw [Scanner.scan, if_neg (by simp [hrest b rfl])]
      simp only [List.head?_cons]
      rcases hopened : openedBy b with t | known | _
      · rw [hopened] at hopening
        rw [← hopening]
        exact ⟨_, rfl, .token t (by simp only [List.length_append, List.length_cons]; omega)⟩
      · rw [hopened] at hopening
        rw [← hopening]
        have hgoes := goOn_spec (sound_of_openedBy hopened) (gap ++ [b]) rest
        rw [List.append_assoc, List.length_append] at hgoes
        exact hgoes
      · rw [hopened] at hopening
        rw [← hopening]
        exact ⟨_, rfl, .fail _⟩

end Indexed

end ExportStream

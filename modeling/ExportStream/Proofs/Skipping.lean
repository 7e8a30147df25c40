import ExportStream.Proofs.Workings
/-!
# Passing over, element by element

Whoever passes over the records of a kind may be told, behind every element, how many were taken off
the stream so far (`Session.skipTelling`). The elements are taken off one by one up to the end of
the array, or up to an element or a payload at which the stream fails (`Session.PassesOver`), and
each of them is told of at once. The tally is told later: **`Session.counts_of_skipping`** says that
all of them are counted if the end of the array comes, and that none of them is counted if a failure
comes before, though they are gone from the stream (`Session.uncounted_before_failure`).
-/

namespace ExportStream.Session

variable {σ : Type} {s t : Session}

/-! ### Telling of every element -/

/-- Takes the rest of the array off the stream and tells, behind each element, how many were taken
off; `n` elements were taken off before. -/
def dropTelling (told : Nat → σ → σ) (s : Session) (n : Nat) (a : σ) :
    Except Failure Nat × Session × σ :=
  match _h : s.nextElement with
  | (.error f, s') => (.error f, s', a)
  | (.ok none, s') => (.ok n, s', a)
  | (.ok (some v), s') =>
    match _h' : s'.dropPayload v with
    | (.error f, s'') => (.error f, s'', a)
    | (.ok (), s'') => dropTelling told s'' (n + 1) (told (n + 1) a)
termination_by s.fuel
decreasing_by exact ((spent_nextElement _h).trans (spent_dropPayload _h')).fuel_lt

/-- Passes over what is left of the records of a kind, which has to be the current one, and tells
behind each element how many were taken off. -/
def skipTelling (told : Nat → σ → σ) (s : Session) (kind : Option Kind) (a : σ) :
    Except Failure Nat × Session × σ :=
  match kind with
  | none => (.ok 0, s, a)
  | some k =>
    if s.current = some k then
      match s.dropTelling told 0 a with
      | (.error f, s, a) => (.error f, s, a)
      | (.ok n, s, a) => (.ok n, (s.countSkipped k n).note (.skipped k n), a)
    else
      (.error (.general .invalidArgs
        ("Cannot skip " ++ k.name ++ " while positioned at " ++ Kind.nameOrNone s.current)), s, a)

/-- What was told of so many elements, behind `n` others. -/
def toldOf (told : Nat → σ → σ) (n count : Nat) (a : σ) : σ :=
  (List.range' (n + 1) count).foldl (fun a i => told i a) a

theorem toldOf_succ (told : Nat → σ → σ) (n count : Nat) (a : σ) :
    toldOf told n (count + 1) a = toldOf told (n + 1) count (told (n + 1) a) := rfl

/-! ### What is taken off -/

/-- The rest of the array is taken off the stream: the elements `vs` with their payloads, up to the
end of the array or to a failure. -/
inductive PassesOver : Session → List Json → Except Failure Unit → Session → Prop where
  /-- The array ends. -/
  | last {s t : Session} (h : s.nextElement = (.ok none, t)) : PassesOver s [] (.ok ()) t
  /-- The next element cannot be taken off. -/
  | broken {s t : Session} {f : Failure} (h : s.nextElement = (.error f, t)) :
      PassesOver s [] (.error f) t
  /-- The payload behind the next element cannot be taken off. -/
  | cut {s s₁ t : Session} {v : Json} {f : Failure} (h : s.nextElement = (.ok (some v), s₁))
      (h' : s₁.dropPayload v = (.error f, t)) : PassesOver s [] (.error f) t
  /-- An element and its payload are taken off. -/
  | element {s s₁ s₂ t : Session} {v : Json} {vs : List Json} {r : Except Failure Unit}
      (h : s.nextElement = (.ok (some v), s₁)) (h' : s₁.dropPayload v = (.ok (), s₂))
      (rest : PassesOver s₂ vs r t) : PassesOver s (v :: vs) r t

/-- From every session the rest of the array is taken off somehow. -/
theorem exists_passesOver (s : Session) : ∃ vs r t, s.PassesOver vs r t := by
  induction hfuel : s.fuel using Nat.strongRecOn generalizing s with
  | ind n ih =>
    rcases hn : s.nextElement with ⟨f | _ | v, s₁⟩
    · exact ⟨[], _, _, .broken hn⟩
    · exact ⟨[], _, _, .last hn⟩
    · rcases hd : s₁.dropPayload v with ⟨f | _, s₂⟩
      · exact ⟨[], _, _, .cut hn hd⟩
      · have hless := ((spent_nextElement hn).trans (spent_dropPayload hd)).fuel_lt
        obtain ⟨vs, r, t, hrest⟩ := ih s₂.fuel (hfuel ▸ hless) s₂ rfl
        exact ⟨v :: vs, r, t, .element hn hd hrest⟩

theorem dropElements_of_passesOver {vs : List Json} {r : Except Failure Unit}
    (h : s.PassesOver vs r t) (n : Nat) : s.dropElements n = (r, n + vs.length, t) := by
  induction h generalizing n with
  | last h => rw [dropElements_eq, h]; rfl
  | broken h => rw [dropElements_eq, h]; rfl
  | cut h h' =>
    rw [dropElements_eq, h]
    simp only [h']
    rfl
  | element h h' _ ih =>
    rw [dropElements_eq, h]
    simp only [h', ih, List.length_cons]
    rw [Nat.add_assoc, Nat.add_comm 1]

theorem dropTelling_eq (told : Nat → σ → σ) (s : Session) (n : Nat) (a : σ) :
    s.dropTelling told n a =
      match s.nextElement with
      | (.error f, s') => (.error f, s', a)
      | (.ok none, s') => (.ok n, s', a)
      | (.ok (some v), s') =>
        match s'.dropPayload v with
        | (.error f, s'') => (.error f, s'', a)
        | (.ok (), s'') => dropTelling told s'' (n + 1) (told (n + 1) a) := by
  rw [dropTelling]
  rcases s.nextElement with ⟨f | _ | v, s'⟩
  · rfl
  · rfl
  · simp only
    rcases s'.dropPayload v with ⟨f | _, s''⟩ <;> rfl

/-- Every element that is taken off is told of, whether the end of the array comes or a failure. -/
theorem dropTelling_of_passesOver {vs : List Json} {r : Except Failure Unit}
    (h : s.PassesOver vs r t) (told : Nat → σ → σ) (n : Nat) (a : σ) :
    s.dropTelling told n a =
      (r.map fun _ => n + vs.length, t, toldOf told n vs.length a) := by
  induction h generalizing n a with
  | last h => rw [dropTelling_eq, h]; rfl
  | broken h => rw [dropTelling_eq, h]; rfl
  | cut h h' =>
    rw [dropTelling_eq, h]
    simp only [h']
    rfl
  | element h h' _ ih =>
    rw [dropTelling_eq, h]
    simp only [h', ih, List.length_cons, toldOf_succ]
    rw [Nat.add_assoc, Nat.add_comm 1]

/-- Telling changes nothing about passing over: the callback hears `1`, `2` and so on up to the
number that `skipKind` answers. -/
theorem skipTelling_eq_skipKind (told : Nat → σ → σ) (s : Session) (kind : Option Kind) (a : σ) :
    s.skipTelling told kind a =
      match s.skipKind kind with
      | (r, n, s') => (r.map fun _ => n, s', toldOf told 0 n a) := by
  cases kind with
  | none => rfl
  | some k =>
    unfold skipTelling skipKind
    by_cases hk : s.current = some k
    · obtain ⟨vs, r, t, h⟩ := exists_passesOver s
      simp only [hk, if_true, dropElements_of_passesOver h, dropTelling_of_passesOver h]
      rcases r with f | _ <;> simp [Except.map]
    · simp only [hk, if_false]
      rfl

/-! ### What is counted -/

theorem tally_readToken {r : Except Failure Token} (h : s.readToken = (r, t)) :
    t.tally = s.tally := by
  rw [readToken_moves h]

theorem tally_readValue {u : Token} {r : Except Failure Json} (h : s.readValue u = (r, t)) :
    t.tally = s.tally := by
  cases h
  rfl

theorem tally_copyPayload {size : Nat} {sink sink' : Sink} {r : Except Failure String}
    (h : s.copyPayload size sink = (r, sink', t)) : t.tally = s.tally := by
  cases h
  rfl

theorem tally_openArray {r : Except Failure Unit} (h : s.openArray = (r, t)) :
    t.tally = s.tally := by
  unfold openArray at h
  split at h
  all_goals
    next hr =>
      have hread := tally_readToken hr
      cases h
      exact hread

theorem tally_readElement {r : Except Failure (Option Json)} (h : s.readElement = (r, t)) :
    t.tally = s.tally := by
  unfold readElement at h
  split at h
  · next hr =>
    cases h
    exact tally_readToken hr
  · next hr =>
    have hread := tally_readToken hr
    cases h
    exact hread
  · next hr =>
    split at h
    all_goals
      next hv =>
        cases h
        exact (tally_readValue hv).trans (tally_readToken hr)

theorem tally_nextElement {r : Except Failure (Option Json)} (h : s.nextElement = (r, t)) :
    t.tally = s.tally := by
  unfold nextElement at h
  split at h
  · cases h
    rfl
  · exact tally_readElement h
  · split at h
    · next ho =>
      cases h
      exact tally_openArray ho
    · next ho => exact (tally_readElement h).trans (tally_openArray ho)

theorem tally_dropPayload {v : Json} {r : Except Failure Unit} (h : s.dropPayload v = (r, t)) :
    t.tally = s.tally := by
  unfold dropPayload dropBytes at h
  split at h
  · split at h
    · cases h
      rfl
    · split at h
      all_goals
        next hc =>
          cases h
          exact tally_copyPayload hc
  · cases h
    rfl

/-- Taking elements off the stream counts nothing, whatever comes of it. -/
theorem PassesOver.tally_eq {vs : List Json} {r : Except Failure Unit} (h : s.PassesOver vs r t) :
    t.tally = s.tally := by
  induction h with
  | last h => exact tally_nextElement h
  | broken h => exact tally_nextElement h
  | cut h h' => exact (tally_dropPayload h').trans (tally_nextElement h)
  | element h h' _ ih => exact ih.trans ((tally_dropPayload h').trans (tally_nextElement h))

theorem counts_readBuild {r : Except Failure Unit} (h : s.readBuild = (r, t)) (l : Kind) :
    t.tally.get l = s.tally.get l := by
  unfold readBuild at h
  split at h
  · next hr =>
    cases h
    rw [tally_readToken hr]
  · next hr =>
    cases h
    rw [← tally_readToken hr]
    cases l <;> rfl
  · next hr =>
    cases h
    rw [tally_readToken hr]

/-- Labels count nothing, whatever comes of reading them. -/
theorem counts_nextLabel {r : Except Failure (Option Kind)} (h : s.nextLabel = (r, t)) (l : Kind) :
    t.tally.get l = s.tally.get l := by
  have hlabel : ∀ {u v : Session} {x : Except Failure (Option String)}, u.readLabel = (x, v) →
      v.tally = u.tally := by
    intro u v x hx
    rw [readLabel_moves hx]
  fun_induction nextLabel s with
  | case1 =>
    cases h
    rfl
  | case2 s he f s₁ hs =>
    cases h
    rw [hlabel hs]
  | case3 s he s₁ hs =>
    have hread := hlabel hs
    cases h
    exact congrArg (Tally.get · l) hread
  | case4 s he label s₁ hs k hk =>
    have hread := hlabel hs
    cases h
    exact congrArg (Tally.get · l) hread
  | case5 s he label s₁ hs hk =>
    cases h
    rw [hlabel hs]
  | case6 s he label s₁ hs hk f s₂ hb =>
    cases h
    rw [counts_readBuild hb, hlabel hs]
  | case7 s he label s₁ hs hk s₂ hb ih => rw [ih h, counts_readBuild hb, hlabel hs]
  | case8 s he label s₁ hs hk f s₂ hd =>
    cases h
    rw [dropSection_moves hd, ← hlabel hs]
  | case9 s he label s₁ hs hk s₂ hd ih =>
    rw [ih h, dropSection_moves hd, ← hlabel hs]

/-- How many of `n` elements are counted if taking them off ends like this: all of them behind the
end of the array, and none before a failure. -/
def countedOf (r : Except Failure Unit) (n : Nat) : Nat := if r.isOk then n else 0

/-- From `s` to `t` so many elements of a kind were counted as passed over, and none of another. -/
def CountsSkipped (s : Session) (k : Kind) (n : Nat) (t : Session) : Prop :=
  ∀ l, (t.tally.get l).skipped = (s.tally.get l).skipped + if l = k then n else 0

theorem countsSkipped_countSkipped (s : Session) (k : Kind) (n : Nat) :
    s.CountsSkipped k n (s.countSkipped k n) := by
  intro l
  unfold countSkipped
  by_cases hl : l = k
  · rw [if_pos hl, hl, Tally.get_modify_self]
    rfl
  · rw [if_neg hl, Tally.get_modify_of_ne hl]
    rfl

theorem countsSkipped_countDrained (s : Session) (k : Kind) (n : Nat) :
    s.CountsSkipped k n (s.countDrained k n) := by
  unfold countDrained
  split
  · next hn =>
    intro l
    rw [hn]
    simp
  · exact countsSkipped_countSkipped s k n

/-- Nothing is counted before a failure. -/
theorem PassesOver.countsSkipped_error {k : Kind} {vs : List Json} {f : Failure}
    (h : s.PassesOver vs (.error f) t) : s.CountsSkipped k (countedOf (.error f) vs.length) t := by
  intro l
  rw [h.tally_eq]
  simp [countedOf, Except.isOk, Except.toBool]

theorem countsSkipped_skipKind {k : Kind} {vs : List Json} {r : Except Failure Unit}
    (hk : s.current = some k) (h : s.PassesOver vs r t) :
    s.CountsSkipped k (countedOf r vs.length) (s.skipKind (some k)).2.2 := by
  unfold skipKind
  simp only [hk, if_true, dropElements_of_passesOver h, Nat.zero_add]
  cases r with
  | error f => exact h.countsSkipped_error
  | ok _ =>
    intro l
    rw [← h.tally_eq]
    exact countsSkipped_countSkipped t k vs.length l

theorem PassesOver.of_closed {vs : List Json} {r : Except Failure Unit}
    (hclosed : s.array = .closed) (h : s.PassesOver vs r t) : vs = [] ∧ r = .ok () := by
  have hdrop := dropElements_of_passesOver h 0
  rw [dropElements_of_closed hclosed] at hdrop
  simp only [Prod.mk.injEq, Nat.zero_add] at hdrop
  exact ⟨List.length_eq_zero_iff.mp hdrop.2.1.symm, hdrop.1.symm⟩

theorem countsSkipped_finishCurrent {k : Kind} {vs : List Json} {r : Except Failure Unit}
    (hk : s.current = some k) (h : s.PassesOver vs r t) :
    s.CountsSkipped k (countedOf r vs.length) s.finishCurrent.2 := by
  by_cases hclosed : s.array = .closed
  · obtain ⟨rfl, rfl⟩ := h.of_closed hclosed
    rw [finishCurrent_of_closed hclosed]
    intro l
    simp [leave, countedOf]
  · unfold finishCurrent
    simp only [hk, hclosed, if_false, dropElements_of_passesOver h, Nat.zero_add]
    cases r with
    | error f => exact h.countsSkipped_error
    | ok _ =>
      intro l
      rw [← h.tally_eq]
      exact countsSkipped_countDrained t k vs.length l

/-- The labels that `nextKind` reads behind the array count nothing. -/
theorem countsSkipped_nextKind {k : Kind} {vs : List Json} {r : Except Failure Unit}
    (hk : s.current = some k) (h : s.PassesOver vs r t) :
    s.CountsSkipped k (countedOf r vs.length) s.nextKind.2 := by
  have hfinish := countsSkipped_finishCurrent hk h
  unfold nextKind
  rcases hf : s.finishCurrent with ⟨f | _, u⟩ <;> rw [hf] at hfinish
  · exact hfinish
  · simp only
    rcases hp : u.pending with _ | l
    · intro l
      rw [counts_nextLabel (Prod.ext rfl rfl) l]
      exact hfinish l
    · exact hfinish

/-! ### The account -/

theorem skipTelling_of_passesOver {k : Kind} {vs : List Json} {r : Except Failure Unit}
    (hk : s.current = some k) (h : s.PassesOver vs r t) (told : Nat → σ → σ) (a : σ) :
    s.skipTelling told (some k) a =
      (r.map fun _ => vs.length, (s.skipKind (some k)).2.2, toldOf told 0 vs.length a) := by
  rw [skipTelling_eq_skipKind]
  unfold skipKind
  simp only [hk, if_true, dropElements_of_passesOver h, Nat.zero_add]
  cases r <;> rfl

/-- A failure before the end of the array leaves the session where the stream failed. -/
theorem skipKind_of_failing {k : Kind} {vs : List Json} {f : Failure} (hk : s.current = some k)
    (h : s.PassesOver vs (.error f) t) : (s.skipKind (some k)).2.2 = t := by
  unfold skipKind
  simp only [hk, if_true, dropElements_of_passesOver h]

theorem nextKind_of_failing {k : Kind} {vs : List Json} {f : Failure} (hk : s.current = some k)
    (h : s.PassesOver vs (.error f) t) : s.nextKind = (.error f, t) := by
  have hopen : s.array ≠ .closed := by
    intro hclosed
    cases (h.of_closed hclosed).2
  have hfinish : s.finishCurrent = (.error f, t) := by
    unfold finishCurrent
    simp only [hk, hopen, if_false, dropElements_of_passesOver h]
  unfold nextKind
  rw [hfinish]

theorem skipTelling_elsewhere {kind : Option Kind} (hkind : kind = none ∨ kind ≠ s.current)
    (told : Nat → σ → σ) (a : σ) : (s.skipTelling told kind a).2 = (s, a) := by
  cases kind with
  | none => rfl
  | some k =>
    have hk : ¬ s.current = some k := by
      intro hk
      rcases hkind with h | h
      · cases h
      · exact h hk.symm
    unfold skipTelling
    simp only [hk, if_false]

/-- **What a caller is told of elements that are passed over, and what is counted of them.** For the
current kind the callback hears of every element that is taken off the stream with its payload, one
after the other. All of them are counted if the end of the array comes. None of them is counted if a
failure comes before, neither by the call that told of them nor on the way to the next kind, which
fails alike. A call for another kind takes nothing, tells nothing and counts nothing. -/
theorem counts_of_skipping (s : Session) (told : Nat → σ → σ) (a : σ) :
    (∀ k, s.current = some k → ∃ vs r t, s.PassesOver vs r t ∧
      (s.skipTelling told (some k) a).1 = r.map (fun _ => vs.length) ∧
      (s.skipTelling told (some k) a).2.2 = toldOf told 0 vs.length a ∧
      s.CountsSkipped k (countedOf r vs.length) (s.skipTelling told (some k) a).2.1 ∧
      s.CountsSkipped k (countedOf r vs.length) s.nextKind.2 ∧
      ∀ f, r = .error f → (s.skipTelling told (some k) a).2.1 = t ∧ s.nextKind = (.error f, t)) ∧
    ∀ kind, kind = none ∨ kind ≠ s.current → (s.skipTelling told kind a).2 = (s, a) := by
  constructor
  · intro k hk
    obtain ⟨vs, r, t, h⟩ := exists_passesOver s
    have htell := skipTelling_of_passesOver hk h told a
    refine ⟨vs, r, t, h, by rw [htell], by rw [htell], ?_, countsSkipped_nextKind hk h, ?_⟩
    · rw [htell]
      exact countsSkipped_skipKind hk h
    · rintro f rfl
      rw [htell]
      exact ⟨skipKind_of_failing hk h, nextKind_of_failing hk h⟩
  · intro kind hkind
    exact skipTelling_elsewhere hkind told a

/-- **Elements that were taken off before a failure are not counted.** Of the bytes
`{"Identities":[{},{}` the callback hears of two elements before the stream ends, and the tally
knows of none. -/
theorem uncounted_before_failure :
    let supply : Supply := { rest := Text.Utf8.bytesOf "\x7b\"Identities\":[\x7b\x7d,\x7b\x7d" }
    let s := (Session.start supply {} {}).begin.2.nextKind.2
    let told := s.skipTelling (fun n heard => heard ++ [n]) (some .identities) []
    s.current = some .identities ∧ told.1.isOk = false ∧ told.2.2 = [1, 2] ∧
      (told.2.1.tally.get .identities).skipped = 0 ∧
      (s.nextKind.2.tally.get .identities).skipped = 0 := by
  decide +kernel

end ExportStream.Session

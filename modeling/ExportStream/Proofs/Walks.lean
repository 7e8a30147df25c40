import ExportStream.Proofs.ReaderPostings
/-!
# Walks through an export

Whoever takes a session from kind to kind chooses at each array what to do with it: to read all
records, or so many of them, and then to ask for the next kind or to skip the rest first. A walk
(`Session.walk`) makes one such choice for each array and tells where it stopped, what it read there
and how it ended.

To read all records is to read some of them first and then the others (`Reader.read_split`), so that
the records of any choice are the first of all (`Reader.records_read`).
-/

namespace ExportStream

/-! ### Walks -/

/-- What is done with an array before the next kind is asked for. -/
inductive Choice where
  /-- All records are read. -/
  | all
  /-- So many records are read; the rest is left where it is. -/
  | leave (n : Nat)
  /-- So many records are read; the rest is skipped. -/
  | pass (n : Nat)

namespace Choice

/-- The most records that are read, if not all. -/
def limit : Choice → Option Nat
  | .all => none
  | .leave n | .pass n => some n

/-- The records that are read of those that there are. -/
def of {α : Type} (c : Choice) (records : List α) : List α :=
  match c.limit with
  | none => records
  | some n => records.take n

end Choice

/-- Reads records up to a limit, each with the position behind it. -/
def Reader.read (r : Reader) (limit : Option Nat) (s : Session) :
    Except Failure Unit × List (Nat × Record) × Reader × Session :=
  if limit = some 0 then (.ok (), [], r, s)
  else
    match _h : r.poll s with
    | (none, r, s) => (.ok (), [], r, s)
    | (some (.error f), r, s) => (.error f, [], r, s)
    | (some (.ok x), r, s) =>
      match r.read (limit.map (· - 1)) s with
      | (e, records, r, s') => (e, (s.position, x) :: records, r, s')
termination_by s.fuel
decreasing_by exact (spent_poll _h).fuel_lt

theorem Reader.read_eq (r : Reader) (limit : Option Nat) (s : Session) :
    r.read limit s =
      if limit = some 0 then (.ok (), [], r, s)
      else
        match r.poll s with
        | (none, r, s) => (.ok (), [], r, s)
        | (some (.error f), r, s) => (.error f, [], r, s)
        | (some (.ok x), r, s) =>
          match r.read (limit.map (· - 1)) s with
          | (e, records, r, s') => (e, (s.position, x) :: records, r, s') := by
  rw [read]
  rcases r.poll s with ⟨_ | f | x, r', s'⟩ <;> rfl

/-- Reading records uses what is left. -/
theorem Reader.spent_read {r r' : Reader} {limit : Option Nat} {s s' : Session}
    {records : List (Nat × Record)} (h : r.read limit s = (.ok (), records, r', s')) :
    s.Spent 0 s' := by
  fun_induction Reader.read r limit s generalizing records with
  | case1 => cases h; exact .refl _
  | case2 r limit s hlimit r₁ s₁ hp =>
    cases h
    exact spent_poll_none hp
  | case3 => cases h
  | case4 r limit s hlimit x r₁ s₁ hp e xs r₂ s₂ hr ih =>
    cases h
    exact ((spent_poll hp).trans (ih hr)).weaken (by omega)

namespace Session

/-- Takes leave of the array of the kind `k`, of which those records are read that were chosen. -/
def part (s : Session) (k : Kind) : Choice → Except Failure Unit × Session
  | .all | .leave _ => (.ok (), s)
  | .pass _ =>
    match s.skipKind (some k) with
    | (e, _, s) => (e, s)

/-- Does with the array of the kind `k` what was chosen. -/
def visit (s : Session) (sinks : Sinks) (k : Kind) (c : Choice) :
    Except Failure Unit × List (Nat × Record) × Sinks × Session :=
  match (Reader.start s k sinks).read c.limit s with
  | (.error f, records, r, s) => (.error f, records, r.staging.sinks, s)
  | (.ok (), records, r, s) =>
    match s.part k c with
    | (e, s) => (e, records, r.staging.sinks, s)

theorem spent_part {s s' : Session} {k : Kind} {c : Choice} (h : s.part k c = (.ok (), s')) :
    s.Spent 0 s' := by
  cases c with
  | pass n =>
    unfold part at h
    rcases hs : s.skipKind (some k) with ⟨e, m, s₁⟩
    simp only [hs] at h
    cases h
    exact spent_skipKind hs
  | _ =>
    cases h
    exact .refl _

/-- A visit uses what is left. -/
theorem spent_visit {s s' : Session} {sinks sinks' : Sinks} {k : Kind} {c : Choice}
    {records : List (Nat × Record)} (h : s.visit sinks k c = (.ok (), records, sinks', s')) :
    s.Spent 0 s' := by
  unfold visit at h
  rcases hr : (Reader.start s k sinks).read c.limit s with ⟨f | _, xs, r, s₁⟩
  · rw [hr] at h
    cases h
  · rcases hp : s₁.part k c with ⟨e, s₂⟩
    rw [hr] at h
    simp only [hp] at h
    cases h
    exact ((Reader.spent_read hr).trans (spent_part hp)).weaken (by omega)

end Session

/-- Where a walk stopped: the kind, the position at which the kind was found, and the records that
were read there. -/
@[ext]
structure Stop where
  /-- The kind. -/
  kind : Kind
  /-- The position. -/
  position : Nat
  /-- The records, each with the position behind it. -/
  records : List (Nat × Record)

/-- The stop with those of its records that are chosen. -/
def Stop.chosen (c : Choice) (a : Stop) : Stop := { a with records := c.of a.records }

namespace Session

/-- Goes from kind to kind, doing with the array of each what is chosen for its number and its kind;
`n` arrays were visited before. -/
def walk (s : Session) (sinks : Sinks) (choose : Nat → Kind → Choice) (n : Nat) :
    Except Failure Unit × List Stop × Session :=
  match _h : s.nextKind with
  | (.error f, s) => (.error f, [], s)
  | (.ok none, s) => (.ok (), [], s)
  | (.ok (some k), s) =>
    match _h' : s.visit sinks k (choose n k) with
    | (.error f, records, _, s') => (.error f, [⟨k, s.position, records⟩], s')
    | (.ok (), records, sinks, s') =>
      match walk s' sinks choose (n + 1) with
      | (e, stops, s'') => (e, ⟨k, s.position, records⟩ :: stops, s'')
termination_by s.kindFuel
decreasing_by exact Nat.lt_of_le_of_lt (spent_visit _h').kindFuel_le (kindFuel_nextKind _h)

theorem walk_eq (s : Session) (sinks : Sinks) (choose : Nat → Kind → Choice) (n : Nat) :
    s.walk sinks choose n =
      match s.nextKind with
      | (.error f, s) => (.error f, [], s)
      | (.ok none, s) => (.ok (), [], s)
      | (.ok (some k), s) =>
        match s.visit sinks k (choose n k) with
        | (.error f, records, _, s') => (.error f, [⟨k, s.position, records⟩], s')
        | (.ok (), records, sinks, s') =>
          match walk s' sinks choose (n + 1) with
          | (e, stops, s'') => (e, ⟨k, s.position, records⟩ :: stops, s'') := by
  rw [walk]
  rcases s.nextKind with ⟨f | _ | k, s₁⟩
  · rfl
  · rfl
  · simp only
    rcases s₁.visit sinks k (choose n k) with ⟨f | _, records, sinks', s₂⟩ <;> rfl

end Session

/-! ### Where a session stands -/

namespace Session

theorem current_of_nextLabel {s s' : Session} {k : Kind} (h : s.nextLabel = (.ok (some k), s')) :
    s'.current = some k := by
  fun_induction nextLabel s with
  | case4 s _ label s₁ _ k' _ =>
    cases h
    rfl
  | case7 s _ label s₁ _ _ s₂ _ ih => exact ih h
  | case9 s _ label s₁ _ _ s₂ _ ih => exact ih h
  | _ => cases h

/-- The session stands at the kind that is found. -/
theorem current_of_nextKind {s s' : Session} {k : Kind} (h : s.nextKind = (.ok (some k), s')) :
    s'.current = some k := by
  unfold nextKind at h
  rcases hf : s.finishCurrent with ⟨f | _, s₁⟩
  · rw [hf] at h
    cases h
  · rw [hf] at h
    cases hp : s₁.pending with
    | none =>
      simp only [hp] at h
      exact current_of_nextLabel h
    | some k' =>
      simp only [hp] at h
      cases h
      rfl

end Session

/-! ### Readers at their kinds -/

namespace Reader

/-- A reader of the kind at which the session stands. -/
structure Attends (r : Reader) (k : Kind) (s : Session) : Prop where
  /-- It was made for the kind. -/
  kind_eq : r.kind = some k
  /-- The session stands at the kind. -/
  current_eq : s.current = some k
  /-- It reads elements of this form. -/
  form : r.form.sameForm k = true
  /-- It has nothing more only behind the array. -/
  closed : r.done = true → s.array = .closed

variable {r r' : Reader} {k : Kind} {s s' : Session}

theorem attends_start (hs : s.current = some k) (sinks : Sinks) :
    (start s k sinks).Attends k s where
  kind_eq := hs
  current_eq := hs
  form := by simp [start, Kind.sameForm]
  closed := by simp [start]

/-- What a reader that is not done hands out is what it pulls. -/
theorem Attends.poll_eq (h : r.Attends k s) (hdone : r.done = false) :
    r.poll s =
      match pull r.staging r.form k s with
      | (.ok (some x), g, s) => (some (.ok x), { r with staging := g }, s)
      | (.ok none, g, s) => (none, { r with staging := g, done := true }, s)
      | (.error f, g, s) =>
        (some (.error (f.within ("Reading " ++ k.name))),
          { r with staging := g, done := true }, s) := by
  unfold poll next
  simp only [hdone, Bool.false_eq_true, if_false, h.kind_eq, h.form, if_true]
  rcases pull r.staging r.form k s with ⟨f | _ | x, g, s'⟩ <;> rfl

theorem ledger_of_done (hdone : r.done = true) : r.ledger s = [] := by
  unfold ledger
  cases r.kind <;> simp [hdone]

theorem Attends.ledger_eq (h : r.Attends k s) (hdone : r.done = false) :
    r.ledger s = ledgerOfPull r.staging r.form k s := by
  unfold ledger
  rw [h.kind_eq]
  simp [hdone, h.form]

theorem closed_of_pull {g g' : Staging} {form : Kind}
    (h : pull g form k s = (.ok none, g', s')) : s'.array = .closed := by
  induction g, s using element_induction form k with
  | step g s ih =>
    rcases hs : s.nextElement with ⟨f | _ | v, s₁⟩
    · rw [pull_eq, hs] at h
      cases h
    · have hclosed := Session.closed_of_nextElement hs
      rw [pull_eq, hs] at h
      have hs' : s' = (g.finish form k s₁).2 := congrArg (fun p => p.2.2) h.symm
      rw [hs']
      unfold Staging.finish Staging.drop
      split_ifs <;> exact hclosed
    · rcases hd : g.decode form k v s₁ with ⟨f | d, g₂, s₂⟩
      · rw [pull_eq, hs] at h
        simp only [hd] at h
        cases h
      · rw [pull_of_decode hs hd] at h
        cases d with
        | record r => cases h
        | _ => exact ih v s₁ _ g₂ s₂ hs hd h

theorem done_of_poll (h : r.poll s = (none, r', s')) : r'.done = true := by
  unfold poll at h
  cases hdone : r.done with
  | true =>
    rw [hdone] at h
    cases h
    exact hdone
  | false =>
    rw [hdone] at h
    simp only [Bool.false_eq_true, if_false] at h
    rcases hn : r.next s with ⟨f | _ | x, q, t⟩ <;> rw [hn] at h <;> cases h
    rfl

theorem read_of_done (hdone : r.done = true) (limit : Option Nat) (s : Session) :
    r.read limit s = (.ok (), [], r, s) := by
  have hpoll : r.poll s = (none, r, s) := by
    unfold poll
    rw [if_pos hdone]
  rw [read_eq, hpoll]
  split_ifs <;> rfl

/-- A poll that does not fail leaves a reader of the kind. -/
theorem Attends.poll (h : r.Attends k s) {x : Option Record}
    (hp : r.poll s = (x.map .ok, r', s')) : r'.Attends k s' := by
  have hposts := postsHere_poll (h.kind_eq.trans h.current_eq.symm) hp
  have hcurrent := hposts.1.current_eq.trans h.current_eq
  have hkind := hposts.2.trans h.kind_eq
  cases hdone : r.done with
  | true =>
    unfold Reader.poll at hp
    rw [if_pos hdone] at hp
    cases x with
    | some x => cases hp
    | none =>
      cases hp
      exact h
  | false =>
    rw [h.poll_eq hdone] at hp
    rcases hpull : pull r.staging r.form k s with ⟨f | _ | y, g, t⟩
    · rw [hpull] at hp
      cases x <;> cases hp
    · rw [hpull] at hp
      cases x with
      | some x => cases hp
      | none =>
        cases hp
        exact ⟨hkind, hcurrent, h.form, fun _ => closed_of_pull hpull⟩
    · rw [hpull] at hp
      cases x with
      | none => cases hp
      | some x =>
        cases hp
        exact ⟨hkind, hcurrent, h.form, fun hno => absurd (hno.symm.trans hdone) (by decide)⟩

/-- Reading all records is reading some of them first, and then the others. -/
theorem read_split (r : Reader) (limit : Option Nat) (s : Session) :
    r.read none s =
      match r.read limit s with
      | (.error f, records, r, s) => (.error f, records, r, s)
      | (.ok (), records, r, s) =>
        match r.read none s with
        | (e, others, r, s) => (e, records ++ others, r, s) := by
  fun_induction Reader.read r limit s with
  | case1 r s => rfl
  | case2 r limit s hlimit r₁ s₁ hp =>
    rw [read_eq, hp]
    simp only [read_of_done (done_of_poll hp)]
    rfl
  | case3 r limit s hlimit f r₁ s₁ hp =>
    rw [read_eq, hp]
    rfl
  | case4 r limit s hlimit x r₁ s₁ hp e xs r₂ s₂ hr ih =>
    rw [hr] at ih
    rw [read_eq, hp]
    simp only [Option.map_none, reduceCtorEq, if_false]
    rw [ih]
    rcases e with f | _ <;> rfl

/-- The records that are read are the first of all, as many as the choice says. -/
theorem records_read (r : Reader) (c : Choice) (s : Session) :
    (r.read c.limit s).2.1 = c.of (r.read none s).2.1 := by
  have hall (limit : Option Nat) : (r.read limit s).2.1 =
      match limit with
      | none => (r.read none s).2.1
      | some n => (r.read none s).2.1.take n := by
    fun_induction Reader.read r limit s with
    | case1 r s => rfl
    | case2 r limit s hlimit r₁ s₁ hp =>
      have hnone : (r.read none s).2.1 = [] := by
        rw [read_eq, hp]
        rfl
      rw [hnone]
      cases limit <;> simp
    | case3 r limit s hlimit f r₁ s₁ hp =>
      have hnone : (r.read none s).2.1 = [] := by
        rw [read_eq, hp]
        rfl
      rw [hnone]
      cases limit <;> simp
    | case4 r limit s hlimit x r₁ s₁ hp e xs r₂ s₂ hr ih =>
      have hmore : (r.read none s).2.1 = (s₁.position, x) :: (r₁.read none s₁).2.1 := by
        rw [read_eq, hp]
        rfl
      rw [hr] at ih
      rw [hmore]
      simp only at ih ⊢
      rcases limit with _ | _ | n
      · rw [ih]
        rfl
      · exact absurd rfl hlimit
      · rw [ih]
        rfl
  exact hall c.limit

end Reader

end ExportStream

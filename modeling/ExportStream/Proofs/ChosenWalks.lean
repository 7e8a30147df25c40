import ExportStream.Proofs.Passing
import ExportStream.Proofs.Walks
/-!
# Walks beside each other

What a walk sees does not depend on its choices (`Passing.walk_walk`): it stops at the same kinds and
positions as the walk that reads everything, it reads the first of the records that this one reads,
as many as it chose to, and it ends in the same way. A failure may be met by a reader in the one walk
and behind it in the other, so that only the one tells which kind it was reading (`SameEnd`).

The induction is on the walk that reads everything. Both walks have to agree in what the next kind
is, and in nothing else: the other one may still have a part of the last array before it.
-/

namespace ExportStream

/-- Two ends of a run: the same, but that the first one may tell besides which kind was being read. -/
def SameEnd (x y : Except Failure Unit) : Prop :=
  y = x ∨ ∃ f k, x = .error (Failure.within f ("Reading " ++ Kind.name k)) ∧ y = .error f

/-! ### Two readers beside each other -/

namespace Passing

variable {W : Kind → Prop} {same : Prop} {k : Kind} {r q : Reader} {s t : Session}

/-- Records that are read at the same position and go together. -/
def ReadAlike (W : Kind → Prop) (same : Prop) (a b : Nat × Record) : Prop :=
  a.1 = b.1 ∧ (Passing W same).Records a.2 b.2

/-- What two readers with the same limit come to: both read records that go together, up to the limit
or up to the same failure. -/
theorem read_read (hr : (Passing W same).Readers r q) (h : (Passing W same).Sessions s t)
    (ha : r.Attends k s) (limit : Option Nat) :
    ∃ e xs ys r₁ s₁ q₁ t₁, r.read limit s = (e, xs, r₁, s₁) ∧ q.read limit t = (e, ys, q₁, t₁) ∧
      List.Forall₂ (ReadAlike W same) xs ys ∧ (Passing W same).Failed s₁ t₁ ∧
      (e = .ok () → (Passing W same).Readers r₁ q₁ ∧ (Passing W same).Sessions s₁ t₁ ∧
        r₁.Attends k s₁) := by
  have hpoll := hr.poll (lawful W same) h
  fun_induction Reader.read r limit s generalizing q t with
  | case1 r s =>
    rw [Reader.read_eq q, if_pos rfl]
    exact ⟨_, _, _, _, _, _, _, rfl, rfl, .nil, h.tally, fun _ => ⟨hr, h, ha⟩⟩
  | case2 r limit s hlimit r₁ s₁ hp =>
    rw [hp] at hpoll
    rcases hq : q.poll t with ⟨y, q₁, t₁⟩
    rw [hq] at hpoll
    rw [Reader.read_eq q, if_neg hlimit, hq]
    cases hpoll with
    | none hr₁ h₁ =>
      exact ⟨_, _, _, _, _, _, _, rfl, rfl, .nil, h₁.tally,
        fun _ => ⟨hr₁, h₁, ha.poll (x := none) hp⟩⟩
    | cutOff hg => exact hg.elim
  | case3 r limit s hlimit f r₁ s₁ hp =>
    rw [hp] at hpoll
    rcases hq : q.poll t with ⟨y, q₁, t₁⟩
    rw [hq] at hpoll
    rw [Reader.read_eq q, if_neg hlimit, hq]
    cases hpoll with
    | fail hf he =>
      cases hf
      exact ⟨_, _, _, _, _, _, _, rfl, rfl, .nil, he, fun hno => by cases hno⟩
    | cutOff hg => exact hg.elim
  | case4 r limit s hlimit x r₁ s₁ hp e xs r₂ s₂ hx ih =>
    rw [hp] at hpoll
    rcases hq : q.poll t with ⟨y, q₁, t₁⟩
    rw [hq] at hpoll
    rw [Reader.read_eq q, if_neg hlimit, hq]
    cases hpoll with
    | some hab hr₁ h₁ =>
      obtain ⟨e', xs', ys, r₃, s₃, q₃, t₃, hread, hread', hall, hfailed, hgood⟩ :=
        ih hr₁ h₁ (ha.poll (x := some x) hp) (hr₁.poll (lawful W same) h₁)
      rw [hx] at hread
      cases hread
      simp only [hread']
      exact ⟨_, _, _, _, _, _, _, rfl, rfl,
        .cons ⟨h₁.position_eq (lawful W same), hab⟩ hall, hfailed, hgood⟩
    | cutOff hg => exact hg.elim

/-- What reading the rest of an array and passing over it come to: both come to its end, or both fail,
and the reader tells besides that it was reading. -/
theorem read_dropElements (hk : ¬W k) (hg : r.staging.sinks.Reliable) (h : Beside W s t)
    (ha : r.Attends k s) (n : Nat) :
    (∃ xs r₁ s₁ m t₁, r.read none s = (.ok (), xs, r₁, s₁) ∧ t.dropElements n = (.ok (), m, t₁) ∧
        r₁.staging.sinks.make = r.staging.sinks.make ∧ Beside W s₁ t₁ ∧ t₁.current = some k ∧
        t₁.array = .closed) ∨
      ∃ f xs r₁ s₁ m t₁, r.read none s = (.error (f.within ("Reading " ++ k.name)), xs, r₁, s₁) ∧
        t.dropElements n = (.error f, m, t₁) ∧ (Passing W False).Failed s₁ t₁ := by
  induction hfuel : s.fuel using Nat.strongRecOn generalizing r s t n with
  | ind fuel ih =>
    have hcurrent : t.current = some k := h.current_eq.symm.trans ha.current_eq
    cases hdone : r.done with
    | true =>
      have hclosed : t.array = .closed := h.array_eq.symm.trans (ha.closed hdone)
      exact .inl ⟨_, _, _, _, _, Reader.read_of_done hdone none s,
        Session.dropElements_of_closed hclosed n, rfl, h, hcurrent, hclosed⟩
    | false =>
      have hpoll := ha.poll_eq hdone
      have hthrough := pull_dropElements hk ha.form hg h hcurrent n
      rcases hp : Reader.pull r.staging r.form k s with ⟨x, g, s₁⟩
      rw [hp] at hpoll hthrough
      generalize hy : t.dropElements n = y at hthrough ⊢
      cases hthrough with
      | none hmake h₁ hthere hclosed =>
        rw [Reader.read_eq, hpoll]
        exact .inl ⟨_, _, _, _, _, rfl, rfl, hmake, h₁, hthere, hclosed⟩
      | some hmake h₁ hthere =>
        next x t₁ m =>
        have hreliable : g.sinks.Reliable := by
          unfold Sinks.Reliable
          rw [hmake]
          exact hg
        have hless : s₁.fuel < fuel := hfuel ▸ (Reader.spent_pull hp).fuel_lt
        rw [Reader.read_eq, hpoll]
        simp only [reduceCtorEq, if_false, Option.map_none]
        obtain ⟨xs, r₂, s₂, m', t₂, hread, hdrop, hmake', h₂⟩ |
          ⟨f, xs, r₂, s₂, m', t₂, hread, hdrop, he⟩ :=
          ih _ hless (r := { r with staging := g }) hreliable h₁ (ha.poll (x := some x) hpoll) m rfl
        · rw [hread]
          exact .inl ⟨_, _, _, _, _, rfl, hdrop, hmake'.trans hmake, h₂⟩
        · rw [hread]
          exact .inr ⟨_, _, _, _, _, _, rfl, hdrop, he⟩
      | fail he =>
        rw [Reader.read_eq, hpoll]
        exact .inr ⟨_, _, _, _, _, _, rfl, rfl, he⟩

/-! ### Two visits beside each other -/

/-- What comes of leaving an array whose rest can be passed over. -/
theorem finishCurrent_of_dropElements (hk : ¬W k) {t' : Session} {m : Nat}
    (hcurrent : t.current = some k) (h : t.dropElements 0 = (.ok (), m, t')) :
    ∃ u, t.finishCurrent = (.ok (), u) ∧ Retold W t'.leave u := by
  by_cases hclosed : t.array = .closed
  · rw [Session.dropElements_of_closed hclosed] at h
    cases h
    exact ⟨_, Session.finishCurrent_of_closed hclosed, .refl _⟩
  · refine ⟨(t'.countDrained k m).leave, ?_, ?_⟩
    · unfold Session.finishCurrent
      rw [hcurrent]
      simp only [hclosed, if_false, h]
    · unfold Session.countDrained
      split_ifs
      · exact .refl _
      · exact ⟨⟨_, rfl⟩, fun l hl => Tally.get_modify_of_ne (fun h : l = k => hk (h ▸ hl)) _ _, rfl⟩

theorem finishCurrent_of_dropElements_error {t' : Session} {m : Nat} {f : Failure}
    (hcurrent : t.current = some k) (h : t.dropElements 0 = (.error f, m, t')) :
    t.finishCurrent = (.error f, t') := by
  have hopen : t.array ≠ .closed := by
    intro hclosed
    rw [Session.dropElements_of_closed hclosed] at h
    cases h
  unfold Session.finishCurrent
  rw [hcurrent]
  simp only [hopen, if_false, h]

theorem nextKind_of_finishCurrent {s' t' : Session} (hs : s.finishCurrent = (.ok (), s'))
    (ht : t.finishCurrent = (.ok (), t')) (h : (Passing W same).Sessions s' t') :
    (Passing W same).Meets (Passing W same).Sessions (Passing W same).Failed s.nextKind
      t.nextKind := by
  unfold Session.nextKind
  rw [hs, ht]
  exact h.afterKind (lawful W same)

/-- What comes of skipping an array whose rest can be passed over. -/
theorem skipKind_of_dropElements (hk : ¬W k) {t' : Session} {m : Nat}
    (hcurrent : t.current = some k) (h : t.dropElements 0 = (.ok (), m, t')) :
    ∃ u, t.skipKind (some k) = (.ok (), m, u) ∧ Retold W t' u := by
  refine ⟨(t'.countSkipped k m).note (.skipped k m), ?_, ⟨_, rfl⟩,
    fun l hl => Tally.get_modify_of_ne (fun h : l = k => hk (h ▸ hl)) _ _, rfl⟩
  unfold Session.skipKind
  simp only [hcurrent, if_true, h]

theorem skipKind_of_dropElements_error {t' : Session} {m : Nat} {f : Failure}
    (hcurrent : t.current = some k) (h : t.dropElements 0 = (.error f, m, t')) :
    t.skipKind (some k) = (.error f, m, t') := by
  unfold Session.skipKind
  simp only [hcurrent, if_true, h]

/-- Makers that still make what they made before go together as before. -/
theorem makers_of_make {a b a' b' : Sinks} (h : (Passing W same).makers a b) (ha : a'.make = a.make)
    (hb : b'.make = b.make) : (Passing W same).makers a' b' := by
  obtain ⟨hleft, hright, huniform⟩ := h
  refine ⟨?_, ?_, fun hsame => ?_⟩
  · unfold Sinks.Reliable
    rw [ha]
    exact hleft
  · unfold Sinks.Reliable
    rw [hb]
    exact hright
  · unfold Sinks.Uniform
    rw [ha, hb]
    exact huniform hsame

/-- What visits to one array come to, the first of which read everything: the next kind is the same,
or both end in the same way, or the second one does so when the next kind is asked for. -/
inductive Visited (W : Kind → Prop) (same : Prop) (c : Choice) :
    Except Failure Unit × List (Nat × Record) × Sinks × Session →
      Except Failure Unit × List (Nat × Record) × Sinks × Session → Prop where
  /-- Both go on. -/
  | on {xs ys : List (Nat × Record)} {a b : Sinks} {s t : Session}
    (hread : List.Forall₂ (ReadAlike W same) (c.of xs) ys) (hmakers : (Passing W same).makers a b)
    (hnext : (Passing W same).Meets (Passing W same).Sessions (Passing W same).Failed s.nextKind
      t.nextKind) : Visited W same c (.ok (), xs, a, s) (.ok (), ys, b, t)
  /-- Both fail. -/
  | fail {f g : Failure} {xs ys : List (Nat × Record)} {a b : Sinks} {s t : Session}
    (hread : List.Forall₂ (ReadAlike W same) (c.of xs) ys) (hend : SameEnd (.error f) (.error g))
    (h : (Passing W same).Failed s t) : Visited W same c (.error f, xs, a, s) (.error g, ys, b, t)
  /-- The second one fails behind the visit. -/
  | later {f g : Failure} {xs ys : List (Nat × Record)} {a b : Sinks} {s t t' : Session}
    (hread : List.Forall₂ (ReadAlike W same) (c.of xs) ys) (hend : SameEnd (.error f) (.error g))
    (hnext : t.nextKind = (.error g, t')) (h : (Passing W same).Failed s t') :
    Visited W same c (.error f, xs, a, s) (.ok (), ys, b, t)

/-- What comes of an array whose first records both read, while only the first one reads the
others. -/
theorem visited_rest {c : Choice} {xs ys others : List (Nat × Record)} (hk : ¬W k)
    (hr : (Passing W same).Readers r q) (h : (Passing W same).Sessions s t) (ha : r.Attends k s)
    (hc : c ≠ .all) {e e' : Except Failure Unit} {r₂ : Reader} {s₂ t₂ : Session}
    (hx : r.read none s = (e, others, r₂, s₂)) (hp : t.part k c = (e', t₂))
    (hread : List.Forall₂ (ReadAlike W same) (c.of (xs ++ others)) ys) :
    Visited W same c (e, xs ++ others, r₂.staging.sinks, s₂) (e', ys, q.staging.sinks, t₂) := by
  have hcurrent : t.current = some k := h.current_eq.symm.trans ha.current_eq
  obtain ⟨_, _, _, m, t₁, hx', hdrop, hmake, h₁, -, hclosed⟩ |
    ⟨f, _, _, _, m, t₁, hx', hdrop, hfailed⟩ :=
    read_dropElements hk hr.staging.sinks.1 (beside_iff.mpr h) ha 0
  · -- the array ends, and both leave it
    cases hx.symm.trans hx'
    have hmakers := makers_of_make hr.staging.sinks hmake rfl
    have hleft := Session.finishCurrent_of_closed (h₁.array_eq.trans hclosed)
    cases c with
    | all => exact absurd rfl hc
    | leave n =>
      cases hp
      obtain ⟨u, hright, hretold⟩ := finishCurrent_of_dropElements hk hcurrent hdrop
      have hnext := hretold.beside_right h₁.leave
      exact .on hread hmakers (nextKind_of_finishCurrent hleft hright (beside_iff.mp hnext))
    | pass n =>
      obtain ⟨u, hskip, hretold⟩ := skipKind_of_dropElements hk hcurrent hdrop
      unfold Session.part at hp
      simp only [hskip] at hp
      cases hp
      have hu := hretold.beside_right h₁
      have hright := Session.finishCurrent_of_closed
        (hu.array_eq.symm.trans (h₁.array_eq.trans hclosed))
      exact .on hread hmakers (nextKind_of_finishCurrent hleft hright (beside_iff.mp hu.leave))
  · -- the array cannot be passed over
    cases hx.symm.trans hx'
    have hend : SameEnd (.error (f.within ("Reading " ++ k.name))) (.error f) :=
      .inr ⟨f, k, rfl, rfl⟩
    cases c with
    | all => exact absurd rfl hc
    | leave n =>
      cases hp
      have hnext : t.nextKind = (.error f, t₁) := by
        unfold Session.nextKind
        rw [finishCurrent_of_dropElements_error hcurrent hdrop]
      exact .later hread hend hnext hfailed
    | pass n =>
      unfold Session.part at hp
      simp only [skipKind_of_dropElements_error hcurrent hdrop] at hp
      cases hp
      exact .fail hread hend hfailed

/-- Reading all records of a kind is reading without a limit. -/
theorem visit_all (s : Session) (a : Sinks) (k : Kind) :
    s.visit a k .all =
      match (Reader.start s k a).read none s with
      | (e, records, r, s) => (e, records, r.staging.sinks, s) := by
  have hall : Choice.limit .all = none := rfl
  unfold Session.visit
  rw [hall]
  rcases (Reader.start s k a).read none s with ⟨f | _, xs, r, s'⟩ <;> rfl

/-- **What is chosen makes no difference** to what comes behind an array. -/
theorem visit_visit {a b : Sinks} {c : Choice} (hm : (Passing W same).makers a b)
    (h : (Passing W same).Sessions s t) (hcurrent : s.current = some k) (hc : W k → c = .all) :
    Visited W same c (s.visit a k .all) (t.visit b k c) := by
  have ha := Reader.attends_start hcurrent a
  have hr : (Passing W same).Readers (.start s k a) (.start t k b) :=
    ⟨rfl, h.current_eq, ⟨hm, .nil⟩, rfl⟩
  obtain ⟨e, xs, ys, r₁, s₁, q₁, t₁, hx, hy, hread, hfailed, hgood⟩ := read_read hr h ha c.limit
  have hsplit := Reader.read_split (.start s k a) c.limit s
  have hrecords := Reader.records_read (.start s k a) c s
  rw [hx] at hsplit hrecords
  simp only at hrecords
  rw [hrecords] at hread
  rw [visit_all]
  unfold Session.visit
  rw [hy]
  rcases e with f | _
  · rw [hsplit] at hread ⊢
    exact .fail hread (.inl rfl) hfailed
  obtain ⟨hr₁, h₁, ha₁⟩ := hgood rfl
  by_cases hall : c = .all
  · subst hall
    rw [show (Reader.start s k a).read none s = (.ok (), xs, r₁, s₁) from hx] at hread ⊢
    exact .on hread hr₁.staging.sinks (h₁.nextKind (lawful W same))
  · rcases hrest : r₁.read none s₁ with ⟨e', others, r₂, s₂⟩
    rcases hp : t₁.part k c with ⟨e'', t₂⟩
    simp only [hrest] at hsplit
    rw [hsplit] at hread ⊢
    simp only [hp]
    exact visited_rest (fun hw => hall (hc hw)) hr₁ h₁ ha₁ hall hrest hp hread

/-! ### Whole walks beside each other -/

/-- Stops at the same kind and position, whose records go together. -/
structure StopAlike (W : Kind → Prop) (same : Prop) (a b : Stop) : Prop where
  /-- The kinds. -/
  kind_eq : a.kind = b.kind
  /-- The positions. -/
  position_eq : a.position = b.position
  /-- The records. -/
  records : List.Forall₂ (ReadAlike W same) a.records b.records

/-- The second walk, which visits arrays as it chooses to and visited `n` of them before, follows the
first one, which reads everything. -/
structure Follows (W : Kind → Prop) (same : Prop) (choose : Nat → Kind → Choice) (n : Nat)
    (x y : Except Failure Unit × List Stop × Session) : Prop where
  /-- The stops are the same, with those records that are chosen. -/
  stops : List.Forall₂ (StopAlike W same)
    (x.2.1.mapIdx fun i a => a.chosen (choose (n + i) a.kind)) y.2.1
  /-- The ends are the same. -/
  ends : SameEnd x.1 y.1
  /-- What was added up. -/
  failed : (Passing W same).Failed x.2.2 y.2.2
  /-- If nothing failed the sessions go together. -/
  session : x.1 = .ok () → (Passing W same).Sessions x.2.2 y.2.2

/-- **A walk sees what the walk that reads everything sees**, and ends as it does. -/
theorem walk_walk {choose : Nat → Kind → Choice} (hc : ∀ n k, W k → choose n k = .all) {a b : Sinks}
    (hm : (Passing W same).makers a b) (n : Nat)
    (hnext : (Passing W same).Meets (Passing W same).Sessions (Passing W same).Failed s.nextKind
      t.nextKind) :
    Follows W same choose n (s.walk a (fun _ _ => .all) n) (t.walk b choose n) := by
  fun_induction Session.walk s a (fun _ _ => .all) n generalizing t b with
  | case1 s a n f s₁ hs =>
    obtain ⟨g, t₁, ht, hf, hfailed⟩ | ⟨g, t₁, ht, hcut⟩ := hnext.of_error hs
    · cases hf
      rw [Session.walk_eq t, ht]
      exact ⟨.nil, .inl rfl, hfailed, fun hno => by cases hno⟩
    · exact hcut.elim
  | case2 s a n s₁ hs =>
    obtain ⟨t₁, ht, h₁⟩ | ⟨g, t₁, ht, hcut⟩ := hnext.of_ok hs
    · rw [Session.walk_eq t, ht]
      exact ⟨.nil, .inl rfl, h₁.tally, fun _ => h₁⟩
    · exact hcut.elim
  | case3 s a n k s₁ hs f xs a' s₂ hv =>
    obtain ⟨t₁, ht, h₁⟩ | ⟨g, t₁, ht, hcut⟩ := hnext.of_ok hs
    · have hvisit := visit_visit hm h₁ (Session.current_of_nextKind hs) (hc n k)
      rw [hv] at hvisit
      rcases hw : t₁.visit b k (choose n k) with ⟨e, ys, b', t₂⟩
      have hposition := h₁.position_eq (lawful W same)
      rw [hw] at hvisit
      rw [Session.walk_eq t, ht]
      simp only [hw]
      cases hvisit with
      | fail hread hend hfailed =>
        exact ⟨.cons ⟨rfl, hposition, hread⟩ .nil, hend, hfailed, fun hno => by cases hno⟩
      | later hread hend hnext hfailed =>
        have hlast := Session.walk_eq t₂ b' choose (n + 1)
        rw [hnext] at hlast
        simp only [hlast]
        exact ⟨.cons ⟨rfl, hposition, hread⟩ .nil, hend, hfailed, fun hno => by cases hno⟩
    · exact hcut.elim
  | case4 s a n k s₁ hs xs a' s₂ hv e stops s₃ hw ih =>
    obtain ⟨t₁, ht, h₁⟩ | ⟨g, t₁, ht, hcut⟩ := hnext.of_ok hs
    · have hvisit := visit_visit hm h₁ (Session.current_of_nextKind hs) (hc n k)
      rw [hv] at hvisit
      rcases hw' : t₁.visit b k (choose n k) with ⟨e', ys, b', t₂⟩
      have hposition := h₁.position_eq (lawful W same)
      rw [hw'] at hvisit
      cases hvisit with
      | on hread hmakers hnext =>
        have hrest := ih hmakers hnext
        rw [hw] at hrest
        rw [Session.walk_eq t, ht]
        simp only [hw']
        rcases hr : t₂.walk b' choose (n + 1) with ⟨e', stops', t₃⟩
        rw [hr] at hrest
        refine ⟨?_, hrest.ends, hrest.failed, hrest.session⟩
        have hstops := hrest.stops
        simp only [Nat.add_right_comm n 1] at hstops
        rw [List.mapIdx_cons]
        exact .cons ⟨rfl, hposition, hread⟩ hstops
    · exact hcut.elim

end Passing

end ExportStream

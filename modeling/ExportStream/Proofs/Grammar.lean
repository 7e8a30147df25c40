import ExportStream.Proofs.Rounds
import Mathlib.Tactic.SplitIfs
/-!
# The grammar of values

What a builder accepts, said without frames: `Json.Derives depth tokens v` holds when the tokens
derive the value in the grammar

    V ::= text | integer | real | truth value | null | `[` V* `]` | `{` (text V)* `}`

with at most `depth` brackets open at once. A builder in whatever state, in front of any stream,
puts a value together exactly if its first token and those that it reads then derive the value; it
reads no token more, and it fails in every other case (**`Assembler.build_derives`**).

Instead of recursion a builder keeps the brackets that are open as frames. The invariant that ties
them to the grammar is `Assembly.Holds`: the frames hold exactly what the tokens so far derive, piece
by piece, and every token that is accepted keeps it so. For the other direction a derivation is
followed from its outermost bracket inwards, whatever is open around it.
-/

namespace ExportStream

/-! ### The grammar -/

/-- Tokens that derive a value with at most so many brackets open at once. Of several fields of one
name the last stays. -/
inductive Json.Derives : Nat → List Token → Json → Prop where
  /-- A text. -/
  | string (depth : Nat) (s : String) : Derives depth [.string s] (.string s)
  /-- An integer. -/
  | integer (depth : Nat) (i : Int) : Derives depth [.integer i] (.number (.integer i))
  /-- Any other number. -/
  | real (depth : Nat) (x : Binary64) : Derives depth [.real x] (.number (.real x))
  /-- A truth value. -/
  | bool (depth : Nat) (b : Bool) : Derives depth [.bool b] (.bool b)
  /-- The null value. -/
  | null (depth : Nat) : Derives depth [.null] .null
  /-- Values between brackets. -/
  | array {depth : Nat} {parts : List (List Token × Json)} :
      (∀ p ∈ parts, Derives depth p.1 p.2) →
      Derives (depth + 1) (.startArray :: (parts.flatMap (fun p => p.1) ++ [.endArray]))
        (.array (parts.map fun p => p.2))
  /-- Values with their names between braces. -/
  | object {depth : Nat} {parts : List (String × List Token × Json)} :
      (∀ p ∈ parts, Derives depth p.2.1 p.2.2) →
      Derives (depth + 1)
        (.startObject :: (parts.flatMap (fun p => .string p.1 :: p.2.1) ++ [.endObject]))
        (.object (Fields.ofList (parts.map fun p => (p.1, p.2.2))))

/-- Of several fields of one name the last is found. -/
theorem Fields.find?_ofList (name : String) (fields : List (String × Json)) :
    Fields.find? name (ofList fields) = (fields.reverse.find? fun f => f.1 = name).map Prod.snd := by
  have hfold (acc : Fields) :
      Fields.find? name (fields.foldl (fun acc f => insert f.1 f.2 acc) acc) =
        ((fields.reverse.find? fun f => f.1 = name).map Prod.snd).or (Fields.find? name acc) := by
    induction fields generalizing acc with
    | nil => rfl
    | cons f fields ih =>
      rw [List.foldl_cons, ih, List.reverse_cons, List.find?_append]
      by_cases hname : f.1 = name
      · subst hname
        rw [find?_insert_self]
        cases fields.reverse.find? fun g => g.1 = f.1 <;> simp
      · rw [find?_insert_of_ne _ _ (Ne.symm hname)]
        cases fields.reverse.find? fun g => g.1 = name <;> simp [hname]
  rw [ofList, hfold, Fields.find?_nil, Option.or_none]

theorem Fields.ofList_append_singleton (fields : List (String × Json)) (name : String) (v : Json) :
    ofList (fields ++ [(name, v)]) = insert name v (ofList fields) := by
  simp [ofList]

/-! ### Tokens one after the other -/

/-- The tokens that are read next, one after the other, and the cursor behind them. -/
inductive Cursor.Gives : Cursor → List Token → Cursor → Prop where
  /-- None is read. -/
  | nil (c : Cursor) : Gives c [] c
  /-- One is read, and then the others. -/
  | cons {c d e : Cursor} {t : Token} {ts : List Token} :
      c.readToken = (.ok t, d) → Gives d ts e → Gives c (t :: ts) e

namespace Assembly

/-- From where a builder stands the tokens complete a value, the last one at the end. -/
inductive Completes (maxDepth : Nat) : Assembly → List Token → Json → Prop where
  /-- It is complete. -/
  | done (v : Json) : Completes maxDepth (.done v) [] v
  /-- A token is due. -/
  | more {frames : List Frame} {t : Token} {ts : List Token} {v : Json} :
      Completes maxDepth (accept maxDepth frames t) ts v →
      Completes maxDepth (.more frames) (t :: ts) v

/-! ### What frames hold -/

/-- The tokens so far led to these frames: each frame holds the values that the tokens behind its
bracket derive, as deep as it may still be there. -/
inductive Holds (maxDepth : Nat) : List Frame → List Token → Prop where
  /-- Nothing is open. -/
  | nil : Holds maxDepth [] []
  /-- An array is open. -/
  | array {outer : List Frame} {ts : List Token} {parts : List (List Token × Json)} :
      Holds maxDepth outer ts → outer.length < maxDepth →
      (∀ p ∈ parts, Json.Derives (maxDepth - (outer.length + 1)) p.1 p.2) →
      Holds maxDepth (.array (parts.map fun p => p.2).reverse :: outer)
        (ts ++ .startArray :: parts.flatMap fun p => p.1)
  /-- An object is open, and a name waits for its value or is due. -/
  | object {outer : List Frame} {ts : List Token} {parts : List (String × List Token × Json)}
      (name : Option String) :
      Holds maxDepth outer ts → outer.length < maxDepth →
      (∀ p ∈ parts, Json.Derives (maxDepth - (outer.length + 1)) p.2.1 p.2.2) →
      Holds maxDepth (.object (Fields.ofList (parts.map fun p => (p.1, p.2.2))) name :: outer)
        (ts ++ .startObject :: (parts.flatMap (fun p => .string p.1 :: p.2.1) ++
          name.toList.map .string))

/-- What a builder came to from the tokens so far. -/
def Sound (maxDepth : Nat) (ts : List Token) : Assembly → Prop
  | .more frames => Holds maxDepth frames ts
  | .done v => Json.Derives maxDepth ts v
  | .refused .. => True

variable {maxDepth : Nat} {frames : List Frame} {ts us : List Token} {v : Json}

/-- A value that is put where it belongs belongs to the tokens that derive it. -/
theorem Holds.place (h : Holds maxDepth frames ts)
    (hv : Json.Derives (maxDepth - frames.length) us v) :
    (Assembly.place frames v).Sound maxDepth (ts ++ us) := by
  cases h with
  | nil => exact hv
  | @array outer ts parts houter hroom hparts =>
    have hall : ∀ p ∈ parts ++ [(us, v)],
        Json.Derives (maxDepth - (outer.length + 1)) p.1 p.2 := by
      intro p hp
      rcases List.mem_append.mp hp with hp | hp
      · exact hparts p hp
      · rw [List.mem_singleton.mp hp]
        exact hv
    have hnext := Holds.array houter hroom hall
    simp only [List.map_append, List.map_cons, List.map_nil, List.reverse_append,
      List.reverse_cons, List.reverse_nil, List.nil_append, List.singleton_append,
      List.flatMap_append, List.flatMap_cons, List.flatMap_nil, List.append_nil] at hnext
    simp only [Assembly.place, Sound, List.append_assoc, List.cons_append]
    exact hnext
  | @object outer ts parts name houter hroom hparts =>
    cases name with
    | none => trivial
    | some name =>
      have hall : ∀ p ∈ parts ++ [(name, us, v)],
          Json.Derives (maxDepth - (outer.length + 1)) p.2.1 p.2.2 := by
        intro p hp
        rcases List.mem_append.mp hp with hp | hp
        · exact hparts p hp
        · rw [List.mem_singleton.mp hp]
          exact hv
      have hnext := Holds.object none houter hroom hall
      simp only [List.map_append, List.map_cons, List.map_nil, Fields.ofList_append_singleton,
        List.flatMap_append, List.flatMap_cons, List.flatMap_nil, List.append_nil,
        Option.toList_none] at hnext
      simp only [Assembly.place, Sound, List.append_assoc, List.cons_append, Option.toList_some,
        List.map_cons, List.map_nil, List.nil_append]
      exact hnext

/-- The depth that is left inside a bracket, and with the bracket. -/
theorem depth_succ {n : Nat} (h : n < maxDepth) : maxDepth - (n + 1) + 1 = maxDepth - n := by
  omega

/-- An opening bracket that is accepted opens an empty frame. -/
theorem sound_openFrame {frame : Frame} {t : Token}
    (hopen : frames.length < maxDepth → Holds maxDepth (frame :: frames) (ts ++ [t])) :
    (Assembly.openFrame maxDepth frames frame).Sound maxDepth (ts ++ [t]) := by
  unfold Assembly.openFrame
  split_ifs with hfull
  · trivial
  · exact hopen (by omega)

/-- Every token keeps it. -/
theorem Holds.accept (h : Holds maxDepth frames ts) (t : Token) :
    (Assembly.accept maxDepth frames t).Sound maxDepth (ts ++ [t]) := by
  cases t with
  | startObject =>
    exact sound_openFrame fun hroom => @Holds.object maxDepth frames ts [] none h hroom (by simp)
  | startArray =>
    exact sound_openFrame fun hroom => @Holds.array maxDepth frames ts [] h hroom (by simp)
  | endObject =>
    cases h with
    | nil => trivial
    | array => trivial
    | @object outer ts parts name houter hroom hparts =>
      cases name with
      | some name => trivial
      | none =>
        have hobject := Json.Derives.object hparts
        rw [depth_succ hroom] at hobject
        have hplaced := houter.place hobject
        simp only [Assembly.accept, Option.toList_none, List.map_nil, List.append_nil,
          List.append_assoc, List.cons_append]
        exact hplaced
  | endArray =>
    cases h with
    | nil => trivial
    | object => trivial
    | @array outer ts parts houter hroom hparts =>
      have harray := Json.Derives.array hparts
      rw [depth_succ hroom] at harray
      have hplaced := houter.place harray
      simp only [Assembly.accept, List.reverse_reverse, List.append_assoc, List.cons_append]
      exact hplaced
  | string s =>
    cases h with
    | nil => exact .string _ s
    | array houter hroom hparts => exact (Holds.array houter hroom hparts).place (.string _ s)
    | @object outer ts parts name houter hroom hparts =>
      cases name with
      | some name => exact (Holds.object (some name) houter hroom hparts).place (.string _ s)
      | none =>
        have hnamed := Holds.object (some s) houter hroom hparts
        simp only [Assembly.accept, Sound, Option.toList_none, List.map_nil, List.append_nil,
          List.append_assoc, List.cons_append]
        exact hnamed
  | integer i => exact h.place (.integer _ i)
  | real x => exact h.place (.real _ x)
  | bool b => exact h.place (.bool _ b)
  | null => exact h.place (.null _)

/-- Whatever tokens complete a value, they derive it together with those before. -/
theorem Completes.derives {x : Assembly} (h : Completes maxDepth x us v)
    (hx : x.Sound maxDepth ts) : Json.Derives maxDepth (ts ++ us) v := by
  induction h generalizing ts with
  | done v =>
    rw [List.append_nil]
    exact hx
  | @more frames t us v _ ih =>
    have hnext := ih (hx.accept t)
    rw [List.append_assoc] at hnext
    exact hnext

/-! ### What a derivation leads to -/

/-- A value may stand where the frames are: no name is due. -/
def Ready : List Frame → Prop
  | .object _ none :: _ => False
  | _ => True

theorem accept_string (h : Ready frames) (s : String) :
    accept maxDepth frames (.string s) = place frames (.string s) := by
  cases frames with
  | nil => rfl
  | cons frame outer =>
    cases frame with
    | array items => rfl
    | object fields name =>
      cases name with
      | none => exact False.elim h
      | some name => rfl

theorem openFrame_of_lt (h : frames.length < maxDepth) (frame : Frame) :
    openFrame maxDepth frames frame = .more (frame :: frames) := by
  unfold openFrame
  rw [if_neg (by omega)]

/-- The tokens of a value lead to where the value is put, wherever it may stand. -/
theorem Completes.of_derives {depth : Nat} (hv : Json.Derives depth us v) {frames : List Frame}
    (hready : Ready frames) (hdepth : frames.length + depth ≤ maxDepth) {rest : List Token}
    {w : Json} (h : Completes maxDepth (place frames v) rest w) :
    Completes maxDepth (.more frames) (us ++ rest) w := by
  induction hv generalizing frames rest with
  | string depth s =>
    refine .more ?_
    rw [accept_string hready]
    exact h
  | integer depth i => exact .more h
  | real depth x => exact .more h
  | bool depth b => exact .more h
  | null depth => exact .more h
  | @array depth parts hparts ih =>
    have hroom : frames.length < maxDepth := by omega
    -- the items are put into the open array one by one
    have hitems (items : List Json) (ps : List (List Token × Json)) (hps : ∀ p ∈ ps, p ∈ parts)
        (hend : place frames (.array (items.reverse ++ ps.map fun p => p.2)) =
          place frames (.array (parts.map fun p => p.2))) :
        Completes maxDepth (.more (.array items :: frames))
          (ps.flatMap (fun p => p.1) ++ .endArray :: rest) w := by
      induction ps generalizing items with
      | nil =>
        refine .more ?_
        rw [List.map_nil, List.append_nil] at hend
        rw [accept, hend]
        exact h
      | cons p ps ihps =>
        rw [List.flatMap_cons, List.append_assoc]
        have hready : Ready (.array items :: frames) := trivial
        refine ih p (hps p (List.mem_cons_self ..)) hready (by rw [List.length_cons]; omega) ?_
        refine ihps (p.2 :: items) (fun q hq => hps q (List.mem_cons_of_mem _ hq)) ?_
        simpa using hend
    refine .more ?_
    rw [accept, openFrame_of_lt hroom, List.append_eq, List.append_assoc]
    exact hitems [] parts (fun _ hp => hp) rfl
  | @object depth parts hparts ih =>
    have hroom : frames.length < maxDepth := by omega
    -- the fields are put into the open object one by one, each behind its name
    have hfields (done ps : List (String × List Token × Json)) (hps : done ++ ps = parts) :
        Completes maxDepth
          (.more (.object (Fields.ofList (done.map fun p => (p.1, p.2.2))) none :: frames))
          (ps.flatMap (fun p => .string p.1 :: p.2.1) ++ .endObject :: rest) w := by
      induction ps generalizing done with
      | nil =>
        refine .more ?_
        rw [List.append_nil] at hps
        rw [accept, hps]
        exact h
      | cons p ps ihps =>
        have hmem : p ∈ parts := hps ▸ List.mem_append_right _ (List.mem_cons_self ..)
        rw [List.flatMap_cons, List.append_assoc, List.cons_append]
        have hready : Ready (.object (Fields.ofList (done.map fun p => (p.1, p.2.2))) (some p.1) ::
            frames) := trivial
        refine .more (ih p hmem hready (by rw [List.length_cons]; omega) ?_)
        have hnext := ihps (done ++ [p]) (by rw [List.append_assoc]; exact hps)
        rw [List.map_append, List.map_singleton, Fields.ofList_append_singleton] at hnext
        exact hnext
    refine .more ?_
    rw [accept, openFrame_of_lt hroom, List.append_eq, List.append_assoc]
    exact hfields [] parts rfl

/-- **Frames are as good as recursion**: the tokens that complete a value are those that derive it. -/
theorem completes_iff_derives :
    Completes maxDepth (.more []) us v ↔ Json.Derives maxDepth us v := by
  constructor
  · intro h
    exact h.derives Holds.nil
  · intro h
    have hready : Ready [] := trivial
    have hcompletes := Completes.of_derives h hready (Nat.le_of_eq (Nat.zero_add _)) (.done v)
    rw [List.append_nil] at hcompletes
    exact hcompletes

/-! ### Refusals -/

/-- Why a builder refuses a token: it may not stand there, or too many brackets are open. -/
theorem fault_of_refused {f : StreamFault} {frames' : List Frame} {t : Token}
    (h : accept maxDepth frames t = .refused f frames') :
    (∃ cause, f = .unplaced cause) ∨ f = .limit "Nesting depth" maxDepth none := by
  have hplace {outer : List Frame} {w : Json} (hw : place outer w = .refused f frames') :
      ∃ cause, f = .unplaced cause := by
    unfold place at hw
    split at hw
    all_goals first | exact ⟨_, (Assembly.refused.inj hw).1.symm⟩ | cases hw
  have hopen {frame : Frame} (hw : openFrame maxDepth frames frame = .refused f frames') :
      f = .limit "Nesting depth" maxDepth none := by
    unfold openFrame at hw
    split_ifs at hw
    exact (Assembly.refused.inj hw).1.symm
  unfold accept at h
  split at h
  · exact .inr (hopen h)
  · exact .inr (hopen h)
  · split at h
    · exact .inl (hplace h)
    all_goals exact .inl ⟨_, (Assembly.refused.inj h).1.symm⟩
  · split at h
    · exact .inl (hplace h)
    all_goals exact .inl ⟨_, (Assembly.refused.inj h).1.symm⟩
  · split at h
    · cases h
    · exact .inl (hplace h)
  all_goals exact .inl (hplace h)

end Assembly

namespace Assembler

/-! ### Builders at cursors -/

/-- What a builder puts together is what the token and those read behind it complete. -/
theorem go_eq_ok_iff (a : Assembler) (t : Token) (c : Cursor) {v : Json} {a' : Assembler}
    {c' : Cursor} :
    a.go t c = (.ok v, a', c') ↔
      ∃ ts, Assembly.Completes a.maxDepth (.more a.frames) (t :: ts) v ∧ c.Gives ts c' ∧
        a' = { a with frames := [], built := a.built + 1 } := by
  fun_induction go a t c with
  | case1 a t c w ha =>
    constructor
    · intro h
      cases h
      exact ⟨[], .more (ha ▸ .done _), .nil _, rfl⟩
    · rintro ⟨ts, hts, hgives, rfl⟩
      cases hts with
      | more hts =>
        rw [ha] at hts
        cases hts
        cases hgives
        rfl
  | case2 a t c f frames ha =>
    constructor
    · intro h
      cases h
    · rintro ⟨ts, hts, -⟩
      cases hts with
      | more hts =>
        rw [ha] at hts
        cases hts
  | case3 a t c frames ha u d hread ih =>
    rw [ih]
    constructor
    · rintro ⟨ts, hts, hgives, rfl⟩
      exact ⟨u :: ts, .more (ha ▸ hts), .cons hread hgives, rfl⟩
    · rintro ⟨ts, hts, hgives, rfl⟩
      cases hts with
      | more hts =>
        rw [ha] at hts
        cases hgives with
        | nil => cases hts
        | @cons _ d' _ u' ts hread' hgives =>
          rw [hread] at hread'
          cases hread'
          exact ⟨ts, hts, hgives, rfl⟩
  | case4 a t c frames ha f d hread =>
    constructor
    · intro h
      cases h
    · rintro ⟨ts, hts, hgives, rfl⟩
      cases hts with
      | more hts =>
        rw [ha] at hts
        cases hgives with
        | nil => cases hts
        | cons hread' =>
          rw [hread] at hread'
          cases hread'

/-- So what it builds is what the token and those read behind it derive. -/
theorem build_eq_ok_iff (a : Assembler) (t : Token) (c : Cursor) {v : Json} {a' : Assembler}
    {c' : Cursor} :
    a.build t c = (.ok v, a', c') ↔
      ∃ ts, Json.Derives a.maxDepth (t :: ts) v ∧ c.Gives ts c' ∧
        a' = { a with frames := [], built := a.built + 1 } := by
  have hgo : a.reset.go t c = (.ok v, a', c') ↔ _ := go_eq_ok_iff a.reset t c
  simp only [reset, Assembly.completes_iff_derives] at hgo
  exact hgo

/-- What a builder fails with: the fault of a token that it refuses, at the place behind that token,
or the failure of the stream. -/
theorem error_of_go {a a' : Assembler} {t : Token} {c c' : Cursor} {f : Failure}
    (h : a.go t c = (.error f, a', c')) :
    a'.built = a.built ∧ ∃ ts d, c.Gives ts d ∧
      ((c' = d ∧ ((∃ cause, f = d.malformed cause) ∨
          f = .ofStream (d.locate (.limit "Nesting depth" a.maxDepth none)))) ∨
        d.readToken = (.error f, c')) := by
  fun_induction go a t c with
  | case1 => cases h
  | case2 a t c g frames ha =>
    cases h
    refine ⟨rfl, [], _, .nil _, .inl ⟨rfl, ?_⟩⟩
    obtain ⟨cause, rfl⟩ | rfl := Assembly.fault_of_refused ha
    · exact .inl ⟨cause, rfl⟩
    · exact .inr rfl
  | case3 a t c frames ha u d hread ih =>
    obtain ⟨hbuilt, ts, e, hgives, hend⟩ := ih h
    exact ⟨hbuilt, u :: ts, e, .cons hread hgives, hend⟩
  | case4 a t c frames ha g d hread =>
    cases h
    exact ⟨rfl, [], _, .nil _, .inr hread⟩

/-- **Builders accept the grammar.** A builder in any state, with a token that is read and any
stream behind it, puts together exactly the values that the token and some of those behind it
derive; then it has read these tokens and no more, no frame is open, and it has built one value
more. In every other case it fails, having built none: with a fault of form or an exceeded limit at
the place where it stands, or as the stream does behind the tokens that it read. -/
theorem build_derives (a : Assembler) (t : Token) (c : Cursor) :
    (∀ v a' c', a.build t c = (.ok v, a', c') ↔
      ∃ ts, Json.Derives a.maxDepth (t :: ts) v ∧ c.Gives ts c' ∧
        a' = { a with frames := [], built := a.built + 1 }) ∧
    ((¬∃ ts v c', Json.Derives a.maxDepth (t :: ts) v ∧ c.Gives ts c') →
      ∃ f a' c', a.build t c = (.error f, a', c') ∧ a'.built = a.built ∧
        ∃ ts d, c.Gives ts d ∧
          ((c' = d ∧ ((∃ cause, f = d.malformed cause) ∨
              f = .ofStream (d.locate (.limit "Nesting depth" a.maxDepth none)))) ∨
            d.readToken = (.error f, c'))) := by
  refine ⟨fun _ _ _ => build_eq_ok_iff a t c, ?_⟩
  intro hno
  rcases hbuild : a.build t c with ⟨f | v, a', c'⟩
  · obtain ⟨hbuilt, hend⟩ := error_of_go (a := a.reset) hbuild
    exact ⟨f, a', c', rfl, hbuilt, hend⟩
  · obtain ⟨ts, hts, hgives, -⟩ := (build_eq_ok_iff a t c).mp hbuild
    exact absurd ⟨ts, v, c', hts, hgives⟩ hno

end Assembler

end ExportStream

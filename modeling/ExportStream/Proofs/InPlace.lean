import ExportStream.Proofs.DocumentFrames
/-!
# Reading elements in place

A program that reads an element need not copy what it keeps: it can take the body of a conflict out
of the element, or take properties away from the metadata of a document, and keep what is left. An
element that it rejects is shown in a warning, so it has to be as it was by then, although the
program may return anywhere.

`InPlace` is the type of such programs: the element is a state that lasts whatever the outcome is.
Reading a document and reading a conflict are written down as such programs, which ask for one
property after the other and change the element behind the last check. They answer what the readings
of whole values answer; an element that is rejected is left alone, and one that is not is left as
what is stored of it (**`Document.readInPlace_follows`**, **`Conflict.readInPlace_follows`**).
-/

namespace ExportStream

/-- A program that reads an element in place: it answers or rejects, and leaves the element as it
made it. -/
abbrev InPlace (α : Type) := ExceptT RecordFault (StateM Json) α

namespace InPlace

variable {α β : Type}

/-- What the program comes to, and the element that it leaves. -/
def runOn (x : InPlace α) (v : Json) : Except RecordFault α × Json := (x.run.run v).run

/-- Asks something of the element as it stands. -/
def ask (q : Json → Except RecordFault α) : InPlace α := ExceptT.mk (q <$> get)

/-- Changes the element. -/
def change (f : Json → Json) : InPlace Unit := modify f

@[simp] theorem runOn_change (f : Json → Json) (v : Json) :
    (change f).runOn v = (.ok (), f v) := rfl

@[simp] theorem runOn_ask (q : Json → Except RecordFault α) (v : Json) :
    (ask q).runOn v = (q v, v) := rfl

theorem runOn_bind (x : InPlace α) (k : α → InPlace β) (v : Json) :
    (x >>= k).runOn v =
      match x.runOn v with
      | (.ok a, w) => (k a).runOn w
      | (.error f, w) => (.error f, w) := by
  unfold runOn
  rw [ExceptT.run_bind, StateT.run_bind]
  rcases x.run.run v with ⟨f | a, w⟩ <;> rfl

/-- What is asked first is answered, or rejects the element. -/
theorem runOn_ask_bind (q : Json → Except RecordFault α) (k : α → InPlace β) (v : Json) :
    (ask q >>= k).runOn v =
      match q v with
      | .ok a => (k a).runOn v
      | .error f => (.error f, v) := by
  rw [runOn_bind, runOn_ask]
  cases q v <;> rfl

/-- Behind a change the element is another one. -/
theorem runOn_change_bind (f : Json → Json) (k : Unit → InPlace β) (v : Json) :
    (change f >>= k).runOn v = (k ()).runOn (f v) := by
  rw [runOn_bind, runOn_change]

/-- Asks something of the fields of the element. -/
def askFields (q : Fields → Except RecordFault α) : InPlace α := ask fun v => do q (← v.element)

/-- Asks something of its metadata, which have to be there. -/
def askMetadata (q : Fields → Except RecordFault α) : InPlace α :=
  askFields fun fields => do q (← Fields.dueObject fields Property.metadata)

/-- Looks something up in its metadata, for which it is not rejected. -/
def lookUp (g : Fields → α) : InPlace α := askMetadata fun m => .ok (g m)

variable {γ : Type} {v : Json} {fields m : Fields} {q : Fields → Except RecordFault α}
  {k : α → InPlace β}

theorem runOn_askFields_bind :
    (askFields q >>= k).runOn (.object fields) =
      match q fields with
      | .ok a => (k a).runOn (.object fields)
      | .error f => (.error f, .object fields) := by
  rw [askFields, runOn_ask_bind]
  rfl

theorem runOn_askMetadata_bind (hm : Fields.find? Property.metadata fields = some (.object m)) :
    (askMetadata q >>= k).runOn (.object fields) =
      match q m with
      | .ok a => (k a).runOn (.object fields)
      | .error f => (.error f, .object fields) := by
  have hasked : (Fields.dueObject fields Property.metadata >>= q) = q m := by
    rw [Fields.dueObject_eq_ok.mpr hm]
    rfl
  rw [askMetadata, runOn_askFields_bind, hasked]

theorem runOn_lookUp_bind (hm : Fields.find? Property.metadata fields = some (.object m))
    (g : Fields → α) :
    (lookUp g >>= k).runOn (.object fields) = (k (g m)).runOn (.object fields) :=
  runOn_askMetadata_bind hm

/-! ### Following a reading of the whole value -/

/-- The program does with an element what a reading of it says: it answers what was read, and leaves
what this says; an element that is not read it rejects for the same reason, and leaves it alone. -/
def Follows (x : InPlace β) (v : Json) (reading : Except RecordFault γ) (answer : γ → β)
    (left : γ → Json) : Prop :=
  x.runOn v =
    match reading with
    | .ok c => (.ok (answer c), left c)
    | .error f => (.error f, v)

variable {x : InPlace β} {reading : Except RecordFault γ} {r : α → Except RecordFault γ}
  {answer : γ → β} {left : γ → Json}

/-- An element that is not read is left alone. -/
theorem Follows.rejected (h : x.Follows v reading answer left) {f : RecordFault}
    (hf : reading = .error f) : x.runOn v = (.error f, v) := by
  unfold Follows at h
  rwa [hf] at h

/-- A check of the fields comes next in both. -/
theorem Follows.askFields
    (h : ∀ a, q fields = .ok a → (k a).Follows (.object fields) (r a) answer left) :
    (askFields q >>= k).Follows (.object fields) (q fields >>= r) answer left := by
  unfold Follows
  rw [runOn_askFields_bind]
  cases hq : q fields with
  | error f => rfl
  | ok a => exact h a hq

/-- A check of the metadata does. -/
theorem Follows.askMetadata (hm : Fields.find? Property.metadata fields = some (.object m))
    (h : ∀ a, q m = .ok a → (k a).Follows (.object fields) (r a) answer left) :
    (askMetadata q >>= k).Follows (.object fields) (q m >>= r) answer left := by
  unfold Follows
  rw [runOn_askMetadata_bind hm]
  cases hq : q m with
  | error f => rfl
  | ok a => exact h a hq

/-- The program looks something up, which the reading need not do at this point. -/
theorem Follows.lookUp {g : Fields → α}
    (hm : Fields.find? Property.metadata fields = some (.object m))
    (h : (k (g m)).Follows (.object fields) reading answer left) :
    (lookUp g >>= k).Follows (.object fields) reading answer left :=
  (runOn_lookUp_bind hm g).trans h

end InPlace

/-- What is put twice under a name is put once. -/
theorem Fields.insert_insert (name : String) (v w : Json) (fields : Fields) :
    insert name w (insert name v fields) = insert name w fields := by
  induction fields with
  | nil => simp [insert]
  | cons f rest ih =>
    obtain ⟨k, x⟩ := f
    by_cases hlt : name < k
    · simp [insert, hlt]
    · by_cases heq : name = k
      · simp [insert, heq]
      · simp [insert, hlt, heq, ih]

/-! ### Documents -/

/-- The element with other metadata, if it has any. -/
def Json.changeMetadata (f : Fields → Fields) : Json → Json
  | .object fields =>
    match Fields.find? Property.metadata fields with
    | some (.object m) => .object (Fields.insert Property.metadata (.object (f m)) fields)
    | _ => .object fields
  | v => v

namespace Document

/-- What is read off an element besides the body. -/
structure Details where
  /-- The id. -/
  id : String
  /-- The collection. -/
  collection : Option String
  /-- The version in a cluster. -/
  changeVector : String
  /-- The flags. -/
  flags : DocumentFlags
  /-- The time of the last change. -/
  lastModified : Option Time.Instant
  /-- The version on one server. -/
  etag : Option String

/-- Puts the collection where it is due, takes away what is not stored, and answers the
collection. -/
def stripInPlace (legacy : Bool) (id : String) : InPlace (Option String) := do
  if legacy && isHiloId id then
    InPlace.change (Json.changeMetadata
      (Fields.insert Property.collection (.string Property.hiloCollection)))
  let collection ← InPlace.lookUp fun m => Fields.text? m Property.collection
  Property.volatile.forM fun name => InPlace.change (Json.changeMetadata (Fields.erase name))
  return collection

/-- Reads an element as a document, and leaves the body that is stored. -/
def readInPlace (legacy readEtag : Bool) : InPlace Details := do
  let id ← InPlace.askMetadata fun m => Fields.dueText m Property.id
  let changeVector ← InPlace.lookUp fun m => (Fields.text? m Property.changeVector).getD ""
  let flags ← InPlace.askMetadata flagsOf
  let lastModified ← InPlace.lookUp fun m =>
    (Fields.text? m Property.lastModified).bind Time.Instant.read?
  let etag ← InPlace.lookUp fun m => if readEtag then etagOf m else none
  -- nothing is rejected from here on, and nothing was changed before
  let collection ← stripInPlace legacy id
  return { id, collection, changeVector, flags, lastModified, etag }

/-- What is told of a document besides the body. -/
def Parsed.details (p : Parsed) : Details where
  id := p.document.id
  collection := p.document.collection
  changeVector := p.document.changeVector
  flags := p.document.flags
  lastModified := p.document.lastModified
  etag := p.etag

/-- Metadata that stand in an element are changed there. -/
theorem changeMetadata_object {fields m : Fields}
    (hm : Fields.find? Property.metadata fields = some (.object m)) (f : Fields → Fields) :
    Json.changeMetadata f (.object fields) =
      .object (Fields.insert Property.metadata (.object (f m)) fields) := by
  rw [Json.changeMetadata, hm]

/-- They can be changed one time after the other. -/
theorem runOn_erasures {fields m : Fields}
    (hm : Fields.find? Property.metadata fields = some (.object m)) (name : String)
    (names : List String) :
    InPlace.runOn
        ((name :: names).forM fun n => InPlace.change (Json.changeMetadata (Fields.erase n)))
        (.object fields) =
      (.ok (), .object (Fields.insert Property.metadata
        (.object ((name :: names).foldl (fun m n => Fields.erase n m) m)) fields)) := by
  induction names generalizing name m fields with
  | nil =>
    rw [List.forM, InPlace.runOn_change_bind, changeMetadata_object hm]
    rfl
  | cons n names ih =>
    rw [List.forM, InPlace.runOn_change_bind, changeMetadata_object hm,
      ih (Fields.find?_insert_self ..), Fields.insert_insert]
    rfl

/-- What is left is the element with the metadata that are stored. -/
theorem runOn_stripInPlace {fields m : Fields}
    (hm : Fields.find? Property.metadata fields = some (.object m)) (legacy : Bool) (id : String) :
    (stripInPlace legacy id).runOn (.object fields) =
      (.ok (Fields.text? (withCollection legacy id m) Property.collection),
        .object (Fields.insert Property.metadata
          (.object (withoutVolatile (withCollection legacy id m))) fields)) := by
  have hrest {fields' m' : Fields}
      (hm' : Fields.find? Property.metadata fields' = some (.object m')) :
      InPlace.runOn
          (do
            let collection ← InPlace.lookUp fun m => Fields.text? m Property.collection
            Property.volatile.forM fun n => InPlace.change (Json.changeMetadata (Fields.erase n))
            return collection)
          (.object fields') =
        (.ok (Fields.text? m' Property.collection),
          .object (Fields.insert Property.metadata (.object (withoutVolatile m')) fields')) := by
    rw [InPlace.runOn_lookUp_bind hm', InPlace.runOn_bind, Property.volatile, runOn_erasures hm']
    rfl
  unfold stripInPlace withCollection
  split_ifs with hhilo
  · rw [InPlace.runOn_change_bind, changeMetadata_object hm, hrest (Fields.find?_insert_self ..),
      Fields.insert_insert]
  · exact hrest hm

/-- **A document that is read in place** is read as the element is, which is left as the body that
is stored; an element that is rejected is left alone. -/
theorem readInPlace_follows (legacy readEtag : Bool) (v : Json) :
    (readInPlace legacy readEtag).Follows v (parse legacy readEtag v) Parsed.details
      fun p => p.document.data := by
  cases hobject : v.element with
  | error f =>
    unfold InPlace.Follows
    rw [readInPlace, InPlace.askMetadata, InPlace.askFields, InPlace.runOn_ask_bind, parse, hobject]
    rfl
  | ok fields =>
    obtain rfl := element_eq_ok.mp hobject
    cases hmeta : Fields.dueObject fields Property.metadata with
    | error f =>
      unfold InPlace.Follows
      rw [readInPlace, InPlace.askMetadata, InPlace.askFields, InPlace.runOn_ask_bind, parse,
        hobject]
      simp only [bind, Except.bind, hmeta]
    | ok m =>
      have hm := Fields.dueObject_eq_ok.mp hmeta
      have hparse : parse legacy readEtag (.object fields) =
          Fields.dueText m Property.id >>= fun id => flagsOf m >>= fun flags =>
            .ok (told legacy readEtag fields m id flags) := by
        rw [parse, hobject]
        simp only [bind, Except.bind, hmeta]
        rfl
      rw [hparse]
      refine .askMetadata hm fun id _ => .lookUp hm ?_
      refine .askMetadata hm fun flags _ => .lookUp hm (.lookUp hm ?_)
      unfold InPlace.Follows
      rw [InPlace.runOn_bind, runOn_stripInPlace hm]
      rfl

end Document

/-! ### Conflicts -/

/-- The element with other fields, if it has any. -/
def Json.changeFields (f : Fields → Fields) : Json → Json
  | .object fields => .object (f fields)
  | v => v

namespace Conflict

/-- Takes the body out of the element. -/
def takeDoc : InPlace (Option Json) := do
  let doc ← InPlace.askFields fun fields =>
    .ok ((Fields.find? "Doc" fields).filter fun doc => !doc.isNull)
  InPlace.change (Json.changeFields (Fields.erase "Doc"))
  return doc

/-- Reads an element as a conflict, and takes the body out of it. -/
def readInPlace : InPlace Conflict := do
  let id ← InPlace.askFields fun fields => Fields.dueText fields "Id"
  let collection ← InPlace.askFields fun fields => Fields.dueText fields "Collection"
  let flags ← InPlace.askFields flagsOf
  let changeVector ← InPlace.askFields fun fields => Fields.dueText fields "ChangeVector"
  let etag ← InPlace.askFields fun fields => Fields.dueInt64 fields "Etag"
  let lastModified ← InPlace.askFields lastModifiedOf
  let _ ← InPlace.askFields docOf
  -- nothing is rejected from here on, and nothing was changed before
  let doc ← takeDoc
  return { id, collection, flags, changeVector, etag, lastModified, doc }

/-- A body that is due is the one that is taken out. -/
theorem runOn_takeDoc {fields : Fields} {doc : Option Json} (h : docOf fields = .ok doc) :
    takeDoc.runOn (.object fields) = (.ok doc, .object (Fields.erase "Doc" fields)) := by
  have hdoc : (Fields.find? "Doc" fields).filter (fun doc => !doc.isNull) = doc := by
    unfold docOf at h
    split at h
    · cases h
    · next hfind =>
      cases h
      rw [hfind]
      rfl
    · next hfind =>
      cases h
      rw [hfind]
      rfl
    · cases h
  rw [takeDoc, InPlace.runOn_askFields_bind, hdoc]
  rfl

/-- **A conflict that is read in place** is read as the element is, which is left without its body;
an element that is rejected is left alone. -/
theorem readInPlace_follows (v : Json) :
    readInPlace.Follows v (parse v) (fun c => c) fun _ => v.changeFields (Fields.erase "Doc") := by
  cases hobject : v.element with
  | error f =>
    unfold InPlace.Follows
    rw [readInPlace, InPlace.askFields, InPlace.runOn_ask_bind, parse, hobject]
    rfl
  | ok fields =>
    obtain rfl := Document.element_eq_ok.mp hobject
    have hparse : parse (.object fields) = (do
        let id ← Fields.dueText fields "Id"
        let collection ← Fields.dueText fields "Collection"
        let flags ← flagsOf fields
        let changeVector ← Fields.dueText fields "ChangeVector"
        let etag ← Fields.dueInt64 fields "Etag"
        let lastModified ← lastModifiedOf fields
        let doc ← docOf fields
        return { id, collection, flags, changeVector, etag, lastModified, doc }) := rfl
    rw [hparse]
    refine .askFields fun id _ => .askFields fun collection _ => ?_
    refine .askFields fun flags _ => .askFields fun changeVector _ => ?_
    refine .askFields fun etag _ => .askFields fun lastModified _ => ?_
    refine .askFields fun doc hdoc => ?_
    unfold InPlace.Follows
    rw [InPlace.runOn_bind, runOn_takeDoc hdoc]
    rfl

end Conflict

end ExportStream

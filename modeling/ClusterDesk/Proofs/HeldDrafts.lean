import ClusterDesk.Proofs.Isolation

/-!
Runs of operations on one store in memory in which models that were read are held, and saved as
drafts at any time later. Main statement: `moved_step`, all that a deed can do to the store.
-/

namespace ClusterDesk.HeldDrafts

open Service
open Store (admitted matching others)

variable {Body Model : Type}

/-- The uid that an update of the model sends. -/
def uid? (converter : Converter (Manifest Body) String Model) (model : Model) : Option String :=
  (converter.updatePayload model).metadata.uid

/-- A change made to a model between its reading and its saving: neither to its identity nor to the
uid that it was read with. -/
structure Revision (converter : Converter (Manifest Body) String Model) where
  change : Model → Model
  identity : ∀ model, converter.identity (change model) = converter.identity model
  uid : ∀ model, uid? converter (change model) = uid? converter model

def Revision.ofEdits (edits : List ConfigMap.Edit) : Revision ConfigMap.converter where
  change map := map.edit edits
  identity map := by
    rw [ConfigMap.edit_eq]
    rfl
  uid map := by
    rw [ConfigMap.edit_eq]
    rfl

inductive Deed (converter : Converter (Manifest Body) String Model) where
  | read (id : ResourceId)
  | create (model : Model)
  /-- Saves a draft of the model that was read at a place among all that were read, however long
  ago. -/
  | save (place : Nat) (revision : Revision converter)
  | delete (model : Model)

/-- A store, with the models that were read from it and are still held. -/
structure Desk (Body Model : Type) where
  store : Store Body := {}
  seen : List Model := []

namespace Desk

variable {converter : Converter (Manifest Body) String Model} (desk : Desk Body Model)

def count : Nat := desk.store.items.length

def uids : List (Option String) := desk.store.items.map (·.metadata.uid)

def holding (items : List (Manifest Body)) : Desk Body Model :=
  { desk with store := { desk.store with items } }

def seeing (model : Model) : Desk Body Model := { desk with seen := desk.seen ++ [model] }

def step : Deed converter → Desk Body Model
  | .read id =>
    let run := (Service.get converter id).run Store.answer desk.store
    { store := run.state, seen := desk.seen ++ run.value.toOption.toList }
  | .create model =>
    { desk with store := ((Service.create converter model).run Store.answer desk.store).state }
  | .save place revision =>
    match desk.seen[place]? with
    | none => desk
    | some model =>
      let draft := Service.draft converter (revision.change model)
      { desk with store := ((Service.update converter draft).run Store.answer desk.store).state }
  | .delete model =>
    { desk with store := ((Service.delete converter model).run Store.answer desk.store).state }

def run (deeds : List (Deed converter)) : Desk Body Model := deeds.foldl step desk

/-- The relation holds of the desks before and after each deed. -/
def Throughout (relation : Desk Body Model → Desk Body Model → Prop) :
    Desk Body Model → List (Deed converter) → Prop
  | _, [] => True
  | desk, deed :: rest =>
    relation desk (desk.step deed) ∧ Throughout relation (desk.step deed) rest

instance decidableThroughout (relation : Desk Body Model → Desk Body Model → Prop)
    [DecidableRel relation] :
    (desk : Desk Body Model) → (deeds : List (Deed converter)) →
      Decidable (Throughout relation desk deeds)
  | _, [] => .isTrue trivial
  | desk, deed :: rest =>
    have := decidableThroughout relation (desk.step deed) rest
    inferInstanceAs (Decidable (relation desk (desk.step deed) ∧ _))

end Desk

/-- What the models of a kind tell of the items that they are made of. -/
structure Tracks (converter : Converter (Manifest Body) String Model) : Prop where
  addressed : ∀ model, Addressed converter model
  persisted : ∀ model, converter.isPersisted model = (uid? converter model).isSome
  read : ∀ raw form, uid? converter (converter.toModel raw form) = raw.metadata.uid
  blank : ∀ id, uid? converter (converter.defaultModel id) = none
  identity : ∀ model raw form, Bears (converter.identity model) raw →
    converter.identity (converter.toModel raw form) = converter.identity model

theorem tracks_configMaps : Tracks ConfigMap.converter where
  addressed := ConfigMap.addressed
  persisted _ := rfl
  read _ _ := rfl
  blank _ := rfl
  identity map raw form bears := by
    show ResourceId.namespaced (raw.metadata.scope.getD "") (raw.metadata.name.getD "") = _
    rw [bears.name, bears.scope]
    rfl

theorem tracks_namespaces (reserved : Reserved) : Tracks (Namespace.converter reserved) where
  addressed := Namespace.addressed reserved
  persisted _ := rfl
  read _ _ := rfl
  blank _ := rfl
  identity space raw form bears := by
    show ResourceId.cluster (raw.metadata.name.getD "") = _
    rw [bears.name]
    rfl

open Desk (Throughout)

variable {converter : Converter (Manifest Body) String Model} {desk next : Desk Body Model}

/-- All that a deed can do: nothing, show a blank model or that of an item, add an item, replace one
as a whole, or remove all those of one identity. -/
inductive Moved (converter : Converter (Manifest Body) String Model) (desk : Desk Body Model) :
    Desk Body Model → Prop
  | idle : Moved converter desk desk
  | blank (id : ResourceId) : Moved converter desk (desk.seeing (converter.defaultModel id))
  | found (id : ResourceId) (item : Manifest Body) (form : Option String)
    (first : desk.store.items.find? (matching id) = some item) :
    Moved converter desk (desk.seeing (converter.toModel item form))
  | added (model : Model) :
    Moved converter desk
      (desk.holding (desk.store.items ++ [admitted desk.count (converter.createPayload model)]))
  | replaced (model : Model) (uid : String) (payload old : Manifest Body)
    (front rest : List (Manifest Body)) (held : model ∈ desk.seen)
    (known : uid? converter model = some uid) (sent : payload.metadata.uid = some uid)
    (bears : Bears (converter.identity model) payload)
    (split : desk.store.items = front ++ old :: rest)
    (earlier : ∀ item ∈ front, matching (converter.identity model) item = false)
    (first : matching (converter.identity model) old = true) :
    Moved converter desk (desk.holding (front ++ payload :: rest))
  | removed (model : Model)
    (present : ∃ item ∈ desk.store.items, matching (converter.identity model) item = true) :
    Moved converter desk (desk.holding (others (converter.identity model) desk.store.items))

section Steps

theorem state_job (store : Store Body) (job : Job Model) :
    ((job.session converter).run Store.answer store).state =
      (Store.answer (job.primary converter) store).2 := by
  obtain ⟨-, -, state⟩ := run_job converter Store.answer
    (fun id store => Store.answer_reading store (.secondary id) rfl) job store
  exact state

theorem moved_read (healthy : desk.store.failing = none) (id : ResourceId) :
    Moved converter desk (desk.step (.read id : Deed converter)) := by
  have answered := Store.answer_healthy healthy
  have state : ((Service.get converter id).run Store.answer desk.store).state = desk.store :=
    (state_job desk.store (.get id)).trans (Store.answer_reading desk.store (.get id) rfl)
  have value : ((Service.get converter id).run Store.answer desk.store).value =
      reading converter id (desk.store.get id) (.ok (some (Store.secondary id))) := by
    rw [value_get, answered]
    show reading converter id (desk.store.get id) (Store.answer (.secondary id) desk.store).1 = _
    rw [answered]
    rfl
  rw [Desk.step, state, value, Store.get]
  cases first : desk.store.items.find? (matching id) with
  | none => exact .blank id
  | some item => exact .found id item _ first

theorem state_create (tracks : Tracks converter) (healthy : desk.store.failing = none)
    (model : Model) :
    ((Service.create converter model).run Store.answer desk.store).state =
      { desk.store with
        items := desk.store.items ++ [admitted desk.count (converter.createPayload model)] } :=
  ((tracks.addressed model).accepted desk.store healthy).2

theorem step_create (tracks : Tracks converter) (healthy : desk.store.failing = none)
    (model : Model) :
    desk.step (.create model : Deed converter) =
      desk.holding
        (desk.store.items ++ [admitted desk.count (converter.createPayload model)]) := by
  rw [Desk.step, state_create tracks healthy]
  rfl

/-- A job that writes and fails leaves all as it was. -/
theorem moved_writing (job : Job Model) (writing : (job.primary converter).mutating = true)
    (each : ∀ items, Store.Change (job.primary converter) desk.store.items items →
      Moved converter desk (desk.holding items)) :
    Moved converter desk
      { desk with store := ((job.session converter).run Store.answer desk.store).state } := by
  rw [state_job]
  obtain ⟨-, -, kept⟩ | ⟨items, -, changed, change⟩ :=
    Store.answer_writing desk.store (job.primary converter) writing
  · rw [kept]
    exact .idle
  · rw [changed]
    exact each items change

theorem moved_update (tracks : Tracks converter) {model : Model} (held : model ∈ desk.seen)
    (revision : Revision converter) {uid : String} (known : uid? converter model = some uid) :
    Moved converter desk
      { desk with
        store := ((Service.update converter (.existing (revision.change model))).run Store.answer
          desk.store).state } := by
  refine moved_writing (.update (.existing (revision.change model))) rfl fun items change => ?_
  have identity := revision.identity model
  have bears := (tracks.addressed (revision.change model)).updated
  have sent := (revision.uid model).trans known
  rw [identity] at bears
  rw [Job.primary, replacement, identity] at change
  generalize split : desk.store.items = before at change
  cases change with
  | replaced _ _ front old rest earlier first =>
    exact .replaced model uid _ old front rest held known sent bears split earlier first

theorem moved_delete (model : Model) :
    Moved converter desk (desk.step (.delete model : Deed converter)) := by
  refine moved_writing (.delete model) rfl fun items change => ?_
  rw [Job.primary] at change
  cases change with
  | removed _ _ present => exact .removed model present

theorem moved_save (tracks : Tracks converter) (healthy : desk.store.failing = none) (place : Nat)
    (revision : Revision converter) : Moved converter desk (desk.step (.save place revision)) := by
  simp only [Desk.step]
  cases found : desk.seen[place]? with
  | none => exact .idle
  | some model =>
    have persisted : converter.isPersisted (revision.change model) =
        (uid? converter model).isSome := by
      rw [tracks.persisted, revision.uid]
    cases known : uid? converter model with
    | none =>
      rw [known] at persisted
      simp only [draft_of_not_persisted converter persisted]
      have created : ((Service.update converter (.new (revision.change model))).run Store.answer
          desk.store).state = _ := state_create tracks healthy (revision.change model)
      rw [created]
      exact .added (revision.change model)
    | some uid =>
      rw [known] at persisted
      simp only [draft_of_persisted converter persisted]
      exact moved_update tracks (List.mem_of_getElem? found) revision known

theorem moved_step (tracks : Tracks converter) (healthy : desk.store.failing = none)
    (deed : Deed converter) : Moved converter desk (desk.step deed) := by
  cases deed with
  | read id => exact moved_read healthy id
  | create model =>
    rw [step_create tracks healthy]
    exact .added model
  | save place revision => exact moved_save tracks healthy place revision
  | delete model => exact moved_delete model

end Steps

section Lists

variable {α : Type} {item old new : α} {front rest : List α}

theorem mem_concat (member : item ∈ front ++ [new]) : item ∈ front ∨ item = new := by
  simpa using member

theorem mem_of_mem_replaced (member : item ∈ front ++ new :: rest) :
    item = new ∨ item ∈ front ++ rest := by
  simpa [or_left_comm] using member

theorem mem_of_mem_kept (member : item ∈ front ++ rest) : item ∈ front ++ old :: rest :=
  ((List.sublist_cons_self old rest).append_left front).subset member

theorem nodup_map_replaced {β : Type} (f : α → β) :
    ((front ++ new :: rest).map f).Nodup ↔
      f new ∉ (front ++ rest).map f ∧ ((front ++ rest).map f).Nodup := by
  rw [List.map_append, List.map_cons, List.nodup_middle, List.nodup_cons, List.map_append]

end Lists

/-- Calls are answered, and the items have uids and names of their own. -/
structure Sound (converter : Converter (Manifest Body) String Model) (desk : Desk Body Model) :
    Prop where
  healthy : desk.store.failing = none
  named : ∀ item ∈ desk.store.items, ∃ model, Bears (converter.identity model) item
  given : ∀ item ∈ desk.store.items, ∃ uid, item.metadata.uid = some uid

theorem Sound.moved (tracks : Tracks converter) (sound : Sound converter desk)
    (moved : Moved converter desk next) : Sound converter next := by
  obtain ⟨healthy, named, given⟩ := sound
  cases moved with
  | idle | blank | found => exact ⟨healthy, named, given⟩
  | added model =>
    refine ⟨healthy, ?_, ?_⟩
    · refine List.forall_mem_append.mpr ⟨named, List.forall_mem_singleton.mpr ⟨model, ?_⟩⟩
      exact ⟨(tracks.addressed model).created.name, (tracks.addressed model).created.scope⟩
    · exact List.forall_mem_append.mpr ⟨given, List.forall_mem_singleton.mpr ⟨_, rfl⟩⟩
  | replaced model uid payload old front rest held known sent bears split earlier first =>
    rw [split] at named given
    refine ⟨healthy, fun item member => ?_, fun item member => ?_⟩
    · obtain rfl | kept := mem_of_mem_replaced member
      · exact ⟨model, bears⟩
      · exact named item (mem_of_mem_kept kept)
    · obtain rfl | kept := mem_of_mem_replaced member
      · exact ⟨uid, sent⟩
      · exact given item (mem_of_mem_kept kept)
  | removed model present =>
    refine ⟨healthy, fun item member => ?_, fun item member => ?_⟩
    · exact named item (List.mem_of_mem_filter member)
    · exact given item (List.mem_of_mem_filter member)

section Runs

variable {P : Desk Body Model → Prop} {R S : Desk Body Model → Desk Body Model → Prop}
  (deeds : List (Deed converter))

theorem throughout_of_forall (all : ∀ desk next, R desk next) : Throughout R desk deeds := by
  induction deeds generalizing desk with
  | nil => trivial
  | cons deed rest ih => exact ⟨all _ _, ih⟩

theorem throughout_append {later : List (Deed converter)} (first : Throughout R desk deeds)
    (second : Throughout R (desk.run deeds) later) : Throughout R desk (deeds ++ later) := by
  induction deeds generalizing desk with
  | nil => exact second
  | cons deed rest ih => exact ⟨first.1, ih first.2 second⟩

/-- What every deed keeps a run keeps, and what follows for every deed follows throughout. -/
theorem kept_along (tracks : Tracks converter)
    (kept : ∀ {desk next}, Sound converter desk → Moved converter desk next → P desk →
      R desk next → P next ∧ S desk next)
    (sound : Sound converter desk) (holds : P desk) (along : Throughout R desk deeds) :
    Sound converter (desk.run deeds) ∧ P (desk.run deeds) ∧ Throughout S desk deeds := by
  induction deeds generalizing desk with
  | nil => exact ⟨sound, holds, trivial⟩
  | cons deed rest ih =>
    have moved := moved_step tracks sound.healthy deed
    obtain ⟨later, follows⟩ := kept sound moved holds along.1
    obtain ⟨final, holds, throughout⟩ := ih (sound.moved tracks moved) later along.2
    exact ⟨final, holds, follows, throughout⟩

theorem sound_empty : Sound converter ({} : Desk Body Model) :=
  ⟨rfl, fun _ member => (nomatch member), fun _ member => (nomatch member)⟩

theorem sound_run (tracks : Tracks converter) : Sound converter (Desk.run {} deeds) :=
  (kept_along (P := fun _ => True) (R := fun _ _ => True) (S := fun _ _ => True) deeds tracks
    (fun _ _ _ _ => ⟨trivial, trivial⟩) sound_empty trivial
    (throughout_of_forall deeds fun _ _ => trivial)).1

end Runs

end ClusterDesk.HeldDrafts

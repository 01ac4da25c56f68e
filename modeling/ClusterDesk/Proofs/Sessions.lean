import ClusterDesk.Proofs.Operations
import ClusterDesk.Proofs.Representation

/-!
Sessions on config maps over the store in memory. Seen from outside the store is a directory: the
relation `Represents` is kept by every session, and every session ends as the directory says. Main
statement: `sessions_refine_directory`.
-/

namespace ClusterDesk.Sessions

open Program Service
open ConfigMap (OwnerApart)
open Store (answer_healthy)

abbrev Session (α : Type) : Type := Service.Session (Manifest Entries) String Cause α

inductive Outcome where
  | one (result : Service.Result Cause ConfigMap)
  | many (result : Service.Result Cause (List ConfigMap))
  | gone (result : Service.Result Cause Unit)

def session : Request → Session Outcome
  | .read key => do return .one (← Service.get ConfigMap.converter key.id)
  | .list scope => do return .many (← Service.list ConfigMap.converter scope)
  | .save key edits => do
    match ← Service.get ConfigMap.converter key.id with
    | .error error => return .one (.error error)
    | .ok map =>
      let draft := Service.draft ConfigMap.converter (map.edit edits)
      return .one (← Service.update ConfigMap.converter draft)
  | .delete key => do
    match ← Service.get ConfigMap.converter key.id with
    | .error error => return .gone (.error error)
    | .ok map => return .gone (← Service.delete ConfigMap.converter map)

/-- The outcome of a session tells the reply of the directory. -/
inductive Tells : Reply → Outcome → Prop
  | found (key entry map) (shown : Shows key entry map) :
    Tells (.found key entry) (.one (.ok map))
  | blank (key) : Tells (.blank key) (.one (.ok { name := key.name, scope := key.scope }))
  | listed (entries maps)
    (shown : List.Forall₂ (fun entry map => Shows entry.1 entry.2 map) entries maps) :
    Tells (.listed entries) (.many (.ok maps))
  | removed : Tells .removed (.gone (.ok ()))
  | missing : Tells .missing
    (.gone (.error ⟨.delete, "Unable to delete config map", Store.refusal 404⟩))

section Steps

variable {store : Store Entries} {directory : Directory}

def view (store : Store Entries) (id : ResourceId) : ConfigMap :=
  (store.items.find? (Store.matching id)).elim (ConfigMap.ofId id) fun item =>
    ConfigMap.ofManifest item (some (Store.secondary id))

theorem value_get_store (healthy : store.failing = none) (id : ResourceId) :
    ((Service.get ConfigMap.converter id).run Store.answer store).value = .ok (view store id) := by
  rw [value_get, answer_healthy healthy]
  show reading _ id (store.get id) (Store.answer (.secondary id) store).1 = _
  rw [answer_healthy healthy, Store.get, view]
  cases store.items.find? (Store.matching id) <;> rfl

theorem state_get_store (healthy : store.failing = none) (id : ResourceId) :
    ((Service.get ConfigMap.converter id).run Store.answer store).state = store := by
  rw [state_get, answer_healthy healthy]
  show (Store.answer (.secondary id) store).2 = store
  rw [answer_healthy healthy]
  rfl

theorem view_shows (represents : Represents store directory) (key : Key) :
    (directory.find? key = none ∧ view store key.id = ConfigMap.ofId key.id) ∨
      ∃ entry, directory.find? key = some entry ∧ Shows key entry (view store key.id) ∧
        (view store key.id).OwnerApart := by
  rcases found_items represents.items key with
    ⟨absent, blank⟩ | ⟨item, entry, present, found, keeps⟩
  · refine .inl ⟨blank, ?_⟩
    rw [view, absent]
    rfl
  · refine .inr ⟨entry, found, ?_, ?_⟩
    · rw [view, present]
      exact keeps.shows _
    · rw [view, present]
      exact ConfigMap.ownerApart_ofManifest item _

/-- A new config map is stored behind all others. -/
theorem run_update_new (healthy : store.failing = none) (map : ConfigMap) :
    let item := Store.admitted store.items.length map.createPayload
    let run := (Service.update ConfigMap.converter (.new map)).run Store.answer store
    run.value = .ok (ConfigMap.ofManifest item none) ∧
      run.state = { store with items := store.items ++ [item] } := by
  intro item run
  have puts := create_puts (E := Cause) ConfigMap.converter map
  have stored : Store.answer (creation ConfigMap.converter map) store =
      (.ok item, { store with items := store.items ++ [item] }) := by
    rw [answer_healthy healthy]
    show store.create (some map.scope) map.createPayload = _
    rw [Store.create]
    exact if_pos rfl
  exact puts.run_of_answer stored

/-- An existing config map is stored as it was sent, where the first of its identity was. -/
theorem run_update_existing (healthy : store.failing = none) {map : ConfigMap} {id : ResourceId}
    {items : List (Manifest Entries)} (named : map.identity = id)
    (replaced : Store.replaceFirst id map.updatePayload store.items = some items) :
    let run := (Service.update ConfigMap.converter (.existing map)).run Store.answer store
    run.value = .ok (ConfigMap.ofManifest map.updatePayload none) ∧
      run.state = { store with items } := by
  intro run
  subst named
  have puts := update_puts (E := Cause) ConfigMap.converter map
  have stored : Store.answer (replacement ConfigMap.converter map) store =
      (.ok map.updatePayload, { store with items }) := by
    rw [answer_healthy healthy]
    show store.update map.identity map.updatePayload = _
    rw [Store.update, replaced]
    rfl
  exact puts.run_of_answer stored

/-- A deletion takes away all items of the identity, and fails when there is none. -/
theorem run_delete (healthy : store.failing = none) (map : ConfigMap) :
    let run := (Service.delete ConfigMap.converter map).run Store.answer store
    run.value = told .delete "Unable to delete config map" (store.delete map.identity).1 ∧
      run.state = (store.delete map.identity).2 := by
  intro run
  have puts := delete_puts (E := Cause) ConfigMap.converter map
  have stored : Store.answer (.delete map.identity) store = store.delete map.identity := by
    rw [answer_healthy healthy]
    rfl
  exact puts.run_of_answer stored

private theorem filter_of_absent {id : ResourceId} {items : List (Manifest Entries)}
    (absent : items.find? (Store.matching id) = none) :
    items.filter (fun item => !Store.matching id item) = items := by
  rw [List.filter_eq_self]
  intro item member
  simpa using List.find?_eq_none.mp absent item member

theorem delete_of_absent {id : ResourceId}
    (absent : store.items.find? (Store.matching id) = none) :
    store.delete id = (.error (Store.refusal 404), store) := by
  rw [Store.delete]
  simp only [filter_of_absent absent, if_true]

theorem delete_of_present {id : ResourceId} {item : Manifest Entries}
    (present : store.items.find? (Store.matching id) = some item) :
    store.delete id =
      (.ok (), { store with items := store.items.filter fun item => !Store.matching id item }) := by
  have fewer : (store.items.filter fun item => !Store.matching id item).length ≠
      store.items.length := by
    intro same
    have passes := List.length_filter_eq_length_iff.mp same item (List.mem_of_find?_eq_some present)
    rw [List.find?_some present] at passes
    cases passes
  rw [Store.delete]
  simp only [if_neg fewer]

/-- A session tells what the directory replies, and the store goes on representing it. -/
def Follows (store : Store Entries) (directory : Directory) (request : Request) : Prop :=
  let run := (session request).run Store.answer store
  Tells (directory.serve request).1 run.value ∧
    Represents run.state (directory.serve request).2

theorem follows_read (represents : Represents store directory) (key : Key) :
    Follows store directory (.read key) := by
  unfold Follows session
  simp only [bind_eq, value_run_bind, state_run_bind, value_get_store represents.healthy,
    state_get_store represents.healthy]
  refine ⟨?_, represents⟩
  rcases view_shows represents key with ⟨absent, blank⟩ | ⟨entry, found, shown, -⟩
  · rw [blank, Directory.serve, absent]
    exact .blank key
  · rw [Directory.serve, found]
    exact .found key entry _ shown

theorem follows_list (represents : Represents store directory) (scope : Option String) :
    Follows store directory (.list scope) := by
  unfold Follows session
  have puts := list_puts (E := Cause) ConfigMap.converter scope
  simp only [bind_eq, value_run_bind, state_run_bind, puts.value_run, puts.state_run,
    answer_healthy represents.healthy]
  refine ⟨.listed _ _ ?_, represents⟩
  have chosen := filtered_items represents.items
    (fun item => scope.isNone || item.metadata.scope = scope)
    (fun entry => scope.isNone || some entry.1.scope = scope)
    fun item entry keeps => by rw [keeps.scope]
  rw [List.forall₂_map_right_iff]
  exact chosen.flip.imp fun entry item keeps => keeps.shows none

theorem follows_save_new (represents : Represents store directory) (key : Key)
    (edits : List ConfigMap.Edit) (absent : directory.find? key = none)
    (blank : view store key.id = ConfigMap.ofId key.id) :
    Follows store directory (.save key edits) := by
  have count : store.items.length = directory.size := represents.items.length_eq
  have base : directory.base key = .fresh directory.size := by
    rw [Directory.base, absent]
    rfl
  have unknown : ((ConfigMap.ofId key.id).edit edits).id.isSome = false := by
    rw [ConfigMap.edit_eq]
    rfl
  have new := draft_of_not_persisted ConfigMap.converter unknown
  have stored := keeps_admitted store.items.length key edits
  obtain ⟨value, state⟩ :=
    run_update_new represents.healthy ((ConfigMap.ofId key.id).edit edits)
  unfold Follows session
  simp only [bind_eq, value_run_bind, state_run_bind, value_get_store represents.healthy,
    state_get_store represents.healthy]
  rw [blank, new, Directory.serve, base, ← count]
  simp only [value, state]
  refine ⟨.found key _ _ (stored.shows none), represents.healthy, ?_⟩
  show List.Forall₂ Keeps _ (OrderedMap.placed key _ directory.entries)
  rw [OrderedMap.placed_of_lookup_none _ absent]
  exact List.rel_append represents.items (.cons stored .nil)

theorem follows_save_existing (represents : Represents store directory) (key : Key)
    (edits : List ConfigMap.Edit) {entry : Entry} (found : directory.find? key = some entry)
    (shown : Shows key entry (view store key.id)) (apart : (view store key.id).OwnerApart) :
    Follows store directory (.save key edits) := by
  have base : directory.base key = entry := by
    rw [Directory.base, found]
    rfl
  have saved := shown.edit edits
  have existing := draft_of_persisted ConfigMap.converter (congrArg Option.isSome saved.uid)
  have stored := saved.keeps (apart.edit edits)
  obtain ⟨items, replaced, kept⟩ := replaced_items represents.items found stored
  obtain ⟨value, state⟩ := run_update_existing represents.healthy saved.identity replaced
  unfold Follows session
  simp only [bind_eq, value_run_bind, state_run_bind, value_get_store represents.healthy,
    state_get_store represents.healthy]
  rw [existing, Directory.serve, base]
  simp only [value, state]
  exact ⟨.found key _ _ (stored.shows none), represents.healthy, kept⟩

theorem follows_save (represents : Represents store directory) (key : Key)
    (edits : List ConfigMap.Edit) : Follows store directory (.save key edits) := by
  rcases view_shows represents key with ⟨absent, blank⟩ | ⟨entry, found, shown, apart⟩
  · exact follows_save_new represents key edits absent blank
  · exact follows_save_existing represents key edits found shown apart

theorem follows_delete (represents : Represents store directory) (key : Key) :
    Follows store directory (.delete key) := by
  have named : (view store key.id).identity = key.id := by
    rcases view_shows represents key with ⟨-, blank⟩ | ⟨entry, -, shown, -⟩
    · rw [blank]
      rfl
    · exact shown.identity
  have kept := filtered_items represents.items (fun item => !Store.matching key.id item)
    (fun entry => !decide (entry.1 = key)) fun item entry keeps => by rw [keeps.matching]
  obtain ⟨value, state⟩ := run_delete represents.healthy (view store key.id)
  rw [named] at value state
  unfold Follows session
  simp only [bind_eq, value_run_bind, state_run_bind, value_get_store represents.healthy,
    state_get_store represents.healthy, value, state]
  rcases found_items represents.items key with
    ⟨absent, blank⟩ | ⟨item, entry, present, found, keeps⟩
  · have unseen : directory.find? key = none := blank
    rw [filter_of_absent absent] at kept
    rw [delete_of_absent absent, Directory.serve, unseen]
    exact ⟨.missing, represents.healthy, kept⟩
  · have seen : directory.find? key = some entry := found
    rw [delete_of_present present, Directory.serve, seen]
    exact ⟨.removed, represents.healthy, kept⟩

theorem follows (represents : Represents store directory) (request : Request) :
    Follows store directory request := by
  cases request with
  | read key => exact follows_read represents key
  | list scope => exact follows_list represents scope
  | save key edits => exact follows_save represents key edits
  | delete key => exact follows_delete represents key

theorem follows_all (represents : Represents store directory) (requests : List Request) :
    let run := (requests.mapM session).run Store.answer store
    List.Forall₂ Tells (directory.serveAll requests).1 run.value ∧
      Represents run.state (directory.serveAll requests).2 := by
  induction requests generalizing store directory with
  | nil => exact ⟨.nil, represents⟩
  | cons request rest ih =>
    obtain ⟨told, middle⟩ := follows represents request
    obtain ⟨replies, later⟩ := ih middle
    simp only [List.mapM_cons, bind_eq, value_run_bind, state_run_bind, Directory.serveAll]
    exact ⟨.cons told replies, later⟩

end Steps

/-- Over a sound store, any sessions one after another end as a directory says, and leave a store
that represents the directory's last state; each of them changes the directory in its own key. -/
theorem sessions_refine_directory (store : Store Entries) (sound : Sound store) :
    ∃ directory, Represents store directory ∧ ∀ requests : List Request,
      let run := (requests.mapM session).run Store.answer store
      List.Forall₂ Tells (directory.serveAll requests).1 run.value ∧
        Represents run.state (directory.serveAll requests).2 ∧
        ∀ request, (directory.serveAll requests).2.Changes
          (directory.serveAll (requests ++ [request])).2 request := by
  refine ⟨directoryOf store sound, represents_directoryOf sound, fun requests => ?_⟩
  obtain ⟨told, represents⟩ := follows_all (represents_directoryOf sound) requests
  exact ⟨told, represents, (directoryOf store sound).changes_serveAll requests⟩

private def filled : Manifest Entries where
  metadata :=
    { name := some "a"
      scope := some "m"
      uid := some "u"
      resourceVersion := some "7"
      labels := some (.ofList [(ConfigMap.ownerLabel, "shop"), ("tier", "web")])
      annotations := some (.ofList [("note", "keep")])
      ownerReferences := some [⟨"v1", none, some true, "Deployment", "web", "d"⟩]
      finalizers := some ["guard"] }
  body :=
    { immutable := some false
      data := some (.ofList [("mode", "dark")])
      binaryData := some (.ofList [("icon", [1]), ("logo", [2, 3])]) }

private def sharing : Store Entries where
  items := [filled, ⟨{ name := some "a", scope := some "n", uid := some "v" }, {}⟩]

private def busy : List Request :=
  [.save ⟨"m", "a"⟩ [.set "mode" "light", .remove "icon", .own (some "desk")],
    .delete ⟨"n", "a"⟩, .save ⟨"n", "b"⟩ [.set "k" "v"]]

/-- A name may be used in several namespaces. What a save does not name stays in the store. -/
theorem sessions_refine_directory_shared_name :
    let run := (busy.mapM session).run Store.answer sharing
    Sound sharing ∧
      run.state.items =
        [⟨{ filled.metadata with
              labels := some (.ofList [(ConfigMap.ownerLabel, "desk"), ("tier", "web")]) },
            { filled.body with
              data := some (.ofList [("mode", "light")])
              binaryData := some (.ofList [("logo", [2, 3])]) }⟩,
          ⟨{ name := some "b", scope := some "n", uid := some "uid-1",
              resourceVersion := some "1" },
            { data := some (.ofList [("k", "v")]) }⟩] ∧
      ∃ directory, Represents sharing directory ∧
        List.Forall₂ Tells (directory.serveAll busy).1 run.value ∧
        Represents run.state (directory.serveAll busy).2 ∧
        ∀ request, (directory.serveAll busy).2.Changes
          (directory.serveAll (busy ++ [request])).2 request := by
  intro run
  have sound : Sound sharing := by
    refine ⟨rfl, ?_, by decide⟩
    intro item member
    rcases List.mem_cons.mp member with rfl | member
    · exact ⟨rfl, rfl, rfl⟩
    · rw [List.mem_singleton.mp member]
      exact ⟨rfl, rfl, rfl⟩
  obtain ⟨directory, represents, follow⟩ := sessions_refine_directory sharing sound
  exact ⟨sound, by decide +kernel, directory, represents, follow busy⟩

end ClusterDesk.Sessions

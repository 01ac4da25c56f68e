import ClusterDesk.Command.ConfigMaps
import ClusterDesk.Command.Namespaces
import ClusterDesk.Config
import ClusterDesk.Proofs.Course
import ClusterDesk.Store

/-!
Writes of the commands on the cluster, for every backend and every way it answers. Main statement:
`commands_write_safely`.
-/

namespace ClusterDesk.WriteSafety

open Program Service Command

def mapSubject : ConfigMapCommand → Option ResourceId
  | .list _ => none
  | .get scope name _ | .set scope name _ _ | .unset scope name _ | .delete scope name =>
    some (.namespaced scope name)

def spaceSubject : NamespaceCommand → Option ResourceId
  | .list | .create _ | .classify _ => none
  | .get name _ | .delete name => some (.cluster name)

/-- Which commands on config maps make which calls, and for which model. -/
structure MapWrites (command : ConfigMapCommand) (talk : Talk (Manifest Entries)) : Prop where
  quiet : ((∃ scope, command = .list scope) ∨ ∃ scope name yaml, command = .get scope name yaml) →
    ∀ step ∈ talk, step.1.mutating = false
  creating : ∀ scope payload reply, ⟨.create scope payload, reply⟩ ∈ talk →
    (∃ scope name entries owner, command = .set scope name entries owner) ∧
      ∃ model, Read ConfigMap.converter talk model ∧ model.id = none
  updating : ∀ id payload reply, ⟨.update id payload, reply⟩ ∈ talk →
    ((∃ scope name entries owner, command = .set scope name entries owner) ∨
        ∃ scope name keys, command = .unset scope name keys) ∧
      ∃ model, Read ConfigMap.converter talk model ∧ model.id.isSome = true
  deleting : ∀ id reply, ⟨.delete id, reply⟩ ∈ talk →
    ∃ scope name, command = .delete scope name

/-- Which commands on namespaces make which calls. -/
structure SpaceWrites (command : NamespaceCommand) (talk : Talk (Manifest LifeCycle)) : Prop where
  quiet : (command = .list ∨ ∃ name yaml, command = .get name yaml) →
    ∀ step ∈ talk, step.1.mutating = false
  unasked : ∀ name, command = .create name →
    ∀ step ∈ talk, ∃ scope payload, step.1 = .create scope payload
  creating : ∀ scope payload reply, ⟨.create scope payload, reply⟩ ∈ talk →
    ∃ name, command = .create name
  updating : ∀ id payload reply, ⟨.update id payload, reply⟩ ∉ talk
  deleting : ∀ id reply, ⟨.delete id, reply⟩ ∈ talk → ∃ name, command = .delete name

def MapMay : ConfigMapCommand → ConfigMap → Call (Manifest Entries) → Prop
  | .set _ _ _ _, model, .create _ _ => model.id = none
  | .set _ _ _ _, model, .update _ _ => model.id.isSome = true
  | .unset _ _ _, model, .update _ _ => model.id.isSome = true
  | .delete _ _, _, .delete _ => True
  | _, _, _ => False

def SpaceMay : NamespaceCommand → Namespace → Call (Manifest LifeCycle) → Prop
  | .delete _, _, .delete _ => True
  | _, _, _ => False

section Commands

variable {σ : Type}

theorem result?_removeEntries {Q : Type} {A : Q → Type} (keys : List String) (map : ConfigMap) :
    (ConfigMaps.removeEntries keys map : Program Q A ConfigMap).result? =
      some (map.edit (keys.map .remove)) := by
  induction keys generalizing map with
  | nil => rfl
  | cons key rest ih =>
    have later := ih (map.removeEntry key)
    unfold ConfigMaps.removeEntries
    dsimp only
    split <;> exact later

private theorem id_setEntries (map : ConfigMap) (pairs : List (String × String)) :
    (ConfigMaps.setEntries map pairs).id = map.id := by
  induction pairs generalizing map with
  | nil => rfl
  | cons pair rest ih => exact ih _

variable (answer : (call : Call (Manifest Entries)) → σ →
    Call.Answer (Manifest Entries) String Cause call × σ) (state : σ)

theorem tail_save (permitted : Call (Manifest Entries) → Prop) (draft : Draft ConfigMap)
    (done : String)
    (new : draft.isNew = true → permitted (creation ConfigMap.converter draft.model))
    (existing : draft.isNew = false → permitted (replacement ConfigMap.converter draft.model)) :
    Tail permitted ((ConfigMaps.save draft done).exchanges answer state)
      ((ConfigMaps.save draft done).run answer state).value := by
  cases draft with
  | new model => exact Tail.of_create _ model answer state (new rfl) fun _ => rfl
  | existing model => exact Tail.of_update _ model answer state (existing rfl) fun _ => rfl

theorem tail_set (scope name : String) (entries : List String) (owner : Option String)
    (map edited : ConfigMap) (same : edited.id = map.id) :
    let draft := Service.draft ConfigMap.converter edited
    let rest := ConfigMaps.save draft (if draft.isNew then "created" else "updated")
    Tail (MapMay (.set scope name entries owner) map) (rest.exchanges answer state)
      (rest.run answer state).value := by
  intro draft rest
  -- The draft is classified after the edits, which leave the uid alone.
  have persisted : draft.isNew = !map.id.isSome := by
    rw [← same]
    exact isNew_draft ConfigMap.converter edited
  refine tail_save answer state _ draft _ (fun new => ?_) (fun existing => ?_)
  · rw [persisted] at new
    show map.id = none
    simpa using new
  · rw [persisted] at existing
    show map.id.isSome = true
    simpa using existing

theorem tail_unset (scope name : String) (keys : List String) (map : ConfigMap)
    (known : map.id.isSome = true) :
    let rest : ConfigMaps.Session := do
      ConfigMaps.save (.existing (← ConfigMaps.removeEntries keys map)) "updated"
    Tail (MapMay (.unset scope name keys) map) (rest.exchanges answer state)
      (rest.run answer state).value :=
  Tail.of_bind (result?_removeEntries keys map) answer state fun later =>
    tail_save answer later _ _ "updated" (fun new => by cases new) fun _ => known

theorem course_map (command : ConfigMapCommand) (id : ResourceId)
    (named : mapSubject command = some id) :
    Course ConfigMap.converter id (MapMay command)
      ((ConfigMaps.session command).exchanges answer state)
      ((ConfigMaps.session command).run answer state).value := by
  cases command with
  | list scope => cases named
  | get scope name yaml =>
    cases named
    exact Course.of_get answer state fun map later => Tail.of_result? rfl answer later
  | set scope name entries owner =>
    cases named
    refine Course.of_get answer state fun map later => ?_
    cases read : entries.mapM ConfigMaps.readEntry with
    | error problem => exact Tail.of_result? rfl answer later
    | ok pairs =>
      have same := id_setEntries map pairs
      exact tail_set answer later scope name entries owner map _ same
  | unset scope name keys =>
    cases named
    refine Course.of_get answer state fun map later => ?_
    cases known : map.id.isSome with
    | false =>
      rw [draft_of_not_persisted ConfigMap.converter known]
      exact Tail.of_result? rfl answer later
    | true =>
      rw [draft_of_persisted ConfigMap.converter known]
      exact tail_unset answer later scope name keys map known
  | delete scope name =>
    cases named
    refine Course.of_get answer state fun map later => ?_
    exact Tail.of_delete _ map answer later trivial fun _ => rfl

variable (reserved : Reserved) (reply : (call : Call (Manifest LifeCycle)) → σ →
    Call.Answer (Manifest LifeCycle) String Cause call × σ)

theorem course_space (command : NamespaceCommand) (id : ResourceId)
    (named : spaceSubject command = some id) :
    Course (Namespace.converter reserved) id (SpaceMay command)
      ((Namespaces.session reserved command).exchanges reply state)
      ((Namespaces.session reserved command).run reply state).value := by
  cases command with
  | list => cases named
  | create name => cases named
  | classify names => cases named
  | get name yaml =>
    cases named
    exact Course.of_get reply state fun space later => Tail.of_result? rfl reply later
  | delete name =>
    cases named
    refine Course.of_get reply state fun space later => ?_
    cases kept : space.isSystem with
    | true => exact Tail.of_result? rfl reply later
    | false => exact Tail.of_delete _ space reply later trivial fun _ => rfl

end Commands

theorem mapWrites_of_quiet (command : ConfigMapCommand) {talk : Talk (Manifest Entries)}
    (quiet : ∀ step ∈ talk, step.1.mutating = false) : MapWrites command talk where
  quiet _ := quiet
  creating _ _ _ member := by cases quiet _ member
  updating _ _ _ member := by cases quiet _ member
  deleting _ _ member := by cases quiet _ member

theorem mapWrites_of_course {command : ConfigMapCommand} {id : ResourceId}
    {talk : Talk (Manifest Entries)} {result : CommandResult}
    (course : Course ConfigMap.converter id (MapMay command) talk result) :
    MapWrites command talk where
  quiet reading := by
    rcases reading with ⟨scope, rfl⟩ | ⟨scope, name, yaml, rfl⟩
    · exact course.quiet fun _ _ allowed => allowed
    · exact course.quiet fun _ _ allowed => allowed
  creating scope payload reply member := by
    obtain ⟨model, seen, allowed⟩ := course.permitted_of_mem member rfl
    cases command with
    | set scope name entries owner =>
      exact ⟨⟨scope, name, entries, owner, rfl⟩, model, seen, allowed⟩
    | list | get | unset | delete => cases allowed
  updating id payload reply member := by
    obtain ⟨model, seen, allowed⟩ := course.permitted_of_mem member rfl
    cases command with
    | set scope name entries owner =>
      exact ⟨.inl ⟨scope, name, entries, owner, rfl⟩, model, seen, allowed⟩
    | unset scope name keys => exact ⟨.inr ⟨scope, name, keys, rfl⟩, model, seen, allowed⟩
    | list | get | delete => cases allowed
  deleting id reply member := by
    obtain ⟨model, _, allowed⟩ := course.permitted_of_mem member rfl
    cases command with
    | delete scope name => exact ⟨scope, name, rfl⟩
    | list | get | set | unset => cases allowed

theorem spaceWrites_of_quiet {command : NamespaceCommand} {talk : Talk (Manifest LifeCycle)}
    (quiet : ∀ step ∈ talk, step.1.mutating = false) (other : ∀ name, command ≠ .create name) :
    SpaceWrites command talk where
  quiet _ := quiet
  unasked name named := absurd named (other name)
  creating _ _ _ member := by cases quiet _ member
  updating _ _ _ member := by cases quiet _ member
  deleting _ _ member := by cases quiet _ member

theorem spaceWrites_of_course {reserved : Reserved} {command : NamespaceCommand}
    {id : ResourceId} {talk : Talk (Manifest LifeCycle)} {result : CommandResult}
    (named : spaceSubject command = some id)
    (course : Course (Namespace.converter reserved) id (SpaceMay command) talk result) :
    SpaceWrites command talk where
  quiet reading := by
    rcases reading with rfl | ⟨name, yaml, rfl⟩
    · cases named
    · exact course.quiet fun _ _ allowed => allowed
  unasked name same := by
    subst same
    cases named
  creating scope payload reply member := by
    obtain ⟨model, _, allowed⟩ := course.permitted_of_mem member rfl
    cases command <;> cases allowed
  updating id payload reply member := by
    obtain ⟨model, _, allowed⟩ := course.permitted_of_mem member rfl
    cases command <;> cases allowed
  deleting id reply member := by
    obtain ⟨model, _, allowed⟩ := course.permitted_of_mem member rfl
    cases command with
    | delete name => exact ⟨name, rfl⟩
    | list | get | create | classify => cases allowed

theorem spaceWrites_of_creation {name : String} {talk : Talk (Manifest LifeCycle)}
    {result : CommandResult}
    (tail : Tail (fun call => ∃ scope payload, call = .create scope payload) talk result) :
    SpaceWrites (.create name) talk where
  quiet reading := by rcases reading with same | ⟨_, _, same⟩ <;> cases same
  unasked _ _ _ member := tail.allowed member
  creating _ _ _ _ := ⟨name, rfl⟩
  updating _ _ _ member := by
    obtain ⟨_, _, same⟩ := tail.allowed member
    cases same
  deleting _ _ member := by
    obtain ⟨_, _, same⟩ := tail.allowed member
    cases same

section Commands

variable {σ : Type}

theorem map_writes_safely (answer : (call : Call (Manifest Entries)) → σ →
      Call.Answer (Manifest Entries) String Cause call × σ) (state : σ)
    (command : ConfigMapCommand) :
    let talk := (ConfigMaps.session command).exchanges answer state
    let result := ((ConfigMaps.session command).run answer state).value
    SafeWrites talk result ∧
      ReadsFirst ConfigMap.converter.messages (mapSubject command) talk result ∧
      MapWrites command talk := by
  intro talk result
  cases named : mapSubject command with
  | some id =>
    have course := course_map answer state command id named
    exact ⟨course.safeWrites, course.readsFirst, mapWrites_of_course course⟩
  | none =>
    cases command with
    | list scope =>
      have reading : Reading ConfigMap.converter.messages talk result :=
        Reading.of_list _ scope (fun _ => rfl) answer state
      exact ⟨reading.safeWrites, reading.readsFirst none, mapWrites_of_quiet _ reading.quiet⟩
    | get | set | unset | delete => cases named

theorem space_writes_safely (reserved : Reserved) (answer : (call : Call (Manifest LifeCycle)) → σ →
      Call.Answer (Manifest LifeCycle) String Cause call × σ) (state : σ)
    (command : NamespaceCommand) :
    let talk := (Namespaces.session reserved command).exchanges answer state
    let result := ((Namespaces.session reserved command).run answer state).value
    SafeWrites talk result ∧
      ((∀ name, command ≠ .create name) →
        ReadsFirst (Namespace.converter reserved).messages (spaceSubject command) talk result) ∧
      SpaceWrites command talk := by
  intro talk result
  cases named : spaceSubject command with
  | some id =>
    have course := course_space state reserved answer command id named
    exact ⟨course.safeWrites, fun _ => course.readsFirst, spaceWrites_of_course named course⟩
  | none =>
    cases command with
    | list =>
      have reading : Reading (Namespace.converter reserved).messages talk result :=
        Reading.of_list _ none (fun _ => rfl) answer state
      exact ⟨reading.safeWrites, fun _ => reading.readsFirst none,
        spaceWrites_of_quiet reading.quiet fun _ same => by cases same⟩
    | create name =>
      have tail : Tail (fun call => ∃ scope payload, call = .create scope payload) talk result :=
        Tail.of_create _ _ answer state ⟨_, _, rfl⟩ fun _ => rfl
      exact ⟨tail.safeWrites [] (fun _ member => by cases member),
        fun other => absurd rfl (other name), spaceWrites_of_creation tail⟩
    | classify names =>
      have reading : Reading (Namespace.converter reserved).messages talk result := .silent
      exact ⟨reading.safeWrites, fun _ => reading.readsFirst none,
        spaceWrites_of_quiet reading.quiet fun _ same => by cases same⟩
    | get | delete => cases named

end Commands

/-- Whatever the backends answer, no command on the cluster writes twice, writes before its reading
has succeeded or found nothing, creates what was there or updates what was not. -/
theorem commands_write_safely (config : Config) :
    (∀ {σ : Type} (answer : (call : Call (Manifest Entries)) → σ →
          Call.Answer (Manifest Entries) String Cause call × σ)
        (state : σ) (command : ConfigMapCommand),
      let talk := (ConfigMaps.session command).exchanges answer state
      let result := ((ConfigMaps.session command).run answer state).value
      SafeWrites talk result ∧
        ReadsFirst ConfigMap.converter.messages (mapSubject command) talk result ∧
        MapWrites command talk) ∧
    ∀ {σ : Type} (answer : (call : Call (Manifest LifeCycle)) → σ →
          Call.Answer (Manifest LifeCycle) String Cause call × σ)
        (state : σ) (command : NamespaceCommand),
      let session := Namespaces.session config.reserved command
      let talk := session.exchanges answer state
      let result := (session.run answer state).value
      SafeWrites talk result ∧
        ((∀ name, command ≠ .create name) →
          ReadsFirst (Namespace.converter config.reserved).messages (spaceSubject command) talk
            result) ∧
        SpaceWrites command talk :=
  ⟨map_writes_safely, space_writes_safely config.reserved⟩

/-- A namespace that is there is read, and then deleted. -/
theorem deletion_writes_safely :
    let store : Store LifeCycle := { items := [⟨{ name := some "a" }, {}⟩] }
    let session := Namespaces.session ⟨[]⟩ (.delete "a")
    let talk := session.exchanges Store.answer store
    (∀ name, NamespaceCommand.delete "a" ≠ .create name) ∧
      talk.map (fun step => step.1.name) = ["get", "secondary", "delete"] ∧
      ReadsFirst (Namespace.converter ⟨[]⟩).messages (some (.cluster "a")) talk
        (session.run Store.answer store).value := by
  intro store session talk
  have other : ∀ name, NamespaceCommand.delete "a" ≠ .create name := fun _ same => by cases same
  have safe := (commands_write_safely ⟨[], none, none, none⟩).2 Store.answer store (.delete "a")
  exact ⟨other, by decide, safe.2.1 other⟩

end ClusterDesk.WriteSafety

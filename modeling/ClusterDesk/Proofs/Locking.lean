import ClusterDesk.Proofs.Directory
import ClusterDesk.Proofs.Operations

/-!
One round of reading, editing and saving a config map, over a backend that takes an update only in
the version that it has stored. Others may write between any two calls of the round. Main statement:
`advance_stage`, on what a single answer can lead to.
-/

namespace ClusterDesk.Locking

open Program Service
open ConfigMap (Edit Editable OwnerApart)

abbrev Session (α : Type) : Type := Service.Session (Manifest Entries) String Cause α

/-- The item is known under a key and has been given a uid. -/
structure Identified (key : Key) (item : Manifest Entries) : Prop where
  uid : item.metadata.uid.isSome = true
  scope : item.metadata.scope = some key.scope
  name : item.metadata.name = some key.name

/-- The item carries what a payload asks for. -/
structure Carries (item payload : Manifest Entries) : Prop where
  body : item.body = payload.body
  labels : item.metadata.labels = payload.metadata.labels

/-- A write has put a payload under a key, in a version that was not issued before. -/
structure Wrote {State : Type} (stored : State → Key → Option (Manifest Entries))
    (issued : State → Key → String → Prop) (key : Key) (payload : Manifest Entries)
    (before after : State) : Prop where
  fresh : ∃ item version, stored after key = some item ∧ Carries item payload ∧
    item.metadata.resourceVersion = some version ∧ ¬ issued before key version
  others : ∀ other, other ≠ key → stored after other = stored before other

/-- A backend with optimistic locking. It serves one call after another, and may refuse any. -/
structure Backend where
  State : Type
  answer : (call : Call (Manifest Entries)) → State →
    Call.Answer (Manifest Entries) String Cause call × State
  /-- What is kept under a key. -/
  stored : State → Key → Option (Manifest Entries)
  /-- The versions that a key has had so far. -/
  issued : State → Key → String → Prop
  identified : ∀ {state key item}, stored state key = some item → Identified key item
  tagged : ∀ {state key item}, stored state key = some item →
    ∃ version, item.metadata.resourceVersion = some version ∧ issued state key version
  lasting : ∀ call state key version, issued state key version →
    issued (answer call state).2 key version
  reads : ∀ call state, call.mutating = false → stored (answer call state).2 = stored state
  refusals : ∀ call state, call.succeeded (answer call state).1 = false →
    stored (answer call state).2 = stored state
  gets : ∀ key state raw, (answer (.get key.id) state).1 = .ok raw → stored state key = some raw
  creates : ∀ key payload state raw, payload.metadata.name = some key.name →
    (answer (.create (some key.scope) payload) state).1 = .ok raw →
    stored state key = none ∧
      Wrote stored issued key payload state (answer (.create (some key.scope) payload) state).2
  updates : ∀ key payload state raw, (answer (.update key.id payload) state).1 = .ok raw →
    (∃ old, stored state key = some old ∧
      (payload.metadata.resourceVersion = none ∨
        payload.metadata.resourceVersion = old.metadata.resourceVersion)) ∧
      Wrote stored issued key payload state (answer (.update key.id payload) state).2

/-- What can be edited in what is kept; nothing kept is as good as an empty config map. -/
def content : Option (Manifest Entries) → Editable
  | none => {}
  | some item =>
    { owner := (item.metadata.labels.getD Dict.empty).find? ConfigMap.ownerLabel
      data := item.body.data.getD Dict.empty
      binaryData := item.body.binaryData.getD Dict.empty }

inductive Round where
  | unread (error : ServiceError Cause)
  | saved (base : ConfigMap) (result : Service.Result Cause ConfigMap)

def follow (plan : ConfigMap → List Edit) : Service.Result Cause ConfigMap → Session Round
  | .error error => return .unread error
  | .ok map => do
    let draft := Service.draft ConfigMap.converter (map.edit (plan map))
    return .saved map (← Service.update ConfigMap.converter draft)

def round (key : Key) (plan : ConfigMap → List Edit) : Session Round := do
  follow plan (← Service.get ConfigMap.converter key.id)

def Round.edits (plan : ConfigMap → List Edit) : Round → List Edit
  | .saved base (.ok _) => plan base
  | .saved _ (.error _) | .unread _ => []

/-- The base of a save is what it replaces, or the default where it replaces nothing. -/
structure BasedOn (key : Key) (replaced : Option (Manifest Entries)) (base : ConfigMap) : Prop where
  read : (∃ item yaml, replaced = some item ∧ base = ConfigMap.ofManifest item yaml) ∨
    (replaced = none ∧ base = ConfigMap.ofId key.id)
  version : base.resourceVersion = replaced.bind (·.metadata.resourceVersion)
  content : base.editable = content replaced

theorem basedOn_some (key : Key) (item : Manifest Entries) (yaml : Option String) :
    BasedOn key (some item) (ConfigMap.ofManifest item yaml) :=
  ⟨.inl ⟨item, yaml, rfl, rfl⟩, rfl, rfl⟩

theorem basedOn_none (key : Key) : BasedOn key none (ConfigMap.ofId key.id) :=
  ⟨.inr ⟨rfl, rfl⟩, rfl, rfl⟩

theorem Carries.content_eq {item payload : Manifest Entries} (carries : Carries item payload) :
    content (some item) = content (some payload) := by
  simp only [content, carries.body, carries.labels]

theorem content_updatePayload {map : ConfigMap} (apart : map.OwnerApart) :
    content (some map.updatePayload) = map.editable := by
  rw [content, ConfigMap.owner_updatePayload apart, ConfigMap.binaryData_updatePayload]
  rfl

theorem content_createPayload {map : ConfigMap} (apart : map.OwnerApart) :
    content (some map.createPayload) = map.editable :=
  content_updatePayload apart

section Rounds

variable (backend : Backend)

/-- Others have written, if at all, in versions that were not issued. -/
structure Grows (before after : backend.State) : Prop where
  issued : ∀ key version, backend.issued before key version → backend.issued after key version
  stored : ∀ key, backend.stored after key = backend.stored before key ∨
    ∃ item version, backend.stored after key = some item ∧
      item.metadata.resourceVersion = some version ∧ ¬ backend.issued before key version

/-- What is read stays what is stored as long as the version is stored. -/
def Recalls (state : backend.State) (key : Key) (primary : Except Cause (Manifest Entries)) :
    Prop :=
  ∀ raw, primary = .ok raw →
    Identified key raw ∧
      ∃ version, raw.metadata.resourceVersion = some version ∧
        backend.issued state key version ∧
        ∀ item, backend.stored state key = some item →
          item.metadata.resourceVersion = some version → item = raw

variable {backend}

theorem Grows.refl (state : backend.State) : Grows backend state state :=
  ⟨fun _ _ known => known, fun _ => .inl rfl⟩

theorem Grows.of_same {before after : backend.State} (call : Call (Manifest Entries))
    (answered : (backend.answer call before).2 = after)
    (same : backend.stored after = backend.stored before) : Grows backend before after where
  issued key version known := by
    subst answered
    exact backend.lasting call before key version known
  stored key := .inl (by rw [same])

theorem Grows.of_wrote {before after : backend.State} {key : Key} {payload : Manifest Entries}
    (call : Call (Manifest Entries)) (answered : (backend.answer call before).2 = after)
    (wrote : Wrote backend.stored backend.issued key payload before after) :
    Grows backend before after where
  issued key version known := by
    subst answered
    exact backend.lasting call before key version known
  stored other := by
    by_cases same : other = key
    · subst same
      obtain ⟨item, version, kept, -, tagged, fresh⟩ := wrote.fresh
      exact .inr ⟨item, version, kept, tagged, fresh⟩
    · exact .inl (wrote.others other same)

theorem Recalls.grows {before after : backend.State} {key : Key}
    {primary : Except Cause (Manifest Entries)} (recalls : Recalls backend before key primary)
    (grows : Grows backend before after) : Recalls backend after key primary := by
  intro raw read
  obtain ⟨identified, version, tagged, issued, recalled⟩ := recalls raw read
  refine ⟨identified, version, tagged, grows.issued key version issued, ?_⟩
  intro item kept same
  rcases grows.stored key with unchanged | ⟨newer, other, found, given, fresh⟩
  · exact recalled item (unchanged ▸ kept) same
  -- The version that was read had been issued then, so a later write cannot bear it.
  · rw [kept, Option.some.injEq] at found
    subst found
    rw [same, Option.some.injEq] at given
    subst given
    exact absurd issued fresh

theorem recalls_get (state : backend.State) (key : Key) :
    Recalls backend (backend.answer (.get key.id) state).2 key
      (backend.answer (.get key.id) state).1 := by
  intro raw read
  have found := backend.gets key state raw read
  have same := backend.reads (.get key.id) state rfl
  obtain ⟨version, tagged, issued⟩ := backend.tagged found
  refine ⟨backend.identified found, version, tagged, backend.lasting _ _ _ _ issued, ?_⟩
  intro item kept _
  rw [same, found, Option.some.injEq] at kept
  exact kept.symm

def proceed (key : Key) (plan : ConfigMap → List Edit) (primary : Except Cause (Manifest Entries))
    (other : Except Cause (Option String)) : Session Round :=
  (settle ConfigMap.converter key.id primary other).bind (follow plan)

/-- Where a round may be between two answers. -/
inductive Stage (state : backend.State) (key : Key) (plan : ConfigMap → List Edit) :
    Session Round → Prop
  | fresh : Stage state key plan (round key plan)
  | primary (primary) (recalls : Recalls backend state key primary) :
    Stage state key plan (.ask (.secondary key.id) fun other => proceed key plan primary other)
  | other (other) : Stage state key plan (.ask (.get key.id) fun primary =>
      proceed key plan primary other)
  | read (primary other) (recalls : Recalls backend state key primary) :
    Stage state key plan (proceed key plan primary other)

structure Ends (before after : backend.State) (key : Key) (plan : ConfigMap → List Edit)
    (round : Round) : Prop where
  based : ∀ base map, round = .saved base (.ok map) →
    BasedOn key (backend.stored before key) base
  content : ∀ other, content (backend.stored after other) =
    (content (backend.stored before other)).edit (if key = other then round.edits plan else [])

variable {before after : backend.State} {key : Key} {plan : ConfigMap → List Edit}

theorem Stage.grows {program : Session Round} (stage : Stage before key plan program)
    (grows : Grows backend before after) : Stage after key plan program := by
  cases stage with
  | fresh => exact .fresh
  | primary primary recalls => exact .primary primary (recalls.grows grows)
  | other other => exact .other other
  | read primary other recalls => exact .read primary other (recalls.grows grows)

theorem Ends.of_same {round : Round} (same : backend.stored after = backend.stored before)
    (idle : round.edits plan = [])
    (failed : ∀ base map, round ≠ .saved base (.ok map)) : Ends before after key plan round where
  based base map ended := absurd ended (failed base map)
  content other := by
    rw [same, idle, ite_self]
    rfl

theorem Ends.of_wrote {base map : ConfigMap} {payload : Manifest Entries}
    (based : BasedOn key (backend.stored before key) base)
    (carried : Locking.content (some payload) = (base.edit (plan base)).editable)
    (wrote : Wrote backend.stored backend.issued key payload before after) :
    Ends before after key plan (.saved base (.ok map)) where
  based other saved ended := by
    cases ended
    exact based
  content other := by
    by_cases same : key = other
    · subst same
      obtain ⟨item, version, kept, carries, -, -⟩ := wrote.fresh
      rw [if_pos rfl, kept, carries.content_eq, carried, ConfigMap.editable_edit, based.content]
      rfl
    · rw [if_neg same, wrote.others other (Ne.symm same)]
      rfl

theorem ends_of_refused {call : Call (Manifest Entries)} {base : ConfigMap}
    {error : ServiceError Cause}
    (refused : call.succeeded (backend.answer call before).1 = false) :
    Grows backend before (backend.answer call before).2 ∧
      Ends before (backend.answer call before).2 key plan (.saved base (.error error)) := by
  have same := backend.refusals call before refused
  exact ⟨.of_same call rfl same, .of_same same rfl fun _ _ ended => by cases ended⟩

theorem follow_existing {map : ConfigMap} (known : map.id.isSome = true) :
    let edited := map.edit (plan map)
    Puts (replacement ConfigMap.converter edited)
      (fun answer => Round.saved map ((told .update ConfigMap.converter.messages.update answer).map
        (ConfigMap.converter.toModel · none)))
      (follow plan (.ok map)) := by
  intro edited
  have persisted : ConfigMap.converter.isPersisted edited = true := by
    show (map.edit (plan map)).id.isSome = true
    rw [ConfigMap.edit_eq]
    exact known
  have saves := update_puts (E := Cause) ConfigMap.converter edited
  rw [follow, draft_of_persisted _ persisted]
  exact saves.bind fun _ => rfl

theorem follow_new {map : ConfigMap} (unknown : map.id = none) :
    let edited := map.edit (plan map)
    Puts (creation ConfigMap.converter edited)
      (fun answer => Round.saved map ((told .create ConfigMap.converter.messages.create answer).map
        (ConfigMap.converter.toModel · none)))
      (follow plan (.ok map)) := by
  intro edited
  have fresh : ConfigMap.converter.isPersisted edited = false := by
    show (map.edit (plan map)).id.isSome = false
    rw [ConfigMap.edit_eq]
    exact congrArg Option.isSome unknown
  have saves := create_puts (E := Cause) ConfigMap.converter edited
  rw [follow, draft_of_not_persisted _ fresh]
  exact saves.bind fun _ => rfl

theorem result?_proceed (primary : Except Cause (Manifest Entries))
    (other : Except Cause (Option String)) :
    (proceed key plan primary other).result? =
      (follow plan (reading ConfigMap.converter key.id primary other)).result? :=
  result?_bind _ (result?_settle ConfigMap.converter key.id primary other)

theorem replacement_ends {base edited : ConfigMap} (named : key = ⟨edited.scope, edited.name⟩)
    (apart : edited.OwnerApart) (planned : edited.editable = (base.edit (plan base)).editable)
    (based : ∀ old, backend.stored before key = some old →
      edited.resourceVersion = none ∨ edited.resourceVersion = old.metadata.resourceVersion →
        BasedOn key (some old) base) :
    let served := backend.answer (replacement ConfigMap.converter edited) before
    Grows backend before served.2 ∧ Ends before served.2 key plan
      (.saved base ((told .update ConfigMap.converter.messages.update served.1).map
        (ConfigMap.converter.toModel · none))) := by
  intro served
  subst named
  cases told : served.1 with
  | error cause =>
    have refused : (replacement ConfigMap.converter edited).succeeded served.1 = false := by
      rw [told]
      rfl
    exact ends_of_refused refused
  | ok reply =>
    obtain ⟨⟨old, kept, agreed⟩, wrote⟩ := backend.updates ⟨_, _⟩ _ before reply told
    have origin := based old kept agreed
    rw [← kept] at origin
    exact ⟨.of_wrote _ rfl wrote,
      .of_wrote origin ((content_updatePayload apart).trans planned) wrote⟩

theorem creation_ends {base edited : ConfigMap} (named : key = ⟨edited.scope, edited.name⟩)
    (apart : edited.OwnerApart) (planned : edited.editable = (base.edit (plan base)).editable)
    (based : BasedOn key none base) :
    let served := backend.answer (creation ConfigMap.converter edited) before
    Grows backend before served.2 ∧ Ends before served.2 key plan
      (.saved base ((told .create ConfigMap.converter.messages.create served.1).map
        (ConfigMap.converter.toModel · none))) := by
  intro served
  subst named
  cases told : served.1 with
  | error cause =>
    have refused : (creation ConfigMap.converter edited).succeeded served.1 = false := by
      rw [told]
      rfl
    exact ends_of_refused refused
  | ok reply =>
    obtain ⟨absent, wrote⟩ := backend.creates ⟨_, _⟩ _ before reply rfl told
    rw [← absent] at based
    exact ⟨.of_wrote _ rfl wrote,
      .of_wrote based ((content_createPayload apart).trans planned) wrote⟩

/-- What was read and is still stored is what an update of it replaces. -/
theorem Recalls.basedOn {raw : Manifest Entries} (recalls : Recalls backend before key (.ok raw))
    (form : Option String) {old : Manifest Entries} (kept : backend.stored before key = some old)
    (agreed : raw.metadata.resourceVersion = none ∨
      raw.metadata.resourceVersion = old.metadata.resourceVersion) :
    BasedOn key (some old) (ConfigMap.ofManifest raw form) := by
  obtain ⟨-, version, tagged, -, recalled⟩ := recalls raw rfl
  rw [tagged] at agreed
  rcases agreed with absent | same
  · cases absent
  · rw [recalled old kept same.symm]
    exact basedOn_some key raw form

theorem save_ends {primary : Except Cause (Manifest Entries)} {other : Except Cause (Option String)}
    {base : ConfigMap} (recalls : Recalls backend before key primary)
    (found : reading ConfigMap.converter key.id primary other = .ok base) :
    ∃ call make, Puts call make (follow plan (.ok base)) ∧
      let served := backend.answer call before
      Grows backend before served.2 ∧ Ends before served.2 key plan (make served.1) := by
  have edited := ConfigMap.edit_eq base (plan base)
  cases primary with
  | ok raw =>
    cases found
    obtain ⟨identified, -⟩ := recalls raw rfl
    refine ⟨_, _, follow_existing identified.uid, ?_⟩
    refine replacement_ends ?_ ((ConfigMap.ownerApart_ofManifest raw _).edit _) rfl ?_
    · rw [edited]
      show key = ⟨raw.metadata.scope.getD "", raw.metadata.name.getD ""⟩
      rw [identified.scope, identified.name]
      rfl
    · intro old kept agreed
      rw [edited] at agreed
      exact recalls.basedOn _ kept agreed
  | error cause =>
    have absent : base = ConfigMap.ofId key.id := by
      cases notFound : Failure.notFound cause with
      | true =>
        simp only [reading, notFound, if_true] at found
        cases found
        rfl
      | false =>
        simp only [reading, notFound, Bool.false_eq_true, if_false] at found
        cases found
    subst absent
    refine ⟨_, _, follow_new rfl, ?_⟩
    refine creation_ends ?_ ((ConfigMap.ownerApart_ofId key.id).edit _) rfl (basedOn_none key)
    rw [edited]
    rfl

/-- A round that both readings are answered of either waits for its save, or has ended unread. -/
theorem proceed_unsaved (primary : Except Cause (Manifest Entries))
    (other : Except Cause (Option String)) :
    (proceed key plan primary other).result? = none ∨
      ∃ error, (proceed key plan primary other).result? = some (.unread error) := by
  rw [result?_proceed]
  cases reading ConfigMap.converter key.id primary other with
  | error error => exact .inr ⟨error, rfl⟩
  | ok base =>
    cases known : base.id with
    | none => exact .inl (follow_new known).unsettled
    | some uid => exact .inl (follow_existing (congrArg Option.isSome known)).unsettled

theorem Ends.unread {error : ServiceError Cause}
    (same : backend.stored after = backend.stored before) :
    Ends before after key plan (.unread error) :=
  .of_same same rfl fun _ _ ended => by cases ended

theorem proceed_stage {primary : Except Cause (Manifest Entries)}
    (other : Except Cause (Option String)) (recalls : Recalls backend after key primary)
    (same : backend.stored after = backend.stored before) :
    let program := proceed key plan primary other
    (program.result? = none ∧ Stage after key plan program ∧
        backend.stored after = backend.stored before) ∨
      ∃ round, program.result? = some round ∧ Ends before after key plan round := by
  intro program
  rcases proceed_unsaved primary other with waits | ⟨error, ended⟩
  · exact .inl ⟨waits, .read primary other recalls, same⟩
  · exact .inr ⟨_, ended, .unread same⟩

/-- An answer to a round brings it on to its next stage, or ends it with the right effect. -/
theorem advance_stage {program : Session Round} (stage : Stage before key plan program)
    (later : Bool) :
    let next := program.advance backend.answer later before
    Grows backend before next.2 ∧
      ((next.1.result? = none ∧ Stage next.2 key plan next.1 ∧
          backend.stored next.2 = backend.stored before) ∨
        ∃ round, next.1.result? = some round ∧ Ends before next.2 key plan round) := by
  have readGet := backend.reads (.get key.id) before rfl
  have readOther := backend.reads (.secondary key.id) before rfl
  cases stage with
  | fresh =>
    cases later with
    | false =>
      have recalls := recalls_get before key
      exact ⟨.of_same _ rfl readGet, .inl ⟨rfl, .primary _ recalls, readGet⟩⟩
    | true => exact ⟨.of_same _ rfl readOther, .inl ⟨rfl, .other _, readOther⟩⟩
  | primary primary recalls =>
    have grows : Grows backend before (backend.answer (.secondary key.id) before).2 :=
      .of_same _ rfl readOther
    exact ⟨grows, proceed_stage _ (recalls.grows grows) readOther⟩
  | other other =>
    have grows : Grows backend before (backend.answer (.get key.id) before).2 :=
      .of_same _ rfl readGet
    exact ⟨grows, proceed_stage other (recalls_get before key) readGet⟩
  | read primary other recalls =>
    cases found : reading ConfigMap.converter key.id primary other with
    | error error =>
      have ended : (proceed key plan primary other).result? = some (.unread error) := by
        rw [result?_proceed, found]
        rfl
      obtain ⟨still, same⟩ := advance_of_result? backend.answer ended later before
      refine ⟨?_, .inr ⟨_, still, .unread (by rw [same])⟩⟩
      rw [same]
      exact .refl before
    | ok base =>
      obtain ⟨call, make, puts, grows, ends⟩ := save_ends recalls found
      have whole : Puts call make (proceed key plan primary other) := by
        refine puts.after ?_
        rw [result?_settle, found]
      obtain ⟨ended, state⟩ := whole.advance_eq backend.answer later before
      rw [← state] at grows ends
      exact ⟨grows, .inr ⟨_, ended, ends⟩⟩

end Rounds

end ClusterDesk.Locking

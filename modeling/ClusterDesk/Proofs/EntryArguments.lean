import ClusterDesk.Proofs.Editing
import ClusterDesk.Proofs.WriteSafety
import Mathlib.Data.List.Forall2

/-!
Entries given as arguments, from the words of a command to the payload that it sends. Main
statement: `entries_as_requested`. One argument that is no entry, and nothing is written; otherwise
the payload has the entries that were read, with those of the arguments put in or taken out.
-/

namespace ClusterDesk

theorem Dict.foldl_erase {α : Type} (keys : List String) (dict : Dict α) :
    keys.foldl Dict.erase dict = dict.filterKeys fun key => key ∉ keys := by
  refine Dict.ext fun key => ?_
  rw [Dict.find?_filterKeys]
  induction keys generalizing dict with
  | nil => simp
  | cons named rest ih =>
    rw [List.foldl_cons, ih, Dict.find?_erase]
    by_cases same : key = named <;> simp [same]

namespace ConfigMaps

open Program Service
open ConfigMap (ownerLabel)
open WriteSafety (Talk)

/-- A key and a value, apart at the first equals sign. -/
structure Splits (argument : String) (entry : String × String) : Prop where
  whole : argument = entry.1 ++ "=" ++ entry.2
  first : '=' ∉ entry.1.toList
  keyed : entry.1 ≠ ""

def Malformed (argument : String) : Prop :=
  '=' ∉ argument.toList ∨ argument.toList.head? = some '='

instance : DecidablePred Malformed := fun argument =>
  inferInstanceAs (Decidable ('=' ∉ argument.toList ∨ argument.toList.head? = some '='))

section Arguments

variable {argument bad : String} {entry : String × String} {entries before after : List String}

theorem Splits.wellformed (splits : Splits argument entry) : ¬ Malformed argument := by
  have text : argument.toList = entry.1.toList ++ '=' :: entry.2.toList := by
    simp [splits.whole]
  rintro (missing | leading)
  · simp [text] at missing
  · cases key : entry.1.toList with
    | nil => exact splits.keyed (String.toList_eq_nil_iff.mp key)
    | cons letter rest =>
      have apart := splits.first
      simp [text, key] at leading apart
      exact apart.1 leading.symm

theorem readEntry_cases (argument : String) :
    (∃ entry, Splits argument entry ∧ readEntry argument = .ok entry) ∨
      (Malformed argument ∧ readEntry argument = .error (.invalidEntry argument)) := by
  have whole : argument.toList.takeWhile (· ≠ '=') ++ argument.toList.dropWhile (· ≠ '=') =
      argument.toList := List.takeWhile_append_dropWhile
  have first : '=' ∉ argument.toList.takeWhile (· ≠ '=') := by
    intro member
    simpa using List.all_eq_true.mp List.all_takeWhile _ member
  have sign := List.head?_dropWhile_not (· ≠ '=') argument.toList
  -- Only these facts about the two parts count, whatever the text is.
  simp only [readEntry]
  generalize argument.toList.takeWhile (· ≠ '=') = key at whole first
  generalize argument.toList.dropWhile (· ≠ '=') = rest at whole sign
  cases rest with
  | nil =>
    rw [List.append_nil] at whole
    refine .inr ⟨.inl (whole ▸ first), ?_⟩
    cases key <;> rfl
  | cons letter value =>
    have equals : letter = '=' := by simpa using sign
    subst equals
    cases key with
    | nil => exact .inr ⟨.inr (by rw [← whole]; rfl), rfl⟩
    | cons letter key =>
      refine .inl ⟨_, ⟨?_, ?_, ?_⟩, rfl⟩
      · apply String.toList_injective
        simpa using whole.symm
      · simpa using first
      · intro empty
        simpa using congrArg String.toList empty

theorem mapM_readEntry_refused (valid : ∀ argument ∈ before, ¬ Malformed argument)
    (malformed : Malformed bad) :
    (before ++ bad :: after).mapM readEntry = .error (.invalidEntry bad) := by
  induction before with
  | nil =>
    obtain ⟨entry, splits, -⟩ | ⟨-, refused⟩ := readEntry_cases bad
    · exact absurd malformed splits.wellformed
    · rw [List.nil_append, List.mapM_cons, refused]
      rfl
  | cons argument rest ih =>
    obtain ⟨entry, -, read⟩ | ⟨malformed, -⟩ := readEntry_cases argument
    · have later := ih fun other member => valid other (List.mem_cons_of_mem _ member)
      rw [List.cons_append, List.mapM_cons, read, later]
      rfl
    · exact absurd malformed (valid argument List.mem_cons_self)

theorem mapM_readEntry_accepted (valid : ∀ argument ∈ entries, ¬ Malformed argument) :
    ∃ pairs, List.Forall₂ Splits entries pairs ∧ entries.mapM readEntry = .ok pairs := by
  induction entries with
  | nil => exact ⟨[], .nil, rfl⟩
  | cons argument rest ih =>
    obtain ⟨pairs, split, later⟩ := ih fun other member =>
      valid other (List.mem_cons_of_mem _ member)
    obtain ⟨entry, splits, read⟩ | ⟨malformed, -⟩ := readEntry_cases argument
    · refine ⟨entry :: pairs, .cons splits split, ?_⟩
      rw [List.mapM_cons, read, later]
      rfl
    · exact absurd malformed (valid argument List.mem_cons_self)

end Arguments

def texts (manifest : Manifest Entries) : Dict String := manifest.body.data.getD Dict.empty

def bytes (manifest : Manifest Entries) : Dict (List UInt8) :=
  manifest.body.binaryData.getD Dict.empty

def owner? (manifest : Manifest Entries) : Option String :=
  (manifest.metadata.labels.getD Dict.empty).find? ownerLabel

/-- What there is of a config map; where there is none, there are no entries and no owner. -/
def present (object : Option (Manifest Entries)) : Manifest Entries := object.getD ⟨{}, {}⟩

/-- The model that stands for what was read under a name. -/
def Shown (id : ResourceId) : Option (Manifest Entries) → ConfigMap → Prop
  | some raw, map => ∃ yaml, map = ConfigMap.ofManifest raw yaml
  | none, map => map = ConfigMap.ofId id

theorem Shown.contents {id : ResourceId} {object : Option (Manifest Entries)} {map : ConfigMap}
    (shown : Shown id object map) :
    map.data = texts (present object) ∧ map.binaryData = bytes (present object) ∧
      map.owner = owner? (present object) ∧ map.OwnerApart := by
  cases object with
  | none =>
    cases shown
    exact ⟨rfl, rfl, rfl, ConfigMap.ownerApart_ofId id⟩
  | some raw =>
    obtain ⟨yaml, rfl⟩ := shown
    exact ⟨rfl, rfl, rfl, ConfigMap.ownerApart_ofManifest raw yaml⟩

def sent : Draft ConfigMap → Manifest Entries
  | .new map => map.createPayload
  | .existing map => map.updatePayload

theorem contents_sent (draft : Draft ConfigMap) (apart : draft.model.OwnerApart) :
    texts (sent draft) = draft.model.data ∧ bytes (sent draft) = draft.model.binaryData ∧
      owner? (sent draft) = draft.model.owner := by
  -- A creation sends the same entries and labels as an update would.
  cases draft with
  | new map =>
    exact ⟨rfl, ConfigMap.binaryData_updatePayload map, ConfigMap.owner_updatePayload apart⟩
  | existing map =>
    exact ⟨rfl, ConfigMap.binaryData_updatePayload map, ConfigMap.owner_updatePayload apart⟩

theorem setEntries_eq (map : ConfigMap) (pairs : List (String × String)) :
    setEntries map pairs =
      { map with
        data := pairs.foldl (fun dict entry => dict.insert entry.1 entry.2) map.data
        binaryData := map.binaryData.filterKeys fun key => key ∉ pairs.map (·.1) } := by
  rw [← Dict.foldl_erase, List.foldl_map]
  induction pairs generalizing map with
  | nil => rfl
  | cons pair rest ih => exact ih (map.setEntry pair.1 pair.2)

def entered (pairs : List (String × String)) (owner : Option String) (map : ConfigMap) :
    ConfigMap :=
  { setEntries map pairs with owner := owner.or (setEntries map pairs).owner }

theorem edit_remove_eq (map : ConfigMap) (keys : List String) :
    map.edit (keys.map .remove) =
      { map with
        data := map.data.filterKeys fun key => key ∉ keys
        binaryData := map.binaryData.filterKeys fun key => key ∉ keys } := by
  rw [← Dict.foldl_erase, ← Dict.foldl_erase, ConfigMap.edit, List.foldl_map]
  induction keys generalizing map with
  | nil => rfl
  | cons key rest ih => exact ih (map.removeEntry key)

/-- The entries of the arguments, put into what there is; of one key the last. -/
structure Entered (pairs : List (String × String)) (owner : Option String)
    (object sent : Manifest Entries) : Prop where
  texts : ∀ key, (texts sent).find? key =
    (Dict.lookup key pairs.reverse).or ((texts object).find? key)
  bytes : bytes sent = (bytes object).filterKeys fun key => key ∉ pairs.map (·.1)
  owner : owner? sent = owner.or (owner? object)

/-- The keys taken out of what there is, and nothing else changed. -/
structure Removed (keys : List String) (object sent : Manifest Entries) : Prop where
  texts : texts sent = (texts object).filterKeys fun key => key ∉ keys
  bytes : bytes sent = (bytes object).filterKeys fun key => key ∉ keys
  rest : let plain := (ConfigMap.ofManifest object none).updatePayload
    { sent with
      body := { sent.body with data := plain.body.data, binaryData := plain.body.binaryData } } =
      plain

theorem entered_sent {id : ResourceId} {object : Option (Manifest Entries)} {map : ConfigMap}
    (shown : Shown id object map) {pairs : List (String × String)} {owner : Option String}
    {draft : Draft ConfigMap} (edited : draft.model = entered pairs owner map) :
    Entered pairs owner (present object) (sent draft) := by
  obtain ⟨data, binaryData, owned, apart⟩ := shown.contents
  rw [entered, setEntries_eq] at edited
  have kept : draft.model.OwnerApart := by
    rw [edited]
    exact apart
  obtain ⟨texts, bytes, owner⟩ := contents_sent draft kept
  rw [edited] at texts bytes owner
  refine ⟨fun key => ?_, ?_, ?_⟩
  · rw [texts, Dict.find?_foldl_insert, data]
  · rw [bytes, binaryData]
  · rw [owner, owned]

theorem removed_sent {raw : Manifest Entries} {map : ConfigMap} {yaml : Option String}
    (shown : map = ConfigMap.ofManifest raw yaml) (keys : List String) :
    Removed keys raw (sent (.existing (map.edit (keys.map .remove)))) := by
  subst shown
  rw [edit_remove_eq]
  exact ⟨rfl, ConfigMap.getD_unlessEmpty_dict _, rfl⟩

def payload? : Call (Manifest Entries) → Option (Manifest Entries)
  | .create _ payload | .update _ payload => some payload
  | .get _ | .secondary _ | .list _ | .delete _ => none

def writes (talk : Talk (Manifest Entries)) : Talk (Manifest Entries) :=
  talk.filter fun step => step.1.mutating

/-- One call alone changes anything, and this is its payload. -/
def Sends (talk : Talk (Manifest Entries)) (payload : Manifest Entries) : Prop :=
  ∃ step, writes talk = [step] ∧ payload? step.1 = some payload

/-- What follows the reading once all arguments are entries. -/
def saveEntered (pairs : List (String × String)) (owner : Option String) (map : ConfigMap) :
    Session :=
  let draft := Service.draft ConfigMap.converter (entered pairs owner map)
  save draft (if draft.isNew then "created" else "updated")

/-- What follows the reading when keys are to be removed. -/
def saveRemoved (keys : List String) (map : ConfigMap) : Session :=
  match Service.draft ConfigMap.converter map with
  | .new map => return .error (.absent map.identity)
  | .existing map => do save (.existing (← removeEntries keys map)) "updated"

section Conversations

variable {σ : Type} (answer : (call : Call (Manifest Entries)) → σ →
    Call.Answer (Manifest Entries) String Cause call × σ) (state : σ)

/-- What is read under a name: a config map, or that there is none. -/
def Reads (id : ResourceId) : Option (Manifest Entries) → Prop
  | some raw => (answer (.get id) state).1 = .ok raw
  | none => ∃ cause, (answer (.get id) state).1 = .error cause ∧ Failure.notFound cause = true

variable {answer state}

theorem shown_of_reads {id : ResourceId} {object : Option (Manifest Entries)}
    (reads : Reads answer state id object) (other : Except Cause (Option String)) :
    ∃ map, reading ConfigMap.converter id (answer (.get id) state).1 other = .ok map ∧
      Shown id object map := by
  cases object with
  | some raw =>
    have answered : (answer (.get id) state).1 = .ok raw := reads
    rw [answered]
    exact ⟨_, rfl, _, rfl⟩
  | none =>
    obtain ⟨cause, answered, absent⟩ := reads
    rw [answered, reading, if_pos absent]
    exact ⟨_, rfl, rfl⟩

/-- A command goes on with the model of what it has read, and has written nothing so far. -/
theorem run_of_reads {id : ResourceId} {object : Option (Manifest Entries)}
    (reads : Reads answer state id object) (next : ConfigMap → Session) :
    ∃ map later, Shown id object map ∧
      ((Service.get ConfigMap.converter id >>= (Command.report · next)).run answer state).value =
        ((next map).run answer later).value ∧
      writes ((Service.get ConfigMap.converter id >>= (Command.report · next)).exchanges answer
        state) = writes ((next map).exchanges answer later) := by
  obtain ⟨map, read, shown⟩ :=
    shown_of_reads reads (answer (.secondary id) (answer (.get id) state).2).1
  refine ⟨map, ((Service.get ConfigMap.converter id).run answer state).state, shown, ?_, ?_⟩
  · rw [bind_eq, value_run_bind, value_get, read]
    rfl
  · rw [bind_eq, exchanges_bind, value_get, exchanges_get, read]
    rfl

theorem Sends.of_puts {call : Call (Manifest Entries)}
    {make : Call.Answer (Manifest Entries) String Cause call → CommandResult} {program : Session}
    {payload : Manifest Entries} (puts : Puts call make program) (mutating : call.mutating = true)
    (carried : payload? call = some payload) :
    Sends (program.exchanges answer state) payload := by
  rw [puts.exchanges_eq]
  exact ⟨_, List.filter_cons_of_pos mutating, carried⟩

theorem sends_save (draft : Draft ConfigMap) (done : String) :
    Sends ((save draft done).exchanges answer state) (sent draft) := by
  have settled (saved : ConfigMap) : (do
      Command.notify (.success ("Config map " ++ saved.identity.display ++ " " ++ done))
      return .ok "" : Session).result? = some (.ok "") := rfl
  cases draft with
  | new map =>
    exact .of_puts ((create_puts ConfigMap.converter map).bind
      (WriteSafety.result?_report settled)) rfl rfl
  | existing map =>
    exact .of_puts ((update_puts ConfigMap.converter map).bind
      (WriteSafety.result?_report settled)) rfl rfl

theorem set_refused {id : ResourceId} {object : Option (Manifest Entries)}
    (reads : Reads answer state id object) {before after : List String} {bad : String}
    (valid : ∀ argument ∈ before, ¬ Malformed argument) (malformed : Malformed bad)
    (owner : Option String) :
    let session := set id (before ++ bad :: after) owner
    (session.run answer state).value = .error (.problem (.invalidEntry bad)) ∧
      writes (session.exchanges answer state) = [] := by
  intro session
  have same : session = Service.get ConfigMap.converter id >>= (Command.report · fun _ =>
      return .error (.problem (.invalidEntry bad))) := by
    unfold session set
    rw [mapM_readEntry_refused valid malformed]
  obtain ⟨map, later, -, value, talk⟩ := run_of_reads reads fun _ =>
    return .error (.problem (.invalidEntry bad))
  rw [same]
  exact ⟨value, talk⟩

theorem set_sends {id : ResourceId} {object : Option (Manifest Entries)}
    (reads : Reads answer state id object) {entries : List String}
    (valid : ∀ argument ∈ entries, ¬ Malformed argument) (owner : Option String) :
    ∃ pairs payload, List.Forall₂ Splits entries pairs ∧
      Entered pairs owner (present object) payload ∧
      Sends ((set id entries owner).exchanges answer state) payload := by
  obtain ⟨pairs, splits, read⟩ := mapM_readEntry_accepted valid
  have same : set id entries owner =
      Service.get ConfigMap.converter id >>= (Command.report · (saveEntered pairs owner)) := by
    unfold set
    rw [read]
    rfl
  obtain ⟨map, later, shown, -, talk⟩ := run_of_reads reads (saveEntered pairs owner)
  have edited := model_draft ConfigMap.converter (entered pairs owner map)
  refine ⟨pairs, _, splits, entered_sent shown edited, ?_⟩
  rw [Sends, same, talk]
  exact sends_save _ _

theorem unset_sends {id : ResourceId} {raw : Manifest Entries}
    (reads : Reads answer state id (some raw)) (known : raw.metadata.uid.isSome = true)
    (keys : List String) :
    ∃ payload, Removed keys raw payload ∧
      Sends ((unset id keys).exchanges answer state) payload := by
  have same : unset id keys =
      Service.get ConfigMap.converter id >>= (Command.report · (saveRemoved keys)) := rfl
  obtain ⟨map, later, ⟨yaml, shown⟩, -, talk⟩ := run_of_reads reads (saveRemoved keys)
  have persisted : ConfigMap.converter.isPersisted map = true := by
    rw [shown]
    exact known
  refine ⟨_, removed_sent shown keys, ?_⟩
  rw [Sends, same, talk, saveRemoved, draft_of_persisted ConfigMap.converter persisted]
  have removed := WriteSafety.result?_removeEntries (Q := Call (Manifest Entries))
    (A := Call.Answer (Manifest Entries) String Cause) keys map
  have silent := exchanges_of_result? answer removed later
  have value := value_run_of_result? answer removed later
  simp only [bind_eq, exchanges_bind, silent, value, List.nil_append]
  exact sends_save _ _

end Conversations

/-- Whatever is there, the first argument that is no entry ends the command before it has written
anything. Otherwise one payload is sent, with the entries in the order in which they are given; and
one without the keys, if keys are to be removed. -/
theorem entries_as_requested {σ : Type} (answer : (call : Call (Manifest Entries)) → σ →
      Call.Answer (Manifest Entries) String Cause call × σ) (state : σ) (scope name : String)
    (object : Option (Manifest Entries))
    (reads : Reads answer state (.namespaced scope name) object) :
    (∀ (entries : List String) (owner : Option String) (bad : String),
      entries.find? (fun argument => Malformed argument) = some bad →
      ((session (.set scope name entries owner)).run answer state).value =
          .error (.problem (.invalidEntry bad)) ∧
        writes ((session (.set scope name entries owner)).exchanges answer state) = []) ∧
    (∀ (entries : List String) (owner : Option String),
      (∀ argument ∈ entries, ¬ Malformed argument) →
      ∃ pairs payload, List.Forall₂ Splits entries pairs ∧
        Entered pairs owner (present object) payload ∧
        Sends ((session (.set scope name entries owner)).exchanges answer state) payload) ∧
    ∀ (raw : Manifest Entries) (keys : List String), object = some raw →
      raw.metadata.uid.isSome = true →
      ∃ payload, Removed keys raw payload ∧
        Sends ((session (.unset scope name keys)).exchanges answer state) payload := by
  refine ⟨fun entries owner bad first => ?_, fun entries owner valid => ?_,
    fun raw keys same known => ?_⟩
  · obtain ⟨malformed, before, after, rfl, earlier⟩ := List.find?_eq_some_iff_append.mp first
    refine set_refused reads (fun argument member => ?_) (of_decide_eq_true malformed) owner
    simpa using earlier argument member
  · exact set_sends reads valid owner
  · subst same
    exact unset_sends reads known keys

private def stored : Manifest Entries where
  metadata := { name := some "app", scope := some "prod", uid := some "uid-7" }
  body :=
    { data := some (Dict.ofList [("a", "1")]), binaryData := some (Dict.ofList [("k", [0])]) }

/-- The second of two bad arguments is not looked at; an owner may be given along with entries; and
a key may be removed twice, or not be there. -/
theorem entries_as_requested_stored :
    let store : Store Entries := { items := [stored] }
    Reads Store.answer store (.namespaced "prod" "app") (some stored) ∧
      ((session (.set "prod" "app" ["a=x", "=y", "z"] none)).run Store.answer store).value =
        .error (.problem (.invalidEntry "=y")) ∧
      (∃ payload, owner? payload = some "web" ∧
        Sends ((session (.set "prod" "app" ["a=x=y", "k=z"] (some "web"))).exchanges Store.answer
          store) payload) ∧
      ∃ payload, texts payload = Dict.ofList [("a", "1")] ∧ bytes payload = Dict.empty ∧
        Sends ((session (.unset "prod" "app" ["k", "b", "k"])).exchanges Store.answer store)
          payload := by
  intro store
  have reads : Reads Store.answer store (.namespaced "prod" "app") (some stored) := rfl
  obtain ⟨refused, set, unset⟩ := entries_as_requested Store.answer store "prod" "app" _ reads
  obtain ⟨pairs, payload, -, put, sends⟩ := set ["a=x=y", "k=z"] (some "web") (by decide)
  obtain ⟨without, removed, sent⟩ := unset stored ["k", "b", "k"] rfl rfl
  refine ⟨reads, (refused ["a=x", "=y", "z"] none "=y" (by decide)).1,
    ⟨payload, put.owner, sends⟩, without, ?_, ?_, sent⟩
  · rw [removed.texts]
    decide
  · rw [removed.bytes]
    decide

end ConfigMaps

end ClusterDesk

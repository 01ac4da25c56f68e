import ClusterDesk.Proofs.Jobs
import ClusterDesk.Proofs.ReadBack
import ClusterDesk.Store.Faulty

/-!
Operations over a store in memory with any items at all: several of one identity, some without a
name or a uid, and with any calls made to fail. Main statement: `operations_isolated`. What fails
changes nothing, and what succeeds concerns the items of one identity.
-/

namespace ClusterDesk

open Program

namespace Bears

variable {Body : Type} {id : ResourceId} {payload : Manifest Body}

theorem matching (bears : Bears id payload) : Store.matching id payload = true := by
  simp [Store.matching, Metadata.answersTo, Metadata.anyName, bears.name, bears.scope]

theorem matching_admitted (bears : Bears id payload) (count : Nat) :
    Store.matching id (Store.admitted count payload) = true :=
  bears.matching

end Bears

namespace Store

variable {Body : Type}

/-- The items of other identities, in order. -/
def others (id : ResourceId) (items : List (Manifest Body)) : List (Manifest Body) :=
  items.filter fun item => !matching id item

/-- What a write does to the items when it succeeds. -/
inductive Change : Call (Manifest Body) → List (Manifest Body) → List (Manifest Body) → Prop
  | created (scope payload items) :
    Change (.create scope payload) items (items ++ [admitted items.length payload])
  | replaced (id payload front old rest) (earlier : ∀ item ∈ front, matching id item = false)
    (first : matching id old = true) :
    Change (.update id payload) (front ++ old :: rest) (front ++ payload :: rest)
  | removed (id items) (present : ∃ item ∈ items, matching id item = true) :
    Change (.delete id) items (others id items)

variable {id : ResourceId} {items : List (Manifest Body)}

theorem matching_unique {first second : ResourceId} {item : Manifest Body}
    (one : matching first item = true) (two : matching second item = true) : first = second := by
  simp only [matching, Metadata.answersTo, Bool.and_eq_true, decide_eq_true_eq] at one two
  cases first
  cases second
  simp_all

/-- An identity is answered out of the items that are not of another one. -/
theorem find?_others {other : ResourceId} (apart : other ≠ id) (items : List (Manifest Body)) :
    (others id items).find? (matching other) = items.find? (matching other) := by
  rw [others, List.find?_filter]
  congr 1
  funext item
  cases hit : matching other item with
  | false => simp
  | true =>
    have missed : matching id item = false :=
      Bool.eq_false_iff.mpr fun both => apart (matching_unique hit both)
    simp [missed]

theorem others_append_matching {item : Manifest Body} (hit : matching id item = true)
    (items : List (Manifest Body)) : others id (items ++ [item]) = others id items := by
  simp [others, List.filter_append, hit]

theorem others_replaced {old new : Manifest Body} (was : matching id old = true)
    (still : matching id new = true) (front rest : List (Manifest Body)) :
    others id (front ++ new :: rest) = others id (front ++ old :: rest) := by
  simp [others, List.filter_append, was, still]

theorem others_others (items : List (Manifest Body)) :
    others id (others id items) = others id items := by
  simp [others, List.filter_filter]

theorem change_of_replaceFirst {payload : Manifest Body} {replaced : List (Manifest Body)}
    (done : replaceFirst id payload items = some replaced) :
    Change (.update id payload) items replaced := by
  induction items generalizing replaced with
  | nil => cases done
  | cons item items ih =>
    unfold replaceFirst at done
    cases hit : matching id item with
    | true =>
      rw [if_pos hit] at done
      cases done
      exact .replaced id payload [] item items (fun _ member => nomatch member) hit
    | false =>
      rw [hit, if_neg Bool.false_ne_true] at done
      obtain ⟨later, replaced, rfl⟩ := Option.map_eq_some_iff.mp done
      cases ih replaced with
      | replaced _ _ front old rest earlier first =>
        refine .replaced id payload (item :: front) old rest ?_ first
        exact List.forall_mem_cons.mpr ⟨hit, earlier⟩

theorem exists_matching (fewer : (others id items).length ≠ items.length) :
    ∃ item ∈ items, matching id item = true := by
  refine Decidable.not_not.mp fun none => fewer (congrArg List.length ?_)
  refine List.filter_eq_self.mpr fun item member => ?_
  have missed : matching id item = false :=
    Bool.eq_false_iff.mpr fun hit => none ⟨item, member, hit⟩
  rw [missed]
  rfl

theorem failure?_refuse {Other E : Type} (cause : E) (call : Call (Manifest Body)) :
    call.failure? (refuse cause call : Call.Answer (Manifest Body) Other E call) = some cause := by
  cases call <;> rfl

section Serving

variable (store : Store Body) (call : Call (Manifest Body))

theorem serve_reading (reading : call.mutating = false) : (store.serve call).2 = store := by
  cases call with
  | get | secondary | list => rfl
  | create | update | delete => cases reading

theorem serve_writing (writing : call.mutating = true) :
    (∃ cause, call.failure? (store.serve call).1 = some cause ∧ (store.serve call).2 = store) ∨
      ∃ items, call.failure? (store.serve call).1 = none ∧
        (store.serve call).2 = { store with items } ∧ Change call store.items items := by
  cases call with
  | get | secondary | list => cases writing
  | create scope payload =>
    have served : store.serve (.create scope payload) = store.create scope payload := rfl
    rw [served, create]
    split
    · exact .inr ⟨_, rfl, rfl, .created scope payload store.items⟩
    · exact .inl ⟨_, rfl, rfl⟩
  | update id payload =>
    have served : store.serve (.update id payload) = store.update id payload := rfl
    rw [served, update]
    split
    · next items done => exact .inr ⟨items, rfl, rfl, change_of_replaceFirst done⟩
    · exact .inl ⟨_, rfl, rfl⟩
  | delete id =>
    have served : store.serve (.delete id) = store.delete id := rfl
    rw [served, delete]
    split
    · exact .inl ⟨_, rfl, rfl⟩
    · next fewer => exact .inr ⟨_, rfl, rfl, .removed id store.items (exists_matching fewer)⟩

theorem answer_reading (reading : call.mutating = false) : (answer call store).2 = store := by
  cases failing : store.failing with
  | none =>
    rw [answer_healthy failing]
    exact serve_reading store call reading
  | some code =>
    cases call with
    | get | secondary | list => simp only [answer, failing, serve]
    | create | update | delete => cases reading

theorem answer_writing (writing : call.mutating = true) :
    (∃ cause, call.failure? (answer call store).1 = some cause ∧ (answer call store).2 = store) ∨
      ∃ items, call.failure? (answer call store).1 = none ∧
        (answer call store).2 = { store with items } ∧ Change call store.items items := by
  obtain failing | ⟨code, failing⟩ := Option.eq_none_or_eq_some store.failing
  · rw [answer_healthy failing]
    exact serve_writing store call writing
  · have refused : answer call store = (refuse (refusal code) call, store) := by
      cases call with
      | get | secondary | list => cases writing
      | create | update | delete => simp only [answer, failing]
    rw [refused]
    exact .inl ⟨_, failure?_refuse _ call, rfl⟩

theorem answer_get_congr {items : List (Manifest Body)} (id : ResourceId)
    (found : items.find? (matching id) = store.items.find? (matching id)) :
    (answer (.get id) { store with items }).1 = (answer (.get id) store).1 := by
  cases failing : store.failing with
  | some code => simp only [answer, failing]
  | none => simp only [answer, failing, serve, get, found]

end Serving

end Store

namespace FaultyStore

open Store (Change others matching)

variable {Body : Type} (faulty : FaultyStore Body) (call : Call (Manifest Body))

def holding (items : List (Manifest Body)) : FaultyStore Body :=
  { faulty with store := { faulty.store with items } }

theorem answer_reading (reading : call.mutating = false) : (answer call faulty).2 = faulty := by
  cases fault : faulty.fault? call with
  | none =>
    have kept := Store.answer_reading faulty.store call reading
    cases call with
    | secondary => simp only [answer, fault]
    | get | list => simp only [answer, fault, kept]
    | create | update | delete => cases reading
  | some cause =>
    cases call with
    | get | secondary | list => simp only [answer, fault]
    | create | update | delete => cases reading

theorem answer_writing (writing : call.mutating = true) :
    (∃ cause, call.failure? (answer call faulty).1 = some cause ∧ (answer call faulty).2 = faulty) ∨
      ∃ items, call.failure? (answer call faulty).1 = none ∧
        (answer call faulty).2 = faulty.holding items ∧ Change call faulty.store.items items := by
  cases fault : faulty.fault? call with
  | none =>
    have passed : answer call faulty =
        ((faulty.store.answer call).1, { faulty with store := (faulty.store.answer call).2 }) := by
      cases call with
      | get | secondary | list => cases writing
      | create | update | delete => simp only [answer, fault]
    rw [passed]
    obtain ⟨cause, failed, kept⟩ | ⟨items, done, changed, change⟩ :=
      Store.answer_writing faulty.store call writing
    · rw [kept]
      exact .inl ⟨cause, failed, rfl⟩
    · rw [changed]
      exact .inr ⟨items, done, rfl, change⟩
  | some cause =>
    have refused : answer call faulty = (Store.refuse cause call, faulty) := by
      cases call with
      | get | secondary | list => cases writing
      | create | update | delete => simp only [answer, fault]
    rw [refused]
    exact .inl ⟨cause, Store.failure?_refuse cause call, rfl⟩

theorem answer_get (id : ResourceId) :
    (answer (.get id) faulty).1 =
      match faulty.fault? (.get id) with
      | some cause => .error cause
      | none => (Store.answer (.get id) faulty.store).1 := by
  cases fault : faulty.fault? (.get id) <;> simp only [answer, fault, Store.refuse]

theorem answer_get_holding {items : List (Manifest Body)} (id : ResourceId)
    (found : items.find? (matching id) = faulty.store.items.find? (matching id)) :
    (answer (.get id) (faulty.holding items)).1 = (answer (.get id) faulty).1 := by
  have same := Store.answer_get_congr faulty.store id found
  have faults : (faulty.holding items).fault? (.get id) = faulty.fault? (.get id) := rfl
  rw [answer_get, answer_get, faults]
  cases faulty.fault? (.get id) with
  | none => exact same
  | some cause => rfl

end FaultyStore

namespace Service

variable {Raw Other Model E σ : Type} [Failure E]

/-- Where calls for other forms change nothing, only the deciding call of a job does. -/
theorem run_job (converter : Converter Raw Other Model)
    (answer : (call : Call Raw) → σ → Call.Answer Raw Other E call × σ)
    (still : ∀ id state, (answer (.secondary id) state).2 = state) (job : Job Model) (state : σ) :
    let run := (job.session converter).run answer state
    ∃ other, run.value = job.outcome converter (answer (job.primary converter) state).1 other ∧
      run.state = (answer (job.primary converter) state).2 := by
  obtain ⟨reply, rest, talk, others, other, same⟩ := decides_job answer state converter job
  obtain rfl : (answer (job.primary converter) state).1 = reply := answered_first answer talk
  refine ⟨other, same, ?_⟩
  rw [state_run_eq_foldl, talk, List.foldl_cons]
  -- What is asked after the deciding call are other forms only, and they change nothing.
  clear talk
  induction rest with
  | nil => rfl
  | cons step rest ih =>
    obtain ⟨id, asked⟩ := others step List.mem_cons_self
    rw [List.foldl_cons, asked, still]
    exact ih fun later member => others later (List.mem_cons_of_mem step member)

namespace Job

/-- The model that a job writes or deletes. -/
def written? : Job Model → Option Model
  | create model | delete model => some model
  | update draft => some draft.model
  | get _ | fetch _ _ | list _ => none

/-- What a successful job makes of the items of a store. -/
def Effect {Body : Type} (converter : Converter (Manifest Body) Other Model) :
    Job Model → List (Manifest Body) → List (Manifest Body) → Prop
  | get _, before, after | fetch _ _, before, after | list _, before, after => after = before
  | create model, before, after | update (.new model), before, after =>
    ∃ item, Store.matching (converter.identity model) item = true ∧ after = before ++ [item]
  | update (.existing model), before, after =>
    ∃ front old new rest, before = front ++ old :: rest ∧ after = front ++ new :: rest ∧
      (∀ item ∈ front, Store.matching (converter.identity model) item = false) ∧
      Store.matching (converter.identity model) old = true ∧
      Store.matching (converter.identity model) new = true
  | delete model, before, after =>
    (∃ item ∈ before, Store.matching (converter.identity model) item = true) ∧
      after = Store.others (converter.identity model) before

variable {Body : Type}

theorem mutating_primary (converter : Converter Raw Other Model) (job : Job Model) :
    (job.primary converter).mutating = job.written?.isSome := by
  cases job with
  | get | list | create | delete => rfl
  | fetch scope name => cases name <;> rfl
  | update draft => cases draft <;> rfl

theorem absent?_of_written {converter : Converter Raw Other Model} {job : Job Model} {model : Model}
    (written : job.written? = some model) : job.absent? converter = none := by
  cases job with
  | get | fetch | list => cases written
  | create | update | delete => rfl

theorem effect_of_unwritten {converter : Converter (Manifest Body) String Model} {job : Job Model}
    (unwritten : job.written? = none) (items : List (Manifest Body)) :
    job.Effect converter items items := by
  cases job with
  | get | fetch | list => rfl
  | create | update | delete => cases unwritten

variable {converter : Converter (Manifest Body) String Model} {job : Job Model}
  {model : Model} {before after : List (Manifest Body)}

theorem effect_of_change (addressed : Addressed converter model)
    (written : job.written? = some model)
    (change : Store.Change (job.primary converter) before after) :
    job.Effect converter before after := by
  cases job with
  | get | fetch | list => cases written
  | create model =>
    cases written
    cases change
    exact ⟨_, addressed.created.matching_admitted _, rfl⟩
  | update draft =>
    cases draft with
    | new model =>
      cases written
      cases change
      exact ⟨_, addressed.created.matching_admitted _, rfl⟩
    | existing model =>
      cases written
      cases change with
      | replaced _ _ front old rest earlier first =>
        exact ⟨front, old, _, rest, rfl, rfl, earlier, first, addressed.updated.matching⟩
  | delete model =>
    cases written
    cases change with
    | removed _ _ present => exact ⟨present, rfl⟩

/-- A job leaves the items of other identities as they are, in the order they have. -/
theorem others_of_effect (written : job.written? = some model)
    (effect : job.Effect converter before after) :
    Store.others (converter.identity model) after =
      Store.others (converter.identity model) before := by
  cases job with
  | get | fetch | list => cases written
  | create model =>
    cases written
    obtain ⟨item, hit, rfl⟩ := effect
    exact Store.others_append_matching hit _
  | update draft =>
    cases draft with
    | new model =>
      cases written
      obtain ⟨item, hit, rfl⟩ := effect
      exact Store.others_append_matching hit _
    | existing model =>
      cases written
      obtain ⟨front, old, new, rest, rfl, rfl, -, first, still⟩ := effect
      exact Store.others_replaced first still front rest
  | delete model =>
    cases written
    obtain ⟨-, rfl⟩ := effect
    exact Store.others_others before

end Job

/-- What a run of a job on a model does to the items of a store: nothing if it fails or only reads,
and otherwise what concerns the identity of the model alone. -/
structure Isolated {Body : Type} (converter : Converter (Manifest Body) String Model)
    (job : Job Model) (faulty : FaultyStore Body)
    (run : Program.Run (Call (Manifest Body)) (FaultyStore Body) (Result Cause job.Value)) :
    Prop where
  failed : ∀ error, run.value = .error error → run.state = faulty
  quiet : job.written? = none → run.state = faulty
  effect : ∀ value, run.value = .ok value →
    job.Effect converter faulty.store.items run.state.store.items
  settings : run.state = faulty.holding run.state.store.items
  order : ∀ model, job.written? = some model →
    Store.others (converter.identity model) run.state.store.items =
      Store.others (converter.identity model) faulty.store.items
  elsewhere : ∀ model, job.written? = some model → ∀ other, other ≠ converter.identity model →
    (FaultyStore.answer (.get other) run.state).1 = (FaultyStore.answer (.get other) faulty).1

namespace Isolated

variable {Body : Type} {converter : Converter (Manifest Body) String Model} {job : Job Model}
  {faulty : FaultyStore Body}
  {run : Program.Run (Call (Manifest Body)) (FaultyStore Body) (Result Cause job.Value)}

theorem of_kept (kept : run.state = faulty)
    (unwritten : ∀ value, run.value = .ok value → job.written? = none) :
    Isolated converter job faulty run where
  failed _ _ := kept
  quiet _ := kept
  effect value done := by
    rw [kept]
    exact Job.effect_of_unwritten (unwritten value done) faulty.store.items
  settings := by
    rw [kept]
    rfl
  order _ _ := by rw [kept]
  elsewhere _ _ _ _ := by rw [kept]

theorem of_effect {model : Model} {items : List (Manifest Body)}
    (written : job.written? = some model) (succeeded : ∀ error, run.value ≠ .error error)
    (changed : run.state = faulty.holding items)
    (effect : job.Effect converter faulty.store.items items) :
    Isolated converter job faulty run := by
  have order : Store.others (converter.identity model) items =
      Store.others (converter.identity model) faulty.store.items :=
    Job.others_of_effect written effect
  refine ⟨?_, ?_, ?_, ?_, ?_, ?_⟩
  · exact fun error ended => absurd ended (succeeded error)
  · intro unwritten
    cases written.symm.trans unwritten
  · rw [changed]
    exact fun _ _ => effect
  · rw [changed]
    rfl
  · intro other same
    cases written.symm.trans same
    rw [changed]
    exact order
  · intro other same id apart
    cases written.symm.trans same
    rw [changed]
    refine FaultyStore.answer_get_holding faulty id ?_
    rw [← Store.find?_others apart, order, Store.find?_others apart]

end Isolated

theorem isolated_job {Body : Type} (converter : Converter (Manifest Body) String Model)
    (addressed : ∀ model, Addressed converter model) (faulty : FaultyStore Body) (job : Job Model) :
    Isolated converter job faulty ((job.session converter).run FaultyStore.answer faulty) := by
  have still (id : ResourceId) (faulty : FaultyStore Body) :
      (FaultyStore.answer (.secondary id) faulty).2 = faulty :=
    FaultyStore.answer_reading faulty (.secondary id) rfl
  obtain ⟨other, value, state⟩ := run_job converter FaultyStore.answer still job faulty
  have verdict := verdict_outcome converter job
    (FaultyStore.answer (job.primary converter) faulty).1 other
  rw [← value] at verdict
  have mutating := Job.mutating_primary converter job
  -- A job on a model puts a call that writes, and ends as it does; any other only reads.
  cases written : job.written? with
  | none =>
    rw [written] at mutating
    have kept := FaultyStore.answer_reading faulty _ mutating
    exact .of_kept (state.trans kept) fun _ _ => written
  | some model =>
    rw [written] at mutating
    have unnamed : job.absent? converter = none := Job.absent?_of_written written
    obtain ⟨cause, failed, kept⟩ | ⟨items, done, changed, change⟩ :=
      FaultyStore.answer_writing faulty _ mutating
    · have lost := (verdict.failing _).mpr ⟨cause, failed, by simp [unnamed], rfl⟩
      refine .of_kept (state.trans kept) fun _ done => ?_
      cases lost.symm.trans done
    · refine .of_effect written ?_ (state.trans changed) ?_
      · intro error ended
        obtain ⟨cause, failed, -⟩ := (verdict.failing error).mp ended
        cases done.symm.trans failed
      · exact Job.effect_of_change (addressed model) written change

end Service

open Service (Isolated Job)

/-- Whatever items a store holds and whatever calls are made to fail, an operation that fails
leaves it as it was, and one that succeeds adds, replaces or removes what it is said to and nothing
of another identity. -/
theorem operations_isolated :
    (∀ (faulty : FaultyStore Entries) (job : Job ConfigMap),
      Isolated ConfigMap.converter job faulty
        ((job.session ConfigMap.converter).run FaultyStore.answer faulty)) ∧
    ∀ (reserved : Reserved) (faulty : FaultyStore LifeCycle) (job : Job Namespace),
      Isolated (Namespace.converter reserved) job faulty
        ((job.session (Namespace.converter reserved)).run FaultyStore.answer faulty) :=
  ⟨Service.isolated_job ConfigMap.converter ConfigMap.addressed, fun reserved =>
    Service.isolated_job (Namespace.converter reserved) (Namespace.addressed reserved)⟩

private def generated : Manifest Entries :=
  ⟨{ generateName := some "app", scope := some "prod" }, {}⟩

private def conf : Manifest Entries := ⟨{ name := some "conf", scope := some "prod" }, {}⟩

private def named : Manifest Entries := ⟨{ name := some "app", scope := some "prod" }, {}⟩

private def doubled : FaultyStore Entries where
  store := { items := [generated, conf, named] }

private def wanted : ConfigMap := { id := some "uid-1", name := "app", scope := "prod" }

/-- Two items answer to one name. An update replaces the first of them, a deletion removes both,
and one that is made to fail removes neither. -/
theorem operations_isolated_doubled :
    let updated := ((Job.update (.existing wanted)).session ConfigMap.converter).run
      FaultyStore.answer doubled
    let deleted := ((Job.delete wanted).session ConfigMap.converter).run FaultyStore.answer doubled
    let broken := doubled.setFault "delete" (some (Store.refusal 500))
    let refused := ((Job.delete wanted).session ConfigMap.converter).run FaultyStore.answer broken
    updated.state.store.items = [wanted.updatePayload, conf, named] ∧
      (FaultyStore.answer (.get (.namespaced "prod" "conf")) updated.state).1 = .ok conf ∧
      deleted.state.store.items = [conf] ∧
      refused.value = .error ⟨.delete, "Unable to delete config map", Store.refusal 500⟩ ∧
      refused.state = broken := by
  intro updated deleted broken refused
  have replaced := operations_isolated.1 doubled (.update (.existing wanted))
  have removed := operations_isolated.1 doubled (.delete wanted)
  have kept := operations_isolated.1 broken (.delete wanted)
  have elsewhere : ResourceId.namespaced "prod" "conf" ≠ ConfigMap.converter.identity wanted := by
    decide
  refine ⟨rfl, ?_, ?_, rfl, kept.failed _ rfl⟩
  · exact replaced.elsewhere wanted rfl _ elsewhere
  · exact (removed.effect () rfl).2

end ClusterDesk

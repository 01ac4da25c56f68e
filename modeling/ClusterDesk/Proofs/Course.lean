import ClusterDesk.Command.Report
import ClusterDesk.Proofs.Operations

/-!
The shapes that a command's conversation with a backend can have: a reading followed by at most one
write, or calls that change nothing. Main statements: in each of them no more is written than once,
at the end, and nothing before the reading has succeeded or found nothing.
-/

namespace ClusterDesk.WriteSafety

open Program Service Command

abbrev Talk (Raw : Type) : Type := List (Exchange (Call Raw) (Call.Answer Raw String Cause))

/-- One write at most, as the last call, and the command succeeds exactly if it did. -/
structure SafeWrites {Raw : Type} (talk : Talk Raw) (result : CommandResult) : Prop where
  once : (talk.filter fun step => step.1.mutating).length ≤ 1
  last : ∀ before step after, talk = before ++ step :: after → step.1.mutating = true → after = []
  verdict : ∀ step ∈ talk, step.1.mutating = true →
    (result.isOk = true ↔ step.1.succeeded step.2 = true)

/-- A write comes after a reading of the resource that is named, which succeeded or found nothing;
any other failure of a reading ends the command. -/
structure ReadsFirst {Raw : Type} (messages : Messages) (subject : Option ResourceId)
    (talk : Talk Raw) (result : CommandResult) : Prop where
  guarded : ∀ before step after, talk = before ++ step :: after → step.1.mutating = true →
    ∃ id primary, subject = some id ∧ ⟨.get id, primary⟩ ∈ before ∧
      ∀ cause, primary = .error cause → Failure.notFound cause = true
  unread : ∀ id cause, ⟨.get id, .error cause⟩ ∈ talk → Failure.notFound cause = false →
    result = .error (.problem (.service ⟨.retrieve, messages.get, cause⟩)) ∧
      ∀ step ∈ talk, step.1.mutating = false
  unlisted : ∀ scope cause, ⟨.list scope, .error cause⟩ ∈ talk →
    result = .error (.problem (.service ⟨.retrieve, messages.list, cause⟩)) ∧
      ∀ step ∈ talk, step.1.mutating = false

/-- The model that a reading in the conversation came to. -/
def Read {Raw Model : Type} (converter : Converter Raw String Model) (talk : Talk Raw)
    (model : Model) : Prop :=
  ∃ id primary other, ⟨.get id, primary⟩ ∈ talk ∧ ⟨.secondary id, other⟩ ∈ talk ∧
    reading converter id primary other = .ok model

/-- What follows a reading: nothing, or one permitted write that decides on the result. -/
inductive Tail {Raw : Type} (permitted : Call Raw → Prop) : Talk Raw → CommandResult → Prop
  | none (result) : Tail permitted [] result
  | write (step result) (mutating : step.1.mutating = true) (allowed : permitted step.1)
    (verdict : result.isOk = step.1.succeeded step.2) : Tail permitted [step] result

def readings {Raw : Type} (id : ResourceId) (primary : Except Cause Raw)
    (other : Except Cause (Option String)) : Talk Raw :=
  [⟨.get id, primary⟩, ⟨.secondary id, other⟩]

/-- The conversations of a command that reads one resource first. -/
inductive Course {Raw Model : Type} (converter : Converter Raw String Model) (id : ResourceId)
    (permitted : Model → Call Raw → Prop) : Talk Raw → CommandResult → Prop
  | unread (cause other) (lost : Failure.notFound cause = false) :
    Course converter id permitted (readings id (.error cause) other ++ [])
      (.error (.problem (.service ⟨.retrieve, converter.messages.get, cause⟩)))
  | read (primary other model rest result) (found : reading converter id primary other = .ok model)
    (tail : Tail (permitted model) rest result) :
    Course converter id permitted (readings id primary other ++ rest) result

/-- A command that reads nothing by name and changes nothing but, perhaps, by a listing. -/
structure Reading {Raw : Type} (messages : Messages) (talk : Talk Raw) (result : CommandResult) :
    Prop where
  quiet : ∀ step ∈ talk, step.1.mutating = false
  unnamed : ∀ id primary, ⟨.get id, primary⟩ ∉ talk
  unlisted : ∀ scope cause, ⟨.list scope, .error cause⟩ ∈ talk →
    result = .error (.problem (.service ⟨.retrieve, messages.list, cause⟩))

section Verdicts

variable {Raw α : Type}

def reported (text : α → String) (result : Service.Result Cause α) : CommandResult :=
  (result.map text).mapError fun error => .problem (.service error)

theorem result?_report {next : α → Session Raw String Cause CommandResult} {text : α → String}
    (settled : ∀ value, (next value).result? = some (.ok (text value)))
    (result : Service.Result Cause α) :
    (report result next).result? = some (reported text result) := by
  cases result with
  | ok value => exact settled value
  | error error => rfl

theorem isOk_reported (text : α → String) (result : Service.Result Cause α) :
    (reported text result).isOk = result.isOk := by
  cases result <;> rfl

theorem isOk_told (operation : Operation) (message : String) (answer : Except Cause α) :
    (told operation message answer).isOk = answer.isOk := by
  cases answer <;> rfl

theorem isOk_map {E β : Type} (change : α → β) (result : Except E α) :
    (result.map change).isOk = result.isOk := by
  cases result <;> rfl

end Verdicts

private theorem no_write {Raw : Type} {talk : Talk Raw} {step} {goal : Prop}
    (quiet : ∀ step ∈ talk, step.1.mutating = false) (member : step ∈ talk)
    (mutating : step.1.mutating = true) : goal := by
  have still := quiet step member
  rw [mutating] at still
  cases still

namespace Tail

variable {Raw σ : Type} {permitted : Call Raw → Prop} {reads rest : Talk Raw}
  {result : CommandResult}

theorem of_result? {program : Session Raw String Cause CommandResult}
    (settled : program.result? = some result)
    (answer : (call : Call Raw) → σ → Call.Answer Raw String Cause call × σ) (state : σ) :
    Tail permitted (program.exchanges answer state) (program.run answer state).value := by
  rw [exchanges_of_result? answer settled]
  exact .none _

theorem of_puts {program : Session Raw String Cause CommandResult} {call : Call Raw}
    {make : Call.Answer Raw String Cause call → CommandResult} (puts : Puts call make program)
    (mutating : call.mutating = true) (allowed : permitted call)
    (verdict : ∀ reply, (make reply).isOk = call.succeeded reply)
    (answer : (call : Call Raw) → σ → Call.Answer Raw String Cause call × σ) (state : σ) :
    Tail permitted (program.exchanges answer state) (program.run answer state).value := by
  rw [puts.exchanges_eq, puts.value_run]
  exact .write _ _ mutating allowed (verdict _)

theorem of_bind {α : Type} {first : Session Raw String Cause α} {value : α}
    {next : α → Session Raw String Cause CommandResult} (settled : first.result? = some value)
    (answer : (call : Call Raw) → σ → Call.Answer Raw String Cause call × σ) (state : σ)
    (tail : ∀ later, Tail permitted ((next value).exchanges answer later)
      ((next value).run answer later).value) :
    Tail permitted ((first >>= next).exchanges answer state)
      ((first >>= next).run answer state).value := by
  rw [bind_eq, exchanges_bind, value_run_bind, value_run_of_result? answer settled,
    exchanges_of_result? answer settled]
  exact tail _

/-- A write is told of by its outcome alone, whatever is made of a success. -/
theorem of_reported {α : Type} {program : Session Raw String Cause (Service.Result Cause α)}
    {call : Call Raw} {make : Call.Answer Raw String Cause call → Service.Result Cause α}
    {next : α → Session Raw String Cause CommandResult} {text : α → String}
    (puts : Puts call make program) (mutating : call.mutating = true) (allowed : permitted call)
    (verdict : ∀ reply, (make reply).isOk = call.succeeded reply)
    (settled : ∀ value, (next value).result? = some (.ok (text value)))
    (answer : (call : Call Raw) → σ → Call.Answer Raw String Cause call × σ) (state : σ) :
    Tail permitted ((program >>= (report · next)).exchanges answer state)
      ((program >>= (report · next)).run answer state).value := by
  have told := puts.bind (result?_report settled)
  refine of_puts told mutating allowed (fun reply => ?_) answer state
  rw [← verdict reply]
  exact isOk_reported text (make reply)

section Writes

variable {Model : Type} (converter : Converter Raw String Model) (model : Model)
  (answer : (call : Call Raw) → σ → Call.Answer Raw String Cause call × σ) (state : σ)

theorem of_create {next : Model → Session Raw String Cause CommandResult} {text : Model → String}
    (allowed : permitted (creation converter model))
    (settled : ∀ value, (next value).result? = some (.ok (text value))) :
    let program := Service.create converter model >>= (report · next)
    Tail permitted (program.exchanges answer state) (program.run answer state).value := by
  intro program
  refine of_reported (create_puts converter model) rfl allowed (fun reply => ?_) settled _ _
  exact (isOk_map _ _).trans (isOk_told _ _ _)

theorem of_update {next : Model → Session Raw String Cause CommandResult} {text : Model → String}
    (allowed : permitted (replacement converter model))
    (settled : ∀ value, (next value).result? = some (.ok (text value))) :
    let program := Service.update converter (.existing model) >>= (report · next)
    Tail permitted (program.exchanges answer state) (program.run answer state).value := by
  intro program
  refine of_reported (update_puts converter model) rfl allowed (fun reply => ?_) settled _ _
  exact (isOk_map _ _).trans (isOk_told _ _ _)

theorem of_delete {next : Unit → Session Raw String Cause CommandResult} {text : Unit → String}
    (allowed : permitted (.delete (converter.identity model)))
    (settled : ∀ value, (next value).result? = some (.ok (text value))) :
    let program := Service.delete converter model >>= (report · next)
    Tail permitted (program.exchanges answer state) (program.run answer state).value := by
  intro program
  refine of_reported (delete_puts converter model) rfl allowed (fun reply => ?_) settled _ _
  exact isOk_told _ _ _

end Writes

theorem mem_write (tail : Tail permitted rest result)
    (quiet : ∀ step ∈ reads, step.1.mutating = false) {step}
    (member : step ∈ reads ++ rest) (mutating : step.1.mutating = true) : rest = [step] := by
  rcases List.mem_append.mp member with inside | inside
  · exact no_write quiet inside mutating
  · cases tail with
    | none => cases inside
    | write other result _ _ _ => rw [List.mem_singleton.mp inside]

theorem mem_read (tail : Tail permitted rest result) {step} (member : step ∈ reads ++ rest)
    (still : step.1.mutating = false) : step ∈ reads := by
  rcases List.mem_append.mp member with inside | inside
  · exact inside
  · cases tail with
    | none => cases inside
    | write other result mutating _ _ =>
      rw [← List.mem_singleton.mp inside, still] at mutating
      cases mutating

theorem allowed (tail : Tail permitted rest result) {step} (member : step ∈ rest) :
    permitted step.1 := by
  cases tail with
  | none => cases member
  | write written result _ allowed _ =>
    rw [List.mem_singleton.mp member]
    exact allowed

theorem split_write (tail : Tail permitted rest result)
    (quiet : ∀ step ∈ reads, step.1.mutating = false) {before after : Talk Raw} {step}
    (split : reads ++ rest = before ++ step :: after) (mutating : step.1.mutating = true) :
    before = reads ∧ after = [] := by
  have member : step ∈ reads ++ rest := by rw [split]; simp
  have single := tail.mem_write quiet member mutating
  subst single
  rcases split_concat split with ⟨same, -, last⟩ | ⟨middle, -, early⟩
  · exact ⟨same.symm, last⟩
  · have inside : step ∈ reads := by rw [early]; simp
    exact no_write quiet inside mutating

theorem safeWrites (reads : Talk Raw) (tail : Tail permitted rest result)
    (quiet : ∀ step ∈ reads, step.1.mutating = false) : SafeWrites (reads ++ rest) result where
  once := by
    have none : (reads.filter fun step => step.1.mutating) = [] :=
      List.filter_eq_nil_iff.mpr fun step inside => by simp [quiet step inside]
    rw [List.filter_append, none, List.nil_append]
    cases tail with
    | none => exact Nat.zero_le 1
    | write step result _ _ _ => exact List.length_filter_le _ [step]
  last := fun before step after split mutating => (tail.split_write quiet split mutating).2
  verdict := fun step member mutating => by
    have single := tail.mem_write quiet member mutating
    cases tail with
    | none => cases single
    | write other result _ _ verdict =>
      cases single
      rw [verdict]

end Tail

namespace Course

variable {Raw Model σ : Type} {converter : Converter Raw String Model} {id : ResourceId}
  {permitted : Model → Call Raw → Prop} {talk : Talk Raw} {result : CommandResult}

theorem of_get {next : Model → Session Raw String Cause CommandResult}
    (answer : (call : Call Raw) → σ → Call.Answer Raw String Cause call × σ) (state : σ)
    (follow : ∀ model later, Tail (permitted model) ((next model).exchanges answer later)
      ((next model).run answer later).value) :
    Course converter id permitted
      ((Service.get converter id >>= (report · next)).exchanges answer state)
      ((Service.get converter id >>= (report · next)).run answer state).value := by
  rw [bind_eq, exchanges_bind, value_run_bind, exchanges_get, value_get]
  generalize (answer (.secondary id) (answer (.get id) state).2).1 = other
  generalize ((Service.get converter id).run answer state).state = later
  cases primary : (answer (.get id) state).1 with
  | ok raw => exact .read _ other _ _ _ rfl (follow _ later)
  | error cause =>
    cases absent : Failure.notFound cause with
    | true =>
      have found : reading converter id (.error cause) other = .ok (converter.defaultModel id) := by
        simp only [reading, absent, if_true]
      rw [found]
      exact .read _ other _ _ _ found (follow _ later)
    | false =>
      have lost : reading converter id (.error cause) other =
          .error ⟨.retrieve, converter.messages.get, cause⟩ := by
        simp only [reading, absent, Bool.false_eq_true, if_false]
      rw [lost]
      exact .unread cause other absent

private theorem eq_of_mem_readings {primary : Except Cause Raw}
    {other : Except Cause (Option String)} {step} (member : step ∈ readings id primary other) :
    step = ⟨.get id, primary⟩ ∨ step = ⟨.secondary id, other⟩ := by
  rcases List.mem_cons.mp member with same | member
  · exact .inl same
  · exact .inr (List.mem_singleton.mp member)

private theorem quiet_readings (primary : Except Cause Raw)
    (other : Except Cause (Option String)) :
    ∀ step ∈ readings id primary other, step.1.mutating = false := by
  intro step member
  rcases eq_of_mem_readings member with rfl | rfl <;> rfl

private theorem notFound_of_reading {cause : Cause} {other : Except Cause (Option String)}
    {model : Model} (found : reading converter id (.error cause) other = .ok model) :
    Failure.notFound cause = true := by
  cases absent : Failure.notFound cause with
  | true => rfl
  | false =>
    simp only [reading, absent, Bool.false_eq_true, if_false] at found
    cases found

private theorem shape (course : Course converter id permitted talk result) :
    ∃ primary other rest, talk = readings id primary other ++ rest ∧
      ∃ allowed : Call Raw → Prop, Tail allowed rest result := by
  cases course with
  | unread cause other lost => exact ⟨_, _, _, rfl, fun _ => True, .none _⟩
  | read primary other model rest result found tail => exact ⟨_, _, _, rfl, _, tail⟩

theorem safeWrites (course : Course converter id permitted talk result) :
    SafeWrites talk result := by
  obtain ⟨primary, other, rest, rfl, allowed, tail⟩ := course.shape
  exact tail.safeWrites _ (quiet_readings primary other)

theorem guarded (course : Course converter id permitted talk result) {before after step}
    (split : talk = before ++ step :: after) (mutating : step.1.mutating = true) :
    ∃ primary, ⟨.get id, primary⟩ ∈ before ∧
      ∀ cause, primary = .error cause → Failure.notFound cause = true := by
  cases course with
  | unread cause other lost =>
    rw [List.append_nil] at split
    have member : step ∈ readings id (.error cause) other := by rw [split]; simp
    exact no_write (quiet_readings _ other) member mutating
  | read primary other model rest result found tail =>
    obtain ⟨rfl, -⟩ := tail.split_write (quiet_readings primary other) split mutating
    refine ⟨primary, List.mem_cons_self, ?_⟩
    rintro cause rfl
    exact notFound_of_reading found

theorem unread_of_mem (course : Course converter id permitted talk result) {other cause}
    (member : ⟨.get other, .error cause⟩ ∈ talk) (lost : Failure.notFound cause = false) :
    result = .error (.problem (.service ⟨.retrieve, converter.messages.get, cause⟩)) ∧
      ∀ step ∈ talk, step.1.mutating = false := by
  cases course with
  | unread failed form _ =>
    rw [List.append_nil] at member ⊢
    rcases eq_of_mem_readings member with same | same
    · cases same
      exact ⟨rfl, quiet_readings _ form⟩
    · cases same
  | read primary form model rest result found tail =>
    rcases eq_of_mem_readings (tail.mem_read member rfl) with same | same
    · cases same
      have absent := notFound_of_reading found
      rw [lost] at absent
      cases absent
    · cases same

/-- A write in the conversation is one that the model which was read permits. -/
theorem permitted_of_mem (course : Course converter id permitted talk result) {step}
    (member : step ∈ talk) (mutating : step.1.mutating = true) :
    ∃ model, Read converter talk model ∧ permitted model step.1 := by
  cases course with
  | unread cause other lost =>
    rw [List.append_nil] at member
    exact no_write (quiet_readings _ other) member mutating
  | read primary other model rest result found tail =>
    have single := tail.mem_write (quiet_readings primary other) member mutating
    have seen : Read converter (readings id primary other ++ rest) model :=
      ⟨id, primary, other, List.mem_cons_self, List.mem_cons_of_mem _ List.mem_cons_self, found⟩
    cases tail with
    | none => cases single
    | write written result _ allowed _ =>
      cases single
      exact ⟨model, seen, allowed⟩

theorem quiet (course : Course converter id permitted talk result)
    (forbidden : ∀ model call, ¬ permitted model call) :
    ∀ step ∈ talk, step.1.mutating = false := by
  intro step member
  cases mutating : step.1.mutating with
  | false => rfl
  | true =>
    obtain ⟨model, _, allowed⟩ := course.permitted_of_mem member mutating
    exact absurd allowed (forbidden model step.1)

theorem readsFirst (course : Course converter id permitted talk result) :
    ReadsFirst converter.messages (some id) talk result where
  guarded before step after split mutating := by
    obtain ⟨primary, inside, readable⟩ := course.guarded split mutating
    exact ⟨id, primary, rfl, inside, readable⟩
  unread other cause member lost := course.unread_of_mem member lost
  unlisted scope cause member := by
    obtain ⟨primary, other, rest, rfl, allowed, tail⟩ := course.shape
    rcases eq_of_mem_readings (tail.mem_read member rfl) with same | same <;> cases same

end Course

namespace Reading

variable {Raw Model σ : Type} {messages : Messages} {talk : Talk Raw} {result : CommandResult}

theorem of_list (converter : Converter Raw String Model) (scope : Option String)
    {next : List Model → Session Raw String Cause CommandResult} {text : List Model → String}
    (settled : ∀ models, (next models).result? = some (.ok (text models)))
    (answer : (call : Call Raw) → σ → Call.Answer Raw String Cause call × σ) (state : σ) :
    Reading converter.messages
      ((Service.list converter scope >>= (report · next)).exchanges answer state)
      ((Service.list converter scope >>= (report · next)).run answer state).value := by
  have told := (list_puts converter scope).bind (result?_report settled)
  rw [bind_eq, told.exchanges_eq, told.value_run]
  refine ⟨?_, ?_, ?_⟩
  · intro step member
    rw [List.mem_singleton.mp member]
    rfl
  · intro id primary member
    cases List.mem_singleton.mp member
  · intro asked cause member
    have same := List.mem_singleton.mp member
    generalize (answer (.list scope) state).1 = outcome at same ⊢
    cases same
    rfl

theorem silent : Reading messages ([] : Talk Raw) result where
  quiet _ member := by cases member
  unnamed _ _ member := by cases member
  unlisted _ _ member := by cases member

theorem safeWrites (reading : Reading messages talk result) : SafeWrites talk result := by
  have tail : Tail (fun _ : Call Raw => True) [] result := .none result
  have safe := tail.safeWrites talk reading.quiet
  rwa [List.append_nil] at safe

theorem readsFirst (reading : Reading messages talk result) (subject : Option ResourceId) :
    ReadsFirst messages subject talk result where
  guarded before step after split mutating :=
    no_write reading.quiet (by rw [split]; simp) mutating
  unread id cause member _ := absurd member (reading.unnamed id _)
  unlisted scope cause member := ⟨reading.unlisted scope cause member, reading.quiet⟩

end Reading

end ClusterDesk.WriteSafety

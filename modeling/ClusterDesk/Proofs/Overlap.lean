import ClusterDesk.Proofs.Submission
import Mathlib.Logic.Function.Basic

/-!
Saves that overlap. Each of them runs until it has to wait for the server; requests are handled, and
answers arrive, in any order. Main statement: `step_passes`, on all that a step can do to what an
onlooker sees. What is said of runs follows from it by `run_upholds`.
-/

namespace ClusterDesk.Overlap

open Program Editor

/-- What editors have in common, and for each of them the flag and the notifications of its own. -/
structure Shared where
  server : SettingsServer := {}
  normalize : Settings → Settings := id
  store : StateStore := {}
  disk : Disk := {}
  inProgress : Nat → Bool := fun _ => false
  notifications : Nat → List Notification := fun _ => []

namespace Shared

def bench (shared : Shared) (editor : Nat) : Workbench where
  server := shared.server
  normalize := shared.normalize
  store := shared.store
  disk := shared.disk
  inProgress := shared.inProgress editor
  notifications := shared.notifications editor

def withBench (shared : Shared) (editor : Nat) (bench : Workbench) : Shared where
  server := bench.server
  normalize := bench.normalize
  store := bench.store
  disk := bench.disk
  inProgress := Function.update shared.inProgress editor bench.inProgress
  notifications := Function.update shared.notifications editor bench.notifications

/-- The answer to an editor. -/
def answer (editor : Nat) (question : Question) (shared : Shared) : Answer question × Shared :=
  let (reply, bench) := Workbench.answer question (shared.bench editor)
  (reply, shared.withBench editor bench)

variable (shared : Shared) (editor : Nat)

theorem answer_update (update : AppState.Update) :
    shared.answer editor (.update update) =
      ((), { shared with store := shared.store.apply update }) := by
  simp only [answer, Workbench.answer, bench, withBench, Function.update_eq_self]

theorem answer_notify (notification : Notification) :
    shared.answer editor (.notify notification) =
      ((), { shared with
        notifications := Function.update shared.notifications editor
          (shared.notifications editor ++ [notification]) }) := by
  simp only [answer, Workbench.answer, bench, withBench, Function.update_eq_self]

theorem answer_progress (flag : Bool) :
    shared.answer editor (.progress flag) =
      ((), { shared with inProgress := Function.update shared.inProgress editor flag }) := by
  simp only [answer, Workbench.answer, bench, withBench, Function.update_eq_self]

theorem answer_fetch : shared.answer editor .fetch = (shared.server.fetch, shared) := by
  simp only [answer, Workbench.answer, bench, withBench, Function.update_eq_self]

theorem answer_flush_ok {disk : Disk} (flushed : shared.store.flush shared.disk = .ok disk) :
    shared.answer editor .flush = (.ok (), { shared with disk }) := by
  simp only [answer, Workbench.answer, bench, withBench, flushed, Function.update_eq_self]

theorem answer_flush_error {problem : Problem}
    (failed : shared.store.flush shared.disk = .error problem) :
    shared.answer editor .flush = (.error problem, shared) := by
  simp only [answer, Workbench.answer, bench, withBench, failed, Function.update_eq_self]

theorem answer_store (settings : Settings) :
    shared.answer editor (.store settings) =
      ((shared.server.store settings (shared.normalize settings)).1,
        { shared with
          server := (shared.server.store settings (shared.normalize settings)).2 }) := by
  simp only [answer, Workbench.answer, bench, withBench, Function.update_eq_self]

end Shared

/-- Only what is asked of the server has to be waited for. -/
def awaited : Question → Bool
  | .fetch | .store _ => true
  | .update _ | .flush | .progress _ | .notify _ => false

/-- How far a session gets by itself. -/
inductive Halt (α : Type) where
  | done (value : α)
  | waiting (question : Question) (next : Answer question → Session α)

/-- Runs the session of an editor until it is done or has to wait; of two questions put at once the
first one is taken first. -/
def proceed {α : Type} (editor : Nat) : Session α → Shared → Halt α × Shared
  | .done value, shared => (.done value, shared)
  | .note _ next, shared => proceed editor next shared
  | .ask question next, shared =>
    if awaited question then (.waiting question next, shared)
    else
      let (reply, later) := shared.answer editor question
      proceed editor (next reply) later
  | .both first second next, shared =>
    (.waiting first fun one => .ask second fun two => next one two, shared)

/-- A save that waits for the server, whose answer may be on its way. -/
structure Waiting where
  editor : Nat
  question : Question
  reply : Option (Answer question) := none
  next : Answer question → Session Outcome

/-- The settings in an answer that tells what was stored. -/
def storedIn : (question : Question) → Answer question → Option Settings
  | .store _, .ok stored => some stored
  | .store _, .error _ | .fetch, _ | .update _, _ | .flush, _ | .progress _, _ | .notify _, _ => none

inductive Occurrence where
  | begun (editor client : Nat)
  /-- The server has stored settings for a client. -/
  | kept (client : Nat) (settings : Settings)
  /-- The client has been told of the settings stored for it, and taken them over. -/
  | taken (client : Nat) (settings : Settings)
  | returned (editor client : Nat) (outcome : Outcome)

/-- The last of the occurrences that tell something, by what it tells. -/
def latest {α : Type} (tells : Occurrence → Option α) (log : List Occurrence) : Option α :=
  (log.filterMap tells).getLast?

theorem latest_append {α : Type} (tells : Occurrence → Option α) (log more : List Occurrence) :
    latest tells (log ++ more) = (latest tells more).or (latest tells log) := by
  rw [latest, List.filterMap_append, List.getLast?_append]
  rfl

/-- The clients at their saves, and what has happened so far. -/
structure Traffic where
  shared : Shared := {}
  waiting : Nat → Option Waiting := fun _ => none
  log : List Occurrence := []

inductive Move where
  | begin (client editor : Nat) (view : SettingsView)
  /-- The server handles the request of the client. -/
  | handle (client : Nat)
  /-- The answer arrives at the client, which goes on with its save. -/
  | deliver (client : Nat)
  /-- From here on the server refuses with these causes, if any, and makes this of what it is sent. -/
  | turn (refusesFetch refusesStore : Option Cause) (normalize : Settings → Settings)

namespace Traffic

def halted (traffic : Traffic) (client editor : Nat) (before : List Occurrence) :
    Halt Outcome × Shared → Traffic
  | (.waiting question next, shared) =>
    { shared
      waiting := Function.update traffic.waiting client (some { editor, question, next })
      log := traffic.log ++ before }
  | (.done outcome, shared) =>
    { shared
      waiting := Function.update traffic.waiting client none
      log := traffic.log ++ (before ++ [.returned editor client outcome]) }

def begin (traffic : Traffic) (client editor : Nat) (view : SettingsView) : Traffic :=
  match traffic.waiting client with
  | some _ => traffic
  | none =>
    traffic.halted client editor [.begun editor client]
      (proceed editor (save view) traffic.shared)

def handle (traffic : Traffic) (client : Nat) : Traffic :=
  match traffic.waiting client with
  | some ⟨editor, question, none, next⟩ =>
    let (reply, shared) := traffic.shared.answer editor question
    { shared
      waiting := Function.update traffic.waiting client (some ⟨editor, question, some reply, next⟩)
      log := traffic.log ++ ((storedIn question reply).map (.kept client)).toList }
  | _ => traffic

def deliver (traffic : Traffic) (client : Nat) : Traffic :=
  match traffic.waiting client with
  | some ⟨editor, question, some reply, next⟩ =>
    traffic.halted client editor ((storedIn question reply).map (.taken client)).toList
      (proceed editor (next reply) traffic.shared)
  | _ => traffic

def step (traffic : Traffic) : Move → Traffic
  | .begin client editor view => traffic.begin client editor view
  | .handle client => traffic.handle client
  | .deliver client => traffic.deliver client
  | .turn refusesFetch refusesStore normalize =>
    let server := { traffic.shared.server with refusesFetch, refusesStore }
    { traffic with shared := { traffic.shared with server, normalize } }

def run (traffic : Traffic) (moves : List Move) : Traffic := moves.foldl step traffic

end Traffic

/-- The client that moves. -/
def Move.client? : Move → Option Nat
  | .begin client _ _ | .handle client | .deliver client => some client
  | .turn _ _ _ => none

section Others

variable {traffic : Traffic} {client : Nat}

theorem halted_waiting {other : Nat} (apart : other ≠ client) (editor : Nat)
    (before : List Occurrence) (halt : Halt Outcome × Shared) :
    (traffic.halted client editor before halt).waiting other = traffic.waiting other := by
  obtain ⟨halt, shared⟩ := halt
  cases halt <;> exact Function.update_of_ne apart ..

theorem step_waiting {move : Move} (apart : move.client? ≠ some client) :
    (traffic.step move).waiting client = traffic.waiting client := by
  cases move with
  | turn refusesFetch refusesStore normalize => rfl
  | begin mover editor view =>
    have apart : client ≠ mover := fun same => apart (congrArg some same.symm)
    show (traffic.begin mover editor view).waiting client = _
    unfold Traffic.begin
    split
    · rfl
    · exact halted_waiting apart ..
  | handle mover =>
    have apart : client ≠ mover := fun same => apart (congrArg some same.symm)
    show (traffic.handle mover).waiting client = _
    unfold Traffic.handle
    split
    · exact Function.update_of_ne apart ..
    · rfl
  | deliver mover =>
    have apart : client ≠ mover := fun same => apart (congrArg some same.symm)
    show (traffic.deliver mover).waiting client = _
    unfold Traffic.deliver
    split
    · exact halted_waiting apart ..
    · rfl

/-- Who does not move waits as before. -/
theorem run_waiting {moves : List Move} (apart : ∀ move ∈ moves, move.client? ≠ some client) :
    (traffic.run moves).waiting client = traffic.waiting client := by
  induction moves generalizing traffic with
  | nil => rfl
  | cons move moves ih =>
    obtain ⟨first, rest⟩ := List.forall_mem_cons.mp apart
    exact (ih rest).trans (step_waiting first)

/-- Nobody waits at the end, if none of the first so many clients does and no other has moved. -/
theorem quiet_of_below (idle : ∀ client, traffic.waiting client = none) {moves : List Move}
    {count : Nat} (movers : ∀ move ∈ moves, ∀ client ∈ move.client?, client < count)
    (below : ∀ client < count, ((traffic.run moves).waiting client).isNone) (client : Nat) :
    (traffic.run moves).waiting client = none := by
  by_cases inside : client < count
  · exact Option.isNone_iff_eq_none.mp (below client inside)
  · rw [run_waiting fun move member moves => inside (movers move member client moves)]
    exact idle client

end Others

/-! A save, from one wait to the next. -/

def close (outcome : Outcome) : Session Outcome := .ask (.progress false) fun _ => .done outcome

/-- What follows the answer to the settings sent. -/
def resume (view : SettingsView) : Except Cause Settings → Session Outcome
  | .error cause =>
    .ask (failureNotice updateMessage (unstored cause)) fun _ =>
      close (.error (.service (unstored cause)), view)
  | .ok stored => (refresh view stored).bind close

/-- What follows the answer to reading anew. -/
def finish (view : SettingsView) : Except Cause Settings → Session Outcome
  | .error cause =>
    .ask (failureNotice retrieveMessage (unfetched cause)) fun _ =>
      close (.error (.service (unfetched cause)), view)
  | .ok fresh => close (.ok (), .ofSettings fresh)

/-- A save has put the settings of its view to the server. -/
def writing (editor : Nat) (view : SettingsView) (reply : Option (Except Cause Settings)) :
    Waiting :=
  ⟨editor, .store view.settings, reply, resume view⟩

/-- A save is about to show what the server has. -/
def reading (editor : Nat) (view : SettingsView) (reply : Option (Except Cause Settings)) :
    Waiting :=
  ⟨editor, .fetch, reply, finish view⟩

section Proceeding

variable {α : Type} (editor : Nat) (shared : Shared) (view : SettingsView)

theorem proceed_local {question : Question} {later : Shared} {reply : Answer question}
    (own : awaited question = false)
    (answered : shared.answer editor question = (reply, later))
    (next : Answer question → Session α) :
    proceed editor (.ask question next) shared = proceed editor (next reply) later := by
  simp only [proceed, own, answered]
  rfl

theorem proceed_close (outcome : Outcome) :
    proceed editor (close outcome) shared =
      (.done outcome,
        { shared with inProgress := Function.update shared.inProgress editor false }) :=
  proceed_local editor shared rfl (shared.answer_progress editor false) fun _ => .done outcome

theorem proceed_applyUpdates (updates : List AppState.Update) (next : Unit → Session α) :
    proceed editor ((applyUpdates updates).bind next) shared =
      proceed editor (next ())
        { shared with
          store := { shared.store with state := shared.store.state.applyAll updates } } := by
  induction updates generalizing shared with
  | nil => rfl
  | cons update rest ih =>
    have first := proceed_local editor shared rfl (shared.answer_update editor update)
      fun _ => (applyUpdates rest).bind next
    exact first.trans (ih _)

theorem write_eq :
    (write view).bind close =
      .note ⟨.debug, .settings, "Updating settings"⟩
        (.ask (.store view.settings) (resume view)) := by
  refine congrArg (fun next => Program.note _ (.ask (Question.store view.settings) next)) ?_
  funext reply
  cases reply <;> rfl

theorem load_eq (view : SettingsView) :
    (reload view (.ok ())).bind close =
      .note ⟨.debug, .settings, "Fetching settings"⟩ (.ask .fetch (finish view)) := by
  refine congrArg (fun next => Program.note _ (.ask Question.fetch next)) ?_
  funext reply
  cases reply <;> rfl

/-- All that an onlooker sees of what is shared. -/
structure Leaves (before after : Shared) (state : AppState) (inProgress : Nat → Bool) : Prop where
  stored : after.server.stored = before.server.stored
  state : after.store.state = state
  inProgress : after.inProgress = inProgress

theorem proceed_save :
    ∃ after, proceed editor (save view) shared =
        (.waiting (.store (view.form.apply view.settings))
          (resume { view with settings := view.form.apply view.settings }), after) ∧
      Leaves shared after shared.store.state
        (Function.update shared.inProgress editor true) := by
  have begun := proceed_local editor shared rfl (shared.answer_progress editor true)
    fun _ => (write { view with settings := view.form.apply view.settings }).bind close
  refine ⟨{ shared with inProgress := Function.update shared.inProgress editor true }, ?_, rfl, rfl,
    rfl⟩
  refine begun.trans ?_
  rw [write_eq]
  rfl

theorem proceed_told (notification : Notification) (outcome : Outcome) :
    ∃ after, proceed editor (.ask (.notify notification) fun _ => close outcome) shared =
        (.done outcome, after) ∧
      Leaves shared after shared.store.state
        (Function.update shared.inProgress editor false) := by
  have told := proceed_local editor shared rfl (shared.answer_notify editor notification)
    fun _ => close outcome
  rw [proceed_close] at told
  exact ⟨_, told, rfl, rfl, rfl⟩

theorem proceed_finish (reply : Except Cause Settings) :
    ∃ outcome after, proceed editor (finish view reply) shared = (.done outcome, after) ∧
      Leaves shared after shared.store.state
        (Function.update shared.inProgress editor false) := by
  cases reply with
  | error cause => exact ⟨_, proceed_told editor shared _ _⟩
  | ok fresh => exact ⟨_, _, proceed_close editor shared _, rfl, rfl, rfl⟩

/-- What follows the attempt to write the application state down. -/
def written (view : SettingsView) (reply : Except Problem Unit) : Session Outcome :=
  (reload view reply).bind close

theorem proceed_refresh (stored : Settings) :
    ∃ after, Leaves shared after (.ofSettings stored) shared.inProgress ∧
      proceed editor (resume view (.ok stored)) shared =
        proceed editor (.ask .flush (written view)) after := by
  let updates := AppState.updatesOf stored
  have told := proceed_local editor shared rfl
    (shared.answer_notify editor (.success "Settings updated"))
    fun _ => (applyUpdates updates).bind fun _ => .ask .flush (written view)
  rw [proceed_applyUpdates] at told
  have session : resume view (.ok stored) = .ask (.notify (.success "Settings updated")) fun _ =>
      (applyUpdates updates).bind fun _ => .ask .flush (written view) := by
    rw [resume, refresh_eq]
    exact congrArg (Program.ask _) (funext fun _ => Program.bind_assoc _ _ _)
  rw [session]
  refine ⟨_, ?_, told⟩
  exact ⟨rfl, AppState.applyAll_updatesOf stored shared.store.state, rfl⟩

theorem proceed_stored (stored : Settings) :
    ∃ after, (∃ problem, proceed editor (resume view (.ok stored)) shared =
            (.done (.error problem, view), after) ∧
          Leaves shared after (.ofSettings stored)
            (Function.update shared.inProgress editor false)) ∨
        proceed editor (resume view (.ok stored)) shared =
            (.waiting .fetch (finish view), after) ∧
          Leaves shared after (.ofSettings stored) shared.inProgress := by
  obtain ⟨updated, leaves, refreshed⟩ := proceed_refresh editor shared view stored
  rw [refreshed]
  cases flushed : updated.store.flush updated.disk with
  | error problem =>
    have session : written view (.error problem) = close (.error problem, view) := rfl
    rw [proceed_local editor updated rfl (updated.answer_flush_error editor flushed), session,
      proceed_close]
    refine ⟨_, .inl ⟨problem, rfl, leaves.stored, leaves.state, ?_⟩⟩
    rw [leaves.inProgress]
  | ok disk =>
    rw [proceed_local editor updated rfl (updated.answer_flush_ok editor flushed), written, load_eq]
    exact ⟨_, .inr ⟨rfl, leaves.stored, leaves.state, leaves.inProgress⟩⟩

end Proceeding

inductive Stage : Waiting → Prop
  | writing (editor view reply) : Stage (writing editor view reply)
  | reading (editor view reply) : Stage (reading editor view reply)

/-- What an onlooker sees. -/
structure Sight where
  stored : Settings
  state : AppState
  inProgress : Nat → Bool
  waiting : Nat → Option Waiting
  log : List Occurrence

def Traffic.sight (traffic : Traffic) : Sight where
  stored := traffic.shared.server.stored
  state := traffic.shared.store.state
  inProgress := traffic.shared.inProgress
  waiting := traffic.waiting
  log := traffic.log

namespace Sight

def now (sight : Sight) (client : Nat) (waiting : Option Waiting) (log : List Occurrence) : Sight :=
  { sight with
    waiting := Function.update sight.waiting client waiting
    log := sight.log ++ log }

def flagged (sight : Sight) (editor : Nat) (flag : Bool) : Sight :=
  { sight with inProgress := Function.update sight.inProgress editor flag }

theorem now_flagged_now (sight : Sight) (client editor : Nat) (flag : Bool)
    (first second : Option Waiting) (before after : List Occurrence) :
    ((sight.now client first before).flagged editor flag).now client second after =
      (sight.flagged editor flag).now client second (before ++ after) := by
  simp only [now, flagged, Function.update_idem, List.append_assoc]

/-- How one sight passes into the next. -/
inductive Passes (sight : Sight) : Sight → Prop
  | begun (client editor view) (idle : sight.waiting client = none) :
    Passes sight ((sight.flagged editor true).now client (some (writing editor view none))
      [.begun editor client])
  | kept (client editor view stored)
    (asks : sight.waiting client = some (writing editor view none)) :
    Passes sight (({ sight with stored }).now client
      (some (writing editor view (some (.ok stored)))) [.kept client stored])
  | refused (client editor view cause)
    (asks : sight.waiting client = some (writing editor view none)) :
    Passes sight (sight.now client (some (writing editor view (some (.error cause)))) [])
  | read (client editor view reply)
    (asks : sight.waiting client = some (reading editor view none)) :
    Passes sight (sight.now client (some (reading editor view (some reply))) [])
  | taken (client editor view stored)
    (told : sight.waiting client = some (writing editor view (some (.ok stored)))) :
    Passes sight (({ sight with state := .ofSettings stored }).now client
      (some (reading editor view none)) [.taken client stored])
  | unwritten (client editor view stored problem)
    (told : sight.waiting client = some (writing editor view (some (.ok stored)))) :
    Passes sight ((({ sight with state := .ofSettings stored }).flagged editor false).now client
      none [.taken client stored, .returned editor client (.error problem, view)])
  | failed (client editor view cause problem)
    (told : sight.waiting client = some (writing editor view (some (.error cause)))) :
    Passes sight ((sight.flagged editor false).now client none
      [.returned editor client (.error problem, view)])
  | ended (client editor view reply outcome)
    (told : sight.waiting client = some (reading editor view (some reply))) :
    Passes sight ((sight.flagged editor false).now client none [.returned editor client outcome])

end Sight

section Steps

variable {traffic : Traffic} {after : Shared} {state : AppState} {inProgress : Nat → Bool}

theorem sight_done (leaves : Leaves traffic.shared after state inProgress) (client editor : Nat)
    (before : List Occurrence) (outcome : Outcome) :
    (traffic.halted client editor before (.done outcome, after)).sight =
      ({ traffic.sight with state, inProgress }).now client none
        (before ++ [Occurrence.returned editor client outcome]) := by
  obtain ⟨stored, rfl, rfl⟩ := leaves
  simp only [Traffic.halted, Traffic.sight, Sight.now, stored]

theorem sight_waiting (leaves : Leaves traffic.shared after state inProgress) (client editor : Nat)
    (before : List Occurrence) (question : Question) (next : Answer question → Session Outcome) :
    (traffic.halted client editor before (.waiting question next, after)).sight =
      ({ traffic.sight with state, inProgress }).now client (some { editor, question, next })
        before := by
  obtain ⟨stored, rfl, rfl⟩ := leaves
  simp only [Traffic.halted, Traffic.sight, Sight.now, stored]

variable (client editor : Nat) (view : SettingsView)

theorem begin_passes (idle : traffic.waiting client = none) :
    traffic.sight.Passes (traffic.begin client editor view).sight := by
  obtain ⟨after, waits, leaves⟩ := proceed_save editor traffic.shared view
  rw [Traffic.begin, idle]
  simp only [waits]
  rw [sight_waiting leaves]
  exact .begun client editor { view with settings := view.form.apply view.settings } idle

theorem handle_passes (staged : ∀ visit, traffic.waiting client = some visit → Stage visit) :
    (traffic.handle client).sight = traffic.sight ∨
      traffic.sight.Passes (traffic.handle client).sight := by
  unfold Traffic.handle
  cases found : traffic.waiting client with
  | none => exact .inl rfl
  | some visit =>
    cases staged visit found with
    | writing editor view reply =>
      cases reply with
      | some reply => exact .inl rfl
      | none =>
        simp only [writing, Shared.answer_store, SettingsServer.store]
        cases traffic.shared.server.refusesStore with
        | some cause => exact .inr (.refused client editor view cause found)
        | none => exact .inr (.kept client editor view _ found)
    | reading editor view reply =>
      cases reply with
      | some reply => exact .inl rfl
      | none =>
        simp only [reading, Shared.answer_fetch]
        exact .inr (.read client editor view _ found)

theorem deliver_passes (staged : ∀ visit, traffic.waiting client = some visit → Stage visit) :
    (traffic.deliver client).sight = traffic.sight ∨
      traffic.sight.Passes (traffic.deliver client).sight := by
  unfold Traffic.deliver
  cases found : traffic.waiting client with
  | none => exact .inl rfl
  | some visit =>
    cases staged visit found with
    | writing editor view reply =>
      cases reply with
      | none => exact .inl rfl
      | some reply =>
        simp only [writing]
        cases reply with
        | error cause =>
          obtain ⟨after, ended, leaves⟩ := proceed_told editor traffic.shared
            (.failure "Failure" updateMessage (unstored cause))
            (.error (.service (unstored cause)), view)
          rw [resume, failureNotice, ended, sight_done leaves]
          exact .inr (.failed client editor view cause _ found)
        | ok stored =>
          obtain ⟨after, ⟨problem, ended, leaves⟩ | ⟨waits, leaves⟩⟩ :=
            proceed_stored editor traffic.shared view stored
          · rw [ended, sight_done leaves]
            exact .inr (.unwritten client editor view stored problem found)
          · rw [waits, sight_waiting leaves]
            exact .inr (.taken client editor view stored found)
    | reading editor view reply =>
      cases reply with
      | none => exact .inl rfl
      | some reply =>
        obtain ⟨outcome, after, ended, leaves⟩ := proceed_finish editor traffic.shared view reply
        simp only [reading]
        rw [ended, sight_done leaves]
        exact .inr (.ended client editor view reply outcome found)

/-- A step changes nothing in sight, or does what a save does next. -/
theorem step_passes
    (staged : ∀ client visit, traffic.waiting client = some visit → Stage visit) (move : Move) :
    (traffic.step move).sight = traffic.sight ∨
      traffic.sight.Passes (traffic.step move).sight := by
  cases move with
  | begin client editor view =>
    cases idle : traffic.waiting client with
    | none => exact .inr (begin_passes client editor view idle)
    | some visit =>
      refine .inl (congrArg Traffic.sight ?_)
      rw [Traffic.step, Traffic.begin, idle]
  | handle client => exact handle_passes client (staged client)
  | deliver client => exact deliver_passes client (staged client)
  | turn refusesFetch refusesStore normalize => exact .inl rfl

end Steps

theorem found_of_update {waiting : Nat → Option Waiting} {client other : Nat}
    {after : Option Waiting} {visit : Waiting}
    (found : Function.update waiting client after other = some visit) :
    other = client ∧ after = some visit ∨ waiting other = some visit := by
  by_cases same : other = client
  · rw [same, Function.update_self] at found
    exact .inl ⟨same, found⟩
  · rw [Function.update_of_ne same] at found
    exact .inr found

/-- Every save in sight is at one of its two waits. -/
def Sight.Staged (sight : Sight) : Prop :=
  ∀ client visit, sight.waiting client = some visit → Stage visit

theorem Sight.Passes.staged {sight next : Sight} (passes : sight.Passes next)
    (staged : sight.Staged) : next.Staged := by
  have moved : ∀ client waiting, (∀ visit, waiting = some visit → Stage visit) →
      ∀ other visit, Function.update sight.waiting client waiting other = some visit →
        Stage visit := by
    intro client waiting own other visit found
    rcases found_of_update found with ⟨-, same⟩ | found
    · exact own visit same
    · exact staged other visit found
  cases passes with
  | begun client editor view idle =>
    exact moved client _ fun visit same => Option.some.inj same ▸ .writing editor view none
  | kept client editor view stored asks =>
    exact moved client _ fun visit same => Option.some.inj same ▸ .writing editor view _
  | refused client editor view cause asks =>
    exact moved client _ fun visit same => Option.some.inj same ▸ .writing editor view _
  | read client editor view reply asks =>
    exact moved client _ fun visit same => Option.some.inj same ▸ .reading editor view _
  | taken client editor view stored told =>
    exact moved client _ fun visit same => Option.some.inj same ▸ .reading editor view none
  | unwritten client editor view stored problem told =>
    exact moved client none fun visit same => nomatch same
  | failed client editor view cause problem told =>
    exact moved client none fun visit same => nomatch same
  | ended client editor view reply outcome told =>
    exact moved client none fun visit same => nomatch same

/-- What holds at first and is kept by all that saves do holds after any run. -/
theorem run_upholds {Upholds : Sight → Prop}
    (kept : ∀ {sight next : Sight}, sight.Passes next → Upholds sight → Upholds next)
    {traffic : Traffic} (idle : ∀ client, traffic.waiting client = none)
    (start : Upholds traffic.sight) (moves : List Move) : Upholds (traffic.run moves).sight := by
  have staged : traffic.sight.Staged := fun client visit found =>
    nomatch (idle client).symm.trans found
  clear idle
  induction moves generalizing traffic with
  | nil => exact start
  | cons move moves ih =>
    rcases step_passes staged move with same | passes
    · exact ih (same ▸ start) (same ▸ staged)
    · exact ih (kept passes start) (passes.staged staged)

end ClusterDesk.Overlap

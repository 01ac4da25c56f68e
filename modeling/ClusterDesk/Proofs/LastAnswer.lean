import ClusterDesk.Proofs.Overlap

/-!
What the application state tells of the server once saves that overlapped are over. The state is
refreshed from the answer to the settings sent, and nothing keeps answers in the order in which the
server has stored. Main statement: `last_answer_prevails`.
-/

namespace ClusterDesk.Overlap

open Program Editor

def Occurrence.successful : Occurrence → Bool
  | .returned _ _ (.ok (), _) => true
  | .returned _ _ (.error _, _) | .begun _ _ | .kept _ _ | .taken _ _ => false

theorem Occurrence.returned_of_successful {event : Occurrence} (successful : event.successful) :
    ∃ editor client view, event = .returned editor client (.ok (), view) := by
  match event with
  | .returned editor client (.ok (), view) => exact ⟨editor, client, view, rfl⟩
  | .returned _ _ (.error _, _) | .begun _ _ | .kept _ _ | .taken _ _ => cases successful

/-- What the server has stored, and for whom. -/
def kept? : Occurrence → Option (Nat × Settings)
  | .kept client settings => some (client, settings)
  | .begun _ _ | .taken _ _ | .returned _ _ _ => none

/-- What has been taken over into the application state, and by whom. -/
def taken? : Occurrence → Option (Nat × Settings)
  | .taken client settings => some (client, settings)
  | .begun _ _ | .kept _ _ | .returned _ _ _ => none

def keptFor (client : Nat) (log : List Occurrence) : List Settings :=
  ((log.filterMap kept?).filter (·.1 == client)).map (·.2)

def takenBy (client : Nat) (log : List Occurrence) : List Settings :=
  ((log.filterMap taken?).filter (·.1 == client)).map (·.2)

theorem keptFor_append (client : Nat) (log more : List Occurrence) :
    keptFor client (log ++ more) = keptFor client log ++ keptFor client more := by
  simp only [keptFor, List.filterMap_append, List.filter_append, List.map_append]

theorem takenBy_append (client : Nat) (log more : List Occurrence) :
    takenBy client (log ++ more) = takenBy client log ++ takenBy client more := by
  simp only [takenBy, List.filterMap_append, List.filter_append, List.map_append]

/-- The server has what it stored last; the application state has what was taken over last. -/
structure Sight.Recalls (sight : Sight) : Prop where
  stored : ∀ last, latest kept? sight.log = some last → sight.stored = last.2
  state : ∀ last, latest taken? sight.log = some last → sight.state = .ofSettings last.2

theorem Sight.Recalls.passes {sight next : Sight} (passes : sight.Passes next)
    (recalls : sight.Recalls) : next.Recalls := by
  have kept : ∀ {more last}, latest kept? more = none →
      latest kept? (sight.log ++ more) = some last → sight.stored = last.2 := by
    intro more last silent found
    rw [latest_append, silent] at found
    exact recalls.stored last found
  have taken : ∀ {more last}, latest taken? more = none →
      latest taken? (sight.log ++ more) = some last → sight.state = .ofSettings last.2 := by
    intro more last silent found
    rw [latest_append, silent] at found
    exact recalls.state last found
  cases passes with
  | begun client editor view idle => exact ⟨fun _ => kept rfl, fun _ => taken rfl⟩
  | refused client editor view cause asks => exact ⟨fun _ => kept rfl, fun _ => taken rfl⟩
  | read client editor view reply asks => exact ⟨fun _ => kept rfl, fun _ => taken rfl⟩
  | failed client editor view cause problem told => exact ⟨fun _ => kept rfl, fun _ => taken rfl⟩
  | ended client editor view reply outcome told => exact ⟨fun _ => kept rfl, fun _ => taken rfl⟩
  | kept client editor view stored asks =>
    refine ⟨fun last found => ?_, fun _ => taken rfl⟩
    cases (latest_append ..).symm.trans found
    rfl
  | taken client editor view stored told =>
    refine ⟨fun _ => kept rfl, fun last found => ?_⟩
    cases (latest_append ..).symm.trans found
    rfl
  | unwritten client editor view stored problem told =>
    refine ⟨fun _ => kept rfl, fun last found => ?_⟩
    cases (latest_append ..).symm.trans found
    rfl

/-- The settings in an answer on its way. -/
def Waiting.owed : Waiting → Option Settings
  | ⟨_, question, some reply, _⟩ => storedIn question reply
  | ⟨_, _, none, _⟩ => none

/-- Of what has been stored for a client all but what is on its way to it has been taken over. -/
def Owes (waiting : Nat → Option Waiting) (log : List Occurrence) : Prop :=
  ∀ client, keptFor client log =
    takenBy client log ++ ((waiting client).bind Waiting.owed).toList

section Accounts

variable {sight next : Sight} {waiting : Nat → Option Waiting} {log : List Occurrence}
  {client : Nat} {before : Option Waiting}

theorem Owes.moved (owes : Owes waiting log) (found : waiting client = before)
    (after : Option Waiting) (more : List Occurrence)
    (own : (before.bind Waiting.owed).toList ++ keptFor client more =
      takenBy client more ++ (after.bind Waiting.owed).toList)
    (others : ∀ other, client ≠ other → keptFor other more = [] ∧ takenBy other more = []) :
    Owes (Function.update waiting client after) (log ++ more) := by
  intro other
  rw [keptFor_append, takenBy_append, owes other]
  by_cases same : client = other
  · subst same
    rw [Function.update_self, found, List.append_assoc, List.append_assoc, own]
  · obtain ⟨kept, taken⟩ := others other same
    rw [Function.update_of_ne (Ne.symm same), kept, taken, List.append_nil, List.append_nil]

theorem Owes.passes (passes : sight.Passes next) (owes : Owes sight.waiting sight.log) :
    Owes next.waiting next.log := by
  cases passes with
  | begun client editor view idle => exact owes.moved idle _ _ rfl fun _ _ => ⟨rfl, rfl⟩
  | refused client editor view cause asks => exact owes.moved asks _ [] rfl fun _ _ => ⟨rfl, rfl⟩
  | read client editor view reply asks => exact owes.moved asks _ [] rfl fun _ _ => ⟨rfl, rfl⟩
  | failed client editor view cause problem told =>
    exact owes.moved told _ _ rfl fun _ _ => ⟨rfl, rfl⟩
  | ended client editor view reply outcome told =>
    exact owes.moved told _ _ rfl fun _ _ => ⟨rfl, rfl⟩
  | kept client editor view stored asks =>
    refine owes.moved asks _ _ ?_ fun other apart => ?_
    · simp [keptFor, takenBy, kept?, taken?, Waiting.owed, writing, storedIn]
    · simp [keptFor, takenBy, kept?, taken?, apart]
  | taken client editor view stored told =>
    refine owes.moved told _ _ ?_ fun other apart => ?_
    · simp [keptFor, takenBy, kept?, taken?, Waiting.owed, writing, reading, storedIn]
    · simp [keptFor, takenBy, kept?, taken?, apart]
  | unwritten client editor view stored problem told =>
    refine owes.moved told _ _ ?_ fun other apart => ?_
    · simp [keptFor, takenBy, kept?, taken?, Waiting.owed, writing, storedIn, List.filterMap_cons]
    · simp [keptFor, takenBy, kept?, taken?, apart, List.filterMap_cons]

/-- Who reads anew, or has returned with success, has taken over what was stored for it. -/
structure Succeeds (waiting : Nat → Option Waiting) (log : List Occurrence) : Prop where
  reading : ∀ client visit, waiting client = some visit → visit.question = .fetch →
    takenBy client log ≠ []
  returned : ∀ editor client view, .returned editor client (.ok (), view) ∈ log →
    takenBy client log ≠ []

theorem takenBy_grows (entries : takenBy client log ≠ []) (more : List Occurrence) :
    takenBy client (log ++ more) ≠ [] := by
  rw [takenBy_append]
  exact List.append_ne_nil_of_left_ne_nil entries _

theorem Succeeds.moved (succeeds : Succeeds waiting log) (client : Nat) (after : Option Waiting)
    (more : List Occurrence)
    (reading : ∀ visit, after = some visit → visit.question = .fetch →
      takenBy client (log ++ more) ≠ [])
    (returned : ∀ editor other view, .returned editor other (.ok (), view) ∈ more →
      takenBy other (log ++ more) ≠ []) :
    Succeeds (Function.update waiting client after) (log ++ more) := by
  refine ⟨fun other visit found asks => ?_, fun editor other view happened => ?_⟩
  · rcases found_of_update found with ⟨rfl, same⟩ | found
    · exact reading visit same asks
    · exact takenBy_grows (succeeds.reading other visit found asks) more
  · rcases List.mem_append.mp happened with before | now
    · exact takenBy_grows (succeeds.returned editor other view before) more
    · exact returned editor other view now

theorem Succeeds.passes (passes : sight.Passes next) (succeeds : Succeeds sight.waiting sight.log) :
    Succeeds next.waiting next.log := by
  have sends : ∀ {editor view reply visit}, some (writing editor view reply) = some visit →
      visit.question ≠ .fetch := by
    rintro editor view reply visit ⟨⟩ ⟨⟩
  cases passes with
  | begun client editor view idle =>
    refine succeeds.moved client _ _ (fun _ same asks => absurd asks (sends same)) ?_
    exact fun _ _ _ happened => nomatch List.mem_singleton.mp happened
  | kept client editor view stored asks =>
    refine succeeds.moved client _ _ (fun _ same asks => absurd asks (sends same)) ?_
    exact fun _ _ _ happened => nomatch List.mem_singleton.mp happened
  | refused client editor view cause asks =>
    refine succeeds.moved client _ [] (fun _ same asks => absurd asks (sends same)) ?_
    exact fun _ _ _ happened => nomatch happened
  | read client editor view reply asks =>
    refine succeeds.moved client _ [] (fun _ _ _ => ?_) fun _ _ _ happened => nomatch happened
    exact takenBy_grows (succeeds.reading client _ asks rfl) []
  | taken client editor view stored told =>
    refine succeeds.moved client _ _ (fun _ _ _ => ?_) fun _ _ _ happened => ?_
    · rw [takenBy_append]
      simp [takenBy, taken?]
    · cases List.mem_singleton.mp happened
  | unwritten client editor view stored problem told =>
    refine succeeds.moved client none _ (fun _ same => nomatch same) fun _ _ _ happened => ?_
    simp at happened
  | failed client editor view cause problem told =>
    refine succeeds.moved client none _ (fun _ same => nomatch same) fun _ _ _ happened => ?_
    cases List.mem_singleton.mp happened
  | ended client editor view reply outcome told =>
    refine succeeds.moved client none _ (fun _ same => nomatch same) fun _ _ _ happened => ?_
    cases List.mem_singleton.mp happened
    exact takenBy_grows (succeeds.reading client _ told rfl) _

end Accounts

theorem latest_exists {tells : Occurrence → Option (Nat × Settings)} {log : List Occurrence}
    {client : Nat} (entries : ((log.filterMap tells).filter (·.1 == client)).map (·.2) ≠ []) :
    ∃ last, latest tells log = some last := by
  cases told : latest tells log with
  | some last => exact ⟨last, rfl⟩
  | none =>
    rw [latest, List.getLast?_eq_none_iff] at told
    rw [told] at entries
    exact absurd rfl entries

/-- However saves overlap, once all have returned and one of them with success: the server has what
it stored last, the application state what was taken over last, and what was stored for a client is
what that client has taken over. So the state agrees with the server if the answer that arrived last
is the one given last. -/
theorem last_answer_prevails (shared : Shared) (moves : List Move)
    (quiet : ∀ client, (Traffic.run { shared } moves).waiting client = none)
    (success : ∃ event ∈ (Traffic.run { shared } moves).log, event.successful) :
    let traffic := Traffic.run { shared } moves
    ∃ last answered, latest kept? traffic.log = some last ∧
      latest taken? traffic.log = some answered ∧
      traffic.shared.server.stored = last.2 ∧
      traffic.shared.store.state = .ofSettings answered.2 ∧
      (∀ client, keptFor client traffic.log = takenBy client traffic.log) ∧
      (answered = last →
        traffic.shared.store.state = .ofSettings traffic.shared.server.stored) := by
  intro traffic
  have recalls : traffic.sight.Recalls :=
    run_upholds Sight.Recalls.passes (fun _ => rfl) (by constructor <;> rintro _ ⟨⟩) moves
  have owes : Owes traffic.waiting traffic.log :=
    run_upholds Owes.passes (fun _ => rfl) (fun _ => rfl) moves
  have succeeds : Succeeds traffic.waiting traffic.log :=
    run_upholds Succeeds.passes (fun _ => rfl)
      (by constructor <;> intros <;> contradiction) moves
  have settled : ∀ client, keptFor client traffic.log = takenBy client traffic.log := by
    intro client
    rw [owes client, quiet client]
    exact List.append_nil _
  obtain ⟨event, happened, successful⟩ := success
  obtain ⟨editor, client, view, rfl⟩ := Occurrence.returned_of_successful successful
  have entries := succeeds.returned editor client view happened
  obtain ⟨answered, told⟩ := latest_exists entries
  obtain ⟨last, stored⟩ := latest_exists (settled client ▸ entries)
  have server : traffic.shared.server.stored = last.2 := recalls.stored last stored
  have state : traffic.shared.store.state = .ofSettings answered.2 := recalls.state answered told
  refine ⟨last, answered, stored, told, server, state, settled, fun same => ?_⟩
  rw [state, server, same]

/-- What two editors show of a server that sends telemetry: one leaves that on, one turns it off. -/
def leaving : SettingsView := .ofSettings { enableTelemetry := true }

def turning : SettingsView :=
  { leaving with form := { leaving.form with enableTelemetry := false } }

def telemetry : Shared := { server := { stored := { enableTelemetry := true } } }

/-- Two saves overlap, and the answers arrive in the order in which they are given. -/
def inOrder : List Move :=
  [.begin 0 0 leaving, .begin 1 1 turning, .handle 1, .handle 0, .deliver 1, .deliver 0,
    .handle 1, .deliver 1, .handle 0, .deliver 0]

theorem last_answer_prevails_inOrder :
    (∀ client, (Traffic.run { shared := telemetry } inOrder).waiting client = none) ∧
      (∃ event ∈ (Traffic.run { shared := telemetry } inOrder).log, event.successful) ∧
      (Traffic.run { shared := telemetry } inOrder).shared.store.state =
        .ofSettings (Traffic.run { shared := telemetry } inOrder).shared.server.stored := by
  have movers : ∀ move ∈ inOrder, ∀ client ∈ move.client?, client < 2 := by decide +kernel
  have quiet : ∀ client, (Traffic.run { shared := telemetry } inOrder).waiting client = none :=
    quiet_of_below (fun _ => rfl) movers (by decide +kernel)
  have success : ∃ event ∈ (Traffic.run { shared := telemetry } inOrder).log, event.successful := by
    decide +kernel
  have same : latest taken? (Traffic.run { shared := telemetry } inOrder).log =
      latest kept? (Traffic.run { shared := telemetry } inOrder).log := by
    decide +kernel
  obtain ⟨last, answered, stored, told, -, -, -, agrees⟩ :=
    last_answer_prevails telemetry inOrder quiet success
  exact ⟨quiet, success, agrees (Option.some.inj (told.symm.trans (same.trans stored)))⟩

/-- The answer given first arrives last. -/
def crossed : List Move :=
  [.begin 0 0 leaving, .begin 1 1 turning, .handle 1, .handle 0, .deliver 0, .handle 0,
    .deliver 0, .deliver 1, .handle 1, .deliver 1]

theorem crossed_answers_disagree :
    (∀ client, (Traffic.run { shared := telemetry } crossed).waiting client = none) ∧
      ((Traffic.run { shared := telemetry } crossed).log.filter (·.successful)).length = 2 ∧
      (Traffic.run { shared := telemetry } crossed).shared.server.stored.enableTelemetry = true ∧
      (Traffic.run { shared := telemetry } crossed).shared.store.state.enableTelemetry = false := by
  have movers : ∀ move ∈ crossed, ∀ client ∈ move.client?, client < 2 := by decide +kernel
  refine ⟨quiet_of_below (fun _ => rfl) movers (by decide +kernel), ?_, ?_, ?_⟩ <;> decide +kernel

end ClusterDesk.Overlap

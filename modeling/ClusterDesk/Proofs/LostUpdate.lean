import ClusterDesk.Proofs.Ledger

/-!
Any number of clients that read, edit and save config maps, their calls to the backend interleaved
in any order. Main statement: `no_lost_update`. What is stored has the edits of all saves that have
succeeded, in the order of their writes, and of no other.
-/

namespace ClusterDesk.Locking

open ConfigMap (Edit)

structure Visit where
  key : Key
  plan : ConfigMap → List Edit
  program : Session Round

/-- A round that has ended, and what was stored when its last call was served. -/
structure Outcome where
  client : Nat
  key : Key
  plan : ConfigMap → List Edit
  replaced : Option (Manifest Entries)
  round : Round

def Outcome.edits (key : Key) (outcome : Outcome) : List Edit :=
  if outcome.key = key then outcome.round.edits outcome.plan else []

/-- The clients at their rounds, and the rounds that have ended in the order of their last calls. -/
structure Office (backend : Backend) where
  state : backend.State
  visits : Nat → Option Visit := fun _ => none
  outcomes : List Outcome := []

inductive Move where
  | begin (client : Nat) (key : Key) (plan : ConfigMap → List Edit)
  /-- The backend serves a call of the client, the second one of two if `later`. -/
  | answer (client : Nat) (later : Bool)

namespace Office

variable {backend : Backend}

def enter (office : Office backend) (client : Nat) (key : Key) (plan : ConfigMap → List Edit) :
    Office backend :=
  match office.visits client with
  | some _ => office
  | none =>
    { office with
      visits := Function.update office.visits client (some ⟨key, plan, round key plan⟩) }

def serve (office : Office backend) (client : Nat) (later : Bool) : Office backend :=
  match office.visits client with
  | none => office
  | some visit =>
    let next := visit.program.advance backend.answer later office.state
    match next.1.result? with
    | none =>
      { state := next.2
        visits := Function.update office.visits client (some ⟨visit.key, visit.plan, next.1⟩)
        outcomes := office.outcomes }
    | some round =>
      let replaced := backend.stored office.state visit.key
      { state := next.2
        visits := Function.update office.visits client none
        outcomes := office.outcomes ++ [⟨client, visit.key, visit.plan, replaced, round⟩] }

def step (office : Office backend) : Move → Office backend
  | .begin client key plan => office.enter client key plan
  | .answer client later => office.serve client later

def run (office : Office backend) (moves : List Move) : Office backend := moves.foldl step office

/-- The edits of the saves of a key that have succeeded, in the order of their writes. -/
def edits (office : Office backend) (key : Key) : List Edit :=
  office.outcomes.flatMap (Outcome.edits key)

theorem edits_eq_flatten (office : Office backend) (key : Key) :
    office.edits key =
      ((office.outcomes.map fun outcome => (outcome.client, outcome.edits key)).map
        (·.2)).flatten := by
  rw [edits, List.flatMap_def, List.map_map]
  rfl

structure Upholds (start : backend.State) (office : Office backend) : Prop where
  staged : ∀ client visit, office.visits client = some visit →
    Stage office.state visit.key visit.plan visit.program
  based : ∀ outcome ∈ office.outcomes, ∀ base map, outcome.round = .saved base (.ok map) →
    BasedOn outcome.key outcome.replaced base
  succeeded : ∀ earlier outcome later, office.outcomes = earlier ++ outcome :: later →
    content outcome.replaced = (content (backend.stored start outcome.key)).edit
      (earlier.flatMap (Outcome.edits outcome.key))
  composed : ∀ key, content (backend.stored office.state key) =
    (content (backend.stored start key)).edit (office.edits key)

variable {start : backend.State} {office : Office backend}

theorem staged_update (upholds : Upholds start office) (client : Nat) (visit? : Option Visit)
    {state : backend.State} (grows : Grows backend office.state state)
    (own : ∀ visit, visit? = some visit → Stage state visit.key visit.plan visit.program) :
    ∀ other visit, Function.update office.visits client visit? other = some visit →
      Stage state visit.key visit.plan visit.program := by
  intro other visit found
  by_cases same : other = client
  · subst same
    rw [Function.update_self] at found
    exact own visit found
  · rw [Function.update_of_ne same] at found
    exact (upholds.staged other visit found).grows grows

theorem upholds_enter (upholds : Upholds start office) (client : Nat) (key : Key)
    (plan : ConfigMap → List Edit) : Upholds start (office.enter client key plan) := by
  unfold enter
  cases taken : office.visits client with
  | some visit => exact upholds
  | none =>
    refine ⟨staged_update upholds client _ (.refl office.state) ?_, upholds.based,
      upholds.succeeded, upholds.composed⟩
    rintro _ ⟨⟩
    exact .fresh

theorem upholds_serve (upholds : Upholds start office) (client : Nat) (later : Bool) :
    Upholds start (office.serve client later) := by
  unfold serve
  cases found : office.visits client with
  | none => exact upholds
  | some visit =>
    have advanced := advance_stage (upholds.staged client visit found) later
    dsimp only at advanced ⊢
    generalize visit.program.advance backend.answer later office.state = next at advanced ⊢
    -- Either the round goes on and nothing is stored, or it ends with its one write.
    obtain ⟨grows, ⟨waits, stage, same⟩ | ⟨round, ended, ends⟩⟩ := advanced
    · rw [waits]
      refine ⟨staged_update upholds client _ grows ?_, upholds.based, upholds.succeeded, ?_⟩
      · rintro _ ⟨⟩
        exact stage
      · intro key
        show content (backend.stored next.2 key) = _
        rw [same]
        exact upholds.composed key
    · rw [ended]
      refine ⟨staged_update upholds client _ grows ?_, ?_, ?_, ?_⟩
      · rintro _ ⟨⟩
      · intro outcome member base map saved
        rcases List.mem_append.mp member with earlier | last
        · exact upholds.based outcome earlier base map saved
        · cases List.mem_singleton.mp last
          exact ends.based base map saved
      · intro earlier outcome later split
        rcases Program.split_concat split with ⟨rfl, rfl, -⟩ | ⟨middle, -, early⟩
        · exact upholds.composed visit.key
        · exact upholds.succeeded earlier outcome middle early
      · intro key
        show content (backend.stored next.2 key) = _
        rw [ends.content key, upholds.composed key, edits, edits, List.flatMap_append,
          ConfigMap.Editable.edit_append, List.flatMap_singleton]
        rfl

theorem upholds_run (upholds : Upholds start office) (moves : List Move) :
    Upholds start (office.run moves) := by
  induction moves generalizing office with
  | nil => exact upholds
  | cons move rest ih =>
    cases move with
    | begin client key plan => exact ih (upholds_enter upholds client key plan)
    | answer client later => exact ih (upholds_serve upholds client later)

end Office

/-- Every save that has succeeded was computed from what it replaced, each round found what the
saves before it had left, and what is stored is what was stored at first, with the edits of the
successful saves one after another. -/
theorem no_lost_update (backend : Backend) (start : backend.State) (moves : List Move) :
    let office : Office backend := Office.run { state := start } moves
    (∀ outcome ∈ office.outcomes, ∀ base map, outcome.round = .saved base (.ok map) →
        BasedOn outcome.key outcome.replaced base) ∧
      (∀ earlier outcome later, office.outcomes = earlier ++ outcome :: later →
        content outcome.replaced =
          (content (backend.stored start outcome.key)).edit
            (earlier.flatMap (Outcome.edits outcome.key))) ∧
      ∀ key, content (backend.stored office.state key) =
        (content (backend.stored start key)).edit (office.edits key) := by
  intro office
  have opened : Office.Upholds start ({ state := start } : Office backend) := by
    refine ⟨?_, ?_, ?_, fun _ => rfl⟩
    · intro client visit found
      cases found
    · intro outcome member
      cases member
    · intro earlier outcome later split
      cases earlier <;> cases split
  have upholds := Office.upholds_run opened moves
  exact ⟨upholds.based, upholds.succeeded, upholds.composed⟩

private def shelf : Key := ⟨"n", "a"⟩

/-- Something is stored already, with an owner, a text and bytes. -/
private def stocked : Ledger :=
  ({} : Ledger).keep shelf
    ⟨{ labels := some (.ofList [(ConfigMap.ownerLabel, "shop"), ("tier", "web")]) },
      { data := some (.ofList [("mode", "dark")])
        binaryData := some (.ofList [("icon", [1]), ("logo", [2, 3])]) }⟩

private def rivals : List Move :=
  let read (client : Nat) : List Move := [.answer client true, .answer client false]
  let repaint : ConfigMap → List Edit := fun _ => [.set "mode" "light"]
  let adopt : ConfigMap → List Edit := fun _ => [.own (some "desk"), .remove "icon"]
  [.begin 0 shelf repaint, .begin 1 shelf adopt] ++ read 0 ++ read 1 ++
    [.answer 0 false, .answer 1 false] ++ [.begin 1 shelf adopt] ++ read 1 ++ [.answer 1 false]

/-- Two clients read the same version: the second one to save is refused, reads again and saves.
The bytes that nobody has edited are still there. -/
theorem no_lost_update_race :
    let office : Office Ledger.backend := Office.run { state := stocked } rivals
    office.outcomes.map (fun outcome => (outcome.client, outcome.edits shelf)) =
        [(0, [.set "mode" "light"]), (1, []), (1, [.own (some "desk"), .remove "icon"])] ∧
      content (Ledger.backend.stored office.state shelf) =
        { owner := some "desk"
          data := .ofList [("mode", "light")]
          binaryData := .ofList [("logo", [2, 3])] } := by
  intro office
  have ended : office.outcomes.map (fun outcome => (outcome.client, outcome.edits shelf)) =
      [(0, [.set "mode" "light"]), (1, []), (1, [.own (some "desk"), .remove "icon"])] := by
    decide +kernel
  have composed : content (Ledger.backend.stored office.state shelf) =
      (content (Ledger.backend.stored stocked shelf)).edit (office.edits shelf) :=
    (no_lost_update Ledger.backend stocked rivals).2.2 shelf
  clear_value office
  rw [Office.edits_eq_flatten, ended] at composed
  exact ⟨ended, composed.trans (by decide +kernel)⟩

end ClusterDesk.Locking

/-!
Values that arrive later. A future is polled until it settles, and a pair of futures polls both
on every turn, so neither outcome can stop or shorten the other.
-/

namespace ClusterDesk

inductive Future (α : Type) where
  | settled (value : α)
  | suspended (rest : Future α)
  deriving DecidableEq, Repr

namespace Future

variable {α β : Type}

def outcome : Future α → α
  | settled value => value
  | suspended rest => rest.outcome

/-- How often the future is found unsettled. -/
def suspensions : Future α → Nat
  | settled _ => 0
  | suspended rest => rest.suspensions + 1

/-- Settles with `value` after `count` suspensions. -/
def after (value : α) : Nat → Future α
  | 0 => settled value
  | count + 1 => suspended (after value count)

def bind : Future α → (α → Future β) → Future β
  | settled value, next => next value
  | suspended rest, next => suspended (rest.bind next)

def map (f : α → β) (future : Future α) : Future β := future.bind fun value => settled (f value)

/-- Polls both futures in turn until both have settled. -/
def pair : Future α → Future β → Future (α × β)
  | settled a, settled b => settled (a, b)
  | settled a, suspended b => suspended (pair (settled a) b)
  | suspended a, settled b => suspended (pair a (settled b))
  | suspended a, suspended b => suspended (pair a b)

@[simp] theorem outcome_after (value : α) (count : Nat) : (after value count).outcome = value := by
  induction count with
  | zero => rfl
  | succ count ih => exact ih

@[simp] theorem suspensions_after (value : α) (count : Nat) :
    (after value count).suspensions = count := by
  induction count with
  | zero => rfl
  | succ count ih => simp [after, suspensions, ih]

@[simp] theorem outcome_bind (future : Future α) (next : α → Future β) :
    (future.bind next).outcome = (next future.outcome).outcome := by
  induction future with
  | settled value => rfl
  | suspended rest ih => exact ih

@[simp] theorem outcome_pair (a : Future α) (b : Future β) :
    (pair a b).outcome = (a.outcome, b.outcome) := by
  fun_induction pair a b with
  | case1 => rfl
  | case2 _ _ ih => simpa [outcome] using ih
  | case3 _ _ ih => simpa [outcome] using ih
  | case4 _ _ ih => simpa [outcome] using ih

theorem suspensions_pair (a : Future α) (b : Future β) :
    (pair a b).suspensions = max a.suspensions b.suspensions := by
  fun_induction pair a b with
  | case1 => rfl
  | case2 _ _ ih => simp [suspensions, ih]
  | case3 _ _ ih => simp [suspensions, ih]
  | case4 _ _ ih => simp [suspensions, ih]

end Future

end ClusterDesk

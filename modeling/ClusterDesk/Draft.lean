/-!
Models about to be saved, tagged with whether the backend already knows them.
-/

namespace ClusterDesk

inductive Draft (M : Type) where
  /-- To be created. -/
  | new (model : M)
  /-- To be replaced by an update. -/
  | existing (model : M)
  deriving DecidableEq, Repr

namespace Draft

variable {M : Type}

def model : Draft M → M
  | new model => model
  | existing model => model

def isNew : Draft M → Bool
  | new _ => true
  | existing _ => false

end Draft

end ClusterDesk

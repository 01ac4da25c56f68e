import Mathlib.Data.List.Nodup

/-!
Maps that keep their entries in the order in which the keys came. Main statements: a value that is
put takes the place of the one under its key, or else comes last, and no other key sees it; a key
that is erased is missed alone, and the others keep their order.
-/

namespace ClusterDesk

structure OrderedMap (K V : Type) where
  entries : List (K × V)
  distinct : (entries.map (·.1)).Nodup

namespace OrderedMap

variable {K V : Type} [DecidableEq K]

def keys (map : OrderedMap K V) : List K := map.entries.map (·.1)

def size (map : OrderedMap K V) : Nat := map.entries.length

def lookup (key : K) : List (K × V) → Option V
  | [] => none
  | (other, value) :: rest => if other = key then some value else lookup key rest

def find? (map : OrderedMap K V) (key : K) : Option V := lookup key map.entries

def placed (key : K) (value : V) : List (K × V) → List (K × V)
  | [] => [(key, value)]
  | (other, old) :: rest =>
    if other = key then (key, value) :: rest else (other, old) :: placed key value rest

theorem map_fst_placed (key : K) (value : V) (entries : List (K × V)) :
    (placed key value entries).map (·.1) =
      if key ∈ entries.map (·.1) then entries.map (·.1) else entries.map (·.1) ++ [key] := by
  induction entries with
  | nil => rfl
  | cons entry rest ih =>
    obtain ⟨other, old⟩ := entry
    by_cases same : other = key
    · subst same
      simp [placed]
    · by_cases inside : key ∈ rest.map (·.1)
      · rw [if_pos inside] at ih
        rw [List.map_cons, if_pos (List.mem_cons_of_mem _ inside)]
        simp only [placed, if_neg same, List.map_cons, ih]
      · rw [if_neg inside] at ih
        have outside : key ∉ other :: rest.map (·.1) := by
          simpa [Ne.symm same] using inside
        rw [List.map_cons, if_neg outside]
        simp only [placed, if_neg same, List.map_cons, ih, List.cons_append]

theorem lookup_placed (key other : K) (value : V) (entries : List (K × V)) :
    lookup other (placed key value entries) =
      if key = other then some value else lookup other entries := by
  induction entries with
  | nil => rfl
  | cons entry rest ih =>
    obtain ⟨held, old⟩ := entry
    by_cases same : held = key
    · subst same
      by_cases hit : held = other <;> simp [placed, lookup, hit]
    · rw [placed, if_neg same, lookup, lookup, ih]
      by_cases hit : held = other
      · have apart : key ≠ other := fun equal => same (hit.trans equal.symm)
        rw [if_pos hit, if_neg apart, if_pos hit]
      · rw [if_neg hit, if_neg hit]

theorem placed_of_lookup_none {key : K} {entries : List (K × V)} (value : V)
    (absent : lookup key entries = none) :
    placed key value entries = entries ++ [(key, value)] := by
  induction entries with
  | nil => rfl
  | cons entry rest ih =>
    obtain ⟨other, old⟩ := entry
    by_cases same : other = key
    · rw [lookup, if_pos same] at absent
      cases absent
    · rw [lookup, if_neg same] at absent
      rw [placed, if_neg same, ih absent, List.cons_append]

/-- Puts a value under a key: in the place of the one that is there, or last. -/
def put (map : OrderedMap K V) (key : K) (value : V) : OrderedMap K V where
  entries := placed key value map.entries
  distinct := by
    rw [map_fst_placed]
    split
    · exact map.distinct
    · rename_i outside
      exact List.nodup_append.mpr ⟨map.distinct, List.nodup_singleton key, by
        rintro first inside second single rfl
        exact outside (List.mem_singleton.mp single ▸ inside)⟩

def erase (map : OrderedMap K V) (key : K) : OrderedMap K V where
  entries := map.entries.filter fun entry => !decide (entry.1 = key)
  distinct := map.distinct.sublist (List.filter_sublist.map _)

/-- A key that is there stays where it is; any other comes last. -/
theorem keys_put (map : OrderedMap K V) (key : K) (value : V) :
    (map.put key value).keys = if key ∈ map.keys then map.keys else map.keys ++ [key] :=
  map_fst_placed key value map.entries

theorem keys_erase (map : OrderedMap K V) (key : K) :
    (map.erase key).keys = map.keys.filter fun other => !decide (other = key) := by
  rw [keys, keys, List.filter_map]
  rfl

/-- Only the key that is put sees the value. -/
theorem find?_put (map : OrderedMap K V) (key other : K) (value : V) :
    (map.put key value).find? other = if key = other then some value else map.find? other :=
  lookup_placed key other value map.entries

theorem lookup_erased (key other : K) (entries : List (K × V)) :
    lookup other (entries.filter fun entry => !decide (entry.1 = key)) =
      if key = other then none else lookup other entries := by
  induction entries with
  | nil => simp [lookup]
  | cons entry rest ih =>
    obtain ⟨held, value⟩ := entry
    rw [List.filter_cons]
    by_cases same : held = key
    · subst same
      rw [decide_eq_true rfl, Bool.not_true, if_neg Bool.false_ne_true, ih, lookup]
      by_cases hit : held = other
      · rw [if_pos hit, if_pos hit]
      · rw [if_neg hit, if_neg hit, if_neg hit]
    · rw [decide_eq_false same, Bool.not_false, if_pos rfl, lookup, lookup, ih]
      by_cases hit : held = other
      · have apart : key ≠ other := fun equal => same (hit.trans equal.symm)
        rw [if_pos hit, if_neg apart, if_pos hit]
      · rw [if_neg hit, if_neg hit]

/-- Only the key that is erased is missed. -/
theorem find?_erase (map : OrderedMap K V) (key other : K) :
    (map.erase key).find? other = if key = other then none else map.find? other :=
  lookup_erased key other map.entries

end OrderedMap

end ClusterDesk

/-!
Dictionaries with text keys, listed in increasing key order. A dictionary is the list of its
entries, so two dictionaries with the same look-ups are equal.
-/

namespace ClusterDesk

/-- Entries in strictly increasing key order. -/
structure Dict (α : Type) where
  entries : List (String × α)
  ascending : (entries.map (·.1)).Pairwise (· < ·)

namespace Dict

variable {α β : Type}

instance [DecidableEq α] : DecidableEq (Dict α) := fun a b =>
  decidable_of_iff (a.entries = b.entries)
    ⟨fun same => by cases a; cases b; cases same; rfl, congrArg _⟩

def empty : Dict α := ⟨[], .nil⟩

instance : EmptyCollection (Dict α) := ⟨empty⟩

instance : Inhabited (Dict α) := ⟨empty⟩

def lookup (key : String) : List (String × α) → Option α
  | [] => none
  | (k, v) :: rest => if k = key then some v else lookup key rest

def find? (dict : Dict α) (key : String) : Option α := lookup key dict.entries

def contains (dict : Dict α) (key : String) : Bool := (dict.find? key).isSome

def keys (dict : Dict α) : List String := dict.entries.map (·.1)

def size (dict : Dict α) : Nat := dict.entries.length

def isEmpty (dict : Dict α) : Bool := dict.entries.isEmpty

def insertEntry (key : String) (value : α) : List (String × α) → List (String × α)
  | [] => [(key, value)]
  | (k, v) :: rest =>
    if key < k then (key, value) :: (k, v) :: rest
    else if k = key then (key, value) :: rest
    else (k, v) :: insertEntry key value rest

theorem mem_keys_insertEntry {key other : String} {value : α} {list : List (String × α)}
    (found : other ∈ (insertEntry key value list).map (·.1)) :
    other = key ∨ other ∈ list.map (·.1) := by
  induction list with
  | nil => simpa [insertEntry] using found
  | cons head rest ih =>
    obtain ⟨k, v⟩ := head
    simp only [insertEntry] at found
    split at found
    · simpa using found
    · split at found
      · rename_i same
        subst same
        simp only [List.map_cons, List.mem_cons] at found ⊢
        exact found.imp id .inr
      · simp only [List.map_cons, List.mem_cons] at found ⊢
        exact found.elim (fun h => .inr (.inl h)) (fun h => (ih h).imp id .inr)

theorem ascending_insertEntry (key : String) (value : α) (list : List (String × α))
    (ordered : (list.map (·.1)).Pairwise (· < ·)) :
    ((insertEntry key value list).map (·.1)).Pairwise (· < ·) := by
  induction list with
  | nil => simp [insertEntry]
  | cons head rest ih =>
    obtain ⟨k, v⟩ := head
    simp only [List.map_cons, List.pairwise_cons] at ordered
    simp only [insertEntry]
    split
    · rename_i below
      simp only [List.map_cons, List.pairwise_cons, List.mem_cons]
      refine ⟨?_, ordered⟩
      rintro other (rfl | later)
      · exact below
      · exact String.lt_trans below (ordered.1 other later)
    · rename_i above
      split
      · rename_i same
        subst same
        simpa using ordered
      · rename_i differs
        simp only [List.map_cons, List.pairwise_cons]
        refine ⟨fun other found => ?_, ih ordered.2⟩
        rcases mem_keys_insertEntry found with rfl | later
        · by_cases less : k < other
          · exact less
          · exact absurd (String.le_antisymm (String.not_lt.1 above) (String.not_lt.1 less)) differs
        · exact ordered.1 other later

/-- Adds the entry, or replaces the one of the same key. -/
def insert (dict : Dict α) (key : String) (value : α) : Dict α :=
  ⟨insertEntry key value dict.entries, ascending_insertEntry key value _ dict.ascending⟩

/-- Keeps the entries whose key passes. -/
def filterKeys (keep : String → Bool) (dict : Dict α) : Dict α :=
  ⟨dict.entries.filter (fun entry => keep entry.1),
    dict.ascending.sublist (List.filter_sublist.map _)⟩

def erase (dict : Dict α) (key : String) : Dict α := dict.filterKeys (fun k => !decide (k = key))

/-- A later entry replaces an earlier one of the same key. -/
def ofList (list : List (String × α)) : Dict α :=
  list.foldl (fun dict entry => dict.insert entry.1 entry.2) empty

def map (f : α → β) (dict : Dict α) : Dict β :=
  ⟨dict.entries.map (fun entry => (entry.1, f entry.2)), by
    simpa [List.map_map, Function.comp_def] using dict.ascending⟩

theorem lookup_eq_none {key : String} {list : List (String × α)} :
    lookup key list = none ↔ key ∉ list.map (·.1) := by
  induction list with
  | nil => simp [lookup]
  | cons head rest ih =>
    obtain ⟨k, v⟩ := head
    by_cases same : k = key
    · simp [lookup, same]
    · simp [lookup, same, ih, Ne.symm same]

theorem mem_keys {dict : Dict α} {key : String} :
    key ∈ dict.keys ↔ (dict.find? key).isSome = true := by
  have absent : dict.find? key = none ↔ key ∉ dict.keys := lookup_eq_none
  rw [← Decidable.not_iff_not, ← absent, Option.not_isSome_iff_eq_none]

theorem length_keys (dict : Dict α) : dict.keys.length = dict.size := List.length_map _

theorem nodup_keys (dict : Dict α) : dict.keys.Nodup := by
  refine dict.ascending.imp ?_
  rintro first _ below rfl
  exact String.lt_irrefl first below

theorem lookup_insertEntry (key other : String) (value : α) (list : List (String × α)) :
    lookup other (insertEntry key value list) =
      if key = other then some value else lookup other list := by
  induction list with
  | nil => simp [insertEntry, lookup]
  | cons head rest ih =>
    obtain ⟨k, v⟩ := head
    simp only [insertEntry]
    split
    · by_cases same : key = other <;> simp [lookup, same]
    · split
      · rename_i same
        subst same
        by_cases hit : k = other <;> simp [lookup, hit]
      · rename_i differs
        simp only [lookup, ih]
        by_cases hit : k = other
        · have apart : key ≠ other := fun h => differs (hit.trans h.symm)
          simp [hit, apart]
        · simp [hit]

@[simp] theorem find?_empty (key : String) : (empty : Dict α).find? key = none := rfl

theorem find?_insert (dict : Dict α) (key other : String) (value : α) :
    (dict.insert key value).find? other = if key = other then some value else dict.find? other :=
  lookup_insertEntry key other value dict.entries

@[simp] theorem find?_insert_self (dict : Dict α) (key : String) (value : α) :
    (dict.insert key value).find? key = some value := by simp [find?_insert]

theorem lookup_filter (keep : String → Bool) (key : String) (list : List (String × α)) :
    lookup key (list.filter (fun entry => keep entry.1)) =
      if keep key then lookup key list else none := by
  induction list with
  | nil => simp [lookup]
  | cons head rest ih =>
    obtain ⟨k, v⟩ := head
    by_cases same : k = key
    · subst same
      by_cases pass : keep k <;> simp [lookup, pass, ih]
    · by_cases pass : keep k <;> simp [lookup, pass, same, ih]

theorem find?_filterKeys (keep : String → Bool) (dict : Dict α) (key : String) :
    (dict.filterKeys keep).find? key = if keep key then dict.find? key else none :=
  lookup_filter keep key dict.entries

theorem find?_erase (dict : Dict α) (key other : String) :
    (dict.erase key).find? other = if other = key then none else dict.find? other := by
  by_cases same : other = key <;> simp [erase, find?_filterKeys, same]

theorem lookup_map (f : α → β) (key : String) (list : List (String × α)) :
    lookup key (list.map (fun entry => (entry.1, f entry.2))) = (lookup key list).map f := by
  induction list with
  | nil => rfl
  | cons head rest ih => by_cases same : head.1 = key <;> simp [lookup, same, ih]

theorem find?_map (f : α → β) (dict : Dict α) (key : String) :
    (dict.map f).find? key = (dict.find? key).map f :=
  lookup_map f key dict.entries

theorem entries_ext {first second : List (String × α)}
    (firstOrdered : (first.map (·.1)).Pairwise (· < ·))
    (secondOrdered : (second.map (·.1)).Pairwise (· < ·))
    (same : ∀ key, lookup key first = lookup key second) : first = second := by
  induction first generalizing second with
  | nil =>
    cases second with
    | nil => rfl
    | cons head rest =>
      have := same head.1
      simp [lookup] at this
  | cons head rest ih =>
    obtain ⟨k, v⟩ := head
    cases second with
    | nil =>
      have := same k
      simp [lookup] at this
    | cons head' rest' =>
      obtain ⟨k', v'⟩ := head'
      simp only [List.map_cons, List.pairwise_cons] at firstOrdered secondOrdered
      have keysSame : k = k' := by
        by_cases h : k = k'
        · exact h
        · have foundLeft : k ∈ ((k', v') :: rest').map (·.1) := by
            have hit := same k
            simp only [lookup, if_true] at hit
            refine Decidable.not_not.1 fun absent => ?_
            have := lookup_eq_none.2 absent
            rw [lookup] at this
            rw [this] at hit
            cases hit
          have foundRight : k' ∈ ((k, v) :: rest).map (·.1) := by
            have hit := (same k').symm
            simp only [lookup, if_true] at hit
            refine Decidable.not_not.1 fun absent => ?_
            have := lookup_eq_none.2 absent
            rw [lookup] at this
            rw [this] at hit
            cases hit
          simp only [List.map_cons, List.mem_cons] at foundLeft foundRight
          have below := secondOrdered.1 k (foundLeft.resolve_left h)
          have above := firstOrdered.1 k' (foundRight.resolve_left (Ne.symm h))
          exact absurd below (String.lt_asymm above)
      subst keysSame
      have valuesSame := same k
      simp only [lookup, if_true, Option.some.injEq] at valuesSame
      subst valuesSame
      congr 1
      refine ih firstOrdered.2 secondOrdered.2 fun key => ?_
      by_cases hit : k = key
      · subst hit
        have absent : ∀ {list : List (String × α)}, (∀ other ∈ list.map (·.1), k < other) →
            lookup k list = none := fun later =>
          lookup_eq_none.2 fun found => String.lt_irrefl k (later k found)
        rw [absent firstOrdered.1, absent secondOrdered.1]
      · simpa [lookup, hit] using same key

/-- Look-ups determine a dictionary. -/
theorem ext {first second : Dict α} (same : ∀ key, first.find? key = second.find? key) :
    first = second := by
  have := entries_ext first.ascending second.ascending same
  cases first
  cases second
  cases this
  rfl

theorem erase_of_absent {dict : Dict α} {key : String} (absent : dict.find? key = none) :
    dict.erase key = dict := by
  refine ext fun other => ?_
  rw [find?_erase]
  split
  · next same => rw [same, absent]
  · rfl

theorem find?_foldl_insert (list : List (String × α)) (dict : Dict α) (key : String) :
    (list.foldl (fun dict entry => dict.insert entry.1 entry.2) dict).find? key =
      ((lookup key list.reverse).or (dict.find? key)) := by
  induction list generalizing dict with
  | nil => simp [lookup]
  | cons head rest ih =>
    have append : ∀ (list : List (String × α)) (last : String × α),
        lookup key (list ++ [last]) = (lookup key list).or (lookup key [last]) := by
      intro list last
      induction list with
      | nil => simp [lookup]
      | cons head rest ih =>
        by_cases hit : head.1 = key <;> simp [lookup, hit, ih]
    rw [List.foldl_cons, ih, List.reverse_cons, append, find?_insert]
    cases lookup key rest.reverse <;> by_cases hit : head.1 = key <;> simp [lookup, hit]

theorem find?_ofList (list : List (String × α)) (key : String) :
    (ofList list).find? key = lookup key list.reverse := by
  simp [ofList, find?_foldl_insert]

end Dict

end ClusterDesk

import ClusterDesk.Json.Field
import Mathlib.Data.List.Forall2

/-!
Trees that are values: nothing in them is unreadable, and the members of every object are in order
and named once. Main statements: the value of a tree is a value, and so is every part of it.
-/

namespace ClusterDesk

namespace Dict

variable {α : Type}

def Ascending (list : List (String × α)) : Prop := (list.map (·.1)).Pairwise (· < ·)

theorem Ascending.nodup {list : List (String × α)} (ascending : Ascending list) :
    (list.map (·.1)).Nodup := nodup_keys ⟨list, ascending⟩

theorem lookup_append (key : String) (first second : List (String × α)) :
    lookup key (first ++ second) = (lookup key first).or (lookup key second) := by
  induction first with
  | nil => rfl
  | cons head rest ih =>
    by_cases same : head.1 = key
    · simp [lookup, same]
    · simp [lookup, same, ih]

theorem lookup_eq_some_of_mem {key : String} {value : α} {list : List (String × α)}
    (distinct : (list.map (·.1)).Nodup) (member : (key, value) ∈ list) :
    lookup key list = some value := by
  induction list with
  | nil => cases member
  | cons head rest ih =>
    rw [List.map_cons, List.nodup_cons] at distinct
    rcases List.mem_cons.mp member with rfl | later
    · simp [lookup]
    · have other : head.1 ≠ key := by
        rintro rfl
        exact distinct.1 (List.mem_map.mpr ⟨_, later, rfl⟩)
      rw [lookup, if_neg other]
      exact ih distinct.2 later

theorem mem_of_lookup_eq_some {key : String} {value : α} {list : List (String × α)}
    (found : lookup key list = some value) : (key, value) ∈ list := by
  induction list with
  | nil => cases found
  | cons head rest ih =>
    rw [lookup] at found
    split at found
    · rename_i same
      cases found
      subst same
      exact List.mem_cons_self
    · exact List.mem_cons_of_mem _ (ih found)

theorem lookup_reverse {list : List (String × α)} (distinct : (list.map (·.1)).Nodup)
    (key : String) : lookup key list.reverse = lookup key list := by
  have reversed : (list.reverse.map (·.1)).Nodup := by
    rw [List.map_reverse]
    exact List.pairwise_reverse.mpr (distinct.imp Ne.symm)
  cases found : lookup key list with
  | none =>
    rw [lookup_eq_none] at found ⊢
    simpa using found
  | some value =>
    have member := mem_of_lookup_eq_some found
    exact lookup_eq_some_of_mem reversed (List.mem_reverse.mpr member)

/-- Entries that are in order already make up their dictionary as they are. -/
theorem entries_ofList {list : List (String × α)} (ascending : Ascending list) :
    (ofList list).entries = list := by
  refine entries_ext (ofList list).ascending ascending ?_
  intro key
  have found := find?_ofList list key
  rw [lookup_reverse ascending.nodup] at found
  exact found

theorem mem_of_mem_ofList {entry : String × α} {list : List (String × α)}
    (inside : entry ∈ (ofList list).entries) : entry ∈ list := by
  have found : (ofList list).find? entry.1 = some entry.2 :=
    lookup_eq_some_of_mem (Ascending.nodup (ofList list).ascending) inside
  rw [find?_ofList] at found
  exact List.mem_reverse.mp (mem_of_lookup_eq_some found)

end Dict

namespace Json

open Dict (Ascending lookup)

def IsValue (json : Json) : Prop := json.value? = some json

instance : DecidablePred IsValue := fun json =>
  inferInstanceAs (Decidable (json.value? = some json))

theorem values?_cons_eq_some {item : Json} {rest values : List Json}
    (valued : values? (item :: rest) = some values) :
    ∃ value others, item.value? = some value ∧ values? rest = some others ∧
      values = value :: others := by
  rw [values?] at valued
  split at valued
  · rename_i value others first later
    cases valued
    exact ⟨value, others, first, later, rfl⟩
  · cases valued

theorem memberValues?_cons_eq_some {name : String} {item : Json}
    {rest values : List (String × Json)}
    (valued : memberValues? ((name, item) :: rest) = some values) :
    ∃ value others, item.value? = some value ∧ memberValues? rest = some others ∧
      values = (name, value) :: others := by
  rw [memberValues?] at valued
  split at valued
  · rename_i value others first later
    cases valued
    exact ⟨value, others, first, later, rfl⟩
  · cases valued

theorem keys_memberValues? {members values : List (String × Json)}
    (valued : memberValues? members = some values) : values.map (·.1) = members.map (·.1) := by
  induction members generalizing values with
  | nil =>
    cases valued
    rfl
  | cons head rest ih =>
    obtain ⟨name, item⟩ := head
    obtain ⟨value, others, -, later, rfl⟩ := memberValues?_cons_eq_some valued
    simp [ih later]

theorem values?_eq_some_iff {items : List Json} :
    values? items = some items ↔ ∀ item ∈ items, IsValue item := by
  induction items with
  | nil => simp [values?]
  | cons item rest ih =>
    constructor
    · intro valued
      obtain ⟨value, others, first, later, same⟩ := values?_cons_eq_some valued
      cases same
      intro other member
      rcases List.mem_cons.mp member with rfl | inside
      · exact first
      · exact ih.mp later other inside
    · intro valued
      have first : item.value? = some item := valued item List.mem_cons_self
      have later := ih.mpr fun other inside => valued other (List.mem_cons_of_mem _ inside)
      rw [values?, first, later]

theorem memberValues?_eq_some_iff {members : List (String × Json)} :
    memberValues? members = some members ↔ ∀ member ∈ members, IsValue member.2 := by
  induction members with
  | nil => simp [memberValues?]
  | cons head rest ih =>
    obtain ⟨name, item⟩ := head
    constructor
    · intro valued
      obtain ⟨value, others, first, later, same⟩ := memberValues?_cons_eq_some valued
      cases same
      intro other member
      rcases List.mem_cons.mp member with rfl | inside
      · exact first
      · exact ih.mp later other inside
    · intro valued
      have first : item.value? = some item := valued (name, item) List.mem_cons_self
      have later := ih.mpr fun other inside => valued other (List.mem_cons_of_mem _ inside)
      rw [memberValues?, first, later]

theorem isValue_arr {items : List Json} :
    IsValue (arr items) ↔ ∀ item ∈ items, IsValue item := by
  rw [← values?_eq_some_iff, IsValue, value?]
  simp

theorem isValue_obj {members : List (String × Json)} :
    IsValue (obj members) ↔ Ascending members ∧ ∀ member ∈ members, IsValue member.2 := by
  rw [← memberValues?_eq_some_iff, IsValue, value?]
  constructor
  · intro valued
    obtain ⟨values, read, same⟩ := Option.map_eq_some_iff.mp valued
    have sorted : (Dict.ofList values).entries = members := obj.inj same
    have ascending : Ascending members := sorted ▸ (Dict.ofList values).ascending
    -- The values have the names of the members, so sorting them has changed nothing.
    have inOrder : Ascending values := by
      rw [Ascending, keys_memberValues? read]
      exact ascending
    rw [Dict.entries_ofList inOrder] at sorted
    exact ⟨ascending, sorted ▸ read⟩
  · rintro ⟨ascending, read⟩
    rw [read, Option.map_some, Dict.entries_ofList ascending]

mutual

theorem isValue_value? : ∀ {json value : Json}, json.value? = some value → IsValue value
  | null, _, valued | bool _, _, valued | int _, _, valued | float _, _, valued
  | str _, _, valued => by
    cases valued
    rfl
  | unreadable, _, valued => by cases valued
  | arr items, _, valued => by
    obtain ⟨values, read, rfl⟩ := Option.map_eq_some_iff.mp valued
    exact isValue_arr.mpr (isValue_values? read)
  | obj members, _, valued => by
    obtain ⟨values, read, rfl⟩ := Option.map_eq_some_iff.mp valued
    refine isValue_obj.mpr ⟨(Dict.ofList values).ascending, ?_⟩
    intro member inside
    exact isValue_memberValues? read member (Dict.mem_of_mem_ofList inside)

theorem isValue_values? : ∀ {items values : List Json}, values? items = some values →
    ∀ value ∈ values, IsValue value
  | [], _, valued => by
    cases valued
    simp
  | item :: rest, _, valued => by
    obtain ⟨value, others, first, later, rfl⟩ := values?_cons_eq_some valued
    intro other inside
    rcases List.mem_cons.mp inside with rfl | inside
    · exact isValue_value? first
    · exact isValue_values? later other inside

theorem isValue_memberValues? : ∀ {members values : List (String × Json)},
    memberValues? members = some values → ∀ member ∈ values, IsValue member.2
  | [], _, valued => by
    cases valued
    simp
  | (name, item) :: rest, _, valued => by
    obtain ⟨value, others, first, later, rfl⟩ := memberValues?_cons_eq_some valued
    intro other inside
    rcases List.mem_cons.mp inside with rfl | inside
    · exact isValue_value? first
    · exact isValue_memberValues? later other inside

end

theorem mapM_readMember_value? (members : List (String × Json)) :
    members.mapM (readMember value?) = memberValues? members := by
  induction members with
  | nil => rfl
  | cons head rest ih =>
    obtain ⟨name, item⟩ := head
    rw [List.mapM_cons, ih, memberValues?, readMember]
    cases item.value? with
    | none => rfl
    | some value => cases memberValues? rest <;> rfl

section Fields

variable {α : Type} {members : List (String × Json)}

theorem named_eq_lookup (distinct : (members.map (·.1)).Nodup) (name : String) :
    named name members = (lookup name members).toList := by
  induction members with
  | nil => rfl
  | cons head rest ih =>
    obtain ⟨other, item⟩ := head
    rw [List.map_cons, List.nodup_cons] at distinct
    have later := ih distinct.2
    by_cases same : other = name
    · subst same
      rw [Dict.lookup_eq_none.mpr distinct.1] at later
      simpa [named, lookup] using later
    · simpa [named, lookup, same] using later

/-- Where no name is repeated a field is read from the member of its name. -/
theorem once?_eq_lookup (distinct : (members.map (·.1)).Nodup) (name : String) (default : α)
    (read : Json → Option α) :
    once? name default read members = (lookup name members).elim (some default) read := by
  rw [once?, named_eq_lookup distinct]
  cases lookup name members <;> rfl

theorem text?_eq_some_iff {json : Json} {text : String} :
    text? json = some text ↔ json = .str text := by
  cases json <;> simp [text?]

theorem bool?_eq_some_iff {json : Json} {value : Bool} :
    bool? json = some value ↔ json = .bool value := by
  cases json <;> simp [bool?]

theorem mapM_eq_some_iff {read : Json → Option α} {items : List Json} {values : List α} :
    items.mapM read = some values ↔
      List.Forall₂ (fun item value => read item = some value) items values := by
  induction items generalizing values with
  | nil => simp [eq_comm]
  | cons item rest ih =>
    rw [List.mapM_cons]
    constructor
    · intro found
      obtain ⟨value, first, later⟩ := Option.bind_eq_some_iff.mp found
      obtain ⟨others, more, same⟩ := Option.bind_eq_some_iff.mp later
      cases same
      exact .cons first (ih.mp more)
    · rintro (_ | ⟨first, later⟩)
      rw [first, ih.mpr later]
      rfl

theorem list?_eq_some_iff {read : Json → Option α} {json : Json} {values : List α} :
    list? read json = some values ↔ ∃ items, json = .arr items ∧
      List.Forall₂ (fun item value => read item = some value) items values := by
  simp only [← mapM_eq_some_iff]
  cases json <;> simp [list?]

end Fields

/-- A step into a tree: to the last member of a name, or to an item of an array. -/
inductive Step where
  | member (name : String)
  | item (index : Nat)
  deriving DecidableEq

/-- What is found at a place in a tree. -/
def at? : List Step → Json → Option Json
  | [], json => some json
  | .member name :: rest, json => (json.member? name).bind (at? rest)
  | .item index :: rest, .arr items => items[index]?.bind (at? rest)
  | .item _ :: _, _ => none

/-- Every part of a value is a value. -/
theorem IsValue.at? {path : List Step} {json part : Json} (valued : IsValue json)
    (found : json.at? path = some part) : IsValue part := by
  induction path generalizing json with
  | nil =>
    cases found
    exact valued
  | cons step rest ih =>
    cases step with
    | member name =>
      obtain ⟨inner, there, later⟩ := Option.bind_eq_some_iff.mp found
      cases json with
      | obj members =>
        have inside := List.mem_reverse.mp (Dict.mem_of_lookup_eq_some there)
        exact ih ((isValue_obj.mp valued).2 _ inside) later
      | _ => cases there
    | item index =>
      cases json with
      | arr items =>
        obtain ⟨inner, there, later⟩ := Option.bind_eq_some_iff.mp found
        exact ih (isValue_arr.mp valued inner (List.mem_of_getElem? there)) later
      | _ => cases found

end Json

end ClusterDesk

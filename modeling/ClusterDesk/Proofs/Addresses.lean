import ClusterDesk.Rest
import Mathlib.Data.List.Basic

/-!
The addresses of calls about config maps. An address is put together from the namespace and the name
as they are given, so a slash in them counts as one of its own. Main statement:
`addresses_meet_iff`, on when two calls have one address: when they are about the same, or when a
namespace goes on where the name of the other ends.
-/

namespace ClusterDesk.Rest

/-- What a call is about: a resource, or without a name all of them, in a namespace if there is
one. -/
structure Subject where
  scope : Option String
  name : Option String
  deriving DecidableEq, Repr

namespace Subject

def ofCall {Raw : Type} : Call Raw → Subject
  | .get id | .secondary id | .update id _ | .delete id => ⟨id.scope, some id.name⟩
  | .list scope | .create scope _ => ⟨scope, none⟩

/-- How an address ends. -/
def ending (subject : Subject) : String := subject.name.elim "" ("/" ++ ·)

/-- The namespace of the inner one goes on where that of the outer one ends, with the kind of
resource in the place of a part of the name. -/
def Engulfs (outer inner : Subject) : Prop :=
  ∃ scope between, outer.scope = some scope ∧
    inner.scope = some (scope ++ "/configmaps" ++ between) ∧
    outer.ending = between ++ "/configmaps" ++ inner.ending

/-- There is no slash in the namespace. -/
def FlatScope (subject : Subject) : Prop :=
  ∀ scope, subject.scope = some scope → '/' ∉ scope.toList

/-- There is a name, without a slash. -/
def FlatName (subject : Subject) : Prop :=
  ∃ name, subject.name = some name ∧ '/' ∉ name.toList

end Subject

section Texts

variable {mark : Char} {word first second ahead behind : List Char}

/-- A word that begins with a mark it has nowhere else meets itself as a whole or not at all. -/
theorem word_append_eq (unmarked : mark ∉ word)
    (same : mark :: word ++ ahead = first ++ (mark :: word ++ behind)) :
    (first = [] ∧ ahead = behind) ∨
      ∃ between, first = mark :: word ++ between ∧ ahead = between ++ (mark :: word ++ behind) := by
  obtain ⟨between, rfl, rest⟩ | ⟨shared, whole, rest⟩ := List.append_eq_append_iff.mp same
  · exact .inr ⟨between, rfl, rest⟩
  · cases first with
    | nil =>
      subst whole
      exact .inl ⟨rfl, (List.append_cancel_left rest).symm⟩
    | cons letter first =>
      cases shared with
      | nil =>
        rw [List.append_nil] at whole
        exact .inr ⟨[], whole.symm.trans (List.append_nil _).symm, rest.symm⟩
      | cons again shared =>
        -- Where the second word begins, the first one would have its mark once more.
        have marked : again = mark := (List.cons.inj rest).1.symm
        have inside : word = first ++ again :: shared := (List.cons.inj whole).2
        rw [inside, marked] at unmarked
        exact absurd (List.mem_append_right first List.mem_cons_self) unmarked

/-- Two texts around such a word are one text when their parts are the same, or when the word stands
twice and each of them is taken apart at another place. -/
theorem around_word_eq_iff (unmarked : mark ∉ word) :
    first ++ (mark :: word ++ ahead) = second ++ (mark :: word ++ behind) ↔
      (first = second ∧ ahead = behind) ∨
      (∃ between, second = first ++ (mark :: word ++ between) ∧
        ahead = between ++ (mark :: word ++ behind)) ∨
      ∃ between, first = second ++ (mark :: word ++ between) ∧
        behind = between ++ (mark :: word ++ ahead) := by
  constructor
  · intro same
    obtain ⟨more, rfl, rest⟩ | ⟨more, rfl, rest⟩ := List.append_eq_append_iff.mp same
    · obtain ⟨rfl, rfl⟩ | ⟨between, rfl, ends⟩ := word_append_eq unmarked rest
      · exact .inl ⟨(List.append_nil _).symm, rfl⟩
      · exact .inr (.inl ⟨between, rfl, ends⟩)
    · obtain ⟨rfl, rfl⟩ | ⟨between, rfl, ends⟩ := word_append_eq unmarked rest
      · exact .inl ⟨List.append_nil _, rfl⟩
      · exact .inr (.inr ⟨between, rfl, ends⟩)
  · rintro (⟨rfl, rfl⟩ | ⟨between, rfl, rfl⟩ | ⟨between, rfl, rfl⟩)
    · rfl
    · simp only [List.append_assoc]
    · simp only [List.append_assoc]

end Texts

namespace Subject

/-- The address at which calls about the subject are put. -/
def address (subject : Subject) : String := collection Entries subject.scope ++ subject.ending

theorem address_form (call : Call (Manifest Entries)) :
    (form call).address = (ofCall call).address := by
  cases call with
  | get id | secondary id | update id payload | delete id => exact String.append_assoc ..
  | list scope | create scope payload => exact (String.append_empty ..).symm

theorem ending_injective {first second : Option String}
    (same : first.elim "" ("/" ++ ·) = second.elim "" ("/" ++ ·)) : first = second := by
  have letters := congrArg String.toList same
  cases first <;> cases second
  · rfl
  · simp at letters
  · simp at letters
  · simpa [String.toList_inj] using letters

variable {first second outer inner : Subject} {scope other : String}

theorem eq_iff_parts :
    first = second ↔ first.scope = second.scope ∧ first.ending = second.ending := by
  constructor
  · rintro rfl
    exact ⟨rfl, rfl⟩
  · obtain ⟨scope, name⟩ := first
    rintro ⟨rfl, ends⟩
    exact congrArg (Subject.mk _) (ending_injective ends)

theorem toList_address_within (named : first.scope = some scope) :
    first.address.toList = "/api/v1/namespaces/".toList ++
      (scope.toList ++ ('/' :: "configmaps".toList ++ first.ending.toList)) := by
  have kind : Kind.plural Entries = "configmaps" := rfl
  simp [address, collection, named, kind, String.toList_append]

theorem toList_address_everywhere (unnamed : first.scope = none) :
    first.address.toList = "/api/v1/".toList ++ ("configmaps".toList ++ first.ending.toList) := by
  have kind : Kind.plural Entries = "configmaps" := rfl
  simp [address, collection, unnamed, kind, String.toList_append]

theorem engulfs_iff (outside : outer.scope = some scope) (inside : inner.scope = some other) :
    outer.Engulfs inner ↔
      ∃ between : List Char,
        other.toList = scope.toList ++ ('/' :: "configmaps".toList ++ between) ∧
          outer.ending.toList =
            between ++ ('/' :: "configmaps".toList ++ inner.ending.toList) := by
  constructor
  · rintro ⟨_, between, same, further, ends⟩
    cases outside.symm.trans same
    cases inside.symm.trans further
    exact ⟨between.toList, by simp, by simp [ends]⟩
  · rintro ⟨between, further, ends⟩
    refine ⟨scope, String.ofList between, outside, inside.trans (congrArg some ?_), ?_⟩
    · apply String.toList_injective
      simp [further]
    · apply String.toList_injective
      simp [ends]

theorem address_eq_iff :
    first.address = second.address ↔
      first = second ∨ first.Engulfs second ∨ second.Engulfs first := by
  have apart {outer inner : Subject} (everywhere : outer.scope = none ∨ inner.scope = none) :
      ¬ outer.Engulfs inner := by
    rintro ⟨scope, between, outside, inside, -⟩
    rcases everywhere with unnamed | unnamed
    · cases outside.symm.trans unnamed
    · cases inside.symm.trans unnamed
  rw [← String.toList_inj, eq_iff_parts]
  cases one : first.scope with
  | none =>
    rw [toList_address_everywhere one]
    cases two : second.scope with
    | none =>
      rw [toList_address_everywhere two, List.append_right_inj, List.append_right_inj,
        String.toList_inj]
      simp [apart (.inl one), apart (.inl two)]
    | some other =>
      -- With and without a namespace, addresses part at the first letter after the version.
      rw [toList_address_within two]
      simp [apart (.inl one), apart (.inr one)]
  | some scope =>
    rw [toList_address_within one]
    cases two : second.scope with
    | none =>
      rw [toList_address_everywhere two]
      simp [apart (.inl two), apart (.inr two)]
    | some other =>
      rw [toList_address_within two, List.append_right_inj, around_word_eq_iff (by decide),
        engulfs_iff one two, engulfs_iff two one, String.toList_inj, String.toList_inj,
        Option.some.injEq]

theorem Engulfs.slash_mem_scope (engulfs : outer.Engulfs inner) :
    ∃ scope, inner.scope = some scope ∧ '/' ∈ scope.toList := by
  obtain ⟨scope, between, -, inside, -⟩ := engulfs
  exact ⟨_, inside, by simp⟩

/-- With the slash before it, the name of the outer one has two slashes if the inner one has a
name. -/
theorem Engulfs.slash_mem_name (engulfs : outer.Engulfs inner) {name innerName : String}
    (outside : outer.name = some name) (inside : inner.name = some innerName) :
    '/' ∈ name.toList := by
  obtain ⟨scope, between, -, -, ends⟩ := engulfs
  simp only [ending, outside, inside, Option.elim_some] at ends
  have letters := congrArg (List.count '/' ·.toList) ends
  have slash : List.count '/' "/".toList = 1 := rfl
  have kind : List.count '/' "/configmaps".toList = 1 := rfl
  simp only [String.toList_append, List.count_append, slash, kind] at letters
  have more : 0 < List.count '/' name.toList := by omega
  exact List.count_pos_iff.mp more

theorem not_engulfs
    (flat : (outer.FlatScope ∧ inner.FlatScope) ∨ (outer.FlatName ∧ inner.FlatName)) :
    ¬ outer.Engulfs inner := by
  intro engulfs
  rcases flat with ⟨-, flat⟩ | ⟨⟨name, outside, flat⟩, innerName, inside, -⟩
  · obtain ⟨scope, inside, slash⟩ := engulfs.slash_mem_scope
    exact flat scope inside slash
  · exact flat (engulfs.slash_mem_name outside inside)

end Subject

open Subject (ofCall)

/-- Two calls are put at one address exactly if they are about the same, or if of one of them the
namespace goes on where the other has its kind and a part of its name. Neither happens to calls
about different things whose namespaces have no slash, nor to those about resources whose names have
none. -/
theorem addresses_meet_iff (first second : Call (Manifest Entries)) :
    let same := (form first).address = (form second).address
    let one := ofCall first
    let two := ofCall second
    (same ↔ one = two ∨ one.Engulfs two ∨ two.Engulfs one) ∧
      ((one.FlatScope ∧ two.FlatScope) ∨ (one.FlatName ∧ two.FlatName) → (same ↔ one = two)) := by
  intro same one two
  have meets : same ↔ one = two ∨ one.Engulfs two ∨ two.Engulfs one := by
    unfold same
    rw [Subject.address_form, Subject.address_form]
    exact Subject.address_eq_iff
  refine ⟨meets, fun flat => ?_⟩
  have ahead := Subject.not_engulfs flat
  have behind := Subject.not_engulfs (flat.imp And.symm And.symm)
  rw [meets, or_iff_left (not_or_intro ahead behind)]

/-- A name with slashes in a namespace without; and a name that is that of the kind. -/
theorem addresses_meet_iff_flat :
    let deep : Call (Manifest Entries) := .get (.namespaced "prod" "app/configmaps/web")
    let plain : Call (Manifest Entries) := .delete (.namespaced "prod" "configmaps")
    let all : Call (Manifest Entries) := .list (some "prod")
    (ofCall deep).FlatScope ∧ (ofCall plain).FlatScope ∧ (ofCall all).FlatScope ∧
      (form deep).address ≠ (form plain).address ∧ (form plain).address ≠ (form all).address := by
  intro deep plain all
  have flat {call : Call (Manifest Entries)} (named : (ofCall call).scope = some "prod") :
      (ofCall call).FlatScope := by
    intro scope same
    cases named.symm.trans same
    decide
  refine ⟨flat rfl, flat rfl, flat rfl, ?_, ?_⟩
  · rw [ne_eq, (addresses_meet_iff deep plain).2 (.inl ⟨flat rfl, flat rfl⟩)]
    decide
  · rw [ne_eq, (addresses_meet_iff plain all).2 (.inl ⟨flat rfl, flat rfl⟩)]
    decide

/-- A config map is deleted at the address of another one in another namespace, and read at the
address at which those of a third namespace are listed. -/
theorem addresses_crossed :
    let outer := ResourceId.namespaced "a" "b/configmaps/c"
    let inner := ResourceId.namespaced "a/configmaps/b" "c"
    outer ≠ inner ∧
      (form (.delete outer : Call (Manifest Entries))).address =
        (form (.delete inner : Call (Manifest Entries))).address ∧
      (form (.get (.namespaced "a" "configmaps") : Call (Manifest Entries))).address =
        (form (.list (some "a/configmaps") : Call (Manifest Entries))).address := by
  decide

end ClusterDesk.Rest

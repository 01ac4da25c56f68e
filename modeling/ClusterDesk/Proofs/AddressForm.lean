import ClusterDesk.Url.Parser
import Mathlib.Data.List.Basic

/-!
The form of addresses that were read from text: what can stand in their paths, and which paths go
with a host. Escapes bring no slash with them, so a slash in a path always parts two segments. Main
statement: `Formed.of_parse`.
-/

namespace ClusterDesk

namespace Percent

theorem slash_not_mem_escapeByte (byte : UInt8) : '/' ∉ escapeByte byte := by
  have digits : ∀ n < 16, (Hex.digit n).toUpper ≠ '/' := by decide
  have bound := byte.toNat_lt
  have upper := digits (byte.toNat / 16) (by omega)
  have lower := digits (byte.toNat % 16) (by omega)
  simp [escapeByte, Hex.encodeByte, upper.symm, lower.symm]

variable {special : String} {text : List Char}

theorem slash_not_mem_encode (free : '/' ∉ text) : '/' ∉ encode special text := by
  intro slash
  obtain ⟨c, member, written⟩ := List.mem_flatMap.mp slash
  split at written
  · obtain ⟨byte, -, escaped⟩ := List.mem_flatMap.mp written
    exact slash_not_mem_escapeByte byte escaped
  · rw [List.mem_singleton.mp written] at free
    exact free member

theorem encode_singleton_ne_nil (c : Char) : Utf8.encode (String.singleton c) ≠ [] := by
  intro bare
  have bytes : (String.singleton c).toByteArray = "".toByteArray :=
    ByteArray.ext (Array.toList_inj.mp bare)
  have empty := congrArg String.toList (String.toByteArray_inj.mp bytes)
  simp at empty

/-- Only a text that begins with a slash is written with one at its beginning. -/
theorem head?_encode_ne (other : text.head? ≠ some '/') :
    (encode special text).head? ≠ some '/' := by
  cases text with
  | nil => exact other
  | cons c rest =>
    unfold encode
    rw [List.flatMap_cons]
    split
    · cases bytes : Utf8.encode (String.singleton c) with
      | nil => exact absurd bytes (encode_singleton_ne_nil c)
      | cons byte more => simp [escapeByte]
    · exact other

end Percent

namespace Url

/-- A slash in the text of a path parts two segments, and without segments there is none at the
beginning. -/
def Path.Separated : Path → Prop
  | .rootless text => text.toList.head? ≠ some '/'
  | .rooted segments => ∀ segment ∈ segments, '/' ∉ segment.toList

/-- A path has segments, but for an empty one behind a host; one without belongs to no host. -/
structure Formed (url : Url) : Prop where
  separated : url.path.Separated
  hosted : ∀ text, url.path = .rootless text → url.host = none
  unhosted : url.path = .rooted [] → url.host ≠ none

section Segments

variable {file last special : Bool} {path : List String} {segment : List Char}

/-- None of the segments has a slash. -/
def Flat (path : List String) : Prop := ∀ segment ∈ path, '/' ∉ segment.toList

theorem Flat.append {added : String} (flat : Flat path) (free : '/' ∉ added.toList) :
    Flat (path ++ [added]) := by
  intro other member
  rcases List.mem_append.mp member with old | new
  · exact flat other old
  · rw [List.mem_singleton.mp new]
    exact free

theorem Flat.parent (flat : Flat path) : Flat (parent file path) := by
  unfold Url.parent
  split
  · exact flat
  · exact fun other member => flat other (List.dropLast_subset path member)

theorem Flat.enter (flat : Flat path) (free : '/' ∉ segment) :
    Flat (enter file last path segment) := by
  have blank : '/' ∉ "".toList := by decide
  unfold Url.enter
  split
  · split
    · exact flat.parent.append blank
    · exact flat.parent
  · split
    · split
      · exact flat.append blank
      · exact flat
    · split
      · refine flat.append ?_
        rw [String.toList_ofList, List.mem_append]
        rintro (letter | colon)
        · exact free (List.mem_of_mem_take letter)
        · exact absurd colon (by decide)
      · refine flat.append ?_
        rw [String.toList_ofList]
        exact Percent.slash_not_mem_encode free

theorem Flat.enterAll {pieces : List (List Char)} (flat : Flat path)
    (free : ∀ piece ∈ pieces, '/' ∉ piece) : Flat (enterAll file path pieces) := by
  fun_induction Url.enterAll file path pieces with
  | case1 path => exact flat
  | case2 path segment => exact flat.enter (free segment List.mem_cons_self)
  | case3 path segment rest more ih =>
    obtain ⟨first, others⟩ := List.forall_mem_cons.mp free
    exact ih (flat.enter first) others

theorem enter_last_ne_nil : enter file true path segment ≠ [] := by
  simp only [enter, if_true]
  split
  · exact List.concat_ne_nil _ _
  · split
    · exact List.concat_ne_nil _ _
    · split <;> exact List.concat_ne_nil _ _

theorem enterAll_ne_nil {pieces : List (List Char)} (some : pieces ≠ []) :
    enterAll file path pieces ≠ [] := by
  fun_induction enterAll file path pieces with
  | case1 path => exact absurd rfl some
  | case2 path segment => exact enter_last_ne_nil
  | case3 path segment rest more ih => exact ih more

variable {scheme : String} {text : List Char}

theorem flat_segments : Flat (segments scheme text) :=
  Flat.enterAll (fun _ member => (List.not_mem_nil member).elim)
    (Split.separator_not_mem '/' _)

theorem segments_ne_nil : segments scheme text ≠ [] := by
  refine enterAll_ne_nil fun none => ?_
  have count := Split.length_pieces '/'
    (if isSpecial scheme then text.map fun c => if c = '\\' then '/' else c else text)
  unfold segmentsOf at none
  rw [none] at count
  cases count

theorem flat_filePath : Flat (filePath text) := by
  unfold filePath
  split
  · intro segment member
    rw [List.mem_singleton.mp member]
    decide
  · intro segment member
    exact flat_segments segment ((List.dropWhile_sublist _).subset member)

theorem filePath_ne_nil : filePath text ≠ [] := by
  unfold filePath
  split
  · exact List.cons_ne_nil _ _
  · next filled => exact filled

end Segments

/-- Whatever can be read has the property. -/
def Yields (property : Url → Prop) (result : Except Fault Url) : Prop :=
  ∀ url, result = .ok url → property url

section Yields

variable {α : Type} {property : Url → Prop} {fault : Fault}

theorem yields_pure {url : Url} (holds : property url) : Yields property (pure url) := by
  rintro _ ⟨⟩
  exact holds

theorem yields_bind {first : Except Fault α} {next : α → Except Fault Url}
    (each : ∀ value, Yields property (next value)) : Yields property (first >>= next) := by
  cases first with
  | error fault => exact fun url done => nomatch done
  | ok value => exact each value

/-- A condition under which reading fails. -/
theorem yields_guard {condition : Prop} {_ : Decidable condition} {next : PUnit → Except Fault Url}
    (rest : Yields property (next ())) :
    Yields property (if condition then throw fault >>= next else next ()) := by
  split
  · exact yields_bind fun _ => rest
  · exact rest

theorem yields_either {condition : Prop} {_ : Decidable condition} {first second : Except Fault α}
    {next : α → Except Fault Url} (each : ∀ value, Yields property (next value)) :
    Yields property (if condition then first >>= next else second >>= next) := by
  split
  · exact yields_bind each
  · exact yields_bind each

end Yields

variable {scheme : String} {text : List Char}

theorem yields_hosted :
    Yields (fun url => url.host ≠ none ∧ ∃ rest, url.path = hostedPath scheme rest)
      (hosted scheme text) := by
  unfold hosted
  refine yields_guard ?_
  refine yields_guard ?_
  refine yields_either fun host => ?_
  refine yields_guard ?_
  refine yields_bind fun port => ?_
  refine yields_guard ?_
  exact yields_pure ⟨Option.some_ne_none host, _, rfl⟩

theorem yields_file :
    Yields (fun url => url.host ≠ none ∧ ∃ rest, url.path = .rooted (filePath rest))
      (file text) := by
  have bare (query fragment : Option String) (rest : List Char) :
      Yields (fun url => url.host ≠ none ∧ ∃ rest, url.path = .rooted (filePath rest))
        (pure
          { scheme := "file", host := some (.name ""), path := .rooted (filePath rest),
            query := query, fragment := fragment }) :=
    yields_pure ⟨Option.some_ne_none _, rest, rfl⟩
  unfold file
  dsimp only
  split
  · split
    · split
      · exact bare _ _ _
      · refine yields_either fun host => ?_
        exact yields_pure ⟨Option.some_ne_none _, _, rfl⟩
    · exact bare _ _ _
  · exact bare _ _ _

theorem formed_of_filled {url : Url} {segments : List String} (path : url.path = .rooted segments)
    (flat : Flat segments) (filled : segments ≠ []) : Formed url := by
  refine ⟨?_, ?_, ?_⟩
  · rw [path]
    exact flat
  · rw [path]
    exact fun _ same => nomatch same
  · rw [path]
    exact fun same => absurd (Path.rooted.inj same) filled

theorem formed_hosted : Yields Formed (hosted scheme text) := by
  intro url read
  obtain ⟨placed, rest, path⟩ := yields_hosted url read
  unfold hostedPath at path
  split at path
  · refine ⟨?_, ?_, fun _ => placed⟩
    · rw [path]
      exact fun _ member => (List.not_mem_nil member).elim
    · rw [path]
      exact fun _ same => nomatch same
  · exact formed_of_filled path flat_segments segments_ne_nil

theorem formed_file : Yields Formed (file text) := by
  intro url read
  obtain ⟨-, rest, path⟩ := yields_file url read
  exact formed_of_filled path flat_filePath filePath_ne_nil

theorem path_unhosted (scheme : String) (text : List Char) :
    (∃ rest, (unhosted scheme text).path = .rooted (segments scheme rest)) ∨
      ∃ start, start.head? ≠ some '/' ∧
        (unhosted scheme text).path = .rootless (String.ofList (Percent.encode "" start)) := by
  unfold unhosted
  dsimp only
  split
  · exact .inl ⟨_, rfl⟩
  · next other =>
    refine .inr ⟨_, fun slash => ?_, rfl⟩
    obtain ⟨rest, same⟩ := List.head?_eq_some_iff.mp slash
    exact other rest same

theorem formed_unhosted : Formed (unhosted scheme text) := by
  obtain ⟨rest, path⟩ | ⟨start, other, path⟩ := path_unhosted scheme text
  · exact formed_of_filled path flat_segments segments_ne_nil
  · refine ⟨?_, fun _ _ => rfl, ?_⟩
    · rw [path]
      show (String.ofList _).toList.head? ≠ some '/'
      rw [String.toList_ofList]
      exact Percent.head?_encode_ne other
    · rw [path]
      exact fun same => nomatch same

/-- An address that was read has its slashes where they part something. -/
theorem Formed.of_parse {text : String} {url : Url} (read : parse text = .ok url) : Formed url := by
  unfold parse at read
  split at read
  · cases read
  · split at read
    · exact formed_file url read
    · split at read
      · exact formed_hosted url read
      · split at read
        · exact formed_hosted url read
        · cases read
          exact formed_unhosted

end Url

end ClusterDesk

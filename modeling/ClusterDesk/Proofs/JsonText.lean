import Mathlib.Data.List.DropRight
import ClusterDesk.Json.Parser
import ClusterDesk.Json.Printer

/-!
JSON text is read as it was written: a string from its quoted form, and an object whose members are
texts and flags from its lines. Main statement: `pretty_read`.
-/

namespace ClusterDesk.Json

open Utf8 (Piece)

private theorem elements?_plain {c : Char} {rest : List Piece} (quote : c ≠ '"') (slash : c ≠ '\\')
    (visible : ¬ c.toNat < 32) :
    elements? (.char c :: rest) =
      (elements? rest).map fun (tail, after) => (.char c :: tail, after) := by
  have other : ¬ (c = '\\' ∨ c.toNat < 32) := not_or.mpr ⟨slash, visible⟩
  rw [elements?]
  · rw [if_neg quote, if_neg other]
  · intro _ _ _ _ _ _ same
    exact slash same
  · intro _ _ _ same
    exact slash same

private theorem elements?_short {c plain : Char} {rest : List Piece}
    (known : escaped? c = some plain) (other : c ≠ 'u') :
    elements? (.char '\\' :: .char c :: rest) =
      (elements? rest).map fun (tail, after) => (.char plain :: tail, after) := by
  have short : ∀ d tail, Piece.char c :: rest ≠ .char 'u' :: .char d :: tail := by
    intro d tail same
    exact other (Piece.char.inj (List.cons.inj same).1)
  rw [elements?]
  · rw [known]
  · simp [other]

private theorem elements?_unit {upper lower : Nat} (rest : List Piece) (high : upper < 16)
    (low : lower < 16) :
    elements? (.char '\\' :: .char 'u' :: .char '0' :: .char '0' :: .char (Hex.digit upper) ::
        .char (Hex.digit lower) :: rest) =
      (elements? rest).map fun (tail, after) => (.unit (upper * 16 + lower) :: tail, after) := by
  have zero : Hex.digitValue? '0' = some 0 := by decide
  rw [elements?]
  simp [zero, Hex.digitValue?_digit upper high, Hex.digitValue?_digit lower low]

private theorem characters?_unit {code : Nat} {rest : List Element} (small : code < 32) :
    characters? (.unit code :: rest) = (characters? rest).map (Char.ofNat code :: ·) := by
  have paired : ¬ (0xd800 ≤ code ∧ code < 0xdc00) := by omega
  have second : ¬ (0xdc00 ≤ code ∧ code < 0xe000) := by omega
  have lone : ¬ (0xd800 ≤ code ∧ code < 0xe000) := by omega
  cases rest with
  | nil => simp [characters?, lone]
  | cons element others =>
    cases element with
    | char c => simp [characters?, lone]
    | unit low =>
      conv => lhs; rw [characters?, if_neg paired, if_neg second]
    | broken => simp [characters?, lone]

/-- The three ways in which a character is written. -/
theorem escape_form (c : Char) :
    (∃ d, escaped? d = some c ∧ d ≠ 'u' ∧ escape c = ['\\', d]) ∨
    (c.toNat < 32 ∧ escape c = '\\' :: 'u' :: '0' :: '0' :: Hex.encodeByte c.toNat.toUInt8) ∨
    (c ≠ '"' ∧ c ≠ '\\' ∧ ¬ c.toNat < 32 ∧ escape c = [c]) := by
  by_cases quote : c = '"'
  · subst quote
    exact .inl ⟨'"', rfl, by decide, rfl⟩
  by_cases slash : c = '\\'
  · subst slash
    exact .inl ⟨'\\', rfl, by decide, rfl⟩
  by_cases line : c = '\n'
  · subst line
    exact .inl ⟨'n', rfl, by decide, rfl⟩
  by_cases back : c = '\r'
  · subst back
    exact .inl ⟨'r', rfl, by decide, rfl⟩
  by_cases tab : c = '\t'
  · subst tab
    exact .inl ⟨'t', rfl, by decide, rfl⟩
  by_cases erase : c = '\x08'
  · subst erase
    exact .inl ⟨'b', rfl, by decide, rfl⟩
  by_cases feed : c = '\x0c'
  · subst feed
    exact .inl ⟨'f', rfl, by decide, rfl⟩
  by_cases control : c.toNat < 32
  · refine .inr (.inl ⟨control, ?_⟩)
    simp [escape, quote, slash, line, back, tab, erase, feed, control]
  · refine .inr (.inr ⟨quote, slash, control, ?_⟩)
    simp [escape, quote, slash, line, back, tab, erase, feed, control]

/-- A character is read back from what it is escaped to, whatever follows. -/
theorem escape_read (c : Char) : ∃ element,
    (∀ rest, elements? ((escape c).map .char ++ rest) =
      (elements? rest).map fun (tail, after) => (element :: tail, after)) ∧
    ∀ others, characters? (element :: others) = (characters? others).map (c :: ·) := by
  rcases escape_form c with ⟨d, known, other, form⟩ | ⟨control, form⟩ |
    ⟨quote, slash, visible, form⟩
  · refine ⟨.char c, fun rest => ?_, fun others => by rw [characters?]⟩
    rw [form]
    exact elements?_short known other
  · have code : c.toNat.toUInt8.toNat = c.toNat := UInt8.toNat_ofNat_of_lt' (by
      have size : UInt8.size = 256 := rfl
      omega)
    refine ⟨.unit c.toNat, fun rest => ?_, fun others => ?_⟩
    · have whole : c.toNat / 16 * 16 + c.toNat % 16 = c.toNat := by omega
      have high : c.toNat / 16 < 16 := by omega
      have low : c.toNat % 16 < 16 := by omega
      have read := elements?_unit rest high low
      rw [whole] at read
      rw [form, Hex.encodeByte, code]
      exact read
    · rw [characters?_unit control, Char.ofNat_toNat]
  · refine ⟨.char c, fun rest => ?_, fun others => by rw [characters?]⟩
    rw [form]
    exact elements?_plain quote slash visible

theorem escaped_read (text : List Char) : ∃ elements,
    (∀ rest, elements? ((text.flatMap escape).map .char ++ .char '"' :: rest) =
      some (elements, rest)) ∧
    characters? elements = some text := by
  induction text with
  | nil =>
    refine ⟨[], fun rest => ?_, rfl⟩
    simp [elements?]
  | cons c text ih =>
    obtain ⟨tail, later, same⟩ := ih
    obtain ⟨element, first, character⟩ := escape_read c
    refine ⟨element :: tail, fun rest => ?_, ?_⟩
    · rw [List.flatMap_cons, List.map_append, List.append_assoc, first, later]
      rfl
    · rw [character, same]
      rfl

/-- A quoted text is read up to its closing quote. -/
theorem quoted_read (text : String) : ∃ elements, textOf? elements = some text ∧
    ∀ rest, ∃ start, (quoted text).map Piece.char ++ rest = .char '"' :: start ∧
      elements? start = some (elements, rest) := by
  obtain ⟨elements, read, same⟩ := escaped_read text.toList
  refine ⟨elements, ?_, fun rest => ⟨_, ?_, read rest⟩⟩
  · rw [textOf?, same, Option.map_some, String.ofList_toList]
  · simp [quoted]

/-- A text or a flag, written the same at every depth. -/
inductive Leaf : Json → Prop
  | str (text : String) : Leaf (.str text)
  | bool (flag : Bool) : Leaf (.bool flag)

theorem skipBlanks_blank {piece : Piece} {rest : List Piece} (blank : isBlank piece) :
    skipBlanks (piece :: rest) = skipBlanks rest :=
  List.dropWhile_cons_of_pos blank

theorem skipBlanks_start {piece : Piece} {rest : List Piece} (solid : isBlank piece = false) :
    skipBlanks (piece :: rest) = piece :: rest :=
  List.dropWhile_cons_of_neg (by simp [solid])

theorem skipBlanks_indent (level : Nat) (rest : List Piece) :
    skipBlanks ((indent level).map .char ++ rest) = skipBlanks rest := by
  rw [indent, List.map_cons, List.cons_append, skipBlanks_blank rfl]
  induction 2 * level with
  | zero => rfl
  | succ width ih =>
    rw [List.replicate_succ, List.map_cons, List.cons_append, skipBlanks_blank rfl, ih]

theorem literal_append (word : String) (rest : List Piece) :
    literal word (word.toList.map .char ++ rest) = some rest := by
  have front : (word.toList.map Piece.char).isPrefixOf (word.toList.map .char ++ rest) = true :=
    List.isPrefixOf_iff_prefix.mpr (List.prefix_append _ _)
  rw [literal, if_pos front, List.drop_left]

theorem leaf_read {json : Json} (leaf : Leaf json) (fuel depth level : Nat) (rest : List Piece) :
    value (fuel + 1) depth (.char ' ' :: ((prettyChars level json).map .char ++ rest)) =
      some (json, rest) := by
  cases leaf with
  | str text =>
    have shown : prettyChars level (.str text) = quoted text := by simp [prettyChars, scalar]
    obtain ⟨elements, same, read⟩ := quoted_read text
    obtain ⟨start, opened, closed⟩ := read rest
    rw [shown, opened, value, skipBlanks_blank rfl, skipBlanks_start rfl]
    simp only [closed, same, Option.map_some]
  | bool flag =>
    rw [value, skipBlanks_blank rfl]
    cases flag with
    | true =>
      have shown : prettyChars level (.bool true) = 't' :: "rue".toList := by
        simp [prettyChars, scalar]
      rw [shown, List.map_cons, List.cons_append, skipBlanks_start rfl]
      simp only [literal_append, Option.map_some]
    | false =>
      have shown : prettyChars level (.bool false) = 'f' :: "alse".toList := by
        simp [prettyChars, scalar]
      rw [shown, List.map_cons, List.cons_append, skipBlanks_start rfl]
      simp only [literal_append, Option.map_some]

def memberChars (level : Nat) (name : String) (json : Json) : List Char :=
  indent level ++ quoted name ++ ':' :: ' ' :: prettyChars level json

theorem member_read {json : Json} (leaf : Leaf json) (name : String) (fuel depth level : Nat)
    (rest : List Piece) :
    let text := (memberChars level name json).map .char ++ rest
    (∀ more, skipBlanks rest = .char ',' :: more → members (fuel + 2) depth text =
      (members (fuel + 1) depth more).map fun (tail, after) => ((some name, json) :: tail, after)) ∧
    ∀ after, skipBlanks rest = .char '\x7d' :: after →
      members (fuel + 2) depth text = some ([(some name, json)], after) := by
  intro text
  let afterName := Piece.char ':' :: (.char ' ' :: ((prettyChars level json).map .char ++ rest))
  have shape : text = (indent level).map .char ++ ((quoted name).map .char ++ afterName) := by
    simp [text, afterName, memberChars]
  obtain ⟨elements, same, read⟩ := quoted_read name
  obtain ⟨start, opened, closed⟩ := read afterName
  have colon : skipBlanks afterName = afterName := skipBlanks_start rfl
  rw [shape, members, skipBlanks_indent, opened, skipBlanks_start rfl]
  refine ⟨fun more comma => ?_, fun after brace => ?_⟩
  · simp only [closed, same, colon, afterName, leaf_read leaf, comma]
  · simp only [closed, same, colon, afterName, leaf_read leaf, brace]

/-- Members with names and leaves are read back up to the closing brace. -/
theorem members_read {list : List (String × Json)} (leaves : ∀ member ∈ list, Leaf member.2)
    (filled : list ≠ []) {fuel : Nat} (enough : list.length < fuel) (depth level outer : Nat)
    (rest : List Piece) :
    members fuel depth ((prettyMembers level list).map .char ++
        ((indent outer).map .char ++ .char '\x7d' :: rest)) =
      some (list.map fun member => (some member.1, member.2), rest) := by
  induction list generalizing fuel with
  | nil => exact absurd rfl filled
  | cons member others ih =>
    obtain ⟨name, json⟩ := member
    obtain ⟨leaf, otherLeaves⟩ := List.forall_mem_cons.mp leaves
    obtain ⟨fuel, rfl⟩ : ∃ rest, fuel = rest + 2 :=
      Nat.exists_eq_add_of_le' (Nat.succ_le_of_lt (Nat.lt_of_le_of_lt (by simp) enough))
    cases others with
    | nil =>
      have brace : skipBlanks ((indent outer).map .char ++ .char '\x7d' :: rest) =
          .char '\x7d' :: rest := by
        rw [skipBlanks_indent, skipBlanks_start rfl]
      exact (member_read leaf name fuel depth level _).2 rest brace
    | cons second others =>
      have more := ih otherLeaves (List.cons_ne_nil _ _) (Nat.lt_of_succ_lt_succ enough)
      let tail := (prettyMembers level (second :: others)).map .char ++
        ((indent outer).map .char ++ .char '\x7d' :: rest)
      have front : (prettyMembers level ((name, json) :: second :: others)).map Piece.char ++
          ((indent outer).map .char ++ .char '\x7d' :: rest) =
          (memberChars level name json).map .char ++ .char ',' :: tail := by
        simp [prettyMembers, memberChars, tail]
      have comma : skipBlanks (.char ',' :: tail) = .char ',' :: tail := skipBlanks_start rfl
      rw [front, (member_read leaf name fuel depth level _).1 tail comma, more]
      rfl

theorem length_le_prettyMembers (level : Nat) (list : List (String × Json)) :
    list.length ≤ (prettyMembers level list).length := by
  induction list with
  | nil => exact Nat.zero_le _
  | cons member others ih =>
    cases others with
    | nil => simp [prettyMembers, indent]
    | cons second others =>
      rw [prettyMembers, List.length_append, List.length_cons, List.length_cons]
      · simp only [List.length_append, indent, List.length_cons] at ih ⊢
        omega
      · exact List.cons_ne_nil _ _

theorem object_names (list : List (String × Json)) :
    object (list.map fun member => (some member.1, member.2)) = .obj list := by
  have named : (list.map fun member => (some member.1, member.2)).mapM
      (fun member => member.1.map (·, member.2)) = some list := by
    induction list with
    | nil => rfl
    | cons member others ih => simp [List.mapM_cons, ih]
  unfold object
  split
  · next found same => exact congrArg obj (Option.some.inj (same.symm.trans named))
  · next same => cases same.symm.trans named

theorem members_skipBlanks (fuel depth : Nat) (text : List Piece) :
    members fuel depth (skipBlanks text) = members fuel depth text := by
  have twice : skipBlanks (skipBlanks text) = skipBlanks text := List.dropWhile_idempotent _ _
  cases fuel with
  | zero => rw [members, members]
  | succ fuel => rw [members, members, twice]

theorem value_object {text start : List Piece} (opened : skipBlanks text = .char '"' :: start)
    (fuel depth : Nat) :
    value (fuel + 1) depth (.char '\x7b' :: text) =
      (members fuel (depth + 1) text).map fun (found, after) =>
        (container depth (object found), after) := by
  rw [← members_skipBlanks, value, skipBlanks_start rfl]
  simp only [opened]
  rfl

theorem skipBlanks_prettyMembers (level : Nat) {list : List (String × Json)} (filled : list ≠ [])
    (rest : List Piece) :
    ∃ start, skipBlanks ((prettyMembers level list).map .char ++ rest) = .char '"' :: start := by
  obtain ⟨tail, shape⟩ : ∃ tail, prettyMembers level list = indent level ++ '"' :: tail := by
    match list, filled with
    | [(name, json)], _ =>
      refine ⟨name.toList.flatMap escape ++ '"' :: ':' :: ' ' :: prettyChars level json, ?_⟩
      simp [prettyMembers, quoted]
    | (name, json) :: second :: others, _ =>
      refine ⟨name.toList.flatMap escape ++ '"' :: ':' :: ' ' :: (prettyChars level json ++
        ',' :: prettyMembers level (second :: others)), ?_⟩
      simp [prettyMembers, quoted]
  refine ⟨tail.map .char ++ rest, ?_⟩
  rw [shape, List.map_append, List.append_assoc, skipBlanks_indent, List.map_cons, List.cons_append,
    skipBlanks_start rfl]

/-- An object of leaves is read back from its lines. -/
theorem pretty_read {list : List (String × Json)} (leaves : ∀ member ∈ list, Leaf member.2)
    (filled : list ≠ []) :
    ofPieces? ((pretty (.obj list)).toList.map .char) = some (.obj list) := by
  have text : (pretty (.obj list)).toList.map Piece.char =
      .char '\x7b' :: ((prettyMembers 1 list).map .char ++
        ((indent 0).map .char ++ [.char '\x7d'])) := by
    cases list with
    | nil => exact absurd rfl filled
    | cons member others => simp [pretty, prettyChars]
  rw [text]
  generalize lines : (prettyMembers 1 list).map Piece.char ++
    ((indent 0).map .char ++ [.char '\x7d']) = pieces
  have enough : list.length < pieces.length + 1 := by
    have least := length_le_prettyMembers 1 list
    rw [← lines, List.length_append, List.length_map]
    omega
  have read : members (pieces.length + 1) 2 pieces =
      some (list.map fun member => (some member.1, member.2), []) := by
    rw [← lines]
    exact members_read leaves filled (lines ▸ enough) 2 1 0 []
  obtain ⟨start, opened⟩ : ∃ start, skipBlanks pieces = .char '"' :: start := by
    rw [← lines]
    exact skipBlanks_prettyMembers 1 filled _
  rw [ofPieces?, List.length_cons, value_object opened, read, Option.map_some]
  simp only [object_names]
  rfl

end ClusterDesk.Json

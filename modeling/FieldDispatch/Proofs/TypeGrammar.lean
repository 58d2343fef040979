import FieldDispatch.Proofs.Blanks
import FieldDispatch.TypeText.Tree

/-!
The grammar of type texts. The check of a text looks past the blanks around it and accepts what is
left if and only if that is the text of a type tree; no two trees have one text. The questions that
are asked of a text cut characters off its ends, each in its own way, and know nothing of trees. On
the text of a tree all of them answer what the tree says.
-/

namespace FieldDispatch

namespace Text

section Trimming

variable {drop : Char → Bool}

/-- Whatever stands around a text, if all of it is dropped and none of the text, trimming leaves the
text. -/
theorem trimBoth_padded {before core after : List Char} (nonempty : core ≠ [])
    (beforeDropped : ∀ c ∈ before, drop c = true) (afterDropped : ∀ c ∈ after, drop c = true)
    (kept : ∀ c ∈ core, drop c = false) : trimBoth drop (before ++ core ++ after) = core := by
  have front : (before ++ core ++ after).dropWhile drop = core ++ after := by
    rw [List.append_assoc, List.dropWhile_append_of_pos beforeDropped]
    obtain ⟨first, rest, rfl⟩ := List.exists_cons_of_ne_nil nonempty
    apply dropWhile_eq_self
    rintro c ⟨⟩
    exact kept first List.mem_cons_self
  have back : (core ++ after).reverse.dropWhile drop = core.reverse := by
    rw [List.reverse_append, List.dropWhile_append_of_pos (by simpa using afterDropped)]
    apply dropWhile_eq_self
    intro c first
    exact kept c (List.mem_reverse.mp (List.mem_of_mem_head? first))
  rw [trimBoth, front, trimEnd, back, List.reverse_reverse]

/-- Trimming takes off characters that are dropped, and these only. -/
theorem exists_padding (drop : Char → Bool) (cs : List Char) :
    ∃ before after, (∀ c ∈ before, drop c = true) ∧ (∀ c ∈ after, drop c = true) ∧
      cs = before ++ trimBoth drop cs ++ after := by
  have taken (part : List Char) : ∀ c ∈ part.takeWhile drop, drop c = true :=
    List.all_eq_true.mp List.all_takeWhile
  let rest := cs.dropWhile drop
  refine ⟨cs.takeWhile drop, (rest.reverse.takeWhile drop).reverse, taken cs, ?_, ?_⟩
  · intro c present
    exact taken rest.reverse c (List.mem_reverse.mp present)
  · have back : trimBoth drop cs ++ (rest.reverse.takeWhile drop).reverse = rest := by
      rw [trimBoth, trimEnd, ← List.reverse_append, List.takeWhile_append_dropWhile,
        List.reverse_reverse]
    rw [List.append_assoc, back, List.takeWhile_append_dropWhile]

end Trimming

end Text

theorem TypeName.isNameChar_of_mem (name : TypeName) {c : Char} (present : c ∈ name.chars) :
    TypeText.isNameChar c = true :=
  List.all_eq_true.mp name.valid c present

namespace TypeTree

open TypeText

theorem chars_eq_nullable_append_mark (tree : TypeTree) :
    tree.chars = tree.nullable.chars ++ mark tree.isNonNull := by
  cases tree with
  | named name nonNull => simp [chars, nullable, isNonNull]
  | list item nonNull => simp [chars, nullable, isNonNull]

theorem eq_of_isDecoration {c : Char} (decoration : isDecoration c = true) :
    (c = '[' ∨ c = ']') ∨ c = '!' := by
  simpa [isDecoration] using decoration

/-- A character of a name is none of the three that mark the structure of a type. -/
theorem isDecoration_of_isNameChar {c : Char} (name : isNameChar c = true) :
    isDecoration c = false := by
  apply Bool.eq_false_iff.mpr
  intro decoration
  rcases eq_of_isDecoration decoration with (rfl | rfl) | rfl <;> revert name <;> decide

theorem getLast?_nullable (tree : TypeTree) : tree.nullable.chars.getLast? ≠ some '!' := by
  cases tree with
  | named name nonNull =>
      simp only [nullable, chars, mark_false, List.append_nil]
      intro last
      have mark := name.isNameChar_of_mem (List.mem_of_getLast? last)
      revert mark
      decide
  | list item nonNull =>
      simp only [nullable, chars, mark_false]
      rw [← List.cons_append, List.getLast?_concat]
      decide

theorem getLast?_chars (tree : TypeTree) :
    tree.chars.getLast? = some '!' ↔ tree.isNonNull = true := by
  rw [chars_eq_nullable_append_mark]
  cases tree.isNonNull with
  | true => simp
  | false => simpa using tree.getLast?_nullable

theorem dropMark_chars (tree : TypeTree) : dropMark tree.chars = tree.nullable.chars := by
  rw [chars_eq_nullable_append_mark]
  cases tree.isNonNull with
  | true => simp [dropMark]
  | false => simpa using dropMark_of_ne tree.getLast?_nullable

theorem bracketed?_nullable (tree : TypeTree) :
    bracketed? tree.nullable.chars = tree.listItem?.map chars := by
  cases tree with
  | named name nonNull =>
      simp only [nullable, chars, mark_false, List.append_nil, listItem?,
        Option.map_none]
      apply Option.eq_none_iff_forall_ne_some.mpr
      intro item list
      have bracket := name.isNameChar_of_mem (c := '[')
        (by simp [(bracketed?_eq_some_iff _ _).mp list])
      revert bracket
      decide
  | list item nonNull =>
      exact (bracketed?_eq_some_iff _ _).mpr rfl

theorem toList_text (tree : TypeTree) : tree.text.text.toList = tree.chars :=
  String.toList_ofList

theorem isNonNull_text (tree : TypeTree) : tree.text.isNonNull = tree.isNonNull := by
  rw [TypeText.isNonNull, toList_text, Bool.eq_iff_iff, decide_eq_true_iff, getLast?_chars]

theorem nullable_text (tree : TypeTree) : tree.text.nullable = tree.nullable.text := by
  rw [TypeText.nullable, toList_text, dropMark_chars, text]

theorem listItem?_text (tree : TypeTree) :
    tree.text.listItem? = tree.listItem?.map text := by
  rw [TypeText.listItem?, toList_text, dropMark_chars, bracketed?_nullable, Option.map_map]
  rfl

theorem chars_ne_nil (tree : TypeTree) : tree.chars ≠ [] := by
  cases tree with
  | named name nonNull => exact List.append_ne_nil_of_left_ne_nil name.nonempty _
  | list item nonNull => exact List.cons_ne_nil _ _

/-- Around the innermost name there are brackets and marks, and nothing else. -/
theorem exists_decoration (tree : TypeTree) :
    ∃ before after, (∀ c ∈ before, isDecoration c = true) ∧
      (∀ c ∈ after, isDecoration c = true) ∧
        tree.chars = before ++ tree.innermost.chars ++ after := by
  have marks (nonNull : Bool) : ∀ c ∈ mark nonNull, isDecoration c = true := by
    intro c present
    cases nonNull with
    | false => cases present
    | true =>
        rw [List.mem_singleton.mp present]
        rfl
  induction tree with
  | named name nonNull => exact ⟨[], mark nonNull, by simp, marks nonNull, rfl⟩
  | list item nonNull induction =>
      obtain ⟨before, after, beforeAll, afterAll, same⟩ := induction
      refine ⟨'[' :: before, after ++ ']' :: mark nonNull, ?_, ?_, ?_⟩
      · exact List.forall_mem_cons.mpr ⟨by decide, beforeAll⟩
      · exact List.forall_mem_append.mpr
          ⟨afterAll, List.forall_mem_cons.mpr ⟨by decide, marks nonNull⟩⟩
      · rw [chars, same]
        simp [innermost]

theorem named_text (tree : TypeTree) :
    tree.text.named = tree.innermost.text := by
  obtain ⟨before, after, beforeAll, afterAll, same⟩ := tree.exists_decoration
  rw [TypeText.named, toList_text, same]
  congr 1
  apply Text.trimBoth_padded tree.innermost.nonempty beforeAll afterAll
  intro c present
  exact isDecoration_of_isNameChar (tree.innermost.isNameChar_of_mem present)

/-- Two trees with one text answer every question alike, and the answers make the tree. -/
theorem eq_of_text_eq {tree other : TypeTree} (same : tree.text = other.text) : tree = other := by
  induction tree generalizing other with
  | named name nonNull =>
      have marks := congrArg TypeText.isNonNull same
      have items := congrArg TypeText.listItem? same
      have names := congrArg TypeText.named same
      rw [isNonNull_text, isNonNull_text] at marks
      rw [listItem?_text, listItem?_text] at items
      rw [named_text, named_text] at names
      cases other with
      | named otherName otherNonNull =>
          cases name
          cases otherName
          cases String.ofList_injective names
          cases marks
          rfl
      | list item otherNonNull => cases items
  | list item nonNull induction =>
      have marks := congrArg TypeText.isNonNull same
      have items := congrArg TypeText.listItem? same
      rw [isNonNull_text, isNonNull_text] at marks
      rw [listItem?_text, listItem?_text] at items
      cases other with
      | named otherName otherNonNull => cases items
      | list otherItem otherNonNull =>
          cases induction (Option.some.inj items)
          cases marks
          rfl

theorem checkChars_chars (tree : TypeTree) : checkChars tree.chars = true := by
  induction tree with
  | named name nonNull =>
      rw [checkChars_iff, dropMark_chars]
      right
      simp only [nullable, chars, mark_false, List.append_nil]
      exact ⟨name.nonempty, fun c => name.isNameChar_of_mem⟩
  | list item nonNull induction =>
      rw [checkChars_iff, dropMark_chars]
      exact Or.inl ⟨item.chars, rfl, induction⟩

theorem exists_mark (cs : List Char) : ∃ nonNull, cs = dropMark cs ++ mark nonNull := by
  by_cases marked : cs.getLast? = some '!'
  · obtain ⟨start, rfl⟩ := List.getLast?_eq_some_iff.mp marked
    exact ⟨true, by simp [dropMark]⟩
  · exact ⟨false, by simp [dropMark_of_ne marked]⟩

theorem exists_chars_of_checkChars {cs : List Char} (accepted : checkChars cs = true) :
    ∃ tree : TypeTree, tree.chars = cs := by
  -- Each step of the check takes two brackets off, so the induction is on the length of the text.
  induction size : cs.length using Nat.strongRecOn generalizing cs with
  | ind length induction =>
      obtain ⟨nonNull, marked⟩ := exists_mark cs
      rcases (checkChars_iff cs).mp accepted with ⟨item, shape, inner⟩ | ⟨nonempty, name⟩
      · have shorter : item.length < length := by
          rw [← size, marked, shape]
          simp only [List.length_append, List.length_cons]
          omega
        obtain ⟨tree, same⟩ := induction item.length shorter inner rfl
        refine ⟨.list tree nonNull, ?_⟩
        rw [marked, shape, chars, same]
        simp
      · exact ⟨.named ⟨dropMark cs, nonempty, List.all_eq_true.mpr name⟩ nonNull, marked.symm⟩

theorem isBlank_of_mem_chars {tree : TypeTree} {c : Char} (present : c ∈ tree.chars) :
    Text.isBlank c = false := by
  apply Bool.eq_false_iff.mpr
  intro blank
  have noName := isNameChar_of_isBlank blank
  have noDecoration : isDecoration c = false := by
    apply Bool.eq_false_iff.mpr
    intro decoration
    rcases eq_of_isDecoration decoration with (rfl | rfl) | rfl <;> revert blank <;> decide
  obtain ⟨before, after, beforeAll, afterAll, same⟩ := tree.exists_decoration
  rw [same, List.mem_append, List.mem_append] at present
  rcases present with (outside | name) | outside
  · exact absurd (beforeAll c outside) (by simp [noDecoration])
  · exact absurd (tree.innermost.isNameChar_of_mem name) (by simp [noName])
  · exact absurd (afterAll c outside) (by simp [noDecoration])

theorem text_eq_trimmed_iff (tree : TypeTree) (type : TypeText) :
    tree.text = type.trimmed ↔
      ∃ before after, (∀ c ∈ before, Text.isBlank c = true) ∧
        (∀ c ∈ after, Text.isBlank c = true) ∧
          type.text.toList = before ++ tree.chars ++ after := by
  have characters : tree.text = type.trimmed ↔ tree.chars = Text.trim type.text.toList := by
    rw [text, trimmed, TypeText.mk.injEq, String.ofList_inj]
  rw [characters]
  constructor
  · intro same
    rw [same]
    exact Text.exists_padding Text.isBlank type.text.toList
  · rintro ⟨before, after, beforeBlank, afterBlank, padded⟩
    rw [padded]
    exact (Text.trimBoth_padded tree.chars_ne_nil beforeBlank afterBlank
      fun c => isBlank_of_mem_chars).symm

end TypeTree

namespace TypeText

theorem isWellFormed_iff_exists_tree (type : TypeText) :
    type.isWellFormed = true ↔ ∃ tree : TypeTree, tree.text = type.trimmed := by
  constructor
  · intro accepted
    obtain ⟨tree, same⟩ := TypeTree.exists_chars_of_checkChars accepted
    exact ⟨tree, by rw [TypeTree.text, trimmed, same]⟩
  · rintro ⟨tree, same⟩
    have trimmedAccepted : checkChars type.trimmed.text.toList = true := by
      rw [← same, TypeTree.toList_text]
      exact tree.checkChars_chars
    rw [trimmed, String.toList_ofList] at trimmedAccepted
    exact trimmedAccepted

/-- The texts that are accepted are those of trees, with any blanks around them. The tree of a text
is unique, and the text answers every question as the tree does. -/
theorem accepted_reads_as_tree (type : TypeText) (tree : TypeTree) :
    (type.isWellFormed = true ↔ ∃ tree : TypeTree, tree.text = type.trimmed) ∧
    (tree.text = type.trimmed ↔
      ∃ before after, (∀ c ∈ before, Text.isBlank c = true) ∧
        (∀ c ∈ after, Text.isBlank c = true) ∧
          type.text.toList = before ++ tree.chars ++ after) ∧
    (∀ other : TypeTree, other.text = tree.text ↔ other = tree) ∧
    tree.text.isNonNull = tree.isNonNull ∧
    tree.text.nullable = tree.nullable.text ∧
    tree.text.listItem? = tree.listItem?.map TypeTree.text ∧
    tree.text.named = tree.innermost.text := by
  refine ⟨type.isWellFormed_iff_exists_tree, tree.text_eq_trimmed_iff type, ?_,
    tree.isNonNull_text, tree.nullable_text, tree.listItem?_text, tree.named_text⟩
  intro other
  exact ⟨TypeTree.eq_of_text_eq, congrArg TypeTree.text⟩

example : ["", "!", "[]", "[!]", "A!!", "[[A]", "[A]!]", "A B"].all (fun text =>
    !(⟨text⟩ : TypeText).isWellFormed) = true := by
  decide +kernel

end TypeText

end FieldDispatch

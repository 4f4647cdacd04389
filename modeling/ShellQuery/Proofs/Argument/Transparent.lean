import ShellQuery.Proofs.Argument.Normal

/-!
# Dates are taken out without a trace

Taking the dates out of a text and putting them back into the values is no step at all for
a text that is JSON between brackets: the same values come out, as long as no string of
theirs starts like a placeholder.  A text in which every literal is closed is JSON with its
placeholders just if it is JSON without them.

For the second fact the two texts are in the relation `Relabelled`: they have the same
characters but for what some literals hold, and what these hold needs no escape.  The relation
is symmetric, so one induction over trees gives both directions.
-/

namespace ShellQuery.Argument

open ShellQuery.Text
open ShellQuery.Spelling

/-! ## Closed literals -/

/-- Whether every literal in double quotes is closed, where the scan from the left cuts the
text into literals. -/
def AllClosed : List Char → Prop
  | [] => True
  | c :: rest =>
      if c = '"' then
        IsLiteralBody '"' (splitLiteral '"' rest).1 ∧ AllClosed (splitLiteral '"' rest).2
      else AllClosed rest
termination_by text => text.length
decreasing_by
  · have := splitLiteral_length_le '"' rest
    simp only [List.length_cons]
    omega
  · simp

theorem allClosed_cons {c : Char} (hc : c ≠ '"') (text : List Char) :
    AllClosed (c :: text) ↔ AllClosed text := by
  rw [AllClosed, if_neg hc]

theorem allClosed_literal {body : List Char} (hb : IsLiteralBody '"' body) (text : List Char) :
    AllClosed ('"' :: (body ++ text)) ↔ AllClosed text := by
  rw [AllClosed, if_pos rfl, splitLiteral_of_isLiteralBody (by decide) hb]
  exact and_iff_right hb

theorem exists_of_allClosed {rest : List Char} (h : AllClosed ('"' :: rest)) :
    ∃ body after, IsLiteralBody '"' body ∧ rest = body ++ after := by
  rw [AllClosed, if_pos rfl] at h
  exact ⟨_, _, h.1, (splitLiteral_append '"' rest).symm⟩

/-! ## Other strings in the literals -/

/-- A text with the same characters, but for what some literals hold. -/
inductive Relabelled : List Char → List Char → Prop where
  /-- No text. -/
  | nil : Relabelled [] []
  /-- A character outside literals. -/
  | char {c : Char} {text text' : List Char} : c ≠ '"' → Relabelled text text' →
      Relabelled (c :: text) (c :: text')
  /-- A literal that stays. -/
  | kept {body text text' : List Char} : IsLiteralBody '"' body → Relabelled text text' →
      Relabelled ('"' :: (body ++ text)) ('"' :: (body ++ text'))
  /-- Two literals without escapes. -/
  | changed {w w' text text' : List Char} : Json.Spells '"' w w → Json.Spells '"' w' w' →
      Relabelled text text' →
      Relabelled ('"' :: (w ++ '"' :: text)) ('"' :: (w' ++ '"' :: text'))

namespace Relabelled

theorem symm {text text' : List Char} (h : Relabelled text text') : Relabelled text' text := by
  induction h with
  | nil => exact .nil
  | char hc _ ih => exact .char hc ih
  | kept hb _ ih => exact .kept hb ih
  | changed hw hw' _ ih => exact .changed hw' hw ih

theorem nil_inv {text' : List Char} (h : Relabelled [] text') : text' = [] := by
  generalize ht : [] = text at h
  cases h with
  | nil => rfl
  | char | kept | changed => cases ht

theorem cons_inv {c : Char} {text text' : List Char} (hc : c ≠ '"')
    (h : Relabelled (c :: text) text') : ∃ rest', text' = c :: rest' ∧ Relabelled text rest' := by
  generalize ht : c :: text = whole at h
  cases h with
  | nil => cases ht
  | char _ h =>
    obtain ⟨rfl, rfl⟩ := List.cons.inj ht
    exact ⟨_, rfl, h⟩
  | kept | changed => exact absurd (List.cons.inj ht).1 hc

theorem append_inv {front text text' : List Char} (hf : '"' ∉ front)
    (h : Relabelled (front ++ text) text') :
    ∃ rest', text' = front ++ rest' ∧ Relabelled text rest' := by
  induction front generalizing text' with
  | nil => exact ⟨text', rfl, h⟩
  | cons c front ih =>
    rw [List.mem_cons, not_or] at hf
    obtain ⟨rest, rfl, h₁⟩ := h.cons_inv (Ne.symm hf.1)
    obtain ⟨rest', rfl, h₂⟩ := ih hf.2 h₁
    exact ⟨rest', rfl, h₂⟩

/-- Where a literal stands, a literal stands behind the change. -/
theorem literal_inv {l : Literal} (hq : l.quote = '"') {text text' : List Char}
    (h : Relabelled (l.text ++ text) text') :
    ∃ (l' : Literal) (rest' : List Char), l'.quote = '"' ∧ text' = l'.text ++ rest'
      ∧ Relabelled text rest' := by
  have hb := l.spells.isLiteralBody l.quote_isQuote
  have hopen : l.text ++ text = '"' :: ((l.written ++ ['"']) ++ text) := by
    simp [Literal.text, hq]
  rw [hq] at hb
  rw [hopen] at h
  generalize ht : '"' :: ((l.written ++ ['"']) ++ text) = whole at h
  cases h with
  | nil => cases ht
  | char hc _ => exact absurd (List.cons.inj ht).1.symm hc
  | kept hb' h =>
    obtain ⟨rfl, rfl⟩ := isLiteralBody_append_inj hb hb' (List.cons.inj ht).2
    exact ⟨l, _, hq, by simp [Literal.text, hq], h⟩
  | @changed w w' rest rest' hw hw' h =>
    have hs : (l.written ++ ['"']) ++ text = (w ++ ['"']) ++ rest := by
      rw [(List.cons.inj ht).2]
      simp
    obtain ⟨-, rfl⟩ :=
      isLiteralBody_append_inj hb (hw.isLiteralBody isQuote_doubleQuote) hs
    exact ⟨⟨'"', w', w', isQuote_doubleQuote, hw'⟩, rest', rfl, by simp [Literal.text], h⟩

end Relabelled

/-! ## Dates and placeholders -/

theorem spells_of_isDateText {date : List Char} (h : IsDateText date) :
    Json.Spells '"' date date := by
  refine Json.spells_self fun c hc => ?_
  obtain ⟨hq, hb, -, hlow⟩ := (h c hc).plain
  refine ⟨?_, hb, hlow⟩
  rintro rfl
  revert hq
  decide

/-- Where every literal is closed, placeholders change what literals hold and nothing else. -/
theorem Swapped.relabelled {dates : List (List Char)} {n : Nat} {text text' : List Char}
    (h : Swapped dates n text text') (hclosed : AllClosed text) : Relabelled text text' := by
  induction h with
  | nil => exact .nil
  | char hc _ ih => exact .char hc (ih ((allClosed_cons hc _).1 hclosed))
  | kept hb _ ih => exact .kept hb (ih ((allClosed_literal hb _).1 hclosed))
  | @date n date text text' hd _ _ _ ih =>
    have hrest : AllClosed text := by
      refine (allClosed_literal (isLiteralBody_date hd) text).1 ?_
      rwa [List.append_assoc]
    exact .changed (spells_of_isDateText hd) (spells_of_isIdentChar isIdentChar_of_mem_placeholder)
      (ih hrest)
  | opened hno =>
    obtain ⟨body, after, hb, ht⟩ := exists_of_allClosed hclosed
    exact absurd ht (hno body after hb)

theorem relabelled_protectDates {text : List Char} (h : AllClosed text) :
    Relabelled text (protectDates text).1 :=
  (swapped_protectDates text).relabelled h

/-! ## Trees with other strings -/

theorem Relabelled.leaf_inv {a : Leaf} (ha : a.Plain) {rest y : List Char}
    (h : Relabelled (a.text ++ rest) y) :
    ∃ (a' : Leaf) (rest' : List Char), y = a'.text ++ rest' ∧ a'.Plain ∧ a'.depth = a.depth
      ∧ Relabelled rest rest' := by
  have hsame : '"' ∉ a.text → ∃ (a' : Leaf) (rest' : List Char), y = a'.text ++ rest' ∧ a'.Plain
      ∧ a'.depth = a.depth ∧ Relabelled rest rest' := fun hq => by
    obtain ⟨rest', rfl, h'⟩ := h.append_inv hq
    exact ⟨a, rest', rfl, ha, rfl, h'⟩
  cases a with
  | null => exact hsame (by decide)
  | bool b => exact hsame (by cases b <;> decide)
  | number n =>
    refine hsame fun hm => ?_
    have hn := n.isNumber.chars _ hm
    revert hn
    decide
  | call c => exact ha.elim
  | string l =>
    obtain ⟨l', rest', hq, rfl, h'⟩ := Relabelled.literal_inv ha h
    exact ⟨.string l', rest', rfl, hq, rfl, h'⟩

theorem Relabelled.key_inv {k : Key} (hk : k.Plain) {rest y : List Char}
    (h : Relabelled (k.text ++ rest) y) :
    ∃ (k' : Key) (rest' : List Char), y = k'.text ++ rest' ∧ k'.Plain ∧ Relabelled rest rest' := by
  cases k with
  | bare n => exact hk.elim
  | quoted l =>
    obtain ⟨l', rest', hq, rfl, h'⟩ := Relabelled.literal_inv hk h
    exact ⟨.quoted l', rest', rfl, hq, h'⟩

mutual

/-- A text that starts with a tree still does when strings in it are changed, and the tree
nests as deep. -/
theorem exists_tree_of_relabelled : ∀ t : Tree, t.Plain → ∀ rest y : List Char,
    Relabelled (t.text ++ rest) y →
    ∃ (t' : Tree) (rest' : List Char), y = t'.text ++ rest' ∧ t'.Plain ∧ t'.depth = t.depth
      ∧ Relabelled rest rest'
  | .leaf a, ht, rest, y, h => by
      obtain ⟨a', rest', rfl, ha', hd, h'⟩ := h.leaf_inv ht
      exact ⟨.leaf a', rest', rfl, ha', hd, h'⟩
  | .array inner items, ht, rest, y, h => by
      simp only [Tree.text, List.cons_append, List.append_assoc] at h
      obtain ⟨y₁, rfl, h₁⟩ := h.cons_inv (by decide)
      obtain ⟨y₂, rfl, h₂⟩ := h₁.append_inv (quote_notMem_space inner)
      obtain ⟨items', y₃, rfl, hp, -, hd, h₃⟩ := exists_items_of_relabelled items ht _ y₂ h₂
      obtain ⟨y₄, rfl, h₄⟩ := h₃.cons_inv (by decide)
      exact ⟨.array inner items', y₄, by simp [Tree.text], hp, congrArg (· + 1) hd, h₄⟩
  | .object inner members, ht, rest, y, h => by
      simp only [Tree.text, List.cons_append, List.append_assoc] at h
      obtain ⟨y₁, rfl, h₁⟩ := h.cons_inv (by decide)
      obtain ⟨y₂, rfl, h₂⟩ := h₁.append_inv (quote_notMem_space inner)
      obtain ⟨members', y₃, rfl, hp, -, hd, h₃⟩ := exists_members_of_relabelled members ht _ y₂ h₂
      obtain ⟨y₄, rfl, h₄⟩ := h₃.cons_inv (by decide)
      exact ⟨.object inner members', y₄, by simp [Tree.text], hp, congrArg (· + 1) hd, h₄⟩

theorem exists_items_of_relabelled : ∀ items : Items, items.Plain → ∀ rest y : List Char,
    Relabelled (items.text ++ rest) y →
    ∃ (items' : Items) (rest' : List Char), y = items'.text ++ rest' ∧ items'.Plain
      ∧ items'.comma = items.comma ∧ items'.depth = items.depth ∧ Relabelled rest rest'
  | .nil, _, rest, y, h => ⟨.nil, y, rfl, trivial, rfl, rfl, h⟩
  | .cons before value after more, ht, rest, y, h => by
      simp only [Items.text, List.append_assoc] at h
      obtain ⟨y₁, rfl, h₁⟩ := h.append_inv (quote_notMem_space before)
      obtain ⟨value', y₂, rfl, hp, hd, h₂⟩ := exists_tree_of_relabelled value ht.1 _ y₁ h₁
      obtain ⟨y₃, rfl, h₃⟩ := h₂.append_inv (quote_notMem_space after)
      obtain ⟨y₄, rfl, h₄⟩ := h₃.append_inv (quote_notMem_comma_items more)
      obtain ⟨more', y₅, rfl, hp', hcomma, hd', h₅⟩ :=
        exists_items_of_relabelled more ht.2 _ y₄ h₄
      refine ⟨.cons before value' after more', y₅, ?_, ⟨hp, hp'⟩, rfl, ?_, h₅⟩
      · simp only [Items.text, List.append_assoc, hcomma]
      · rw [Items.depth, Items.depth, hd, hd']

theorem exists_members_of_relabelled : ∀ members : Members, members.Plain → ∀ rest y : List Char,
    Relabelled (members.text ++ rest) y →
    ∃ (members' : Members) (rest' : List Char), y = members'.text ++ rest' ∧ members'.Plain
      ∧ members'.comma = members.comma ∧ members'.depth = members.depth ∧ Relabelled rest rest'
  | .nil, _, rest, y, h => ⟨.nil, y, rfl, trivial, rfl, rfl, h⟩
  | .cons beforeKey key afterKey before value after more, ht, rest, y, h => by
      simp only [Members.text, List.append_assoc, List.cons_append] at h
      obtain ⟨y₁, rfl, h₁⟩ := h.append_inv (quote_notMem_space beforeKey)
      obtain ⟨key', y₂, rfl, hk, h₂⟩ := h₁.key_inv ht.1
      obtain ⟨y₃, rfl, h₃⟩ := h₂.append_inv (quote_notMem_space afterKey)
      obtain ⟨y₄, rfl, h₄⟩ := h₃.cons_inv (by decide)
      obtain ⟨y₅, rfl, h₅⟩ := h₄.append_inv (quote_notMem_space before)
      obtain ⟨value', y₆, rfl, hp, hd, h₆⟩ := exists_tree_of_relabelled value ht.2.1 _ y₅ h₅
      obtain ⟨y₇, rfl, h₇⟩ := h₆.append_inv (quote_notMem_space after)
      obtain ⟨y₈, rfl, h₈⟩ := h₇.append_inv (quote_notMem_comma_members more)
      obtain ⟨more', y₉, rfl, hp', hcomma, hd', h₉⟩ :=
        exists_members_of_relabelled more ht.2.2 _ y₈ h₈
      refine ⟨.cons beforeKey key' afterKey before value' after more', y₉, ?_, ⟨hk, hp, hp'⟩, rfl,
        ?_, h₉⟩
      · simp only [Members.text, List.append_assoc, List.cons_append, hcomma]
      · rw [Members.depth, Members.depth, hd, hd']

end

/-- Whether a text is JSON between brackets. -/
def IsArrayText (text : List Char) : Prop := ∃ v, Json.parse ('[' :: text ++ [']']) = .ok v

/-- Other strings in literals make no difference to the reader. -/
theorem Relabelled.isArrayText {text text' : List Char} (h : Relabelled text text')
    (ht : IsArrayText text) : IsArrayText text' := by
  obtain ⟨v, hv⟩ := ht
  obtain ⟨inner, items, rfl, hp, -, hd⟩ := exists_items_of_parse hv
  obtain ⟨y, rfl, h₁⟩ := h.append_inv (quote_notMem_space inner)
  rw [← List.append_nil items.text] at h₁
  obtain ⟨items', rest', rfl, hp', -, hd', h₂⟩ := exists_items_of_relabelled items hp _ _ h₁
  obtain rfl := h₂.nil_inv
  rw [List.append_nil]
  exact ⟨_, parse_items inner hp' (hd' ▸ hd)⟩

theorem isArrayText_protectDates {text : List Char} (h : AllClosed text) :
    IsArrayText (protectDates text).1 ↔ IsArrayText text :=
  ⟨(relabelled_protectDates h).symm.isArrayText, (relabelled_protectDates h).isArrayText⟩

/-! ## Values that come back -/

section

variable {p p' : String → Prop}

mutual

/-- A weaker property holds of each string too. -/
theorem EachString.imp (hp : ∀ s, p s → p' s) : ∀ v : Json, EachString p v → EachString p' v
  | .string s, h => hp s h
  | .array items, h => EachStringOfItems.imp hp items h
  | .object members, h => EachStringOfMembers.imp hp members h
  | .null, _ | .bool _, _ | .number _, _ => trivial

theorem EachStringOfItems.imp (hp : ∀ s, p s → p' s) :
    ∀ items : List Json, EachStringOfItems p items → EachStringOfItems p' items
  | [], _ => trivial
  | x :: rest, h => ⟨EachString.imp hp x h.1, EachStringOfItems.imp hp rest h.2⟩

theorem EachStringOfMembers.imp (hp : ∀ s, p s → p' s) :
    ∀ members : List (String × Json), EachStringOfMembers p members →
      EachStringOfMembers p' members
  | [], _ => trivial
  | (_, v) :: rest, h => ⟨EachString.imp hp v h.1, EachStringOfMembers.imp hp rest h.2⟩

end

end

/-- Whether a string starts like a placeholder. -/
def StartsLikePlaceholder (s : String) : Prop := "__DATE_PLACEHOLDER_".toList <+: s.toList

/-- A string that does not start like a placeholder is none. -/
theorem isFree_of_not_startsLikePlaceholder {s : String} (h : ¬StartsLikePlaceholder s)
    (count : Nat) : IsFree count s := by
  intro n hn
  unfold placeholderNumber? at hn
  obtain ⟨start, hstart, -⟩ := Option.bind_eq_some_iff.1 hn
  exact absurd ⟨start, (dropWord?_eq_some.1 hstart).symm⟩ h

/-- Taking the dates out of a text, reading it and putting the dates back gives the values of
the text, if none of their strings starts like a placeholder.  The text with placeholders can
be read just if the text can, when every literal of the text is closed.

A text of 2 ^ 64 characters has no place in memory, and a placeholder of that number is not
read back. -/
theorem protectDates_transparent :
    (∀ text v, text.length ≤ Width.words64 → Json.parse ('[' :: text ++ [']']) = .ok v →
        EachString (fun s => ¬StartsLikePlaceholder s) v →
        ∃ v', Json.parse ('[' :: (protectDates text).1 ++ [']']) = .ok v'
          ∧ (itemsOf v').map (restore (protectDates text).2) = itemsOf v)
      ∧ ∀ text, AllClosed text → (IsArrayText (protectDates text).1 ↔ IsArrayText text) := by
  refine ⟨fun text v hlength hparse hfree => ?_, fun text => isArrayText_protectDates⟩
  obtain ⟨inner, items, rfl, hp, rfl, hd⟩ := exists_items_of_parse hparse
  have hcount := stringCount_items_le items
  rw [List.length_append] at hlength
  obtain ⟨values, hvalues, hrestore⟩ := parse_protectDates inner hp hd (by omega)
  have hdates := (protects_protectDates (inner.text ++ items.text)).isDateText
  have hself := (restoreItems_eq_self_iff hdates items.values).2
    (EachStringOfItems.imp (fun _ h => isFree_of_not_startsLikePlaceholder h _) _ hfree)
  refine ⟨.array values, hvalues, ?_⟩
  rw [itemsOf, itemsOf, map_restore, hrestore, hself]

/-- A date behind a string with a quote in it. -/
theorem protectDates_transparent_date :
    AllClosed "\"a\\\"\", \"2020/01/01\"".toList
      ∧ Json.parse ('[' :: "\"a\\\"\", \"2020/01/01\"".toList ++ [']'])
          = .ok (.array [.string "a\"", .string "2020/01/01"])
      ∧ (∃ v', Json.parse ('[' :: (protectDates "\"a\\\"\", \"2020/01/01\"".toList).1 ++ [']'])
            = .ok v'
          ∧ (itemsOf v').map (restore (protectDates "\"a\\\"\", \"2020/01/01\"".toList).2)
            = [.string "a\"", .string "2020/01/01"])
      ∧ (IsArrayText (protectDates "\"a\\\"\", \"2020/01/01\"".toList).1
          ↔ IsArrayText "\"a\\\"\", \"2020/01/01\"".toList) := by
  have hescaped : IsLiteralBody '"' ['a', '\\', '"', '"'] :=
    .char (by decide) (by decide) (.escape (.close '"'))
  have hdate : IsLiteralBody '"' ("2020/01/01".toList ++ ['"']) :=
    isLiteralBody_append (List.all_iff_forall_prop.1 (by decide)) (.close '"')
  have hclosed : AllClosed "\"a\\\"\", \"2020/01/01\"".toList := by
    refine (allClosed_literal hescaped (", ".toList ++ "\"2020/01/01\"".toList)).2 ?_
    refine (allClosed_cons (by decide) _).2 ((allClosed_cons (by decide) _).2 ?_)
    refine (allClosed_literal hdate []).2 ?_
    rw [AllClosed]
    trivial
  have hparse : Json.parse ('[' :: "\"a\\\"\", \"2020/01/01\"".toList ++ [']'])
      = .ok (.array [.string "a\"", .string "2020/01/01"]) := rfl
  have hfree : EachString (fun s => ¬StartsLikePlaceholder s)
      (.array [.string "a\"", .string "2020/01/01"]) := by
    simp [EachString, EachStringOfItems, StartsLikePlaceholder]
  exact ⟨hclosed, hparse, protectDates_transparent.1 _ _ (by decide) hparse hfree,
    protectDates_transparent.2 _ hclosed⟩

end ShellQuery.Argument

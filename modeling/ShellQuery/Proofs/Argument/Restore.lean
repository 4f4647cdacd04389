import ShellQuery.Proofs.Argument.Dates
import ShellQuery.Proofs.Argument.Reading
import ShellQuery.Proofs.Number.Digits

/-!
# Dates put back into values

A text with placeholders for dates is still the text of a tree, and its value is the
value of the whole text as soon as the dates are put back.  What putting back may do
besides is to change a string that looks like a placeholder: `restore_eq_self_iff` says
that a value stays as it is when none of its strings is the placeholder of a date that
was taken out.
-/

namespace ShellQuery.Argument

open ShellQuery.Text
open ShellQuery.Spelling (Tree Items Members Leaf Literal Space merge)

/-! ## Placeholders -/

/-- The number of a placeholder is read back, if it fits 64 bits. -/
theorem placeholderNumber?_placeholder {n : Nat} (h : n < Width.words64) :
    placeholderNumber? (placeholder n) = some n := by
  have hstart : dropWord? "__DATE_PLACEHOLDER_".toList (placeholder n)
      = some (natText n ++ "__".toList) :=
    dropWord?_eq_some.2 (List.append_assoc _ _ _)
  have hend : dropWord? "__".toList (natText n ++ "__".toList).reverse
      = some (natText n).reverse :=
    dropWord?_eq_some.2 List.reverse_append
  have hall : (natText n).all Char.isDigit = true :=
    List.all_eq_true.2 fun c hc => isDigit_of_mem_natText hc
  have hne : natText n ≠ [] := Nat.toDigits_ne_nil
  have hplus : '+' ∉ natText n := fun hm => absurd (isDigit_of_mem_natText hm) (by decide)
  have hvalue : (natText n).foldl (fun n c => n * 10 + (c.toNat - '0'.toNat)) 0 = n :=
    digitsValue_natText n
  unfold placeholderNumber?
  rw [hstart]
  simp only [Option.bind_eq_bind, Option.bind_some, hend, List.reverse_reverse]
  generalize natText n = digits at hall hne hplus hvalue
  cases digits with
  | nil => exact absurd rfl hne
  | cons c digits =>
    have hc : c ≠ '+' := by
      rintro rfl
      exact hplus (List.mem_cons_self ..)
    split
    · rename_i heq
      exact absurd (List.cons.inj heq).1 hc
    · rw [if_neg (by simpa using hall), hvalue]
      simp [h]

theorem mem_of_dropWord? {word text rest : List Char} (h : dropWord? word text = some rest)
    {c : Char} (hc : c ∈ word) : c ∈ text := by
  rw [dropWord?_eq_some.1 h]
  exact List.mem_append_left rest hc

/-- Only a text with an underscore is a placeholder. -/
theorem underscore_mem_of_placeholderNumber? {s : List Char} {n : Nat}
    (h : placeholderNumber? s = some n) : '_' ∈ s := by
  unfold placeholderNumber? at h
  obtain ⟨start, hs, -⟩ := Option.bind_eq_some_iff.1 h
  exact mem_of_dropWord? hs (by decide)

/-- No date is a placeholder. -/
theorem placeholderNumber?_of_isDateText {s : List Char} (h : IsDateText s) :
    placeholderNumber? s = none := by
  cases hp : placeholderNumber? s with
  | none => rfl
  | some n => exact absurd rfl (h '_' (underscore_mem_of_placeholderNumber? hp)).plain.2.2.1

/-! ## Values that stay -/

variable {dates : List (List Char)}

/-- The string that a placeholder hides is put back. -/
theorem restoreString_placeholder {n : Nat} {date : List Char} (h : n < Width.words64)
    (hd : dates[n]? = some date) :
    restoreString dates (String.ofList (placeholder n)) = String.ofList date := by
  rw [restoreString, String.toList_ofList, placeholderNumber?_placeholder h, Option.bind_some, hd]

theorem restoreString_of_isDateText {s : List Char} (h : IsDateText s) :
    restoreString dates (String.ofList s) = String.ofList s := by
  rw [restoreString, String.toList_ofList, placeholderNumber?_of_isDateText h]
  rfl

/-- A string that is no placeholder of a date that was taken out. -/
def IsFree (count : Nat) (s : String) : Prop :=
  ∀ n, placeholderNumber? s.toList = some n → count ≤ n

/-- Putting dates back leaves just the free strings alone. -/
theorem restoreString_eq_self_iff (hd : ∀ date ∈ dates, IsDateText date) (s : String) :
    restoreString dates s = s ↔ IsFree dates.length s := by
  rw [restoreString, IsFree]
  cases hp : placeholderNumber? s.toList with
  | none => simp
  | some n =>
    rw [Option.bind_some]
    by_cases hn : n < dates.length
    · rw [List.getElem?_eq_getElem hn]
      have hdate := hd _ (List.getElem_mem hn)
      constructor
      · intro he
        have hs : s.toList = dates[n] := by
          rw [← he, String.toList_ofList]
        rw [hs, placeholderNumber?_of_isDateText hdate] at hp
        cases hp
      · intro hfree
        exact absurd (hfree n rfl) (Nat.not_le.2 hn)
    · rw [List.getElem?_eq_none (Nat.not_lt.1 hn)]
      simp [Nat.not_lt.1 hn]

mutual

/-- Every string that is a value somewhere in a value has a property.  Keys do not
count. -/
def EachString (p : String → Prop) : Json → Prop
  | .string s => p s
  | .array items => EachStringOfItems p items
  | .object members => EachStringOfMembers p members
  | .null | .bool _ | .number _ => True

/-- Every string that is a value somewhere in items has a property. -/
def EachStringOfItems (p : String → Prop) : List Json → Prop
  | [] => True
  | x :: rest => EachString p x ∧ EachStringOfItems p rest

/-- Every string that is a value somewhere in members has a property. -/
def EachStringOfMembers (p : String → Prop) : List (String × Json) → Prop
  | [] => True
  | (_, v) :: rest => EachString p v ∧ EachStringOfMembers p rest

end

mutual

/-- Putting dates back leaves a value alone when its strings are free, and only then. -/
theorem restore_eq_self_iff (hd : ∀ date ∈ dates, IsDateText date) :
    ∀ v : Json, restore dates v = v ↔ EachString (IsFree dates.length) v
  | .string s => by
      rw [restore, EachString, Json.string.injEq]
      exact restoreString_eq_self_iff hd s
  | .array items => by
      rw [restore, EachString, Json.array.injEq]
      exact restoreItems_eq_self_iff hd items
  | .object members => by
      rw [restore, EachString, Json.object.injEq]
      exact restoreMembers_eq_self_iff hd members
  | .null => by simp [restore, EachString]
  | .bool b => by simp [restore, EachString]
  | .number n => by simp [restore, EachString]

theorem restoreItems_eq_self_iff (hd : ∀ date ∈ dates, IsDateText date) :
    ∀ items : List Json,
      restoreItems dates items = items ↔ EachStringOfItems (IsFree dates.length) items
  | [] => by simp [restoreItems, EachStringOfItems]
  | x :: rest => by
      rw [restoreItems, EachStringOfItems, List.cons.injEq, restore_eq_self_iff hd x,
        restoreItems_eq_self_iff hd rest]

theorem restoreMembers_eq_self_iff (hd : ∀ date ∈ dates, IsDateText date) :
    ∀ members : List (String × Json),
      restoreMembers dates members = members
        ↔ EachStringOfMembers (IsFree dates.length) members
  | [] => by simp [restoreMembers, EachStringOfMembers]
  | (k, v) :: rest => by
      rw [restoreMembers, EachStringOfMembers, List.cons.injEq, Prod.mk.injEq,
        restore_eq_self_iff hd v, restoreMembers_eq_self_iff hd rest]
      simp

end

theorem map_restore (dates : List (List Char)) (items : List Json) :
    items.map (restore dates) = restoreItems dates items := by
  induction items with
  | nil => rfl
  | cons x rest ih => rw [List.map_cons, ih, restoreItems]

/-! ## Repeated keys -/

theorem restoreMembers_put (dates : List (List Char)) (key : String) (value : Json)
    (members : JsonMembers) :
    restoreMembers dates (Json.put key value members)
      = Json.put key (restore dates value) (restoreMembers dates members) := by
  induction members with
  | nil => rfl
  | cons m rest ih =>
    obtain ⟨k, v⟩ := m
    by_cases hk : k = key
    · simp [Json.put, restoreMembers, hk]
    · simp [Json.put, restoreMembers, hk, ih]

/-- Putting dates back and merging repeated keys go in any order. -/
theorem restoreMembers_merge (dates : List (List Char)) (members : JsonMembers) :
    restoreMembers dates (merge members) = merge (restoreMembers dates members) := by
  have hfold : ∀ all, restoreMembers dates
        (members.foldl (fun all m => Json.put m.1 m.2 all) all)
      = (restoreMembers dates members).foldl (fun all m => Json.put m.1 m.2 all)
        (restoreMembers dates all) := by
    induction members with
    | nil => exact fun _ => rfl
    | cons m rest ih =>
      obtain ⟨k, v⟩ := m
      intro all
      rw [List.foldl_cons, ih, restoreMembers_put, restoreMembers, List.foldl_cons]
  exact hfold []

/-! ## The tree of a text with placeholders -/

theorem quote_notMem_space (space : Space) : '"' ∉ space.text :=
  fun h => absurd (space.space _ h) (by decide)

/-- A placeholder is an identifier. -/
theorem isIdentChar_of_mem_placeholder {n : Nat} : ∀ c ∈ placeholder n, isIdentChar c = true := by
  have hend : ∀ c ∈ "__".toList, isIdentChar c = true := List.all_iff_forall_prop.1 (by decide)
  have hstart : ∀ c ∈ "__DATE_PLACEHOLDER_".toList, isIdentChar c = true :=
    List.all_iff_forall_prop.1 (by decide)
  intro c hc
  rcases List.mem_append.1 hc with hc | hc
  · rcases List.mem_append.1 hc with hc | hc
    · exact hstart c hc
    · simp [isIdentChar, Char.isAlphanum, isDigit_of_mem_natText hc]
  · exact hend c hc

/-- The literal of a placeholder. -/
def placeholderLiteral (n : Nat) : Literal where
  quote := '"'
  written := placeholder n
  chars := placeholder n
  quote_isQuote := Spelling.isQuote_doubleQuote
  spells := Spelling.spells_of_isIdentChar isIdentChar_of_mem_placeholder

/-- A date in a literal is written as it is. -/
theorem chars_of_isDateText {l : Literal} (h : IsDateText l.written) : l.chars = l.written := by
  have hb : '\\' ∉ l.written := fun hm => absurd rfl (h _ hm).plain.2.1
  have hs := l.spells
  rw [← List.append_nil l.written] at hs
  obtain ⟨s', hs', hnil⟩ := hs.of_append hb
  cases hnil
  rw [hs', List.append_nil]

/-- The tree `t'` is the tree `t` with placeholders for dates, which have numbers below
`m`. -/
structure Hides (dates : List (List Char)) (m : Nat) (t' t : Tree) : Prop where
  plain : t'.Plain
  depth : t'.depth = t.depth
  value : m ≤ Width.words64 → restore dates t'.value = restore dates t.value

/-- The items are the same but for placeholders. -/
structure HidesItems (dates : List (List Char)) (m : Nat) (items' items : Items) : Prop where
  plain : items'.Plain
  comma : items'.comma = items.comma
  depth : items'.depth = items.depth
  values : m ≤ Width.words64 →
    restoreItems dates items'.values = restoreItems dates items.values

/-- The members are the same but for placeholders. -/
structure HidesMembers (dates : List (List Char)) (m : Nat) (members' members : Members) :
    Prop where
  plain : members'.Plain
  comma : members'.comma = members.comma
  depth : members'.depth = members.depth
  values : m ≤ Width.words64 →
    restoreMembers dates members'.values = restoreMembers dates members.values

/-- A plain leaf behind the swap: it is the same leaf, or a placeholder. -/
theorem Swapped.leaf_inv {m : Nat} {a : Leaf} (ha : a.Plain) {rest y : List Char}
    (h : Swapped dates m (a.text ++ rest) y) :
    ∃ t' rest' n, y = t'.text ++ rest' ∧ Hides dates m t' (.leaf a) ∧ Swapped dates n rest rest'
      ∧ n ≤ m ∧ m ≤ n + a.stringCount := by
  have hsame : '"' ∉ a.text → ∃ t' rest' n, y = t'.text ++ rest' ∧ Hides dates m t' (.leaf a)
      ∧ Swapped dates n rest rest' ∧ n ≤ m ∧ m ≤ n + a.stringCount := by
    intro hq
    obtain ⟨rest', rfl, h'⟩ := h.append_inv hq
    exact ⟨.leaf a, rest', m, rfl, ⟨ha, rfl, fun _ => rfl⟩, h', Nat.le_refl _,
      Nat.le_add_right ..⟩
  cases a with
  | null => exact hsame (by decide)
  | bool b => exact hsame (by cases b <;> decide)
  | number n =>
    refine hsame fun hm => ?_
    have hn := n.isNumber.chars _ hm
    revert hn
    decide
  | call c => exact ha.elim
  | string l =>
    have hq : l.quote = '"' := ha
    have hb := l.spells.isLiteralBody l.quote_isQuote
    rw [hq] at hb
    have ht : (Leaf.string l).text ++ rest = '"' :: ((l.written ++ ['"']) ++ rest) := by
      simp [Leaf.text, Literal.text, hq]
    rw [ht] at h
    rcases h.literal_inv hb with
      ⟨rest', rfl, h'⟩ | ⟨date, n, rest', hbody, hd, -, hget, rfl, rfl, h'⟩
    · refine ⟨.leaf (.string l), rest', m, ?_, ⟨ha, rfl, fun _ => rfl⟩, h', Nat.le_refl _,
        Nat.le_add_right ..⟩
      simp [Tree.text, Leaf.text, Literal.text, hq]
    · have hwritten : l.written = date := (List.append_inj' hbody rfl).1
      have hchars : l.chars = date := by
        rw [chars_of_isDateText (hwritten ▸ hd), hwritten]
      refine ⟨.leaf (.string (placeholderLiteral n)), rest', n, ?_, ⟨rfl, rfl, fun hm => ?_⟩, h',
        Nat.le_succ n, Nat.le_refl _⟩
      · simp [Tree.text, Leaf.text, Literal.text, placeholderLiteral]
      · simp only [Tree.value, Leaf.value, restore, placeholderLiteral]
        rw [restoreString_placeholder (Nat.lt_of_succ_le hm) hget, hchars,
          restoreString_of_isDateText hd]

/-- A key keeps its text: a colon follows it. -/
theorem Swapped.key_inv {m : Nat} {k : Spelling.Key} (hk : k.Plain) (afterKey : Space)
    {rest y : List Char} (h : Swapped dates m (k.text ++ (afterKey.text ++ ':' :: rest)) y) :
    ∃ rest', y = k.text ++ rest' ∧ Swapped dates m (afterKey.text ++ ':' :: rest) rest' := by
  cases k with
  | bare n => exact hk.elim
  | quoted l =>
    have hq : l.quote = '"' := hk
    have hb := l.spells.isLiteralBody l.quote_isQuote
    rw [hq] at hb
    have ht : ∀ t, (Spelling.Key.quoted l).text ++ t = '"' :: ((l.written ++ ['"']) ++ t) := by
      simp [Spelling.Key.text, Literal.text, hq]
    rw [ht] at h
    rcases h.literal_inv hb with ⟨rest', rfl, h'⟩ | ⟨_, _, _, _, _, hcolon, -⟩
    · exact ⟨rest', (ht rest').symm, h'⟩
    · refine absurd ?_ hcolon
      rw [skipBlank_append fun c hc => Spelling.isBlank_of_isSpace (afterKey.space c hc),
        skipBlank_cons (by decide)]
      rfl

theorem quote_notMem_comma_items (items : Items) : '"' ∉ items.comma := by
  cases items <;> simp [Items.comma]

theorem quote_notMem_comma_members (members : Members) : '"' ∉ members.comma := by
  cases members <;> simp [Members.comma]

mutual

/-- Behind the swap a text still starts with a tree. -/
theorem exists_tree_of_swapped : ∀ (t : Tree), t.Plain → ∀ (m : Nat) (rest y : List Char),
    Swapped dates m (t.text ++ rest) y →
    ∃ t' rest' n, y = t'.text ++ rest' ∧ Hides dates m t' t ∧ Swapped dates n rest rest'
      ∧ n ≤ m ∧ m ≤ n + t.stringCount
  | .leaf a, ht, m, rest, y, h => h.leaf_inv ht
  | .array inner items, ht, m, rest, y, h => by
      have hs : (Tree.array inner items).text ++ rest
          = '[' :: (inner.text ++ (items.text ++ (']' :: rest))) := by
        simp [Tree.text]
      rw [hs] at h
      obtain ⟨y₁, rfl, h₁⟩ := h.cons_inv (by decide)
      obtain ⟨y₂, rfl, h₂⟩ := h₁.append_inv (quote_notMem_space inner)
      obtain ⟨items', y₃, n, rfl, hi, h₃, hn, hc⟩ := exists_items_of_swapped items ht m _ y₂ h₂
      obtain ⟨y₄, rfl, h₄⟩ := h₃.cons_inv (by decide)
      refine ⟨.array inner items', y₄, n, ?_,
        ⟨hi.plain, congrArg (· + 1) hi.depth, fun hm => ?_⟩, h₄, hn, hc⟩
      · simp [Tree.text]
      · simp only [Tree.value, restore, hi.values hm]
  | .object inner members, ht, m, rest, y, h => by
      have hs : (Tree.object inner members).text ++ rest
          = '\x7b' :: (inner.text ++ (members.text ++ ('\x7d' :: rest))) := by
        simp [Tree.text]
      rw [hs] at h
      obtain ⟨y₁, rfl, h₁⟩ := h.cons_inv (by decide)
      obtain ⟨y₂, rfl, h₂⟩ := h₁.append_inv (quote_notMem_space inner)
      obtain ⟨members', y₃, n, rfl, hi, h₃, hn, hc⟩ :=
        exists_members_of_swapped members ht m _ y₂ h₂
      obtain ⟨y₄, rfl, h₄⟩ := h₃.cons_inv (by decide)
      refine ⟨.object inner members', y₄, n, ?_,
        ⟨hi.plain, congrArg (· + 1) hi.depth, fun hm => ?_⟩, h₄, hn, hc⟩
      · simp [Tree.text]
      · simp only [Tree.value, restore, restoreMembers_merge, hi.values hm]

theorem exists_items_of_swapped : ∀ (items : Items), items.Plain → ∀ (m : Nat)
    (rest y : List Char), Swapped dates m (items.text ++ rest) y →
    ∃ (items' : Items) (rest' : List Char) (n : Nat), y = items'.text ++ rest'
      ∧ HidesItems dates m items' items ∧ Swapped dates n rest rest'
      ∧ n ≤ m ∧ m ≤ n + items.stringCount
  | .nil, _, m, rest, y, h =>
      ⟨.nil, y, m, rfl, ⟨trivial, rfl, rfl, fun _ => rfl⟩, h, Nat.le_refl _, Nat.le_refl _⟩
  | .cons before value after more, ht, m, rest, y, h => by
      simp only [Items.text, List.append_assoc] at h
      obtain ⟨y₁, rfl, h₁⟩ := h.append_inv (quote_notMem_space before)
      obtain ⟨value', y₂, n, rfl, hv, h₂, hn, hc⟩ :=
        exists_tree_of_swapped value ht.1 m _ y₁ h₁
      obtain ⟨y₃, rfl, h₃⟩ := h₂.append_inv (quote_notMem_space after)
      obtain ⟨y₄, rfl, h₄⟩ := h₃.append_inv (quote_notMem_comma_items more)
      obtain ⟨more', y₅, n', rfl, hi, h₅, hn', hc'⟩ :=
        exists_items_of_swapped more ht.2 n _ y₄ h₄
      refine ⟨.cons before value' after more', y₅, n', ?_,
        ⟨⟨hv.plain, hi.plain⟩, rfl, ?_, fun hm => ?_⟩, h₅, Nat.le_trans hn' hn, ?_⟩
      · simp only [Items.text, List.append_assoc, hi.comma]
      · rw [Items.depth, Items.depth, hv.depth, hi.depth]
      · simp only [Items.values, restoreItems, hv.value hm, hi.values (Nat.le_trans hn hm)]
      · rw [Items.stringCount]
        omega

theorem exists_members_of_swapped : ∀ (members : Members), members.Plain → ∀ (m : Nat)
    (rest y : List Char), Swapped dates m (members.text ++ rest) y →
    ∃ (members' : Members) (rest' : List Char) (n : Nat), y = members'.text ++ rest'
      ∧ HidesMembers dates m members' members ∧ Swapped dates n rest rest'
      ∧ n ≤ m ∧ m ≤ n + members.stringCount
  | .nil, _, m, rest, y, h =>
      ⟨.nil, y, m, rfl, ⟨trivial, rfl, rfl, fun _ => rfl⟩, h, Nat.le_refl _, Nat.le_refl _⟩
  | .cons beforeKey key afterKey before value after more, ht, m, rest, y, h => by
      simp only [Members.text, List.append_assoc, List.cons_append] at h
      obtain ⟨y₁, rfl, h₁⟩ := h.append_inv (quote_notMem_space beforeKey)
      obtain ⟨y₂, rfl, h₂⟩ := h₁.key_inv ht.1 afterKey
      obtain ⟨y₃, rfl, h₃⟩ := h₂.append_inv (quote_notMem_space afterKey)
      obtain ⟨y₄, rfl, h₄⟩ := h₃.cons_inv (by decide)
      obtain ⟨y₅, rfl, h₅⟩ := h₄.append_inv (quote_notMem_space before)
      obtain ⟨value', y₆, n, rfl, hv, h₆, hn, hc⟩ :=
        exists_tree_of_swapped value ht.2.1 m _ y₅ h₅
      obtain ⟨y₇, rfl, h₇⟩ := h₆.append_inv (quote_notMem_space after)
      obtain ⟨y₈, rfl, h₈⟩ := h₇.append_inv (quote_notMem_comma_members more)
      obtain ⟨more', y₉, n', rfl, hi, h₉, hn', hc'⟩ :=
        exists_members_of_swapped more ht.2.2 n _ y₈ h₈
      refine ⟨.cons beforeKey key afterKey before value' after more', y₉, n', ?_,
        ⟨⟨ht.1, hv.plain, hi.plain⟩, rfl, ?_, fun hm => ?_⟩, h₉, Nat.le_trans hn' hn, ?_⟩
      · simp only [Members.text, List.append_assoc, List.cons_append, hi.comma]
      · rw [Members.depth, Members.depth, hv.depth, hi.depth]
      · simp only [Members.values, restoreMembers, hv.value hm, hi.values (Nat.le_trans hn hm)]
      · rw [Members.stringCount]
        omega

end

end ShellQuery.Argument

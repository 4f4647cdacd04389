import ShellQuery.Argument.Normal
import ShellQuery.Proofs.Argument.Restore

/-!
# The last steps of reading

When keys and strings are in double quotes and calls are gone, the text is that of
plain items.  The dates are taken out, the text between brackets is read, and the dates
are put back: `normalize_of_plain` gives the values that come out.  A text that the JSON
reader accepts between brackets is that of plain items itself: `exists_items_of_parse`.
-/

namespace ShellQuery.Argument

open ShellQuery.Text
open ShellQuery.Spelling

/-! ## The number of strings -/

theorem stringCount_leaf_le (a : Leaf) : a.stringCount ≤ a.text.length := by
  unfold Leaf.stringCount
  split
  · rename_i h
    cases a with
    | string l => simp [Leaf.text, Literal.text]
    | call c =>
      simp only [Leaf.text, ConstructorCall.text, List.length_append, List.length_cons]
      omega
    | null => simp [Leaf.chars?] at h
    | bool b => simp [Leaf.chars?] at h
    | number n => simp [Leaf.chars?] at h
  · exact Nat.zero_le _

mutual

/-- A tree has no more strings than characters. -/
theorem stringCount_tree_le : ∀ t : Tree, t.stringCount ≤ t.text.length
  | .leaf a => stringCount_leaf_le a
  | .array inner items => by
      have h := stringCount_items_le items
      simp only [Tree.stringCount, Tree.text, List.length_cons, List.length_append]
      omega
  | .object inner members => by
      have h := stringCount_members_le members
      simp only [Tree.stringCount, Tree.text, List.length_cons, List.length_append]
      omega

theorem stringCount_items_le : ∀ items : Items, items.stringCount ≤ items.text.length
  | .nil => Nat.le_refl _
  | .cons before value after rest => by
      have h := stringCount_tree_le value
      have hr := stringCount_items_le rest
      simp only [Items.stringCount, Items.text, List.length_append]
      omega

theorem stringCount_members_le : ∀ members : Members, members.stringCount ≤ members.text.length
  | .nil => Nat.le_refl _
  | .cons beforeKey key afterKey before value after rest => by
      have h := stringCount_tree_le value
      have hr := stringCount_members_le rest
      simp only [Members.stringCount, Members.text, List.length_cons, List.length_append]
      omega

end

/-! ## Reading what is left -/

theorem Swapped.nil_inv {dates : List (List Char)} {n : Nat} {text' : List Char}
    (h : Swapped dates n [] text') : n = 0 ∧ text' = [] := by
  generalize ht : [] = text at h
  cases h with
  | nil => exact ⟨rfl, rfl⟩
  | char _ _ => cases ht
  | kept _ _ => cases ht
  | date _ _ _ _ => cases ht
  | opened _ => cases ht

/-- Plain items between brackets are read as their values. -/
theorem parse_items (inner : Space) {items : Items} (hp : items.Plain)
    (hd : items.depth < Json.maxLevels) :
    Json.parse ('[' :: (inner.text ++ items.text) ++ [']']) = .ok (.array items.values) := by
  have hread := readValue_tree (.array inner items) hp Json.maxLevels [] hd endsValue_nil
  have htext : '[' :: (inner.text ++ items.text) ++ [']']
      = (Tree.array inner items).text ++ [] := by
    simp [Tree.text]
  have hok : Json.readText ((Tree.array inner items).text ++ [])
      = .ok (Tree.array inner items).value :=
    Json.bind_eq_ok.2 ⟨_, hread, rfl⟩
  rw [htext, Json.parse, hok]
  rfl

/-- Plain items are read with placeholders for their dates, and putting the dates back makes
no difference between what is read and their values. -/
theorem parse_protectDates (inner : Space) {items : Items} (hp : items.Plain)
    (hd : items.depth < Json.maxLevels) (hc : items.stringCount ≤ Width.words64) :
    ∃ values,
      Json.parse ('[' :: (protectDates (inner.text ++ items.text)).1 ++ [']']) = .ok (.array values)
        ∧ restoreItems (protectDates (inner.text ++ items.text)).2 values
          = restoreItems (protectDates (inner.text ++ items.text)).2 items.values := by
  have hs := swapped_protectDates (inner.text ++ items.text)
  obtain ⟨y, hy, h₁⟩ := hs.append_inv (quote_notMem_space inner)
  rw [← List.append_nil items.text] at h₁
  obtain ⟨items', rest', n, rfl, hi, h₂, -, hm⟩ := exists_items_of_swapped items hp _ _ _ h₁
  obtain ⟨rfl, rfl⟩ := h₂.nil_inv
  rw [List.append_nil] at hy hm hi
  refine ⟨items'.values, ?_, hi.values (by omega)⟩
  rw [hy]
  exact parse_items inner hi.plain (hi.depth ▸ hd)

/-- The values that plain items give, when all other steps are done. -/
theorem normalize_of_plain {text : List Char} {inner : Space} {items : Items}
    (ht : quoteKeys (replaceConstructors text) = inner.text ++ items.text) (hp : items.Plain)
    (hd : items.depth < Json.maxLevels) (hc : items.stringCount ≤ Width.words64) :
    normalize text
      = .ok (restoreItems (protectDates (inner.text ++ items.text)).2 items.values) := by
  obtain ⟨values, hparse, hvalues⟩ := parse_protectDates inner hp hd hc
  rw [normalize, ht]
  dsimp only
  rw [hparse]
  simp only [itemsOf, map_restore]
  rw [hvalues]

/-! ## Texts that the reader accepts -/

/-- Nothing but white space is skipped. -/
theorem isSpace_of_skipSpace_eq_nil {text : List Char} (h : Json.skipSpace text = []) :
    ∀ c ∈ text, Json.isSpace c = true := by
  obtain ⟨space, hspace⟩ := exists_eq_append_skipSpace text
  rw [h, List.append_nil] at hspace
  rw [hspace]
  exact space.space

/-- A text that is accepted between brackets is that of plain items. -/
theorem exists_items_of_parse {text : List Char} {v : Json}
    (h : Json.parse ('[' :: text ++ [']']) = .ok v) :
    ∃ (inner : Space) (items : Items), text = inner.text ++ items.text ∧ items.Plain
      ∧ v = .array items.values ∧ items.depth < Json.maxLevels := by
  have hread : Json.readText ('[' :: text ++ [']']) = .ok v := by
    unfold Json.parse at h
    cases hr : Json.readText ('[' :: text ++ [']']) with
    | ok w =>
      rw [hr] at h
      cases h
      rfl
    | error fault =>
      rw [hr] at h
      cases h
  obtain ⟨⟨w, rest⟩, hw, hrest⟩ := Json.bind_eq_ok.1 hread
  dsimp only at hrest
  split at hrest
  · rename_i hnil
    cases hrest
    have harray : Json.readArray (Json.readValue 126) (text ++ [']']) = .ok (v, rest) := hw
    obtain ⟨inner, items, ht, hp, rfl, hd⟩ :=
      exists_tree_of_readArray (exists_tree_of_readValue 126) harray
    refine ⟨inner, items, ?_, hp, rfl, Nat.lt_succ_of_le hd⟩
    -- the bracket that was put behind the text is the one that closes the array
    rcases List.eq_nil_or_concat rest with rfl | ⟨front, c, rfl⟩
    · rw [← List.append_assoc] at ht
      exact (List.append_inj' ht rfl).1
    · have hc := isSpace_of_skipSpace_eq_nil hnil c (by simp)
      have hlast : text ++ [']'] = (inner.text ++ (items.text ++ ']' :: front)) ++ [c] := by
        rw [ht]
        simp
      obtain rfl : ']' = c := by simpa using (List.append_inj' hlast rfl).2
      exact absurd hc (by decide)
  · simp [Json.failAt] at hrest

end ShellQuery.Argument

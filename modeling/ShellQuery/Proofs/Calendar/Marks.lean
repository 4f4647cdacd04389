import ShellQuery.Calendar.Layout

/-!
# Layouts and their marks

A slash, a colon and the letter `T` are the marks of a date text.  No number, no blank and
no sign has one, so a layout that reads a text names the marks of the text, all of them and
in their order: `Layout.marks_eq_of_read?`.  The layouts are tried one after the other, and
those with other marks than the text are passed over: `findSome?_layouts`.
-/

namespace ShellQuery.DateText

open ShellQuery.Text

/-! ## Marks -/

/-- Whether a character is a mark. -/
def isMark (c : Char) : Bool := c == '/' || c == ':' || c == 'T'

/-- The marks of a text. -/
def marks (text : List Char) : List Char := text.filter isMark

/-- The marks that an item of a layout names. -/
def Item.marks : Item → List Char
  | char c => DateText.marks [c]
  | _ => []

/-- The marks that a layout names. -/
def Layout.marks (layout : Layout) : List Char := layout.flatMap Item.marks

theorem marks_append (text more : List Char) : marks (text ++ more) = marks text ++ marks more :=
  List.filter_append ..

theorem isMark_of_isDigit {c : Char} (h : c.isDigit = true) : isMark c = false := by
  cases hm : isMark c with
  | false => rfl
  | true =>
    simp only [isMark, Bool.or_eq_true, beq_iff_eq] at hm
    obtain (rfl | rfl) | rfl := hm <;> exact absurd h (by decide)

theorem isMark_of_isBlank {c : Char} (h : isBlank c = true) : isMark c = false := by
  cases hm : isMark c with
  | false => rfl
  | true =>
    simp only [isMark, Bool.or_eq_true, beq_iff_eq] at hm
    obtain (rfl | rfl) | rfl := hm <;> exact absurd h (by decide)

/-- The rest of a text, if there is no mark in what is before it. -/
def Unmarked (text rest : List Char) : Prop :=
  ∃ front, text = front ++ rest ∧ ∀ c ∈ front, isMark c = false

namespace Unmarked

theorem refl (text : List Char) : Unmarked text text := ⟨[], rfl, by simp⟩

theorem trans {text rest more : List Char} (h : Unmarked text rest) (h' : Unmarked rest more) :
    Unmarked text more := by
  obtain ⟨front, rfl, hfront⟩ := h
  obtain ⟨front', rfl, hfront'⟩ := h'
  refine ⟨front ++ front', (List.append_assoc ..).symm, fun c hc => ?_⟩
  exact (List.mem_append.1 hc).elim (hfront c) (hfront' c)

theorem cons {c : Char} {text rest : List Char} (hc : isMark c = false) (h : Unmarked text rest) :
    Unmarked (c :: text) rest :=
  trans ⟨[c], rfl, by simpa using hc⟩ h

theorem marks_eq {text rest : List Char} (h : Unmarked text rest) : marks text = marks rest := by
  obtain ⟨front, rfl, hfront⟩ := h
  rw [marks_append, marks, List.filter_eq_nil_iff.2 fun c hc => by simp [hfront c hc],
    List.nil_append]

end Unmarked

theorem unmarked_dropWhile {p : Char → Bool} (h : ∀ c, p c = true → isMark c = false)
    (text : List Char) : Unmarked text (text.dropWhile p) :=
  ⟨text.takeWhile p, List.takeWhile_append_dropWhile.symm,
    fun c hc => h c (List.all_eq_true.1 List.all_takeWhile c hc)⟩

theorem unmarked_skipBlank (text : List Char) : Unmarked text (skipBlank text) :=
  unmarked_dropWhile (fun _ => isMark_of_isBlank) text

/-! ## What a reader takes has no mark -/

theorem unmarked_of_readDigits? {most n : Nat} {text rest : List Char}
    (h : readDigits? most text = some (n, rest)) : Unmarked text rest := by
  rw [readDigits?] at h
  split at h
  next => cases h
  next =>
    cases h
    have hprefix : (text.take most).takeWhile Char.isDigit <+: text :=
      (List.takeWhile_prefix _).trans (List.take_prefix _ _)
    have hsplit : ∀ front, front <+: text → text = front ++ text.drop front.length := by
      rintro front ⟨more, rfl⟩
      rw [List.drop_left]
    exact ⟨_, hsplit _ hprefix, fun c hc =>
      isMark_of_isDigit (List.all_eq_true.1 List.all_takeWhile c hc)⟩

theorem unmarked_of_readAllDigits? {n : Nat} {text rest : List Char}
    (h : readAllDigits? text = some (n, rest)) : Unmarked text rest := by
  rw [readAllDigits?] at h
  split at h
  next => cases h
  next =>
    cases h
    exact unmarked_dropWhile (fun _ => isMark_of_isDigit) text

theorem unmarked_of_readFraction? {n : Nat} {text rest : List Char}
    (h : readFraction? text = some (n, rest)) : Unmarked text rest := by
  rw [readFraction?.eq_def] at h
  split at h
  next digits =>
    dsimp only at h
    split at h
    next => cases h
    next =>
      cases h
      exact .cons (by decide) (unmarked_dropWhile (fun _ => isMark_of_isDigit) digits)
  next => cases h; exact .refl text

theorem unmarked_of_readTwo? {n : Nat} {text rest : List Char}
    (h : readTwo? text = some (n, rest)) : Unmarked text rest :=
  (unmarked_skipBlank text).trans (unmarked_of_readDigits? h)

theorem unmarked_of_readYear? {n : Int} {text rest : List Char}
    (h : readYear? text = some (n, rest)) : Unmarked text rest := by
  rw [readYear?.eq_def] at h
  split at h
  all_goals
    obtain ⟨⟨m, more⟩, hread, hpair⟩ := Option.map_eq_some_iff.1 h
    cases hpair
  · exact .cons (by decide) (unmarked_of_readAllDigits? hread)
  · exact .cons (by decide) (unmarked_of_readAllDigits? hread)
  · exact unmarked_of_readDigits? hread

/-- An item takes its own marks off a text, and no other. -/
theorem Item.marks_of_read? {r r' : Reading} {text rest : List Char} {item : Item}
    (h : item.read? r text = some (r', rest)) :
    DateText.marks text = item.marks ++ DateText.marks rest := by
  cases item with
  | year =>
    obtain ⟨⟨n, more⟩, hread, hpair⟩ := Option.map_eq_some_iff.1 h
    cases hpair
    exact ((unmarked_skipBlank text).trans (unmarked_of_readYear? hread)).marks_eq
  | month | day | hour | minute | second =>
    obtain ⟨⟨n, more⟩, hread, hpair⟩ := Option.map_eq_some_iff.1 h
    cases hpair
    exact (unmarked_of_readTwo? hread).marks_eq
  | fraction =>
    obtain ⟨⟨n, more⟩, hread, hpair⟩ := Option.map_eq_some_iff.1 h
    cases hpair
    exact (unmarked_of_readFraction? hread).marks_eq
  | blank =>
    cases h
    exact (unmarked_skipBlank text).marks_eq
  | char c =>
    obtain ⟨more, hread, hpair⟩ := Option.map_eq_some_iff.1 h
    cases hpair
    rw [expectChar?_eq_some.1 hread]
    exact marks_append [c] _

/-- A layout that reads a text has the marks of the text. -/
theorem marks_eq_of_readItems? {r r' : Reading} {text : List Char} {layout : Layout}
    (h : readItems? r text layout = some r') : marks text = layout.marks := by
  induction layout generalizing r text with
  | nil =>
    rw [readItems?] at h
    split at h
    next hempty => rw [List.isEmpty_iff.1 hempty]; rfl
    next => cases h
  | cons item more ih =>
    obtain ⟨⟨r₁, rest⟩, hitem, hmore⟩ := Option.bind_eq_some_iff.1 h
    rw [Item.marks_of_read? hitem, ih hmore]
    exact (List.flatMap_cons ..).symm

theorem Layout.marks_eq_of_read? {text : List Char} {layout : Layout} {i : Instant}
    (h : layout.read? text = some i) : DateText.marks text = layout.marks := by
  obtain ⟨r, hread, -⟩ := Option.bind_eq_some_iff.1 h
  exact marks_eq_of_readItems? hread

/-- The layouts are passed over up to the first one that reads the text.  Only those with
the marks of the text have to be looked at. -/
theorem findSome?_layouts {text : List Char} {i : Instant} {layout : Layout} (k : Nat)
    (hk : layouts[k]? = some layout) (hread : layout.read? text = some i)
    (hmiss : ∀ l ∈ layouts.take k, l.marks = marks text → l.read? text = none) :
    (layouts.findSome? fun l => l.read? text) = some i := by
  obtain ⟨hlt, rfl⟩ := List.getElem?_eq_some_iff.1 hk
  refine List.findSome?_eq_some_iff.2 ⟨layouts.take k, _, layouts.drop (k + 1), ?_, hread,
    fun l hl => ?_⟩
  · rw [← List.drop_eq_getElem_cons, List.take_append_drop]
  · cases hl' : l.read? text with
    | none => rfl
    | some j =>
      have hnone := hmiss l hl (Layout.marks_eq_of_read? hl').symm
      rw [hl'] at hnone
      cases hnone

/-- A layout reads the text if no layout before it has the same marks. -/
theorem findSome?_layouts_of_marks {text named : List Char} {i : Instant} {layout : Layout}
    (k : Nat) (hk : layouts[k]? = some layout) (hread : layout.read? text = some i)
    (hnamed : marks text = named) (hne : ∀ l ∈ layouts.take k, l.marks ≠ named) :
    (layouts.findSome? fun l => l.read? text) = some i :=
  findSome?_layouts k hk hread fun l hl hmarks => absurd (hmarks.trans hnamed) (hne l hl)

end ShellQuery.DateText

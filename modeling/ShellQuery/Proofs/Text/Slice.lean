import ShellQuery.Text.Position

/-!
# Slices by bytes

A part of a text is named here by the bytes where it starts and ends.  There is such a
part only if both are the first byte of a character or the end of the text, and the start
is not behind the end: `isSome_slice?_iff` says that slicing fails in no other case.  That
the bytes are those of UTF-8 is `isBoundary_iff_isValid`.

`Place` says which text is left at a byte.  It is what a reader that works on the text left
and a reader that works on bytes have in common.
-/

namespace ShellQuery.Text

/-! ## Places -/

/-- The text from a byte on is `rest`. -/
def Place (text : List Char) (start : Nat) (rest : List Char) : Prop :=
  ∃ front, text = front ++ rest ∧ utf8Length front = start

/-- A byte at which a text may be cut: a character starts there, or the text ends. -/
def IsBoundary (text : List Char) (i : Nat) : Prop := ∃ rest, Place text i rest

namespace Place

variable {text rest part : List Char} {start : Nat}

theorem zero (text : List Char) : Place text 0 text := ⟨[], rfl, rfl⟩

theorem append (h : Place text start (part ++ rest)) :
    Place text (start + utf8Length part) rest := by
  obtain ⟨front, rfl, rfl⟩ := h
  exact ⟨front ++ part, (List.append_assoc ..).symm, utf8Length_append front part⟩

theorem cons {c : Char} (h : Place text start (c :: rest)) :
    Place text (start + c.utf8Size) rest := by
  have hc : Place text start ([c] ++ rest) := h
  simpa using hc.append

theorem length_eq (h : Place text start rest) : start + utf8Length rest = utf8Length text := by
  obtain ⟨front, rfl, rfl⟩ := h
  exact (utf8Length_append front rest).symm

end Place

theorem isBoundary_iff {text : List Char} {i : Nat} :
    IsBoundary text i ↔ ∃ front rest, text = front ++ rest ∧ utf8Length front = i :=
  exists_comm

theorem utf8ByteSize_ofList_eq (text : List Char) :
    (String.ofList text).utf8ByteSize = utf8Length text := by
  induction text with
  | nil => rfl
  | cons c rest ih =>
    rw [← List.singleton_append, String.ofList_append, String.utf8ByteSize_append, ih,
      ← String.singleton_eq_ofList, String.utf8ByteSize_singleton]
    rfl

/-- The bytes are those of the text in UTF-8. -/
theorem isBoundary_iff_isValid {text : List Char} {i : Nat} :
    IsBoundary text i ↔ String.Pos.Raw.IsValid (String.ofList text) ⟨i⟩ := by
  rw [isBoundary_iff, String.Pos.Raw.isValid_iff_exists_append]
  constructor
  · rintro ⟨front, rest, rfl, rfl⟩
    refine ⟨String.ofList front, String.ofList rest, String.ofList_append, ?_⟩
    rw [String.Pos.Raw.ext_iff, ← utf8ByteSize_ofList_eq]
    rfl
  · rintro ⟨front, rest, htext, hi⟩
    refine ⟨front.toList, rest.toList, ?_, ?_⟩
    · rw [← String.toList_append, ← htext, String.toList_ofList]
    · rw [← utf8ByteSize_ofList_eq, String.ofList_toList]
      exact (congrArg String.Pos.Raw.byteIdx hi).symm

/-! ## Slicing -/

/-- The text from a byte on. -/
def sliceFrom? : List Char → Nat → Option (List Char)
  | text, 0 => some text
  | [], _ + 1 => none
  | c :: rest, i + 1 => if i + 1 < c.utf8Size then none else sliceFrom? rest (i + 1 - c.utf8Size)

/-- The text up to a byte. -/
def sliceTo? : List Char → Nat → Option (List Char)
  | _, 0 => some []
  | [], _ + 1 => none
  | c :: rest, i + 1 =>
      if i + 1 < c.utf8Size then none
      else (sliceTo? rest (i + 1 - c.utf8Size)).map fun front => c :: front

/-- The text from one byte up to another. -/
def slice? (text : List Char) (start stop : Nat) : Option (List Char) := do
  sliceFrom? (← sliceTo? text stop) start

/-- A text with the part from one byte up to another replaced. -/
def replaceSlice? (text : List Char) (start stop : Nat) (part : List Char) :
    Option (List Char) := do
  let _ ← slice? text start stop
  pure ((← sliceTo? text start) ++ part ++ (← sliceFrom? text stop))

theorem sliceFrom?_eq_some_iff {text rest : List Char} {start : Nat} :
    sliceFrom? text start = some rest ↔ Place text start rest := by
  constructor
  · intro h
    fun_induction sliceFrom? text start with
    | case1 =>
      cases h
      exact .zero _
    | case2 => cases h
    | case3 => cases h
    | case4 c text i hi ih =>
      obtain ⟨front, rfl, hf⟩ := ih h
      refine ⟨c :: front, rfl, ?_⟩
      rw [utf8Length_cons]
      omega
  · rintro ⟨front, rfl, rfl⟩
    induction front with
    | nil => rw [utf8Length_nil, List.nil_append, sliceFrom?]
    | cons c front ih =>
      obtain ⟨n, hn⟩ := Nat.exists_eq_add_of_lt (Char.utf8Size_pos c)
      have hi : utf8Length (c :: front) = n + utf8Length front + 1 := by
        rw [utf8Length_cons]
        omega
      have hsub : n + utf8Length front + 1 - c.utf8Size = utf8Length front := by omega
      rw [hi, List.cons_append, sliceFrom?, if_neg (by omega), hsub, ih]

theorem sliceTo?_eq_some_iff {text front : List Char} {stop : Nat} :
    sliceTo? text stop = some front ↔ ∃ rest, text = front ++ rest ∧ utf8Length front = stop := by
  constructor
  · intro h
    fun_induction sliceTo? text stop generalizing front with
    | case1 =>
      cases h
      exact ⟨_, rfl, rfl⟩
    | case2 => cases h
    | case3 => cases h
    | case4 c text i hi ih =>
      obtain ⟨front, hf, rfl⟩ := Option.map_eq_some_iff.1 h
      obtain ⟨rest, rfl, hl⟩ := ih hf
      refine ⟨rest, rfl, ?_⟩
      rw [utf8Length_cons]
      omega
  · rintro ⟨rest, rfl, rfl⟩
    induction front with
    | nil => rw [utf8Length_nil, sliceTo?]
    | cons c front ih =>
      obtain ⟨n, hn⟩ := Nat.exists_eq_add_of_lt (Char.utf8Size_pos c)
      have hi : utf8Length (c :: front) = n + utf8Length front + 1 := by
        rw [utf8Length_cons]
        omega
      have hsub : n + utf8Length front + 1 - c.utf8Size = utf8Length front := by omega
      rw [hi, List.cons_append, sliceTo?, if_neg (by omega), hsub, ih]
      rfl

theorem slice?_eq_some_iff {text part : List Char} {start stop : Nat} :
    slice? text start stop = some part
      ↔ (∃ rest, Place text start (part ++ rest)) ∧ stop = start + utf8Length part := by
  rw [slice?, Option.bind_eq_bind, Option.bind_eq_some_iff]
  constructor
  · rintro ⟨upTo, hto, hfrom⟩
    obtain ⟨rest, rfl, rfl⟩ := sliceTo?_eq_some_iff.1 hto
    obtain ⟨front, rfl, rfl⟩ := sliceFrom?_eq_some_iff.1 hfrom
    exact ⟨⟨rest, front, List.append_assoc .., rfl⟩, utf8Length_append front part⟩
  · rintro ⟨⟨rest, front, rfl, rfl⟩, rfl⟩
    refine ⟨front ++ part, sliceTo?_eq_some_iff.2 ⟨rest, ?_, utf8Length_append front part⟩,
      sliceFrom?_eq_some_iff.2 ⟨front, rfl, rfl⟩⟩
    rw [List.append_assoc]

theorem Place.sliceFrom? {text rest : List Char} {start : Nat} (h : Place text start rest) :
    Text.sliceFrom? text start = some rest :=
  sliceFrom?_eq_some_iff.2 h

theorem Place.slice? {text part rest : List Char} {start : Nat}
    (h : Place text start (part ++ rest)) :
    Text.slice? text start (start + utf8Length part) = some part :=
  slice?_eq_some_iff.2 ⟨⟨rest, h⟩, rfl⟩

/-- Slicing fails just where a bound is no boundary or the bounds are the wrong way round. -/
theorem isSome_slice?_iff {text : List Char} {start stop : Nat} :
    (slice? text start stop).isSome = true
      ↔ IsBoundary text start ∧ IsBoundary text stop ∧ start ≤ stop := by
  rw [Option.isSome_iff_exists]
  constructor
  · rintro ⟨part, h⟩
    obtain ⟨⟨rest, hplace⟩, rfl⟩ := slice?_eq_some_iff.1 h
    exact ⟨⟨_, hplace⟩, ⟨_, hplace.append⟩, Nat.le_add_right ..⟩
  · rintro ⟨⟨rest, front, rfl, rfl⟩, ⟨rest', front', htext, rfl⟩, hle⟩
    -- of two texts in front of a place the shorter one starts the other
    rcases List.append_eq_append_iff.1 htext with ⟨part, rfl, rfl⟩ | ⟨part, rfl, rfl⟩
    · rw [utf8Length_append]
      exact ⟨part, Place.slice? ⟨front, rfl, rfl⟩⟩
    · have hpart : utf8Length part = 0 := by
        rw [utf8Length_append] at hle
        omega
      refine ⟨[], ?_⟩
      rw [utf8Length_append, hpart, Nat.add_zero]
      have hplace : Place (front' ++ part ++ rest) (utf8Length front') ([] ++ (part ++ rest)) :=
        ⟨front', List.append_assoc .., rfl⟩
      exact hplace.slice?

theorem isSome_sliceFrom?_iff {text : List Char} {start : Nat} :
    (sliceFrom? text start).isSome = true ↔ IsBoundary text start := by
  rw [Option.isSome_iff_exists, IsBoundary]
  exact exists_congr fun rest => sliceFrom?_eq_some_iff

theorem isSome_sliceTo?_iff {text : List Char} {stop : Nat} :
    (sliceTo? text stop).isSome = true ↔ IsBoundary text stop := by
  rw [Option.isSome_iff_exists, isBoundary_iff]
  exact exists_congr fun front => sliceTo?_eq_some_iff

/-- A part can be replaced where it can be sliced. -/
theorem isSome_replaceSlice?_iff {text : List Char} {start stop : Nat} {part : List Char} :
    (replaceSlice? text start stop part).isSome = true
      ↔ (slice? text start stop).isSome = true := by
  rw [replaceSlice?]
  cases h : slice? text start stop with
  | none => exact Iff.rfl
  | some old =>
    obtain ⟨hstart, hstop, -⟩ := isSome_slice?_iff.1 (Option.isSome_of_eq_some h)
    obtain ⟨front, hfront⟩ := Option.isSome_iff_exists.1 (isSome_sliceTo?_iff.2 hstart)
    obtain ⟨rest, hrest⟩ := Option.isSome_iff_exists.1 (isSome_sliceFrom?_iff.2 hstop)
    rw [hfront, hrest]
    exact Iff.rfl

example : slice? "né".toList 1 3 = some ['é'] ∧ slice? "né".toList 1 2 = none := by decide

theorem Place.replaceSlice? {text front part rest : List Char} (h : text = front ++ part ++ rest)
    (new : List Char) :
    Text.replaceSlice? text (utf8Length front) (utf8Length front + utf8Length part) new
      = some (front ++ new ++ rest) := by
  have hplace : Place text (utf8Length front) (part ++ rest) := by
    rw [h]
    exact ⟨front, List.append_assoc .., rfl⟩
  have hto : sliceTo? text (utf8Length front) = some front :=
    sliceTo?_eq_some_iff.2 ⟨part ++ rest, by rw [h, List.append_assoc], rfl⟩
  rw [Text.replaceSlice?, hplace.slice?, hto, hplace.append.sliceFrom?]
  rfl

/-! ## Characters and their bytes -/

/-- The characters of a text, each with the byte where it starts.  The first one starts at
the given byte. -/
def charOffsetsFrom (start : Nat) : List Char → List (Nat × Char)
  | [] => []
  | c :: rest => (start, c) :: charOffsetsFrom (start + c.utf8Size) rest

/-- The characters of a text, each with the byte where it starts. -/
def charOffsets (text : List Char) : List (Nat × Char) := charOffsetsFrom 0 text

/-- The byte where the first character of a class starts. -/
def findChar? (p : Char → Bool) (text : List Char) : Option Nat :=
  ((charOffsets text).find? fun x => p x.2).map Prod.fst

theorem find?_charOffsetsFrom (p : Char → Bool) (start : Nat) (text : List Char) :
    ((charOffsetsFrom start text).find? fun x => p x.2).map Prod.fst
      = (text.dropWhile fun c => !p c).head?.map
          fun _ => start + utf8Length (text.takeWhile fun c => !p c) := by
  induction text generalizing start with
  | nil => rfl
  | cons c rest ih =>
    cases hp : p c with
    | true => simp [charOffsetsFrom, hp]
    | false =>
      have hfind : ((charOffsetsFrom start (c :: rest)).find? fun x => p x.2)
          = (charOffsetsFrom (start + c.utf8Size) rest).find? fun x => p x.2 := by
        simp [charOffsetsFrom, hp]
      rw [hfind, ih]
      simp [hp, Nat.add_assoc]

theorem findChar?_eq (p : Char → Bool) (text : List Char) :
    findChar? p text = (text.dropWhile fun c => !p c).head?.map
      fun _ => utf8Length (text.takeWhile fun c => !p c) := by
  simpa [findChar?, charOffsets] using find?_charOffsetsFrom p 0 text

/-- The byte behind the characters of a class at the start of a text. -/
theorem findChar?_getD (p : Char → Bool) (text : List Char) :
    (findChar? (fun c => !p c) text).getD (utf8Length text)
      = utf8Length (text.takeWhile p) := by
  rw [findChar?_eq]
  simp only [Bool.not_not]
  cases h : (text.dropWhile p).head? with
  | some c => rfl
  | none =>
    have hs := List.takeWhile_append_dropWhile (p := p) (l := text)
    rw [List.head?_eq_none_iff.1 h, List.append_nil] at hs
    rw [hs]
    rfl

end ShellQuery.Text

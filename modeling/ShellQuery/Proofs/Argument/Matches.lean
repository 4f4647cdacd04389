import Mathlib.Data.List.Dedup
import ShellQuery.Proofs.Argument.Slices

/-!
# Dates taken out by slices

Dates are taken out by the bytes of matches.  The matches come in any order, and a literal
may be matched by several shapes.  So they are sorted from the end of the text to its start,
and a match that is not in front of the last replacement is passed over.  The bytes are
those of the text, but the parts are replaced in a copy of it.  This is sound as the copy
and the text agree in front of the last replacement: `Replaced`.

`slicesExist` is the result for all readers by offsets.
-/

namespace ShellQuery.Offset

open ShellQuery.Text
open ShellQuery.Argument (DateShape Span dateLiterals isDateQuote placeholder protectDates
  replaceLiterals valueLiterals)

/-! ## Replacing matches -/

/-- A copy of a text, in which matches are replaced. -/
structure Copy where
  /-- The text of the copy. -/
  text : List Char
  /-- The dates that were replaced, by number. -/
  dates : List (List Char)
  /-- The byte where the last replacement starts. -/
  lowest : Option Nat

/-- Replaces a match of a text in a copy, if it is in front of the last replacement. -/
def Copy.replace? (text : List Char) (copy : Copy) (found : Nat × Nat) : Option Copy :=
  if copy.lowest.any fun lowest => lowest < found.2 then some copy
  else do
    let original ← slice? text found.1 found.2
    let date ← slice? original 1 (utf8Length original - 1)
    let replaced ← replaceSlice? copy.text found.1 found.2
      ('"' :: placeholder copy.dates.length ++ ['"'])
    pure ⟨replaced, copy.dates ++ [date], some found.1⟩

/-- Whether a match comes behind another one, or both are the same. -/
def isBehind (a b : Nat × Nat) : Bool := b.1 < a.1 || (b.1 == a.1 && b.2 ≤ a.2)

/-- The matches of all shapes of dates, by bytes. -/
def dateMatches (text : List Char) : List (Nat × Nat) :=
  DateShape.all.flatMap fun shape => (shape.finds 0 text).map (byteSpan text)

/-- A text with placeholders for its date literals, and the dates by number. -/
def protectDates? (text : List Char) : Option (List Char × List (List Char)) := do
  let literals ← valueLiterals? text
  let found := ((dateMatches text).filter literals.contains).mergeSort isBehind
  let copy ← found.foldlM (Copy.replace? text) ⟨text, [], none⟩
  pure (copy.text, copy.dates)

variable {text : List Char}

/-- A match is not in front of its own replacement. -/
theorem any_lowest_of_replace? {copy copy' : Copy} {found : Nat × Nat} (hfound : found.1 < found.2)
    (h : copy.replace? text found = some copy') :
    (copy'.lowest.any fun lowest => lowest < found.2) = true := by
  rw [Copy.replace?] at h
  split at h
  · rename_i hany
    cases h
    exact hany
  · obtain ⟨original, -, h⟩ := Option.bind_eq_some_iff.1 h
    obtain ⟨date, -, h⟩ := Option.bind_eq_some_iff.1 h
    obtain ⟨replaced, -, h⟩ := Option.bind_eq_some_iff.1 h
    cases h
    simpa using hfound

theorem replace?_again {copy : Copy} {found : Nat × Nat} (hfound : found.1 < found.2) :
    (copy.replace? text found >>= fun copy => copy.replace? text found)
      = copy.replace? text found := by
  cases h : copy.replace? text found with
  | none => rfl
  | some copy' =>
    rw [Option.bind_eq_bind, Option.bind_some, Copy.replace?,
      if_pos (any_lowest_of_replace? hfound h)]

theorem foldlM_again {found : Nat × Nat} (hfound : found.1 < found.2) (more : List (Nat × Nat))
    (copy : Copy) :
    (found :: found :: more).foldlM (Copy.replace? text) copy
      = (found :: more).foldlM (Copy.replace? text) copy := by
  let rest (copy : Copy) := more.foldlM (Copy.replace? text) copy
  calc
    (found :: found :: more).foldlM (Copy.replace? text) copy
      = copy.replace? text found >>= fun copy => copy.replace? text found >>= rest := by
        simp only [List.foldlM_cons, rest]
    _ = (copy.replace? text found >>= fun copy => copy.replace? text found) >>= rest :=
        (bind_assoc ..).symm
    _ = copy.replace? text found >>= rest := by rw [replace?_again hfound]
    _ = (found :: more).foldlM (Copy.replace? text) copy := List.foldlM_cons.symm

theorem eq_of_isBehind {a b : Nat × Nat} (h : isBehind a b = true) (h' : isBehind b a = true) :
    a = b := by
  simp only [isBehind, Bool.or_eq_true, Bool.and_eq_true, decide_eq_true_eq, beq_iff_eq] at h h'
  exact Prod.ext (by omega) (by omega)

/-- A literal that is matched several times is replaced once. -/
theorem foldlM_dedup {found : List (Nat × Nat)}
    (hsorted : found.Pairwise fun a b => isBehind a b = true) (hlt : ∀ x ∈ found, x.1 < x.2)
    (copy : Copy) :
    found.dedup.foldlM (Copy.replace? text) copy = found.foldlM (Copy.replace? text) copy := by
  induction found generalizing copy with
  | nil => rfl
  | cons x rest ih =>
    obtain ⟨hx, hrest⟩ := List.pairwise_cons.1 hsorted
    rw [List.forall_mem_cons] at hlt
    by_cases hmem : x ∈ rest
    · -- the same match comes next, as nothing lies between the two
      obtain ⟨more, rfl⟩ : ∃ more, rest = x :: more := by
        cases rest with
        | nil => simp at hmem
        | cons y more =>
          rcases List.mem_cons.1 hmem with rfl | hmore
          · exact ⟨more, rfl⟩
          · have hyx := (List.pairwise_cons.1 hrest).1 x hmore
            exact ⟨more, by rw [eq_of_isBehind (hx y (List.mem_cons_self ..)) hyx]⟩
      rw [List.dedup_cons_of_mem hmem, ih hrest hlt.2, foldlM_again hlt.1]
    · rw [List.dedup_cons_of_notMem hmem, List.foldlM_cons, List.foldlM_cons]
      exact congrArg _ (funext fun copy => ih hrest hlt.2 copy)

/-! ## The order of literals -/

theorem bounds_of_mem_valueLiterals {offset : Nat} {text : List Char} {span : Span}
    (h : span ∈ valueLiterals offset text) :
    offset ≤ span.start ∧ span.start < span.stop ∧ span.stop ≤ offset + text.length := by
  fun_induction valueLiterals offset text with
  | case1 => simp at h
  | case2 offset rest body after stop others hk ih =>
    have hlength : body.length + after.length = rest.length := by
      rw [← List.length_append, splitLiteral_append]
    have hstop : stop = offset + 1 + body.length := rfl
    have hs := ih h
    rw [List.length_cons]
    omega
  | case3 offset rest body after stop others hk ih =>
    have hlength : body.length + after.length = rest.length := by
      rw [← List.length_append, splitLiteral_append]
    have hstop : stop = offset + 1 + body.length := rfl
    rw [List.length_cons]
    rcases List.mem_cons.1 h with rfl | h
    · dsimp only
      omega
    · have hs := ih h
      omega
  | case4 offset c rest hc ih =>
    have hs := ih h
    rw [List.length_cons]
    omega

/-- Value literals come in the order of their starts. -/
theorem pairwise_valueLiterals (offset : Nat) (text : List Char) :
    (valueLiterals offset text).Pairwise fun a b => a.start < b.start := by
  fun_induction valueLiterals offset text with
  | case1 => exact .nil
  | case2 offset rest body after stop others hk ih => exact ih
  | case3 offset rest body after stop others hk ih =>
    refine List.pairwise_cons.2 ⟨fun span hspan => ?_, ih⟩
    have hs := bounds_of_mem_valueLiterals hspan
    have hstop : stop = offset + 1 + body.length := rfl
    dsimp only
    omega
  | case4 offset c rest hc ih => exact ih

/-- A longer part of a text has more bytes. -/
theorem utf8Length_take_lt {text : List Char} {m n : Nat} (h : m < n) (hn : n ≤ text.length) :
    utf8Length (text.take m) < utf8Length (text.take n) := by
  obtain ⟨k, rfl⟩ := Nat.exists_eq_add_of_lt h
  have htake : text.take (m + k + 1) = text.take m ++ (text.drop m).take (k + 1) := by
    rw [Nat.add_assoc, List.take_add]
  cases hdrop : text.drop m with
  | nil =>
    have := List.drop_eq_nil_iff.1 hdrop
    omega
  | cons c rest =>
    have := c.utf8Size_pos
    rw [htake, hdrop, List.take_succ_cons, utf8Length_append, utf8Length_cons]
    omega

theorem eq_of_utf8Length_take {text : List Char} {m n : Nat} (hm : m ≤ text.length)
    (hn : n ≤ text.length) (h : utf8Length (text.take m) = utf8Length (text.take n)) : m = n := by
  rcases Nat.lt_trichotomy m n with hlt | heq | hlt
  · have := utf8Length_take_lt hlt hn
    omega
  · exact heq
  · have := utf8Length_take_lt hlt hm
    omega

/-- Two parts of a text that start and end at the same bytes are the same. -/
theorem byteSpan_inj {text : List Char} {a b : Span} (ha : a.start < a.stop)
    (ha' : a.stop ≤ text.length) (hb : b.start < b.stop) (hb' : b.stop ≤ text.length)
    (h : byteSpan text a = byteSpan text b) : a = b := by
  obtain ⟨hstart, hstop⟩ := Prod.mk.inj h
  have h1 := eq_of_utf8Length_take (by omega) (by omega) hstart
  have h2 := eq_of_utf8Length_take ha' hb' hstop
  cases a
  cases b
  exact congrArg₂ Span.mk h1 h2

theorem bounds_of_mem_finds {shape : DateShape} {offset : Nat} {text : List Char} {span : Span}
    (h : span ∈ shape.finds offset text) :
    span.start < span.stop ∧ span.stop ≤ offset + text.length := by
  obtain ⟨before, q, body, q', after, rfl, rfl, -⟩ := Argument.isFind_of_mem_finds h
  simp only [List.length_append, List.length_cons]
  omega

/-- The matches that are value literals are the date literals. -/
theorem mem_filter_dateMatches {text : List Char} {found : Nat × Nat} :
    found ∈ (dateMatches text).filter ((valueLiterals 0 text).map (byteSpan text)).contains
      ↔ found ∈ (dateLiterals text).map (byteSpan text) := by
  rw [List.mem_filter, List.contains_iff_mem, dateMatches, dateLiterals]
  simp only [List.mem_flatMap, List.mem_map, List.mem_filter, List.contains_iff_mem]
  constructor
  · rintro ⟨⟨shape, hshape, span, hspan, rfl⟩, literal, hliteral, hsame⟩
    obtain ⟨-, h1, h2⟩ := bounds_of_mem_valueLiterals hliteral
    obtain ⟨h3, h4⟩ := bounds_of_mem_finds hspan
    rw [Nat.zero_add] at h2 h4
    obtain rfl := byteSpan_inj h1 h2 h3 h4 hsame
    exact ⟨literal, ⟨hliteral, shape, hshape, hspan⟩, rfl⟩
  · rintro ⟨span, ⟨hspan, shape, hshape, hfound⟩, rfl⟩
    exact ⟨⟨shape, hshape, span, hfound, rfl⟩, span, hspan, rfl⟩

theorem pairwise_dateLiterals (text : List Char) :
    ((dateLiterals text).map (byteSpan text)).Pairwise fun a b => a.1 < b.1 := by
  rw [List.pairwise_map]
  refine ((pairwise_valueLiterals 0 text).imp_of_mem fun _ hb hlt => ?_).filter _
  obtain ⟨-, h1, h2⟩ := bounds_of_mem_valueLiterals hb
  exact utf8Length_take_lt hlt (by omega)

theorem pairwise_sorted (found : List (Nat × Nat)) :
    (found.mergeSort isBehind).Pairwise fun a b => isBehind a b = true := by
  refine List.pairwise_mergeSort (fun a b c hab hbc => ?_) (fun a b => ?_) found
  · simp only [isBehind, Bool.or_eq_true, Bool.and_eq_true, decide_eq_true_eq, beq_iff_eq] at *
    omega
  · simp only [isBehind, Bool.or_eq_true, Bool.and_eq_true, decide_eq_true_eq, beq_iff_eq]
    omega

/-- Sorted and without repetitions, the matches are the date literals from behind. -/
theorem dedup_sorted_dateMatches (text : List Char) :
    (((dateMatches text).filter ((valueLiterals 0 text).map
      (byteSpan text)).contains).mergeSort isBehind).dedup
      = ((dateLiterals text).map (byteSpan text)).reverse := by
  have hspans := pairwise_dateLiterals text
  have hbehind : ((dateLiterals text).map (byteSpan text)).reverse.Pairwise
      fun a b => isBehind a b = true :=
    List.pairwise_reverse.2 (hspans.imp fun hlt => by simp [isBehind, hlt])
  have hnodup : ((dateLiterals text).map (byteSpan text)).Nodup :=
    hspans.imp fun hlt heq => absurd hlt (by rw [heq]; exact Nat.lt_irrefl _)
  refine List.Perm.eq_of_pairwise (fun a b _ _ h h' => eq_of_isBehind h h')
    ((pairwise_sorted _).sublist (List.dedup_sublist _)) hbehind ?_
  refine (List.perm_ext_iff_of_nodup (List.nodup_dedup _) (List.nodup_reverse.2 hnodup)).2
    fun found => ?_
  rw [List.mem_dedup, List.mem_mergeSort, List.mem_reverse, mem_filter_dateMatches]

/-! ## The copy -/

/-- A find ends with a quote. -/
theorem exists_quote_of_mem_finds {shape : DateShape} {offset : Nat} {text : List Char}
    {span : Span} (h : span ∈ shape.finds offset text) :
    ∃ front q after, text = front ++ q :: after ∧ span.stop = offset + front.length + 1
      ∧ isDateQuote q = true := by
  fun_induction DateShape.finds shape offset text with
  | case1 => simp at h
  | case2 => simp at h
  | case3 offset c rest hq body q' after hd hf stop ih =>
    have hrest : rest = body ++ q' :: after := by
      rw [← hd, List.takeWhile_append_dropWhile]
    have hstop : stop = offset + body.length + 2 := rfl
    rcases List.mem_cons.1 h with rfl | h
    · have hhead := List.head?_dropWhile_not (fun d => !isDateQuote d) rest
      rw [hd] at hhead
      refine ⟨c :: body, q', after, congrArg (c :: ·) hrest, ?_, by simpa using hhead⟩
      rw [List.length_cons]
      dsimp only
      omega
    · obtain ⟨front, q, more, rfl, hspan, hquote⟩ := ih h
      refine ⟨c :: (body ++ q' :: front), q, more, by simp [hrest], ?_, hquote⟩
      simp only [List.length_cons, List.length_append]
      omega
  | case4 offset c rest hq body q' after hd hf ih =>
    obtain ⟨front, q, more, rfl, hspan, hquote⟩ := ih h
    refine ⟨c :: front, q, more, rfl, ?_, hquote⟩
    rw [List.length_cons]
    omega
  | case5 offset c rest hq ih =>
    obtain ⟨front, q, more, rfl, hspan, hquote⟩ := ih h
    refine ⟨c :: front, q, more, rfl, ?_, hquote⟩
    rw [List.length_cons]
    omega

/-- Whether a literal of the text that is picked ends with a character of one byte. -/
def PicksQuoted (whole : List Char) (pick : Span → Bool) : Prop :=
  ∀ pre literal after, whole = pre ++ '"' :: (literal ++ after) →
    pick ⟨pre.length, pre.length + 1 + literal.length⟩ = true →
    ∃ date q, literal = date ++ [q] ∧ q.utf8Size = 1

/-- The literals that are found as dates end with a quote, single or double. -/
theorem picksQuoted_finds (text : List Char) :
    PicksQuoted text (DateShape.all.flatMap fun shape => shape.finds 0 text).contains := by
  intro pre literal after ht h
  obtain ⟨date, q, rfl, -⟩ := Argument.exists_date_of_found ht h
  obtain ⟨shape, -, hspan⟩ := List.mem_flatMap.1 (List.contains_iff_mem.1 h)
  obtain ⟨front, q', more, ht', hstop, hquote⟩ := exists_quote_of_mem_finds hspan
  -- the quote that ends the find and the character that ends the literal are in one place
  have hsame : (pre ++ '"' :: date) ++ q :: after = front ++ q' :: more := by
    rw [← ht', ht]
    simp
  have hlength : (pre ++ '"' :: date).length = front.length := by
    simp only [List.length_append, List.length_cons, List.length_nil] at hstop ⊢
    omega
  obtain ⟨-, hq⟩ := List.append_inj hsame hlength
  obtain ⟨rfl, -⟩ := List.cons.inj hq
  refine ⟨date, q, rfl, ?_⟩
  rcases Bool.or_eq_true_iff.1 hquote with hq | hq
  · rw [eq_of_beq hq]
    rfl
  · rw [eq_of_beq hq]
    rfl

variable {whole pre front rest body after : List Char} {spans : List Span}

/-- A quoted literal in front of the last replacement is replaced.  The copy agrees with the
text up to the end of the literal. -/
theorem replace?_literal {copy : Copy} {date : List Char} {q : Char}
    (hw : whole = pre ++ '"' :: body ++ after) (hcopy : copy.text = pre ++ '"' :: body ++ rest)
    (hlowest : ∀ i ∈ copy.lowest, utf8Length pre + utf8Length ('"' :: body) ≤ i)
    (hbody : body = date ++ [q]) (hq : q.utf8Size = 1) :
    copy.replace? whole (utf8Length pre, utf8Length pre + utf8Length ('"' :: body))
      = some ⟨pre ++ ('"' :: placeholder copy.dates.length ++ ['"']) ++ rest,
        copy.dates ++ [date], some (utf8Length pre)⟩ := by
  have hfront : ¬ (copy.lowest.any fun i => i < utf8Length pre + utf8Length ('"' :: body))
      = true := by
    cases h : copy.lowest with
    | none => exact Bool.false_ne_true
    | some i =>
      rw [Option.any_some, decide_eq_true_eq]
      exact Nat.not_lt.2 (hlowest i h)
  have horiginal : Place whole (utf8Length pre) ('"' :: body ++ after) :=
    ⟨pre, by rw [hw, List.append_assoc], rfl⟩
  have hdate : Place ('"' :: body) 1 (date ++ [q]) := ⟨['"'], by rw [hbody]; rfl, rfl⟩
  have hquote : '"'.utf8Size = 1 := rfl
  have hstop : utf8Length ('"' :: body) - 1 = 1 + utf8Length date := by
    rw [hbody, utf8Length_cons, utf8Length_append, utf8Length_cons, utf8Length_nil, hquote, hq]
    omega
  rw [Copy.replace?, if_neg hfront, horiginal.slice?, Option.bind_eq_bind, Option.bind_some,
    hstop, hdate.slice?, Option.bind_some, Place.replaceSlice? hcopy, Option.bind_some]
  rfl

/-- The copy when the literals of a text have been replaced from behind.  In front of the
text the copy is as it was, and no replacement starts there. -/
def Replaced (whole pre text : List Char) (spans : List Span) : Prop :=
  ∃ lowest, (spans.map (byteSpan whole)).reverse.foldlM (Copy.replace? whole) ⟨whole, [], none⟩
      = some ⟨pre ++ (replaceLiterals pre.length spans text).1,
        (replaceLiterals pre.length spans text).2, lowest⟩
    ∧ ∀ i ∈ lowest, utf8Length pre ≤ i

theorem replaced_nil (whole : List Char) : Replaced whole whole [] [] := by
  refine ⟨none, ?_, nofun⟩
  simp [replaceLiterals]

/-- What stands in front of the first literal is in front of the replacements. -/
theorem Replaced.append (h : Replaced whole (pre ++ front) rest spans)
    (hspans : ∀ span ∈ spans, (pre ++ front).length ≤ span.start ∧ span.start ≤ span.stop) :
    Replaced whole pre (front ++ rest) spans := by
  obtain ⟨lowest, hcopy, hlowest⟩ := h
  rw [List.length_append] at hcopy hspans
  refine ⟨lowest, ?_, fun i hi => ?_⟩
  · rw [hcopy, Argument.replaceLiterals_append hspans, List.append_assoc]
  · have := hlowest i hi
    rw [utf8Length_append] at this
    omega

/-- The literal in front of the replacements is replaced next. -/
theorem Replaced.literal (h : Replaced whole (pre ++ '"' :: body) after spans)
    (hw : whole = pre ++ '"' :: body ++ after) {date : List Char} {q : Char}
    (hbody : body = date ++ [q]) (hq : q.utf8Size = 1) :
    Replaced whole pre ('"' :: (body ++ after))
      (⟨pre.length, pre.length + 1 + body.length⟩ :: spans) := by
  obtain ⟨lowest, hcopy, hlowest⟩ := h
  have hlength : (pre ++ '"' :: body).length = pre.length + 1 + body.length := by
    rw [List.length_append, List.length_cons]
    omega
  have hspan : byteSpan whole ⟨pre.length, pre.length + 1 + body.length⟩
      = (utf8Length pre, utf8Length pre + utf8Length ('"' :: body)) := by
    have hs := byteSpan_append pre ('"' :: body) after
    rwa [← List.append_assoc, ← hw, ← List.length_append, hlength] at hs
  rw [utf8Length_append] at hlowest
  refine ⟨some (utf8Length pre), ?_, fun i hi => ?_⟩
  · have hlast : body.dropLast = date := by rw [hbody, List.dropLast_concat]
    rw [List.map_cons, List.reverse_cons, List.foldlM_append, hcopy, Option.bind_eq_bind,
      Option.bind_some, List.foldlM_cons, hspan, replace?_literal hw rfl hlowest hbody hq,
      hlength, Argument.replaceLiterals_cons, hlast]
    simp
  · cases hi
    exact Nat.le_refl _

/-- A literal that is not picked is in front of the replacements. -/
theorem Replaced.passed {offset : Nat} {pick : Span → Bool}
    (h : Replaced whole (pre ++ '"' :: (splitLiteral '"' rest).1) (splitLiteral '"' rest).2
      ((valueLiterals offset (splitLiteral '"' rest).2).filter pick))
    (ho : offset = (pre ++ '"' :: (splitLiteral '"' rest).1).length) :
    Replaced whole pre ('"' :: rest)
      ((valueLiterals offset (splitLiteral '"' rest).2).filter pick) := by
  have hrest : '"' :: rest = '"' :: (splitLiteral '"' rest).1 ++ (splitLiteral '"' rest).2 := by
    rw [List.cons_append, splitLiteral_append]
  rw [hrest]
  refine h.append fun span hspan => ?_
  rw [← ho]
  exact Argument.start_le_of_mem_valueLiterals (List.mem_filter.1 hspan).1

/-- The literals of a text that are picked are replaced from behind. -/
theorem replaced_valueLiterals {whole : List Char} {pick : Span → Bool}
    (hp : PicksQuoted whole pick) (offset : Nat) (text pre : List Char)
    (hw : whole = pre ++ text) (ho : offset = pre.length) :
    Replaced whole pre text ((valueLiterals offset text).filter pick) := by
  fun_induction valueLiterals offset text generalizing pre with
  | case1 =>
    rw [List.append_nil] at hw
    rw [hw]
    exact replaced_nil pre
  | case2 offset rest body after stop others hk ih =>
    obtain ⟨hw', ho'⟩ := Argument.whole_eq_append hw ho rfl
    exact (ih _ hw' ho').passed ho'
  | case3 offset rest body after stop others hk ih =>
    obtain ⟨hw', ho'⟩ := Argument.whole_eq_append hw ho rfl
    have hrest : rest = body ++ after := (splitLiteral_append '"' rest).symm
    by_cases hpick : pick ⟨offset, stop⟩ = true
    · rw [List.filter_cons_of_pos hpick]
      have hspan : (⟨offset, stop⟩ : Span) = ⟨pre.length, pre.length + 1 + body.length⟩ := by
        rw [← ho]
      rw [hspan] at hpick ⊢
      obtain ⟨date, q, hbody, hq⟩ := hp pre body after (by rw [hw, hrest]) hpick
      rw [hrest]
      exact (ih _ hw' ho').literal hw' hbody hq
    · rw [List.filter_cons_of_neg hpick]
      exact (ih _ hw' ho').passed ho'
  | case4 offset c rest hc ih =>
    have hw' : whole = pre ++ [c] ++ rest := by rw [hw, List.append_assoc, List.singleton_append]
    have ho' : offset + 1 = (pre ++ [c]).length := by
      rw [ho, List.length_append, List.length_singleton]
    show Replaced whole pre ([c] ++ rest) _
    refine (ih _ hw' ho').append fun span hspan => ?_
    rw [← ho']
    exact Argument.start_le_of_mem_valueLiterals (List.mem_filter.1 hspan).1

theorem protectDates?_eq (text : List Char) : protectDates? text = some (protectDates text) := by
  obtain ⟨lowest, hcopy, -⟩ := replaced_valueLiterals (picksQuoted_finds text) 0 text [] rfl rfl
  have hlt : ∀ x ∈ ((dateMatches text).filter ((valueLiterals 0 text).map
      (byteSpan text)).contains).mergeSort isBehind, x.1 < x.2 := by
    intro x hx
    rw [List.mem_mergeSort, mem_filter_dateMatches] at hx
    obtain ⟨span, hspan, rfl⟩ := List.mem_map.1 hx
    obtain ⟨-, h1, h2⟩ := bounds_of_mem_valueLiterals (List.mem_filter.1 hspan).1
    exact utf8Length_take_lt h1 (by omega)
  rw [protectDates?, valueLiterals?_eq, Option.bind_eq_bind, Option.bind_some]
  dsimp only
  rw [← foldlM_dedup (pairwise_sorted _) hlt, dedup_sorted_dateMatches]
  rw [dateLiterals, hcopy]
  rfl

/-! ## All readers -/

/-- What can be sliced, and that the readers by offsets find all the slices they ask for.
A reader that asked for another slice, or did not come to its end, would give nothing. -/
structure SlicesExist (text : List Char) : Prop where
  /-- The bounds of a slice are ends of characters, and in order. -/
  slice : ∀ start stop, (slice? text start stop).isSome = true
    ↔ IsBoundary text start ∧ IsBoundary text stop ∧ start ≤ stop
  /-- A part can be replaced where it can be sliced. -/
  replaceSlice : ∀ start stop part, (replaceSlice? text start stop part).isSome = true
    ↔ (slice? text start stop).isSome = true
  sliceFrom : ∀ start, (sliceFrom? text start).isSome = true ↔ IsBoundary text start
  sliceTo : ∀ stop, (sliceTo? text stop).isSome = true ↔ IsBoundary text stop
  /-- The ends of characters are those of UTF-8. -/
  boundary : ∀ i, IsBoundary text i ↔ String.Pos.Raw.IsValid (String.ofList text) ⟨i⟩
  extract : extract? (String.ofList text) = some (BaseCall.extract (String.ofList text))
  chain : chain? text = some (CursorCall.chain text)
  function : function? text = some (FunctionLiteral.read? text)
  quoteKeys : quoteKeys? text = some (Argument.quoteKeys text)
  valueLiterals : valueLiterals? text
    = some ((Argument.valueLiterals 0 text).map (byteSpan text))
  protectDates : protectDates? text = some (Argument.protectDates text)

/-- In every text the readers by offsets find their slices, and they give what the readers
of the text left give. -/
theorem slicesExist (text : List Char) : SlicesExist text where
  slice _ _ := isSome_slice?_iff
  replaceSlice _ _ _ := isSome_replaceSlice?_iff
  sliceFrom _ := isSome_sliceFrom?_iff
  sliceTo _ := isSome_sliceTo?_iff
  boundary _ := isBoundary_iff_isValid
  extract := extract?_eq _
  chain := chain?_eq text
  function := function?_eq text
  quoteKeys := quoteKeys?_eq text
  valueLiterals := valueLiterals?_eq text
  protectDates := protectDates?_eq text

end ShellQuery.Offset

import ShellQuery.Argument.DateLiteral
import ShellQuery.Proofs.Text.Group

/-!
# Date literals taken out of a text

Taking the dates out leaves everything else in place.  `Swapped dates n text text'`
says this from left to right: `text'` is `text` with some literals, the last `n` dates
in all, replaced by placeholders that name them in `dates`.  Each of these literals
holds a date, which has neither quotes nor escapes, and stands in front of no colon.
Only a literal that is left open may be replaced in any way.
-/

namespace ShellQuery.Argument

open ShellQuery.Text

/-! ## Dates -/

/-- The characters of a date that are no digits. -/
def dateMarks : List Char := [' ', '+', '-', '.', '/', ':', 'T', 'Z']

/-- A character of a date. -/
def IsDateChar (c : Char) : Prop := isDecimal c = true ∨ c ∈ dateMarks

/-- A text of characters of dates. -/
def IsDateText (text : List Char) : Prop := ∀ c ∈ text, IsDateChar c

/-- The characters that a piece names. -/
def DatePiece.marks : DatePiece → List Char
  | digits _ _ => []
  | moreDigits => []
  | oneOf cs => cs

theorem marks_dateMarks : ∀ shape ∈ DateShape.all, ∀ pieces ∈ shape, ∀ piece ∈ pieces,
    ∀ c ∈ piece.marks, c ∈ dateMarks := by
  have h : DateShape.all.all (fun shape => List.all shape fun pieces => pieces.all fun piece =>
      piece.marks.all dateMarks.contains) = true := by
    decide
  intro shape hshape pieces hpieces piece hpiece c hc
  have hs := List.all_eq_true.1 h shape hshape
  have hp := List.all_eq_true.1 (List.all_eq_true.1 hs pieces hpieces) piece hpiece
  exact List.contains_iff_mem.1 (List.all_eq_true.1 hp c hc)

theorem isDateText_takeWhile (text : List Char) : IsDateText (text.takeWhile isDecimal) :=
  fun c hc => .inl (List.all_eq_true.1 List.all_takeWhile c hc)

/-- A piece takes characters of dates off a text. -/
theorem exists_of_after? {piece : DatePiece} (hm : ∀ c ∈ piece.marks, c ∈ dateMarks)
    {text rest : List Char} (h : piece.after? text = some rest) :
    ∃ front, text = front ++ rest ∧ IsDateText front := by
  have hdigits : text = text.takeWhile isDecimal ++ text.dropWhile isDecimal :=
    (List.takeWhile_append_dropWhile).symm
  cases piece with
  | digits low high =>
    simp only [DatePiece.after?, Option.ite_none_right_eq_some, Option.some.injEq] at h
    exact ⟨_, h.2 ▸ hdigits, isDateText_takeWhile text⟩
  | moreDigits =>
    simp only [DatePiece.after?, Option.ite_none_left_eq_some, Option.some.injEq] at h
    exact ⟨_, h.2 ▸ hdigits, isDateText_takeWhile text⟩
  | oneOf cs =>
    cases text with
    | nil => simp [DatePiece.after?] at h
    | cons c text =>
      simp only [DatePiece.after?, Option.ite_none_right_eq_some, Option.some.injEq] at h
      obtain ⟨hc, rfl⟩ := h
      refine ⟨[c], rfl, ?_⟩
      intro d hd
      obtain rfl := List.mem_singleton.1 hd
      exact .inr (hm d (by simpa [DatePiece.marks] using hc))

theorem isDateText_of_fitsPieces {pieces : List DatePiece}
    (hm : ∀ piece ∈ pieces, ∀ c ∈ piece.marks, c ∈ dateMarks) {text : List Char}
    (h : fitsPieces pieces text = true) : IsDateText text := by
  rw [fitsPieces, beq_iff_eq] at h
  induction pieces generalizing text with
  | nil =>
    simp only [List.foldlM_nil, Option.pure_def, Option.some.injEq] at h
    rw [h]
    exact nofun
  | cons piece pieces ih =>
    rw [List.forall_mem_cons] at hm
    rw [List.foldlM_cons] at h
    obtain ⟨rest, hr, hrest⟩ := Option.bind_eq_some_iff.1 h
    obtain ⟨front, rfl, hf⟩ := exists_of_after? hm.1 hr
    intro c hc
    rcases List.mem_append.1 hc with hc | hc
    · exact hf c hc
    · exact ih hm.2 hrest c hc

/-- What has the form of a date is made of characters of dates. -/
theorem isDateText_of_fits {shape : DateShape} (hs : shape ∈ DateShape.all) {text : List Char}
    (h : shape.fits text = true) : IsDateText text := by
  obtain ⟨pieces, hp, hf⟩ := List.any_eq_true.1 h
  exact isDateText_of_fitsPieces (marks_dateMarks shape hs pieces hp) hf

theorem le_toNat_of_isDecimal {c : Char} (h : isDecimal c = true) : 0x30 ≤ c.toNat := by
  have hlow : ∀ r ∈ decimalDigits, 0x30 ≤ r.1 := by decide
  obtain ⟨r, hr, hc⟩ := List.any_eq_true.1 h
  simp only [Bool.and_eq_true, decide_eq_true_eq] at hc
  exact Nat.le_trans (hlow r hr) hc.1

/-- A character of a date needs no escape in a literal. -/
theorem IsDateChar.plain {c : Char} (h : IsDateChar c) :
    isQuote c = false ∧ c ≠ '\\' ∧ c ≠ '_' ∧ 0x20 ≤ c.toNat := by
  rcases h with h | h
  · have hle := le_toNat_of_isDecimal h
    refine ⟨isQuote_eq_false h (by decide +kernel), ?_, ?_, by omega⟩
    · rintro rfl
      revert h
      decide +kernel
    · rintro rfl
      revert h
      decide +kernel
  · have hmarks : ∀ c ∈ dateMarks, isQuote c = false ∧ c ≠ '\\' ∧ c ≠ '_' ∧ 0x20 ≤ c.toNat :=
      List.all_iff_forall_prop.1 (by decide)
    exact hmarks c h

/-! ## Where dates are found -/

/-- A date between two quotes in a text, of which the start is at `offset`. -/
def IsFind (shape : DateShape) (offset : Nat) (text : List Char) (span : Span) : Prop :=
  ∃ before q body q' after, text = before ++ q :: (body ++ q' :: after)
    ∧ span = ⟨offset + before.length, offset + before.length + body.length + 2⟩
    ∧ shape.fits body = true

theorem IsFind.append {shape : DateShape} {offset : Nat} {rest : List Char} {span : Span}
    (front : List Char) (h : IsFind shape (offset + front.length) rest span) :
    IsFind shape offset (front ++ rest) span := by
  obtain ⟨before, q, body, q', after, rfl, rfl, hf⟩ := h
  refine ⟨front ++ before, q, body, q', after, (List.append_assoc ..).symm, ?_, hf⟩
  rw [List.length_append, Nat.add_assoc offset]

/-- What is found is a date between two quotes. -/
theorem isFind_of_mem_finds {shape : DateShape} {offset : Nat} {text : List Char} {span : Span}
    (h : span ∈ shape.finds offset text) : IsFind shape offset text span := by
  fun_induction DateShape.finds shape offset text with
  | case1 => simp at h
  | case2 => simp at h
  | case3 offset c rest hq body q' after hd hf stop ih =>
    have hs : rest = body ++ q' :: after := by
      rw [← hd, List.takeWhile_append_dropWhile]
    rcases List.mem_cons.1 h with rfl | h
    · exact ⟨[], c, body, q', after, congrArg (c :: ·) hs, rfl, hf⟩
    · have hlen : offset + (c :: body ++ [q']).length = stop := by
        rw [List.length_append]
        rfl
      have hi := IsFind.append (c :: body ++ [q']) (hlen ▸ ih h)
      rw [hs]
      simpa using hi
  | case4 offset c rest hq body q' after hd hf ih => exact IsFind.append [c] (ih h)
  | case5 offset c rest hq ih => exact IsFind.append [c] (ih h)

/-- A literal that is found as a date: its body, without the quote, is one. -/
theorem exists_date_of_found {text pre literal after : List Char}
    (ht : text = pre ++ '"' :: (literal ++ after))
    (h : (DateShape.all.flatMap fun shape => shape.finds 0 text).contains
      ⟨pre.length, pre.length + 1 + literal.length⟩ = true) :
    ∃ date q, literal = date ++ [q] ∧ IsDateText date := by
  obtain ⟨shape, hs, hm⟩ := List.mem_flatMap.1 (List.contains_iff_mem.1 h)
  obtain ⟨before, q, body, q', after', ht', hspan, hf⟩ := isFind_of_mem_finds hm
  simp only [Span.mk.injEq, Nat.zero_add] at hspan
  rw [ht] at ht'
  obtain ⟨-, hrest⟩ := List.append_inj ht' hspan.1
  obtain ⟨-, hrest⟩ := List.cons.inj hrest
  have hbody : literal ++ after = (body ++ [q']) ++ after' := by simpa using hrest
  have hlength : literal.length = (body ++ [q']).length := by
    rw [List.length_append, List.length_singleton]
    omega
  obtain ⟨rfl, -⟩ := List.append_inj hbody hlength
  exact ⟨body, q', rfl, isDateText_of_fits hs hf⟩

/-! ## Taking dates out -/

/-- A text with placeholders for some of its literals.  The last `n` dates are named. -/
inductive Swapped (dates : List (List Char)) : Nat → List Char → List Char → Prop where
  /-- No text. -/
  | nil : Swapped dates 0 [] []
  /-- A character outside literals. -/
  | char {n : Nat} {c : Char} {text text' : List Char} : c ≠ '"' → Swapped dates n text text' →
      Swapped dates n (c :: text) (c :: text')
  /-- A literal that stays. -/
  | kept {n : Nat} {body text text' : List Char} : IsLiteralBody '"' body →
      Swapped dates n text text' → Swapped dates n ('"' :: (body ++ text)) ('"' :: (body ++ text'))
  /-- A date and its placeholder. -/
  | date {n : Nat} {date text text' : List Char} : IsDateText date →
      (skipBlank text).head? ≠ some ':' → dates[n]? = some date → Swapped dates n text text' →
      Swapped dates (n + 1) ('"' :: (date ++ '"' :: text)) ('"' :: (placeholder n ++ '"' :: text'))
  /-- A literal that is left open. -/
  | opened {n : Nat} {text text' : List Char} :
      (∀ body after, IsLiteralBody '"' body → text ≠ body ++ after) →
      Swapped dates n ('"' :: text) text'

/-- The spans of literals come in order. -/
theorem start_le_of_mem_valueLiterals {offset : Nat} {text : List Char} {span : Span}
    (h : span ∈ valueLiterals offset text) : offset ≤ span.start ∧ span.start ≤ span.stop := by
  fun_induction valueLiterals offset text with
  | case1 => simp at h
  | case2 offset rest body after stop others hk ih =>
    have hs := ih h
    have hstop : stop = offset + 1 + body.length := rfl
    omega
  | case3 offset rest body after stop others hk ih =>
    have hstop : stop = offset + 1 + body.length := rfl
    rcases List.mem_cons.1 h with rfl | h
    · simp only
      omega
    · have hs := ih h
      omega
  | case4 offset c rest hc ih =>
    have hs := ih h
    omega

/-- What stands in front of the first literal is left alone. -/
theorem replaceLiterals_append {offset : Nat} {spans : List Span} {front : List Char}
    (h : ∀ span ∈ spans, offset + front.length ≤ span.start ∧ span.start ≤ span.stop)
    (rest : List Char) :
    replaceLiterals offset spans (front ++ rest)
      = (front ++ (replaceLiterals (offset + front.length) spans rest).1,
        (replaceLiterals (offset + front.length) spans rest).2) := by
  cases spans with
  | nil => rfl
  | cons span more =>
    obtain ⟨h1, h2⟩ := h span (List.mem_cons_self ..)
    have htake : (front ++ rest).take (span.start - offset)
        = front ++ rest.take (span.start - (offset + front.length)) := by
      rw [List.take_append, List.take_of_length_le (by omega), Nat.sub_sub]
    have hdrop : (front ++ rest).drop (span.start - offset)
        = rest.drop (span.start - (offset + front.length)) := by
      rw [List.drop_append, List.drop_of_length_le (by omega), Nat.sub_sub, List.nil_append]
    have hdrop' : (front ++ rest).drop (span.stop - offset)
        = rest.drop (span.stop - (offset + front.length)) := by
      rw [List.drop_append, List.drop_of_length_le (by omega), Nat.sub_sub, List.nil_append]
    simp only [replaceLiterals, htake, hdrop, hdrop', List.append_assoc]

/-- The literal at the start of a text is replaced. -/
theorem replaceLiterals_cons (offset : Nat) (more : List Span) (body after : List Char) :
    replaceLiterals offset (⟨offset, offset + 1 + body.length⟩ :: more) ('"' :: (body ++ after))
      = ('"' :: (placeholder
            (replaceLiterals (offset + 1 + body.length) more after).2.length
          ++ '"' :: (replaceLiterals (offset + 1 + body.length) more after).1),
        (replaceLiterals (offset + 1 + body.length) more after).2 ++ [body.dropLast]) := by
  have hlen : offset + 1 + body.length - offset = body.length + 1 := by omega
  have htake : ('"' :: (body ++ after)).take (body.length + 1) = '"' :: body := by simp
  have hdrop : ('"' :: (body ++ after)).drop (body.length + 1) = after := by simp
  simp only [replaceLiterals, Nat.sub_self, List.drop_zero, List.take_zero, hlen, htake, hdrop,
    List.tail_cons, List.nil_append]
  rfl

/-- A literal is closed, or runs to the end of the text. -/
theorem splitLiteral_cases {q : Char} (hq : q ≠ '\\') (text : List Char) :
    IsLiteralBody q (splitLiteral q text).1
      ∨ (splitLiteral q text = (text, []) ∧ ∀ body after, IsLiteralBody q body →
        text ≠ body ++ after) := by
  fun_induction splitLiteral q text with
  | case1 =>
    refine .inr ⟨rfl, fun body after hb h => ?_⟩
    cases hb <;> cases h
  | case2 =>
    refine .inr ⟨rfl, fun body after hb h => ?_⟩
    cases hb with
    | close => exact hq (List.cons.inj h).1.symm
    | escape _ => cases (List.cons.inj h).2
    | char _ hne _ => exact hne (List.cons.inj h).1.symm
  | case3 c rest body after heq ih =>
    rw [heq] at ih
    rcases ih with hb | ⟨he, hno⟩
    · exact .inl (.escape hb)
    · simp only [Prod.mk.injEq] at he
      obtain ⟨rfl, rfl⟩ := he
      refine .inr ⟨rfl, fun body' after' hb h => ?_⟩
      cases hb with
      | close => exact hq (List.cons.inj h).1.symm
      | escape hb => exact hno _ after' hb (List.cons.inj (List.cons.inj h).2).2
      | char _ hne _ => exact hne (List.cons.inj h).1.symm
  | case4 => exact .inl (.close q)
  | case5 c rest h1 h2 hc body after heq ih =>
    have hb : c ≠ '\\' := by
      rintro rfl
      cases rest with
      | nil => exact h1 rfl rfl
      | cons d rest => exact h2 d rest rfl rfl
    rw [heq] at ih
    rcases ih with hbody | ⟨he, hno⟩
    · exact .inl (.char hc hb hbody)
    · simp only [Prod.mk.injEq] at he
      obtain ⟨rfl, rfl⟩ := he
      refine .inr ⟨rfl, fun body' after' hb' h => ?_⟩
      cases hb' with
      | close => exact hc (List.cons.inj h).1
      | escape _ => exact hb (List.cons.inj h).1
      | char _ _ hbody => exact hno _ after' hbody (List.cons.inj h).2

theorem exists_eq_append_of_isLiteralBody {q : Char} {body : List Char}
    (h : IsLiteralBody q body) : ∃ front, body = front ++ [q] := by
  induction h with
  | close => exact ⟨[], rfl⟩
  | @escape c _ _ ih =>
    obtain ⟨front, rfl⟩ := ih
    exact ⟨'\\' :: c :: front, rfl⟩
  | @char c _ _ _ _ ih =>
    obtain ⟨front, rfl⟩ := ih
    exact ⟨c :: front, rfl⟩

/-- A text and dates that stand for another text: what taking dates out gives. -/
structure Protects (text : List Char) (taken : List Char × List (List Char)) : Prop where
  isDateText : ∀ date ∈ taken.2, IsDateText date
  swapped : ∀ dates, taken.2 <+: dates → Swapped dates taken.2.length text taken.1

theorem protects_nil : Protects [] ([], []) := ⟨nofun, fun _ _ => .nil⟩

theorem Protects.char {text : List Char} {taken : List Char × List (List Char)} {c : Char}
    (h : Protects text taken) (hc : c ≠ '"') : Protects (c :: text) (c :: taken.1, taken.2) :=
  ⟨h.isDateText, fun dates hd => .char hc (h.swapped dates hd)⟩

theorem Protects.kept {text body : List Char} {taken : List Char × List (List Char)}
    (h : Protects text taken) (hb : IsLiteralBody '"' body) :
    Protects ('"' :: (body ++ text)) ('"' :: (body ++ taken.1), taken.2) :=
  ⟨h.isDateText, fun dates hd => .kept hb (h.swapped dates hd)⟩

theorem Protects.date {text date : List Char} {taken : List Char × List (List Char)}
    (h : Protects text taken) (hd : IsDateText date) (hk : (skipBlank text).head? ≠ some ':') :
    Protects ('"' :: (date ++ '"' :: text))
      ('"' :: (placeholder taken.2.length ++ '"' :: taken.1), taken.2 ++ [date]) where
  isDateText := by
    intro d hm
    rcases List.mem_append.1 hm with hm | hm
    · exact h.isDateText d hm
    · obtain rfl := List.mem_singleton.1 hm
      exact hd
  swapped := by
    intro dates hpre
    have hget : dates[taken.2.length]? = some date := by
      obtain ⟨more, rfl⟩ := hpre
      simp
    have hs := h.swapped dates ((List.prefix_append ..).trans hpre)
    rw [List.length_append]
    exact .date hd hk hget hs

/-- A literal that is left open is the last one, so it hides nothing from the dates. -/
theorem protects_opened {text : List Char} {taken : List Char × List (List Char)}
    (hno : ∀ body after, IsLiteralBody '"' body → text ≠ body ++ after)
    (hd : ∀ date ∈ taken.2, IsDateText date) : Protects ('"' :: text) taken :=
  ⟨hd, fun _ _ => .opened hno⟩

/-- Whether a span is a date wherever a literal of the text has it. -/
def PicksDates (whole : List Char) (pick : Span → Bool) : Prop :=
  ∀ pre literal after, whole = pre ++ '"' :: (literal ++ after) →
    pick ⟨pre.length, pre.length + 1 + literal.length⟩ = true →
    ∃ date q, literal = date ++ [q] ∧ IsDateText date

/-- A literal that is not picked is passed over. -/
theorem protects_passed {offset : Nat} {rest body after : List Char} {spans : List Span}
    (hsplit : splitLiteral '"' rest = (body, after))
    (hspans : ∀ span ∈ spans, offset + 1 + body.length ≤ span.start ∧ span.start ≤ span.stop)
    (hnil : after = [] → spans = [])
    (h : Protects after (replaceLiterals (offset + 1 + body.length) spans after)) :
    Protects ('"' :: rest) (replaceLiterals offset spans ('"' :: rest)) := by
  have hrest := splitLiteral_append '"' rest
  rw [hsplit] at hrest
  have hlen : offset + ('"' :: body).length = offset + 1 + body.length := by
    rw [List.length_cons]
    omega
  have hr : replaceLiterals offset spans ('"' :: body ++ after) = _ :=
    replaceLiterals_append (by rw [hlen]; exact hspans) after
  rw [hlen] at hr
  rw [← hrest, ← List.cons_append, hr]
  rcases splitLiteral_cases (q := '"') (by decide) rest with hb | ⟨he, hno⟩
  · rw [hsplit] at hb
    exact h.kept hb
  · rw [hsplit] at he
    simp only [Prod.mk.injEq] at he
    obtain ⟨rfl, rfl⟩ := he
    refine protects_opened (by simpa using hno) ?_
    rw [hnil rfl]
    exact nofun

theorem valueLiterals_nil (offset : Nat) : valueLiterals offset [] = [] := by
  rw [valueLiterals]

/-- A literal that is picked is taken out. -/
theorem protects_picked {offset : Nat} {rest body after date : List Char} {q : Char}
    {spans : List Span} (hsplit : splitLiteral '"' rest = (body, after))
    (hbody : body = date ++ [q]) (hdate : IsDateText date)
    (hk : (skipBlank after).head? ≠ some ':') (hnil : after = [] → spans = [])
    (h : Protects after (replaceLiterals (offset + 1 + body.length) spans after)) :
    Protects ('"' :: rest)
      (replaceLiterals offset (⟨offset, offset + 1 + body.length⟩ :: spans) ('"' :: rest)) := by
  have hrest := splitLiteral_append '"' rest
  rw [hsplit] at hrest
  rw [← hrest, replaceLiterals_cons]
  have hlast : body.dropLast = date := by rw [hbody, List.dropLast_concat]
  rw [hlast]
  rcases splitLiteral_cases (q := '"') (by decide) rest with hb | ⟨he, hno⟩
  · rw [hsplit, hbody] at hb
    obtain ⟨front, hfront⟩ := exists_eq_append_of_isLiteralBody hb
    obtain rfl := List.singleton_inj.1 (List.append_inj' hfront rfl).2
    have hd := h.date hdate hk
    rw [hbody] at hd ⊢
    rw [List.append_assoc]
    exact hd
  · rw [hsplit] at he
    simp only [Prod.mk.injEq] at he
    obtain ⟨rfl, rfl⟩ := he
    refine protects_opened (by simpa using hno) ?_
    rw [hnil rfl]
    intro d hm
    obtain rfl := List.mem_singleton.1 hm
    exact hdate

/-- Behind a literal the induction goes on with a longer front. -/
theorem whole_eq_append {whole pre rest body after : List Char} {offset : Nat}
    (hw : whole = pre ++ '"' :: rest) (ho : offset = pre.length)
    (hsplit : splitLiteral '"' rest = (body, after)) :
    whole = pre ++ '"' :: body ++ after
      ∧ offset + 1 + body.length = (pre ++ '"' :: body).length := by
  have hrest := splitLiteral_append '"' rest
  rw [hsplit] at hrest
  constructor
  · rw [hw, ← hrest]
    simp
  · rw [List.length_append, List.length_cons]
    omega

theorem protects_replaceLiterals {whole : List Char} {pick : Span → Bool}
    (hp : PicksDates whole pick) (offset : Nat) (text pre : List Char)
    (hw : whole = pre ++ text) (ho : offset = pre.length) :
    Protects text (replaceLiterals offset ((valueLiterals offset text).filter pick) text) := by
  fun_induction valueLiterals offset text generalizing pre with
  | case1 => exact protects_nil
  | case2 offset rest body after stop others hk ih =>
    have hsplit : splitLiteral '"' rest = (body, after) := rfl
    obtain ⟨hw', ho'⟩ := whole_eq_append hw ho hsplit
    refine protects_passed hsplit (fun span hm => ?_) (fun hn => ?_) (ih _ hw' ho')
    · exact start_le_of_mem_valueLiterals (List.mem_filter.1 hm).1
    · rw [hn] at hk
      cases hk
  | case3 offset rest body after stop others hk ih =>
    have hsplit : splitLiteral '"' rest = (body, after) := rfl
    obtain ⟨hw', ho'⟩ := whole_eq_append hw ho hsplit
    have hnil : after = [] → others.filter pick = [] := by
      intro hn
      have ho : others = valueLiterals stop after := rfl
      rw [ho, hn, valueLiterals_nil]
      rfl
    by_cases hpick : pick ⟨offset, stop⟩ = true
    · have hrest : rest = body ++ after := (splitLiteral_append '"' rest).symm
      obtain ⟨date, q, hbody, hdate⟩ := hp pre body after (by rw [hw, hrest])
        (by rw [← ho]; exact hpick)
      rw [List.filter_cons_of_pos hpick]
      exact protects_picked hsplit hbody hdate (by simpa using hk) hnil (ih _ hw' ho')
    · rw [List.filter_cons_of_neg hpick]
      refine protects_passed hsplit (fun span hm => ?_) hnil (ih _ hw' ho')
      exact start_le_of_mem_valueLiterals (List.mem_filter.1 hm).1
  | case4 offset c rest hc ih =>
    have hspans : ∀ span ∈ (valueLiterals (offset + 1) rest).filter pick,
        offset + [c].length ≤ span.start ∧ span.start ≤ span.stop :=
      fun span hm => start_le_of_mem_valueLiterals (List.mem_filter.1 hm).1
    have hr : replaceLiterals offset _ ([c] ++ rest) = _ := replaceLiterals_append hspans rest
    rw [List.singleton_append] at hr
    rw [hr]
    exact (ih (pre ++ [c]) (by rw [hw]; simp) (by rw [ho]; simp)).char hc

/-- Taking the dates out of a text swaps dates for placeholders. -/
theorem protects_protectDates (text : List Char) : Protects text (protectDates text) :=
  protects_replaceLiterals (fun _ _ _ ht h => exists_date_of_found ht h) 0 text [] rfl rfl

theorem swapped_protectDates (text : List Char) :
    Swapped (protectDates text).2 (protectDates text).2.length text (protectDates text).1 :=
  (protects_protectDates text).swapped _ (List.prefix_refl _)

theorem length_replaceLiterals (offset : Nat) (spans : List Span) (text : List Char) :
    (replaceLiterals offset spans text).2.length = spans.length := by
  induction spans generalizing offset text with
  | nil => rfl
  | cons span more ih =>
    rw [replaceLiterals]
    simp [ih]

/-- Each date literal is taken out. -/
theorem length_protectDates (text : List Char) :
    (protectDates text).2.length = (dateLiterals text).length :=
  length_replaceLiterals 0 _ text

/-! ## Reading a swap from left to right -/

variable {dates : List (List Char)} {n : Nat}

theorem isLiteralBody_date {date : List Char} (h : IsDateText date) :
    IsLiteralBody '"' (date ++ ['"']) := by
  refine isLiteralBody_append (fun c hc => ?_) (.close '"')
  obtain ⟨hq, hb, -⟩ := (h c hc).plain
  refine ⟨?_, hb⟩
  rintro rfl
  revert hq
  decide

/-- A text has at most one literal at its start. -/
theorem isLiteralBody_append_inj {body body' rest rest' : List Char}
    (hb : IsLiteralBody '"' body) (hb' : IsLiteralBody '"' body')
    (h : body ++ rest = body' ++ rest') : body = body' ∧ rest = rest' := by
  have h1 := splitLiteral_of_isLiteralBody (by decide) hb rest
  have h2 := splitLiteral_of_isLiteralBody (by decide) hb' rest'
  rw [h, h2] at h1
  simp only [Prod.mk.injEq] at h1
  exact ⟨h1.1.symm, h1.2.symm⟩

/-- A character outside literals is left alone. -/
theorem Swapped.cons_inv {c : Char} {text text' : List Char} (hc : c ≠ '"')
    (h : Swapped dates n (c :: text) text') :
    ∃ rest', text' = c :: rest' ∧ Swapped dates n text rest' := by
  generalize ht : c :: text = whole at h
  cases h with
  | nil => cases ht
  | char _ h =>
    obtain ⟨rfl, rfl⟩ := List.cons.inj ht
    exact ⟨_, rfl, h⟩
  | kept _ _ => exact absurd (List.cons.inj ht).1 hc
  | date _ _ _ _ => exact absurd (List.cons.inj ht).1 hc
  | opened _ => exact absurd (List.cons.inj ht).1 hc

/-- A text without double quotes is left alone. -/
theorem Swapped.append_inv {front text text' : List Char} (hf : '"' ∉ front)
    (h : Swapped dates n (front ++ text) text') :
    ∃ rest', text' = front ++ rest' ∧ Swapped dates n text rest' := by
  induction front generalizing text' with
  | nil => exact ⟨text', rfl, h⟩
  | cons c front ih =>
    rw [List.mem_cons, not_or] at hf
    obtain ⟨rest, rfl, h₁⟩ := h.cons_inv (Ne.symm hf.1)
    obtain ⟨rest', rfl, h₂⟩ := ih hf.2 h₁
    exact ⟨rest', rfl, h₂⟩

/-- A literal stays, or it is a date and its placeholder stands there. -/
theorem Swapped.literal_inv {body text text' : List Char} (hb : IsLiteralBody '"' body)
    (h : Swapped dates n ('"' :: (body ++ text)) text') :
    (∃ rest', text' = '"' :: (body ++ rest') ∧ Swapped dates n text rest')
      ∨ ∃ date m rest', body = date ++ ['"'] ∧ IsDateText date
        ∧ (skipBlank text).head? ≠ some ':' ∧ dates[m]? = some date ∧ n = m + 1
        ∧ text' = '"' :: (placeholder m ++ '"' :: rest') ∧ Swapped dates m text rest' := by
  generalize ht : '"' :: (body ++ text) = whole at h
  cases h with
  | nil => cases ht
  | char hc _ => exact absurd (List.cons.inj ht).1.symm hc
  | kept hb' h =>
    obtain ⟨rfl, rfl⟩ := isLiteralBody_append_inj hb hb' (List.cons.inj ht).2
    exact .inl ⟨_, rfl, h⟩
  | @date m date rest rest' hd hk hget h =>
    have hs : body ++ text = (date ++ ['"']) ++ rest := by
      rw [(List.cons.inj ht).2]
      simp
    obtain ⟨rfl, rfl⟩ := isLiteralBody_append_inj hb (isLiteralBody_date hd) hs
    exact .inr ⟨date, m, rest', rfl, hd, hk, hget, rfl, rfl, h⟩
  | opened hno => exact absurd (List.cons.inj ht).2.symm (hno _ _ hb)

end ShellQuery.Argument

import ShellQuery.Json.Reader

/-!
# The extent of a number

A number is read one character at a time, and what is read does not depend on the
text behind it, as long as that text does not go on with the number.  Here this is
shown for each part of the reader, from the end of a number to its start.

`Takes read text v rest` is the one notion behind it: `read` takes a piece of number
characters off a text, and reads the same value from this piece in front of any text
that ends a number.
-/

namespace ShellQuery.Json

/-- What holds of the four characters of white space. -/
@[elab_as_elim] theorem of_isSpace {p : Char → Prop} {c : Char} (h : isSpace c = true)
    (hp : p ' ' ∧ p '\n' ∧ p '\t' ∧ p '\r') : p c := by
  simp only [isSpace, Bool.or_eq_true, beq_iff_eq] at h
  obtain ⟨hblank, hline, htab, hreturn⟩ := hp
  rcases h with ((rfl | rfl) | rfl) | rfl
  · exact hblank
  · exact hline
  · exact htab
  · exact hreturn

/-- Whether a character may stand in a number. -/
def isNumberChar (c : Char) : Bool :=
  c.isDigit || c == '.' || c == 'e' || c == 'E' || c == '+' || c == '-'

/-- No number goes on into this text. -/
def EndsNumber (rest : List Char) : Prop := ∀ c ∈ rest.head?, isNumberChar c = false

/-- A reader reads a number from number characters, whatever ends the number. -/
structure ReadsFront (read : Reader Json) (front : List Char) (v : Json) : Prop where
  chars : ∀ c ∈ front, isNumberChar c = true
  isNumber : ∃ n, v = .number n
  reads : ∀ rest, EndsNumber rest → read (front ++ rest) = .ok (v, rest)

/-- A reader takes a number off the start of a text. -/
def Takes (read : Reader Json) (text : List Char) (v : Json) (rest : List Char) : Prop :=
  ∃ front, text = front ++ rest ∧ ReadsFront read front v

/-- Number characters in front of what another reader takes. -/
theorem Takes.cons {read read' : Reader Json} {text rest : List Char} {v : Json} {c : Char}
    (h : Takes read text v rest) (hc : isNumberChar c = true)
    (hr : ∀ t, read' (c :: t) = read t) : Takes read' (c :: text) v rest := by
  obtain ⟨front, rfl, hf⟩ := h
  refine ⟨c :: front, rfl, ?_, hf.isNumber, ?_⟩
  · intro d hd
    rcases List.mem_cons.1 hd with rfl | hd
    · exact hc
    · exact hf.chars d hd
  · intro rest' he
    rw [List.cons_append, hr]
    exact hf.reads rest' he

theorem isNumberChar_of_isDigit {c : Char} (h : c.isDigit = true) : isNumberChar c = true := by
  simp [isNumberChar, h]

theorem not_isDigit_of_endsNumber {c : Char} {rest : List Char} (h : EndsNumber (c :: rest)) :
    c.isDigit = false := by
  cases hd : c.isDigit with
  | false => rfl
  | true => exact absurd (isNumberChar_of_isDigit hd) (by simp [h c rfl])

/-- What ends a number starts with no digit. -/
theorem dropWhile_isDigit_of_endsNumber {rest : List Char} (h : EndsNumber rest) :
    rest.dropWhile Char.isDigit = rest := by
  cases rest with
  | nil => rfl
  | cons c more => simp [not_isDigit_of_endsNumber h]

theorem all_isDigit_takeWhile (text : List Char) :
    ∀ c ∈ text.takeWhile Char.isDigit, c.isDigit = true :=
  fun c hc => List.all_eq_true.1 List.all_takeWhile c hc

/-! ## The end of a float -/

theorem takes_finishFloat {negative : Bool} {s : Nat} {e : Int} {text rest : List Char} {v : Json}
    (h : finishFloat negative ⟨s, e, text⟩ = .ok (v, rest)) :
    rest = text ∧ (∃ n, v = .number n)
      ∧ ∀ rest', finishFloat negative ⟨s, e, rest'⟩ = .ok (v, rest') := by
  simp only [finishFloat] at h ⊢
  split at h
  · rename_i x hx
    simp only [Except.ok.injEq, Prod.mk.injEq] at h
    obtain ⟨rfl, rfl⟩ := h
    exact ⟨rfl, ⟨_, rfl⟩, fun _ => rfl⟩
  · simp [failBefore] at h

/-- The digits of an exponent, and what is read in front of another text. -/
theorem takeExponent_spec (value : Nat) (text : List Char) :
    ∃ front, (∀ c ∈ front, c.isDigit = true) ∧ text = front ++ (takeExponent value text).2
      ∧ ∀ rest, (takeExponent value text).1 = none ∨ EndsNumber rest →
        takeExponent value (front ++ rest) = ((takeExponent value text).1, rest) := by
  induction text generalizing value with
  | nil =>
    refine ⟨[], by simp, rfl, fun rest h => ?_⟩
    rcases h with h | h
    · simp [takeExponent] at h
    · cases rest with
      | nil => rfl
      | cons c more => simp [takeExponent, not_isDigit_of_endsNumber h]
  | cons c text ih =>
    by_cases hc : c.isDigit = true
    · by_cases hn : value * 10 + digitValue c ≤ exponentMax
      · obtain ⟨front, hd, ht, hr⟩ := ih (value * 10 + digitValue c)
        refine ⟨c :: front, ?_, ?_, ?_⟩
        · simpa [hc] using hd
        · simpa [takeExponent, hc, hn] using ht
        · simpa [takeExponent, hc, hn] using hr
      · exact ⟨[c], by simpa using hc, by simp [takeExponent, hc, hn],
          by simp [takeExponent, hc, hn]⟩
    · refine ⟨[], by simp, by simp [takeExponent, hc], fun rest h => ?_⟩
      rcases h with h | h
      · simp [takeExponent, hc] at h
      · cases rest with
        | nil => simp [takeExponent, hc]
        | cons d more => simp [takeExponent, hc, not_isDigit_of_endsNumber h]

/-- Reads the digits of an exponent, of which the sign is already gone. -/
def readExponentDigits (negative minus : Bool) (s : Nat) (e : Int) : Reader Json
  | [] => failBefore .eofValue []
  | c :: rest =>
      if c.isDigit then
        match takeExponent (digitValue c) rest with
        | (some x, rest') =>
            let shift : Int := if minus then -(x : Int) else x
            finishFloat negative ⟨s, clampExponent (e + shift), rest'⟩
        | (none, rest') =>
            if s ≠ 0 && !minus then failBefore .numberOutOfRange rest'
            else .ok (.float (if negative then -0.0 else 0.0), rest'.dropWhile Char.isDigit)
      else failAt .invalidNumber (c :: rest)

theorem readExponent_plus (negative : Bool) (s : Nat) (e : Int) (text : List Char) :
    readExponent negative ⟨s, e, '+' :: text⟩ = readExponentDigits negative false s e text := by
  cases text <;> rfl

theorem readExponent_minus (negative : Bool) (s : Nat) (e : Int) (text : List Char) :
    readExponent negative ⟨s, e, '-' :: text⟩ = readExponentDigits negative true s e text := by
  cases text <;> rfl

/-- An exponent without a sign. -/
theorem readExponent_bare (negative : Bool) (s : Nat) (e : Int) {c : Char} (text : List Char)
    (hp : c ≠ '+') (hm : c ≠ '-') :
    readExponent negative ⟨s, e, c :: text⟩
      = readExponentDigits negative false s e (c :: text) := by
  unfold readExponent
  split
  rename_i minus text' heq
  split at heq
  · rename_i hs
    exact absurd (List.cons.inj hs).1 hp
  · rename_i hs
    exact absurd (List.cons.inj hs).1 hm
  · simp only [Prod.mk.injEq] at heq
    obtain ⟨rfl, rfl⟩ := heq
    rfl

theorem takes_readExponentDigits {negative minus : Bool} {s : Nat} {e : Int}
    {text rest : List Char} {v : Json}
    (h : readExponentDigits negative minus s e text = .ok (v, rest)) :
    Takes (readExponentDigits negative minus s e) text v rest := by
  cases text with
  | nil => simp [readExponentDigits, failBefore] at h
  | cons c text =>
    have hc : c.isDigit = true := by
      cases hd : c.isDigit with
      | true => rfl
      | false => simp [readExponentDigits, hd, failAt] at h
    obtain ⟨front, hfd, hft, hfr⟩ := takeExponent_spec (digitValue c) text
    simp only [readExponentDigits, hc, if_true] at h
    split at h
    · rename_i x after heq
      obtain ⟨rfl, hn, hf⟩ := takes_finishFloat h
      rw [heq] at hft hfr
      refine ⟨c :: front, congrArg (c :: ·) hft, ?_, hn, fun rest' he => ?_⟩
      · rw [List.forall_mem_cons]
        exact ⟨isNumberChar_of_isDigit hc, fun d hd => isNumberChar_of_isDigit (hfd d hd)⟩
      · rw [List.cons_append, readExponentDigits, if_pos hc, hfr rest' (.inr he)]
        exact hf rest'
    · rename_i after heq
      rw [heq] at hft hfr
      split at h
      · simp [failBefore] at h
      · rename_i hz
        simp only [Except.ok.injEq, Prod.mk.injEq] at h
        obtain ⟨rfl, rfl⟩ := h
        -- the digits of an exponent that is too large are read, but not looked at
        refine ⟨c :: (front ++ after.takeWhile Char.isDigit), ?_, ?_, ⟨_, rfl⟩, ?_⟩
        · rw [List.cons_append, List.append_assoc, List.takeWhile_append_dropWhile]
          exact congrArg (c :: ·) hft
        · rw [List.forall_mem_cons]
          refine ⟨isNumberChar_of_isDigit hc, fun d hd => isNumberChar_of_isDigit ?_⟩
          rcases List.mem_append.1 hd with hd | hd
          · exact hfd d hd
          · exact all_isDigit_takeWhile after d hd
        · intro rest' he
          rw [List.cons_append, List.append_assoc, readExponentDigits, if_pos hc,
            hfr _ (.inl rfl)]
          simp only [if_neg hz]
          rw [List.dropWhile_append_of_pos (all_isDigit_takeWhile after),
            dropWhile_isDigit_of_endsNumber he]

theorem takes_readExponent {negative : Bool} {s : Nat} {e : Int} {text rest : List Char} {v : Json}
    (h : readExponent negative ⟨s, e, text⟩ = .ok (v, rest)) :
    Takes (fun t => readExponent negative ⟨s, e, t⟩) text v rest := by
  cases text with
  | nil => simp [readExponent, failBefore] at h
  | cons c text =>
    by_cases hp : c = '+'
    · subst hp
      rw [readExponent_plus] at h
      exact (takes_readExponentDigits h).cons rfl (readExponent_plus negative s e)
    · by_cases hm : c = '-'
      · subst hm
        rw [readExponent_minus] at h
        exact (takes_readExponentDigits h).cons rfl (readExponent_minus negative s e)
      · rw [readExponent_bare negative s e text hp hm] at h
        obtain ⟨front, ht, hf⟩ := takes_readExponentDigits h
        cases front with
        | nil =>
          -- the digits take at least one character
          have h0 := hf.reads [] (by simp [EndsNumber])
          simp [readExponentDigits, failBefore] at h0
        | cons d front =>
          obtain ⟨rfl, rfl⟩ := List.cons.inj ht
          refine ⟨c :: front, rfl, hf.chars, hf.isNumber, fun rest' he => ?_⟩
          exact (readExponent_bare negative s e (front ++ rest') hp hm).trans (hf.reads rest' he)

/-- What may follow the digits of a float. -/
theorem takes_readFloatEnd {negative : Bool} {s : Nat} {e : Int} {text rest : List Char} {v : Json}
    (h : readFloatEnd negative ⟨s, e, text⟩ = .ok (v, rest)) :
    Takes (fun t => readFloatEnd negative ⟨s, e, t⟩) text v rest := by
  -- without an exponent nothing is taken
  have hfinish : finishFloat negative ⟨s, e, text⟩ = .ok (v, rest) →
      Takes (fun t => readFloatEnd negative ⟨s, e, t⟩) text v rest := by
    intro h
    obtain ⟨rfl, hn, hf⟩ := takes_finishFloat h
    refine ⟨[], rfl, by simp, hn, fun rest' he => ?_⟩
    cases rest' with
    | nil => exact hf []
    | cons d more =>
      have hd := he d rfl
      have h1 : d ≠ 'e' := by rintro rfl; simp [isNumberChar] at hd
      have h2 : d ≠ 'E' := by rintro rfl; simp [isNumberChar] at hd
      simpa [readFloatEnd, h1, h2] using hf (d :: more)
  cases text with
  | nil => exact hfinish h
  | cons c text =>
    by_cases hc : c = 'e' ∨ c = 'E'
    · have hr : ∀ t, readFloatEnd negative ⟨s, e, c :: t⟩ = readExponent negative ⟨s, e, t⟩ := by
        intro t
        simp [readFloatEnd, hc]
      rw [hr] at h
      refine (takes_readExponent h).cons ?_ hr
      rcases hc with rfl | rfl <;> rfl
    · refine hfinish ?_
      simpa [readFloatEnd, hc] using h

/-! ## Digits -/

/-- A text that starts with no digit. -/
def NoDigit (rest : List Char) : Prop := ∀ c ∈ rest.head?, c.isDigit = false

theorem noDigit_of_endsNumber {rest : List Char} (h : EndsNumber rest) : NoDigit rest := by
  intro c hc
  cases rest with
  | nil => simp at hc
  | cons d more =>
    obtain rfl : d = c := by simpa using hc
    exact not_isDigit_of_endsNumber h

theorem noDigit_dropWhile (text : List Char) : NoDigit (text.dropWhile Char.isDigit) := by
  intro c hc
  have h := List.head?_dropWhile_not Char.isDigit text
  rw [hc] at h
  simpa using h

theorem dropWhile_isDigit_append {digits rest : List Char} (hd : ∀ c ∈ digits, c.isDigit = true)
    (hr : NoDigit rest) : (digits ++ rest).dropWhile Char.isDigit = rest := by
  rw [List.dropWhile_append_of_pos hd]
  cases rest with
  | nil => rfl
  | cons c more => simp [hr c rfl]

theorem takeWhile_isDigit_append {digits rest : List Char} (hd : ∀ c ∈ digits, c.isDigit = true)
    (hr : NoDigit rest) : (digits ++ rest).takeWhile Char.isDigit = digits := by
  rw [List.takeWhile_append_of_pos hd]
  cases rest with
  | nil => simp
  | cons c more => simp [hr c rfl]

/-- Digits in front of what another reader takes. -/
theorem Takes.digits {read read' : Reader Json} {digits text rest : List Char} {v : Json}
    (h : Takes read text v rest) (hd : ∀ c ∈ digits, c.isDigit = true) (ht : NoDigit text)
    (hr : ∀ t, NoDigit t → read' (digits ++ t) = read t) : Takes read' (digits ++ text) v rest := by
  obtain ⟨front, rfl, hf⟩ := h
  refine ⟨digits ++ front, (List.append_assoc ..).symm, ?_, hf.isNumber, fun rest' he => ?_⟩
  · intro c hc
    rcases List.mem_append.1 hc with hc | hc
    · exact isNumberChar_of_isDigit (hd c hc)
    · exact hf.chars c hc
  · have hn : NoDigit (front ++ rest') := by
      cases front with
      | nil => exact noDigit_of_endsNumber he
      | cons c more => exact ht
    rw [List.append_assoc, hr _ hn]
    exact hf.reads rest' he

/-- Of digits in front of another text, those that fit are taken. -/
theorem takeDigits_append (weight : Int) (s : Nat) (e : Int) {digits rest : List Char}
    (hr : NoDigit rest) :
    takeDigits weight s e (digits ++ rest)
      = { takeDigits weight s e digits with
          rest := (takeDigits weight s e digits).rest ++ rest } := by
  induction digits generalizing s e with
  | nil =>
    cases rest with
    | nil => rfl
    | cons c more => simp [takeDigits, hr c rfl]
  | cons c digits ih =>
    by_cases hc : (c.isDigit && s * 10 + digitValue c ≤ significandMax) = true
    · rw [List.cons_append, takeDigits, takeDigits]
      simp only [if_pos hc]
      exact ih _ _
    · rw [List.cons_append, takeDigits, takeDigits]
      simp only [if_neg hc]
      rfl

theorem mem_of_mem_takeDigits {weight : Int} {s : Nat} {e : Int} {digits : List Char} {c : Char}
    (h : c ∈ (takeDigits weight s e digits).rest) : c ∈ digits := by
  induction digits generalizing s e with
  | nil => exact h
  | cons d digits ih =>
    rw [takeDigits] at h
    split at h
    · exact List.mem_cons_of_mem d (ih h)
    · exact h

/-! ## From the point on -/

/-- A fraction is its digits and the end of a float. -/
theorem readFraction_append (negative : Bool) (s : Nat) (e : Int) {digits rest : List Char}
    (hne : digits ≠ []) (hd : ∀ c ∈ digits, c.isDigit = true) (hr : NoDigit rest) :
    readFraction negative ⟨s, e, digits ++ rest⟩
      = readFloatEnd negative { takeDigits 1 s e digits with rest := rest } := by
  cases digits with
  | nil => exact absurd rfl hne
  | cons c digits =>
    have hc : c.isDigit = true := hd c (List.mem_cons_self ..)
    have ht : takeDigits 1 s e (c :: digits ++ rest) = { takeDigits 1 s e (c :: digits) with
        rest := (takeDigits 1 s e (c :: digits)).rest ++ rest } := takeDigits_append 1 s e hr
    rw [List.cons_append] at ht ⊢
    simp only [readFraction, hc, if_true, ht]
    rw [dropWhile_isDigit_append (fun d h => hd d (mem_of_mem_takeDigits h)) hr]

theorem takes_readFraction {negative : Bool} {s : Nat} {e : Int} {text rest : List Char} {v : Json}
    (h : readFraction negative ⟨s, e, text⟩ = .ok (v, rest)) :
    Takes (fun t => readFraction negative ⟨s, e, t⟩) text v rest := by
  cases text with
  | nil => simp [readFraction, failBefore] at h
  | cons c text =>
    have hc : c.isDigit = true := by
      cases hd : c.isDigit with
      | true => rfl
      | false => simp [readFraction, hd, failAt] at h
    have hs := List.takeWhile_append_dropWhile (p := Char.isDigit) (l := c :: text)
    have hne : (c :: text).takeWhile Char.isDigit ≠ [] := by simp [hc]
    have hall := all_isDigit_takeWhile (c :: text)
    have hno := noDigit_dropWhile (c :: text)
    rw [← hs, readFraction_append negative s e hne hall hno] at h
    rw [← hs]
    exact (takes_readFloatEnd h).digits hall hno
      fun t ht => readFraction_append negative s e hne hall ht

/-! ## The whole number -/

/-- An integer takes nothing more, whatever the text. -/
theorem exists_integer_eq (negative : Bool) (s : Nat) :
    ∃ n, ∀ text, readNumberEnd.integer negative s text = .ok (.number n, text) := by
  by_cases hn : negative = true
  · by_cases hs : (decide (0 < s) && Width.isInt64 (-(s : Int))) = true
    · exact ⟨.int (-(s : Int)), fun text => by simp [readNumberEnd.integer, hn, hs, int]⟩
    · exact ⟨.float (-(Float.ofNat s)), fun text => by
        rw [readNumberEnd.integer, if_neg (by simp [hn]), if_neg hs, float]⟩
  · exact ⟨.int s, fun text => by simp [readNumberEnd.integer, hn, int]⟩

/-- Nothing follows the digits of an integer. -/
theorem readNumberEnd_integer (negative : Bool) (s : Nat) {text : List Char}
    (h : ∀ c ∈ text.head?, c ≠ '.' ∧ c ≠ 'e' ∧ c ≠ 'E' ∧ c.isDigit = false) :
    readNumberEnd negative s text = readNumberEnd.integer negative s text := by
  cases text with
  | nil => rfl
  | cons c text =>
    obtain ⟨hp, h1, h2, hd⟩ := h c rfl
    unfold readNumberEnd
    split
    · rename_i heq
      exact absurd (List.cons.inj heq).1 hp
    · rename_i heq
      obtain ⟨rfl, rfl⟩ := List.cons.inj heq
      simp [h1, h2, hd]
    · rename_i heq
      cases heq

theorem EndsNumber.head {rest : List Char} (h : EndsNumber rest) :
    ∀ c ∈ rest.head?, c ≠ '.' ∧ c ≠ 'e' ∧ c ≠ 'E' ∧ c.isDigit = false := by
  intro c hc
  have hd := h c hc
  refine ⟨?_, ?_, ?_, noDigit_of_endsNumber h c hc⟩ <;> rintro rfl <;> simp [isNumberChar] at hd

theorem takes_readNumberEnd {negative : Bool} {s : Nat} {text rest : List Char} {v : Json}
    (hn : NoDigit text) (h : readNumberEnd negative s text = .ok (v, rest)) :
    Takes (readNumberEnd negative s) text v rest := by
  have hinteger : (∀ c ∈ text.head?, c ≠ '.' ∧ c ≠ 'e' ∧ c ≠ 'E' ∧ c.isDigit = false) →
      Takes (readNumberEnd negative s) text v rest := by
    intro hc
    rw [readNumberEnd_integer negative s hc] at h
    obtain ⟨n, hi⟩ := exists_integer_eq negative s
    rw [hi] at h
    simp only [Except.ok.injEq, Prod.mk.injEq] at h
    obtain ⟨rfl, rfl⟩ := h
    refine ⟨[], rfl, by simp, ⟨n, rfl⟩, fun rest' he => ?_⟩
    rw [List.nil_append, readNumberEnd_integer negative s he.head, hi]
  cases text with
  | nil => exact hinteger (by simp)
  | cons c text =>
    by_cases hp : c = '.'
    · subst hp
      exact (takes_readFraction h).cons rfl fun _ => rfl
    · by_cases hc : c = 'e' ∨ c = 'E'
      · have hr : ∀ t, readNumberEnd negative s (c :: t) = readExponent negative ⟨s, 0, t⟩ := by
          intro t
          rcases hc with rfl | rfl <;> rfl
        rw [hr] at h
        refine (takes_readExponent h).cons ?_ hr
        rcases hc with rfl | rfl <;> rfl
      · refine hinteger ?_
        intro d hd
        obtain rfl : c = d := by simpa using hd
        exact ⟨hp, fun h => hc (.inl h), fun h => hc (.inr h), hn c rfl⟩

/-- What follows integer digits of which some were dropped. -/
def readScaledEnd (negative : Bool) (s dropped : Nat) : Reader Json
  | '.' :: after => readFraction negative ⟨s, dropped, after⟩
  | after => readFloatEnd negative ⟨s, dropped, after⟩

theorem takes_readScaledEnd {negative : Bool} {s dropped : Nat} {text rest : List Char} {v : Json}
    (h : readScaledEnd negative s dropped text = .ok (v, rest)) :
    Takes (readScaledEnd negative s dropped) text v rest := by
  have hfloat : ∀ t, t.head? ≠ some '.' →
      readScaledEnd negative s dropped t = readFloatEnd negative ⟨s, dropped, t⟩ := by
    intro t ht
    unfold readScaledEnd
    split
    · exact absurd rfl ht
    · rfl
  by_cases hp : text.head? = some '.'
  · obtain ⟨after, rfl⟩ := List.head?_eq_some_iff.1 hp
    exact (takes_readFraction h).cons rfl fun _ => rfl
  · rw [hfloat text hp] at h
    obtain ⟨front, rfl, hf⟩ := takes_readFloatEnd h
    refine ⟨front, rfl, hf.chars, hf.isNumber, fun rest' he => ?_⟩
    rw [hfloat _ ?_]
    · exact hf.reads rest' he
    · cases front with
      | nil =>
        intro hh
        have := he '.' (by simpa using hh)
        simp [isNumberChar] at this
      | cons c more => simpa using hp

/-- Digits that no longer fit only scale the number. -/
theorem readNumberEnd_append (negative : Bool) (s : Nat) {digits rest : List Char}
    (hne : digits ≠ []) (hd : ∀ c ∈ digits, c.isDigit = true) (hr : NoDigit rest) :
    readNumberEnd negative s (digits ++ rest)
      = readScaledEnd negative s digits.length rest := by
  cases digits with
  | nil => exact absurd rfl hne
  | cons c digits =>
    have hc : c.isDigit = true := hd c (List.mem_cons_self ..)
    have ht := takeWhile_isDigit_append hd hr
    have hw := dropWhile_isDigit_append hd hr
    rw [List.cons_append] at ht hw ⊢
    have hp : c ≠ '.' := by rintro rfl; simp at hc
    have h1 : c ≠ 'e' := by rintro rfl; simp at hc
    have h2 : c ≠ 'E' := by rintro rfl; simp at hc
    unfold readNumberEnd
    split
    · rename_i heq
      exact absurd (List.cons.inj heq).1 hp
    · rename_i heq
      obtain ⟨rfl, rfl⟩ := List.cons.inj heq
      simp only [h1, h2, hc, decide_false, Bool.or_self, Bool.false_eq_true, if_false, if_true, ht,
        hw]
      rfl
    · rename_i heq
      cases heq

theorem readNumber_zero (negative : Bool) {rest : List Char} (h : NoDigit rest) :
    readNumber negative ('0' :: rest) = readNumberEnd negative 0 rest := by
  cases rest with
  | nil => rfl
  | cons c more => simp [readNumber, h c rfl]

/-- A number that does not start with zero: its integer digits, and what follows. -/
theorem readNumber_append (negative : Bool) {c : Char} {digits rest : List Char} (h0 : c ≠ '0')
    (hc : c.isDigit = true) (hr : NoDigit rest) :
    readNumber negative (c :: digits ++ rest)
      = readNumberEnd negative (takeDigits 0 (digitValue c) 0 digits).significand
          ((takeDigits 0 (digitValue c) 0 digits).rest ++ rest) := by
  rw [List.cons_append]
  unfold readNumber
  split
  · rename_i heq
    cases heq
  · rename_i heq
    exact absurd (List.cons.inj heq).1 h0
  · rename_i heq
    obtain ⟨rfl, rfl⟩ := List.cons.inj heq
    rw [if_pos hc, takeDigits_append 0 _ 0 hr]

/-- A number starts with a digit. -/
theorem isDigit_of_readNumber {negative : Bool} {c : Char} {text rest : List Char} {v : Json}
    (h : readNumber negative (c :: text) = .ok (v, rest)) : c.isDigit = true := by
  by_cases h0 : c = '0'
  · subst h0
    rfl
  · cases hd : c.isDigit with
    | true => rfl
    | false =>
      unfold readNumber at h
      split at h <;> simp_all [failAt]

/-- A number is taken off the start of a text. -/
theorem takes_readNumber {negative : Bool} {text rest : List Char} {v : Json}
    (h : readNumber negative text = .ok (v, rest)) :
    Takes (readNumber negative) text v rest := by
  cases text with
  | nil => simp [readNumber, failBefore] at h
  | cons c text =>
    by_cases h0 : c = '0'
    · subst h0
      have hn : NoDigit text := by
        intro d hd
        cases text with
        | nil => simp at hd
        | cons d' more =>
          obtain rfl : d' = d := by simpa using hd
          cases hc : d'.isDigit with
          | false => rfl
          | true => simp [readNumber, hc, failAt] at h
      rw [readNumber_zero negative hn] at h
      have hzero : ∀ c ∈ ['0'], c.isDigit = true := by simp
      exact (takes_readNumberEnd hn h).digits hzero hn fun t ht => readNumber_zero negative ht
    · have hc := isDigit_of_readNumber h
      have hs := List.takeWhile_append_dropWhile (p := Char.isDigit) (l := text)
      have hall := all_isDigit_takeWhile text
      have hno := noDigit_dropWhile text
      have hdigits : ∀ d ∈ c :: text.takeWhile Char.isDigit, d.isDigit = true := by
        rw [List.forall_mem_cons]
        exact ⟨hc, hall⟩
      rw [← hs, ← List.cons_append] at h ⊢
      rw [readNumber_append negative h0 hc hno] at h
      -- digits that did not fit are in front of what follows
      generalize hd : (takeDigits 0 (digitValue c) 0 (text.takeWhile Char.isDigit)).rest = dropped
        at h
      have hdropped : ∀ d ∈ dropped, d.isDigit = true := by
        rw [← hd]
        exact fun d hm => hall d (mem_of_mem_takeDigits hm)
      by_cases he : dropped = []
      · subst he
        refine (takes_readNumberEnd hno h).digits hdigits hno fun t ht => ?_
        rw [readNumber_append negative h0 hc ht, hd, List.nil_append]
      · rw [readNumberEnd_append negative _ he hdropped hno] at h
        refine (takes_readScaledEnd h).digits hdigits hno fun t ht => ?_
        rw [readNumber_append negative h0 hc ht, hd, readNumberEnd_append negative _ he hdropped ht]

end ShellQuery.Json

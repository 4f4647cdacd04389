import ShellQuery.Json.Printer
import ShellQuery.Json.Reader
import ShellQuery.Proofs.Text.Group

/-!
# The text of a string literal

`Spells q written s` says that the text `written` between two quotes `q` stands for
the string `s`: a character stands for itself unless it is the quote, a backslash or a
control character, the quote may follow a backslash, and the escapes of JSON are
allowed.  With double quotes this is a JSON string, and `readChars_iff` says that the
reader accepts just these texts.
-/

namespace ShellQuery.Json

open ShellQuery.Text

/-! ## Escapes -/

/-- Four hexadecimal digits and their value. -/
inductive IsHexUnit : List Char → Nat → Prop where
  /-- The digits, the most significant first. -/
  | digits {a b c d : Char} {w x y z : Fin 16} :
      hexDigit? a = some w → hexDigit? b = some x → hexDigit? c = some y →
      hexDigit? d = some z →
      IsHexUnit [a, b, c, d] (w.val * 4096 + x.val * 256 + y.val * 16 + z.val)

/-- The first half of a surrogate pair. -/
def IsHighHalf (n : Nat) : Prop := 0xD800 ≤ n ∧ n ≤ 0xDBFF

/-- The second half of a surrogate pair. -/
def IsLowHalf (n : Nat) : Prop := 0xDC00 ≤ n ∧ n ≤ 0xDFFF

/-- What a backslash and one more character stand for. -/
def simpleEscapes : List (Char × Char) :=
  [ ('"', '"'), ('\\', '\\'), ('/', '/'), ('b', '\x08'), ('f', '\x0c'), ('n', '\n'),
    ('r', '\r'), ('t', '\t') ]

/-- What may follow a backslash in JSON, and the character it stands for. -/
inductive IsEscape : List Char → Char → Prop where
  /-- One character. -/
  | simple {e c : Char} : (e, c) ∈ simpleEscapes → IsEscape [e] c
  /-- A code point that is no half of a surrogate pair. -/
  | unit {h : List Char} {n : Nat} : IsHexUnit h n → ¬ IsHighHalf n → ¬ IsLowHalf n →
      IsEscape ('u' :: h) (Char.ofNat n)
  /-- A surrogate pair. -/
  | pair {h h' : List Char} {m n : Nat} : IsHexUnit h m → IsHexUnit h' n → IsHighHalf m →
      IsLowHalf n →
      IsEscape ('u' :: h ++ '\\' :: 'u' :: h')
        (Char.ofNat (0x10000 + (m - 0xD800) * 0x400 + (n - 0xDC00)))

theorem utf8Length_four (a b c d : Char) : 4 ≤ utf8Length [a, b, c, d] := by
  have ha := Char.utf8Size_pos a
  have hb := Char.utf8Size_pos b
  have hc := Char.utf8Size_pos c
  have hd := Char.utf8Size_pos d
  simp [utf8Length]
  omega

/-- A step succeeds when its parts do. -/
theorem bind_eq_ok {ε α β : Type} {x : Except ε α} {f : α → Except ε β} {b : β} :
    (x >>= f) = .ok b ↔ ∃ a, x = .ok a ∧ f a = .ok b := by
  cases x with
  | error e => simp [bind, Except.bind]
  | ok a => simp [bind, Except.bind]

theorem map_eq_ok {ε α β : Type} {x : Except ε α} {f : α → β} {b : β} :
    x.map f = .ok b ↔ ∃ a, x = .ok a ∧ f a = b := by
  cases x with
  | error e => simp [Except.map]
  | ok a => simp [Except.map]

theorem mapError_eq_ok {ε ε' α : Type} {x : Except ε α} {f : ε → ε'} {a : α} :
    x.mapError f = .ok a ↔ x = .ok a := by
  cases x with
  | error e =>
    constructor
    · intro h
      cases h
    · intro h
      cases h
  | ok b =>
    change (Except.ok b : Except ε' α) = .ok a ↔ _
    rw [Except.ok.injEq, Except.ok.injEq]

theorem readHex_iff {text rest : List Char} {n : Nat} :
    readHex text = .ok (n, rest) ↔ ∃ h, IsHexUnit h n ∧ text = h ++ rest := by
  constructor
  · intro hr
    unfold readHex at hr
    split at hr
    · simp [failBefore] at hr
    · split at hr
      · rename_i a b c d rest' _
        split at hr
        · rename_i w x y z ha hb hc hd
          simp only [Except.ok.injEq, Prod.mk.injEq] at hr
          obtain ⟨rfl, rfl⟩ := hr
          exact ⟨[a, b, c, d], .digits ha hb hc hd, rfl⟩
        · simp at hr
      · simp at hr
  · rintro ⟨h, hu, rfl⟩
    cases hu with
    | @digits a b c d w x y z ha hb hc hd =>
      have h4 := utf8Length_four a b c d
      have hn : ¬ utf8Length ((a :: b :: c :: d :: rest).take 4) < 4 := by
        simpa using h4
      simp only [List.cons_append, List.nil_append]
      rw [readHex, if_neg hn]
      simp only [ha, hb, hc, hd]

theorem expectInPair_iff {wanted : Char} {text rest : List Char} :
    expectInPair wanted text = .ok rest ↔ text = wanted :: rest := by
  cases text with
  | nil => simp [expectInPair, failBefore]
  | cons c text =>
    by_cases hc : c = wanted
    · simp [expectInPair, hc]
    · simp [expectInPair, hc, failAt]

/-- The escapes of a code point that is no half of a surrogate pair. -/
theorem readUnicodeEscape_unit {h rest : List Char} {n : Nat} (hu : IsHexUnit h n)
    (hh : ¬ IsHighHalf n) (hl : ¬ IsLowHalf n) :
    readUnicodeEscape (h ++ rest) = .ok (Char.ofNat n, rest) := by
  have h1 : ¬ (decide (0xDC00 ≤ n) && decide (n ≤ 0xDFFF)) = true := by
    simpa [IsLowHalf] using hl
  have h2 : (decide (n < 0xD800) || decide (0xDBFF < n)) = true := by
    simp only [IsHighHalf] at hh
    simp
    omega
  refine bind_eq_ok.2 ⟨(n, rest), readHex_iff.2 ⟨h, hu, rfl⟩, ?_⟩
  simp only [if_neg h1, if_pos h2]

/-- The escape of a surrogate pair. -/
theorem readUnicodeEscape_pair {h h' rest : List Char} {m n : Nat} (hu : IsHexUnit h m)
    (hu' : IsHexUnit h' n) (hh : IsHighHalf m) (hl : IsLowHalf n) :
    readUnicodeEscape (h ++ '\\' :: 'u' :: (h' ++ rest))
      = .ok (Char.ofNat (0x10000 + (m - 0xD800) * 0x400 + (n - 0xDC00)), rest) := by
  obtain ⟨hh1, hh2⟩ := hh
  obtain ⟨hl1, hl2⟩ := hl
  have h1 : ¬ (decide (0xDC00 ≤ m) && decide (m ≤ 0xDFFF)) = true := by simp; omega
  have h2 : ¬ (decide (m < 0xD800) || decide (0xDBFF < m)) = true := by simp; omega
  have h3 : ¬ (decide (n < 0xDC00) || decide (0xDFFF < n)) = true := by simp; omega
  refine bind_eq_ok.2 ⟨(m, _), readHex_iff.2 ⟨h, hu, rfl⟩, ?_⟩
  simp only [if_neg h1, if_neg h2]
  refine bind_eq_ok.2 ⟨_, expectInPair_iff.2 rfl, ?_⟩
  refine bind_eq_ok.2 ⟨_, expectInPair_iff.2 rfl, ?_⟩
  refine bind_eq_ok.2 ⟨(n, rest), readHex_iff.2 ⟨h', hu', rfl⟩, ?_⟩
  simp only [if_neg h3]

theorem exists_of_readUnicodeEscape {text rest : List Char} {c : Char}
    (hr : readUnicodeEscape text = .ok (c, rest)) :
    ∃ e, IsEscape ('u' :: e) c ∧ text = e ++ rest := by
  obtain ⟨⟨m, rest₁⟩, h₁, hm⟩ := bind_eq_ok.1 hr
  obtain ⟨h, hu, rfl⟩ := readHex_iff.1 h₁
  dsimp only at hm
  split at hm
  · simp [failBefore] at hm
  · rename_i hl
    have hl' : ¬ IsLowHalf m := by simpa [IsLowHalf] using hl
    split at hm
    · rename_i hh
      simp only [Except.ok.injEq, Prod.mk.injEq] at hm
      obtain ⟨rfl, rfl⟩ := hm
      refine ⟨h, .unit hu ?_ hl', rfl⟩
      simp only [Bool.or_eq_true, decide_eq_true_eq] at hh
      rw [IsHighHalf]
      omega
    · rename_i hh
      obtain ⟨rest₂, h₂, hm₂⟩ := bind_eq_ok.1 hm
      obtain ⟨rest₃, h₃, hm₃⟩ := bind_eq_ok.1 hm₂
      obtain ⟨⟨n, rest₄⟩, h₄, hm₄⟩ := bind_eq_ok.1 hm₃
      obtain rfl := expectInPair_iff.1 h₂
      obtain rfl := expectInPair_iff.1 h₃
      obtain ⟨h', hu', rfl⟩ := readHex_iff.1 h₄
      dsimp only at hm₄
      split at hm₄
      · simp [failBefore] at hm₄
      · rename_i hl
        simp only [Except.ok.injEq, Prod.mk.injEq] at hm₄
        obtain ⟨rfl, rfl⟩ := hm₄
        simp only [Bool.or_eq_true, decide_eq_true_eq] at hh hl
        refine ⟨h ++ '\\' :: 'u' :: h', .pair hu hu' ?_ ?_, by simp⟩
        · rw [IsHighHalf]
          simp only [IsLowHalf] at hl'
          omega
        · rw [IsLowHalf]
          omega

/-- The reader reads the escapes of JSON, and nothing else. -/
theorem readEscape_iff {text rest : List Char} {c : Char} :
    readEscape text = .ok (c, rest) ↔ ∃ e, IsEscape e c ∧ text = e ++ rest := by
  constructor
  · intro hr
    unfold readEscape at hr
    split at hr
    case h_1 => simp [failBefore] at hr
    case h_10 rest' =>
      obtain ⟨e, he, rfl⟩ := exists_of_readUnicodeEscape hr
      exact ⟨'u' :: e, he, rfl⟩
    case h_11 => simp [failAt] at hr
    all_goals
      simp only [Except.ok.injEq, Prod.mk.injEq] at hr
      obtain ⟨rfl, rfl⟩ := hr
      exact ⟨[_], .simple (by decide), rfl⟩
  · rintro ⟨e, he, rfl⟩
    cases he with
    | simple hm =>
      simp only [simpleEscapes, List.mem_cons, Prod.mk.injEq, List.not_mem_nil, or_false] at hm
      rcases hm with h | h | h | h | h | h | h | h
      all_goals
        obtain ⟨rfl, rfl⟩ := h
        rfl
    | unit hu hh hl => exact readUnicodeEscape_unit hu hh hl
    | pair hu hu' hh hl =>
      simpa [readEscape] using readUnicodeEscape_pair hu hu' hh hl

/-! ## Spelled strings -/

/-- The text between two quotes `q`, and the string it stands for. -/
inductive Spells (q : Char) : List Char → List Char → Prop where
  /-- Nothing. -/
  | nil : Spells q [] []
  /-- A character that stands for itself. -/
  | plain {c : Char} {w s : List Char} : c ≠ q → c ≠ '\\' → 0x20 ≤ c.toNat → Spells q w s →
      Spells q (c :: w) (c :: s)
  /-- The quote behind a backslash. -/
  | quote {w s : List Char} : Spells q w s → Spells q ('\\' :: q :: w) (q :: s)
  /-- An escape. -/
  | escape {e w s : List Char} {c : Char} : IsEscape e c → Spells q w s →
      Spells q ('\\' :: e ++ w) (c :: s)

theorem exists_of_readChars {fuel : Nat} {text s rest : List Char}
    (h : readChars fuel text = .ok (s, rest)) : ∃ w, Spells '"' w s ∧ text = w ++ '"' :: rest := by
  induction fuel generalizing text s with
  | zero => simp [readChars, failBefore] at h
  | succ fuel ih =>
    cases text with
    | nil => simp [readChars, failBefore] at h
    | cons c text =>
      rw [readChars] at h
      split at h
      · rename_i hq
        simp only [Except.ok.injEq, Prod.mk.injEq] at h
        obtain ⟨rfl, rfl⟩ := h
        exact ⟨[], .nil, by rw [hq]; rfl⟩
      · rename_i hq
        split at h
        · rename_i hb
          obtain ⟨⟨d, after⟩, h₁, h₂⟩ := bind_eq_ok.1 h
          obtain ⟨⟨more, rest'⟩, h₃, h₄⟩ := bind_eq_ok.1 h₂
          simp only [Except.ok.injEq, Prod.mk.injEq] at h₄
          obtain ⟨rfl, rfl⟩ := h₄
          obtain ⟨e, he, rfl⟩ := readEscape_iff.1 h₁
          obtain ⟨w, hw, rfl⟩ := ih h₃
          exact ⟨'\\' :: e ++ w, .escape he hw, by rw [hb]; simp⟩
        · rename_i hb
          split at h
          · simp [failAt] at h
          · rename_i hc
            obtain ⟨⟨more, rest'⟩, h₃, h₄⟩ := bind_eq_ok.1 h
            simp only [Except.ok.injEq, Prod.mk.injEq] at h₄
            obtain ⟨rfl, rfl⟩ := h₄
            obtain ⟨w, hw, rfl⟩ := ih h₃
            exact ⟨c :: w, .plain hq hb (Nat.not_lt.1 hc) hw, rfl⟩

theorem readChars_of_spells {fuel : Nat} {w s : List Char} (h : Spells '"' w s)
    (hf : w.length < fuel) (rest : List Char) :
    readChars fuel (w ++ '"' :: rest) = .ok (s, rest) := by
  -- every step takes at least one character
  have hescape : ∀ {e w s : List Char} {c : Char} {fuel : Nat}, IsEscape e c →
      readChars fuel (w ++ '"' :: rest) = .ok (s, rest) →
      readChars (fuel + 1) ('\\' :: e ++ w ++ '"' :: rest) = .ok (c :: s, rest) := by
    intro e w s c fuel he ih
    have hs : '\\' :: e ++ w ++ '"' :: rest = '\\' :: (e ++ (w ++ '"' :: rest)) := by simp
    rw [hs, readChars, if_neg (by decide), if_pos rfl]
    refine bind_eq_ok.2 ⟨_, readEscape_iff.2 ⟨e, he, rfl⟩, ?_⟩
    exact bind_eq_ok.2 ⟨_, ih, rfl⟩
  induction h generalizing fuel with
  | nil =>
    obtain ⟨fuel, rfl⟩ := Nat.exists_eq_succ_of_ne_zero (Nat.ne_of_gt hf)
    rfl
  | @plain c w s hq hb hc _ ih =>
    obtain ⟨fuel, rfl⟩ := Nat.exists_eq_succ_of_ne_zero (Nat.ne_of_gt (Nat.zero_lt_of_lt hf))
    have hlt : w.length < fuel := Nat.lt_of_succ_lt_succ hf
    rw [List.cons_append, readChars, if_neg hq, if_neg hb, if_neg (Nat.not_lt.2 hc)]
    exact bind_eq_ok.2 ⟨_, ih hlt, rfl⟩
  | @quote w s _ ih =>
    obtain ⟨fuel, rfl⟩ := Nat.exists_eq_succ_of_ne_zero (Nat.ne_of_gt (Nat.zero_lt_of_lt hf))
    have hlt : w.length < fuel := by
      simp only [List.length_cons] at hf
      omega
    exact hescape (.simple (by decide)) (ih hlt)
  | @escape e w s c he _ ih =>
    obtain ⟨fuel, rfl⟩ := Nat.exists_eq_succ_of_ne_zero (Nat.ne_of_gt (Nat.zero_lt_of_lt hf))
    have hlt : w.length < fuel := by
      simp only [List.cons_append, List.length_cons, List.length_append] at hf
      omega
    exact hescape he (ih hlt)

/-- The reader accepts the spelled strings, and nothing else. -/
theorem readString_iff {text rest : List Char} {s : String} :
    readString text = .ok (s, rest)
      ↔ ∃ w, Spells '"' w s.toList ∧ text = w ++ '"' :: rest := by
  constructor
  · intro h
    obtain ⟨⟨chars, rest'⟩, h₁, h₂⟩ := bind_eq_ok.1 h
    simp only [Except.ok.injEq, Prod.mk.injEq] at h₂
    obtain ⟨rfl, rfl⟩ := h₂
    rw [String.toList_ofList]
    exact exists_of_readChars h₁
  · rintro ⟨w, hw, rfl⟩
    have hlt : w.length < (w ++ '"' :: rest).length + 1 := by
      rw [List.length_append]
      omega
    refine bind_eq_ok.2 ⟨_, readChars_of_spells hw hlt rest, ?_⟩
    simp only [String.ofList_toList]

/-- Characters that need no escape stand for themselves. -/
theorem spells_self {q : Char} {text : List Char}
    (h : ∀ c ∈ text, c ≠ q ∧ c ≠ '\\' ∧ 0x20 ≤ c.toNat) : Spells q text text := by
  induction text with
  | nil => exact .nil
  | cons c text ih =>
    rw [List.forall_mem_cons] at h
    exact .plain h.1.1 h.1.2.1 h.1.2.2 (ih h.2)

/-! ## What a spelled string looks like -/

/-- A character of an escape behind its backslash. -/
def IsEscapeChar (c : Char) : Prop :=
  c ∈ ['"', '\\', '/', 'b', 'f', 'n', 'r', 't', 'u'] ∨ (hexDigit? c).isSome = true

theorem isEscapeChar_of_isHexUnit {h : List Char} {n : Nat} (hu : IsHexUnit h n) :
    ∀ c ∈ h, (hexDigit? c).isSome = true := by
  cases hu with
  | digits ha hb hc hd => simp [ha, hb, hc, hd]

theorem isEscapeChar_of_isEscape {e : List Char} {c : Char} (he : IsEscape e c) :
    ∀ d ∈ e, IsEscapeChar d := by
  intro d hd
  cases he with
  | simple hm =>
    rw [List.mem_singleton] at hd
    subst hd
    simp only [simpleEscapes, List.mem_cons, Prod.mk.injEq, List.not_mem_nil, or_false] at hm
    left
    rcases hm with h | h | h | h | h | h | h | h <;> simp [h.1]
  | unit hu =>
    rcases List.mem_cons.1 hd with rfl | hd
    · exact .inl (by decide)
    · exact .inr (isEscapeChar_of_isHexUnit hu d hd)
  | pair hu hu' =>
    simp only [List.cons_append, List.mem_cons, List.mem_append] at hd
    rcases hd with rfl | hd | rfl | rfl | hd
    · exact .inl (by decide)
    · exact .inr (isEscapeChar_of_isHexUnit hu d hd)
    · exact .inl (by decide)
    · exact .inl (by decide)
    · exact .inr (isEscapeChar_of_isHexUnit hu' d hd)

theorem plain_of_hexDigit? {c : Char} (h : (hexDigit? c).isSome = true) :
    isQuote c = false ∧ c ≠ '\\' := by
  constructor
  · exact isQuote_eq_false (p := fun c => (hexDigit? c).isSome) h (by decide)
  · rintro rfl
    revert h
    decide

/-- A spelled string and the quote behind it are the rest of a literal. -/
theorem Spells.isLiteralBody {q : Char} {w s : List Char} (hq : isQuote q = true)
    (h : Spells q w s) : IsLiteralBody q (w ++ [q]) := by
  have hdigits : ∀ {h w : List Char} {n : Nat}, IsHexUnit h n → IsLiteralBody q w →
      IsLiteralBody q (h ++ w) := by
    intro h w n hu hw
    refine isLiteralBody_append (fun c hc => ?_) hw
    obtain ⟨h1, h2⟩ := plain_of_hexDigit? (isEscapeChar_of_isHexUnit hu c hc)
    refine ⟨?_, h2⟩
    rintro rfl
    exact absurd hq (by simp [h1])
  induction h with
  | nil => exact .close q
  | plain hne hb _ _ ih => exact .char hne hb ih
  | quote _ ih => exact .escape ih
  | escape he _ ih =>
    cases he with
    | simple _ => exact .escape ih
    | unit hu _ _ =>
      rw [List.append_assoc]
      exact .escape (hdigits hu ih)
    | pair hu hu' _ _ =>
      simp only [List.cons_append, List.append_assoc]
      exact .escape (hdigits hu (.escape (hdigits hu' ih)))

/-- A character that is no backslash stands for itself. -/
theorem Spells.cons_inv {q c : Char} {w s : List Char} (h : Spells q (c :: w) s) (hc : c ≠ '\\') :
    ∃ s', s = c :: s' ∧ Spells q w s' := by
  generalize ht : c :: w = text at h
  cases h with
  | nil => cases ht
  | plain _ _ _ hw =>
    obtain ⟨rfl, rfl⟩ := List.cons.inj ht
    exact ⟨_, rfl, hw⟩
  | quote _ => exact absurd (List.cons.inj ht).1 hc
  | escape _ _ => exact absurd (List.cons.inj ht).1 hc

/-- What is written in front without a backslash stands for itself. -/
theorem Spells.of_append {q : Char} {front w s : List Char} (h : Spells q (front ++ w) s)
    (hb : '\\' ∉ front) : ∃ s', s = front ++ s' ∧ Spells q w s' := by
  induction front generalizing s with
  | nil => exact ⟨s, rfl, h⟩
  | cons c front ih =>
    rw [List.mem_cons, not_or] at hb
    obtain ⟨s₁, rfl, h₁⟩ := h.cons_inv (Ne.symm hb.1)
    obtain ⟨s', rfl, hs⟩ := ih h₁ hb.2
    exact ⟨s', rfl, hs⟩

/-- A word that starts with a character that no escape holds stands in the string
where it stands in the text. -/
theorem Spells.infix_chars {q d : Char} {word w s : List Char} (h : Spells q w s)
    (hd : ¬ IsEscapeChar d) (hq : d ≠ q) (hb : '\\' ∉ d :: word) (hw : d :: word <:+: w) :
    d :: word <:+: s := by
  obtain ⟨before, after, hw⟩ := hw
  rw [List.append_assoc] at hw
  have hne : d ≠ '\\' := fun he => hb (he ▸ List.mem_cons_self ..)
  induction h generalizing before with
  | nil => simp at hw
  | @plain c w s h1 h2 h3 hs ih =>
    cases before with
    | nil =>
      have hp : Spells q (d :: word ++ after) (c :: s) := hw ▸ .plain h1 h2 h3 hs
      obtain ⟨s', hs', -⟩ := hp.of_append hb
      exact ⟨[], s', hs'.symm⟩
    | cons b before =>
      exact (ih before (List.cons.inj hw).2).trans (List.suffix_cons c s).isInfix
  | @quote w s hs ih =>
    cases before with
    | nil => exact absurd (List.cons.inj hw).1 hne
    | cons b before =>
      have hw := (List.cons.inj hw).2
      cases before with
      | nil => exact absurd (List.cons.inj hw).1 hq
      | cons b before =>
        exact (ih before (List.cons.inj hw).2).trans (List.suffix_cons q s).isInfix
  | @escape e w s c he hs ih =>
    cases before with
    | nil => exact absurd (List.cons.inj hw).1 hne
    | cons b before =>
      have hw := (List.cons.inj hw).2
      rcases List.append_eq_append_iff.1 hw with ⟨x, rfl, hx⟩ | ⟨x, rfl, hx⟩
      · -- the word would start inside the escape
        cases x with
        | nil => exact (ih [] hx).trans (List.suffix_cons c s).isInfix
        | cons y x =>
          rw [List.cons_append, List.cons_append] at hx
          obtain ⟨rfl, -⟩ := List.cons.inj hx
          exact absurd (isEscapeChar_of_isEscape he d (by simp)) hd
      · exact (ih x hx.symm).trans (List.suffix_cons c s).isInfix

/-! ## Written strings -/

theorem isHexUnit_of_lt {n : Nat} (h : n < 0x20) :
    IsHexUnit ['0', '0', hexDigit (n / 16), hexDigit n] n := by
  have h0 : hexDigit? '0' = some 0 := by decide
  have h1 : hexDigit? (hexDigit (n / 16)) = some ⟨n / 16, by omega⟩ :=
    hexDigit?_hexDigit ⟨n / 16, by omega⟩
  have h2 : hexDigit? (hexDigit n) = some ⟨n % 16, by omega⟩ := by
    have := hexDigit?_hexDigit ⟨n % 16, by omega⟩
    rwa [hexDigit, Nat.mod_mod] at this
  have hv : (0 : Fin 16).val * 4096 + (0 : Fin 16).val * 256 + n / 16 * 16 + n % 16 = n := by
    simp only [Fin.val_zero]
    omega
  have hu := IsHexUnit.digits h0 h0 h1 h2
  simp only [hv] at hu
  exact hu

/-- One character as it is written. -/
theorem spells_escapeChar (c : Char) {w s : List Char} (h : Spells '"' w s) :
    Spells '"' (escapeChar c ++ w) (c :: s) := by
  unfold escapeChar
  split
  case h_8 h1 h2 h3 h4 h5 h6 h7 =>
    split
    · rename_i hc
      have hu : IsEscape ('u' :: ['0', '0', hexDigit (c.toNat / 16), hexDigit c.toNat])
          (Char.ofNat c.toNat) := by
        refine .unit (isHexUnit_of_lt hc) ?_ ?_ <;> simp only [IsHighHalf, IsLowHalf] <;> omega
      rw [Char.ofNat_toNat] at hu
      exact .escape hu h
    · rename_i hc
      exact .plain h1 h2 (Nat.not_lt.1 hc) h
  all_goals exact .escape (.simple (by decide)) h

/-- A written string spells its characters. -/
theorem spells_flatMap_escapeChar (s : List Char) : Spells '"' (s.flatMap escapeChar) s := by
  induction s with
  | nil => exact .nil
  | cons c s ih =>
    rw [List.flatMap_cons]
    exact spells_escapeChar c ih

end ShellQuery.Json

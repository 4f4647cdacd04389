import ShellQuery.Proofs.Argument.Settled
import ShellQuery.Proofs.Statement.Slices

/-!
# Keys and literals by slices

The quoting of keys and the search for value literals, written with byte offsets and slices.
Both go on behind what they have read: a literal, an identifier or a single character of any
length.
-/

namespace ShellQuery.Offset

open ShellQuery.Text
open ShellQuery.Argument (Span doubleQuoted isKeyPlace quoteKeysFrom startsKey valueLiterals)

/-! ## Keys -/

/-- Whether an identifier is a key, by the last character in front of it that is not blank and
the byte behind it. -/
def isKeyPlace? (text : List Char) (last : Option Char) (behind : Nat) : Option Bool := do
  let next ← skipBlank? text behind
  if startsKey last then
    let after ← sliceFrom? text next
    pure (after.head? == some ':')
  else pure false

/-- A text from a byte on with its bare keys and its literals in double quotes, if the loop over
it ends within a number of rounds.  `last` is the last character in front of the byte that is
not blank. -/
def quoteKeysFrom? (text : List Char) : Nat → Option Char → Nat → Option (List Char)
  | 0, _, _ => none
  | rounds + 1, last, start => do
      if start < utf8Length text then
        let rest ← sliceFrom? text start
        match rest.head? with
        | none => pure []
        | some c =>
            if isQuote c then
              let stop ← literalEnd? c text start
              let literal ← slice? text start stop
              let out ← quoteKeysFrom? text rounds (some '"') stop
              pure (doubleQuoted c literal.tail ++ out)
            else
              let word ← if isIdentStart c then (readIdent? text start).run else pure none
              match word with
              | some (ident, behind) =>
                  let isKey ← isKeyPlace? text last behind
                  let out ← quoteKeysFrom? text rounds ident.getLast? behind
                  pure ((if isKey then '"' :: ident ++ ['"'] else ident) ++ out)
              | none =>
                  let out ← quoteKeysFrom? text rounds (if isBlank c then last else some c)
                    (start + c.utf8Size)
                  pure (c :: out)
      else pure []

/-- A text with its bare keys and its literals in double quotes. -/
def quoteKeys? (text : List Char) : Option (List Char) :=
  quoteKeysFrom? text (text.length + 1) none 0

variable {text rest : List Char} {start : Nat}

theorem isKeyPlace?_eq (h : Place text start rest) (last : Option Char) :
    isKeyPlace? text last start = some (isKeyPlace last rest) := by
  obtain ⟨next, hskip, hnext⟩ := exists_skipBlank? h
  rw [isKeyPlace?, hskip, Option.bind_eq_bind, Option.bind_some, hnext.sliceFrom?,
    Argument.isKeyPlace_eq]
  cases startsKey last with
  | true => rfl
  | false => rfl

theorem lt_utf8Length_of_place {c : Char} (h : Place text start (c :: rest)) :
    start < utf8Length text := by
  have hlength := h.length_eq
  have hpos := c.utf8Size_pos
  rw [utf8Length_cons] at hlength
  omega

/-- A round takes a literal off. -/
theorem quoteKeysFrom?_literal {c : Char} (h : Place text start (c :: rest))
    (hq : isQuote c = true) (rounds : Nat) (last : Option Char) :
    quoteKeysFrom? text (rounds + 1) last start
      = (quoteKeysFrom? text rounds (some '"')
          (start + utf8Length (c :: (splitLiteral c rest).1))).map
        (doubleQuoted c (splitLiteral c rest).1 ++ ·) := by
  have hparts : c :: rest = c :: (splitLiteral c rest).1 ++ (splitLiteral c rest).2 := by
    rw [List.cons_append, splitLiteral_append]
  have hliteral : Place text start (c :: (splitLiteral c rest).1 ++ (splitLiteral c rest).2) :=
    hparts ▸ h
  rw [quoteKeysFrom?, if_pos (lt_utf8Length_of_place h), h.sliceFrom?]
  simp only [Option.bind_eq_bind, Option.bind_some, List.head?_cons, if_pos hq, literalEnd?_eq h,
    hliteral.slice?, List.tail_cons, Option.map_eq_bind]
  rfl

/-- A round takes an identifier off, and asks whether it is a key. -/
theorem quoteKeysFrom?_ident {c : Char} (h : Place text start (c :: rest))
    (hq : ¬ isQuote c = true) (hi : isIdentStart c = true) (rounds : Nat) (last : Option Char) :
    ∃ behind, Place text behind (rest.dropWhile isIdentChar)
      ∧ quoteKeysFrom? text (rounds + 1) last start
        = (quoteKeysFrom? text rounds (c :: rest.takeWhile isIdentChar).getLast? behind).map
          ((if isKeyPlace last (rest.dropWhile isIdentChar) then
              '"' :: (c :: rest.takeWhile isIdentChar) ++ ['"']
            else c :: rest.takeWhile isIdentChar) ++ ·) := by
  have hread : Text.readIdent? (c :: rest)
      = some (c :: rest.takeWhile isIdentChar, rest.dropWhile isIdentChar) := by
    rw [Text.readIdent?, if_pos hi]
  obtain ⟨found, hrun, hrel⟩ := follows_readIdent? h
  rw [hread] at hrel
  cases hrel with
  | @some _ found hab =>
    obtain ⟨ident, behind⟩ := found
    obtain ⟨rfl, hbehind⟩ := hab
    refine ⟨behind, hbehind, ?_⟩
    rw [quoteKeysFrom?, if_pos (lt_utf8Length_of_place h), h.sliceFrom?]
    simp only [Option.bind_eq_bind, Option.bind_some, List.head?_cons, if_neg hq, if_pos hi, hrun,
      isKeyPlace?_eq hbehind, Option.map_eq_bind]
    rfl

/-- A round takes any other character off. -/
theorem quoteKeysFrom?_char {c : Char} (h : Place text start (c :: rest))
    (hq : ¬ isQuote c = true) (hi : ¬ isIdentStart c = true) (rounds : Nat)
    (last : Option Char) :
    quoteKeysFrom? text (rounds + 1) last start
      = (quoteKeysFrom? text rounds (if isBlank c then last else some c)
          (start + c.utf8Size)).map (c :: ·) := by
  rw [quoteKeysFrom?, if_pos (lt_utf8Length_of_place h), h.sliceFrom?]
  simp only [Option.bind_eq_bind, Option.bind_some, List.head?_cons, if_neg hq, if_neg hi,
    Option.pure_def, Option.map_eq_bind]
  rfl

/-- The text left behind the first literal takes one round less. -/
theorem length_splitLiteral_lt {q : Char} {rounds : Nat} (hr : rest.length + 1 < rounds + 1) :
    (splitLiteral q rest).2.length < rounds :=
  Nat.lt_of_le_of_lt (splitLiteral_length_le q rest) (Nat.lt_of_succ_lt_succ hr)

theorem quoteKeysFrom?_eq {rounds : Nat} (last : Option Char) (h : Place text start rest)
    (hr : rest.length < rounds) :
    quoteKeysFrom? text rounds last start = some (quoteKeysFrom last rest) := by
  induction rounds generalizing last start rest with
  | zero => exact absurd hr (Nat.not_lt_zero _)
  | succ rounds ih =>
    cases rest with
    | nil =>
      have hlength := h.length_eq
      rw [utf8Length_nil] at hlength
      rw [quoteKeysFrom?, if_neg (by omega), quoteKeysFrom]
      rfl
    | cons c rest =>
      have hrest : rest.length < rounds := Nat.lt_of_succ_lt_succ hr
      by_cases hq : isQuote c = true
      · have hafter := place_literalEnd h
        rw [quoteKeysFrom?_literal h hq, ih _ hafter (length_splitLiteral_lt hr), quoteKeysFrom,
          if_pos hq, Option.map_some]
      by_cases hi : isIdentStart c = true
      · have hdrop := (List.dropWhile_sublist isIdentChar (l := rest)).length_le
        obtain ⟨behind, hbehind, hround⟩ := quoteKeysFrom?_ident h hq hi rounds last
        rw [hround, ih _ hbehind (Nat.lt_of_le_of_lt hdrop hrest), quoteKeysFrom, if_neg hq,
          if_pos hi, Option.map_some]
      · rw [quoteKeysFrom?_char h hq hi, ih _ h.cons hrest, quoteKeysFrom, if_neg hq, if_neg hi,
          Option.map_some]

/-! ## Value literals -/

/-- The bytes where the literals in double quotes that no colon follows start and end, from a
byte on, if the loop over them ends within a number of rounds. -/
def valueLiteralsFrom? (text : List Char) : Nat → Nat → Option (List (Nat × Nat))
  | 0, _ => none
  | rounds + 1, start => do
      let rest ← sliceFrom? text start
      match findChar? (fun c => c == '"') rest with
      | none => pure []
      | some n => do
          let stop ← literalEnd? '"' text (start + n)
          let next ← skipBlank? text stop
          let after ← sliceFrom? text next
          let others ← valueLiteralsFrom? text rounds stop
          pure (if after.head? == some ':' then others else (start + n, stop) :: others)

/-- The bytes where the literals in double quotes that no colon follows start and end. -/
def valueLiterals? (text : List Char) : Option (List (Nat × Nat)) :=
  valueLiteralsFrom? text (text.length + 1) 0

/-- The bytes where a part of a text starts and ends. -/
def byteSpan (text : List Char) (span : Span) : Nat × Nat :=
  (utf8Length (text.take span.start), utf8Length (text.take span.stop))

theorem byteSpan_append (front part rest : List Char) :
    byteSpan (front ++ (part ++ rest)) ⟨front.length, front.length + part.length⟩
      = (utf8Length front, utf8Length front + utf8Length part) := by
  have htake : (front ++ (part ++ rest)).take (front.length + part.length) = front ++ part := by
    rw [← List.append_assoc, ← List.length_append, List.take_left]
  rw [byteSpan, List.take_left, htake, utf8Length_append]

/-- The search for a quote passes over any other character. -/
theorem valueLiteralsFrom?_cons {c : Char} (h : Place text start (c :: rest)) (hc : c ≠ '"')
    (rounds : Nat) :
    valueLiteralsFrom? text rounds start
      = valueLiteralsFrom? text rounds (start + c.utf8Size) := by
  cases rounds with
  | zero => rfl
  | succ rounds =>
    have hfind : findChar? (fun c => c == '"') (c :: rest)
        = (findChar? (fun c => c == '"') rest).map (c.utf8Size + ·) := by
      rw [findChar?_eq, findChar?_eq]
      simp [hc, Function.comp_def]
    rw [valueLiteralsFrom?, h.sliceFrom?, valueLiteralsFrom?, h.cons.sliceFrom?]
    simp only [Option.bind_eq_bind, Option.bind_some, hfind]
    cases findChar? (fun c => c == '"') rest with
    | none => rfl
    | some n => simp only [Option.map_some, Nat.add_assoc]

/-- A literal is cut off at its quote. -/
theorem valueLiteralsFrom?_quote (h : Place text start ('"' :: rest)) (rounds : Nat) :
    valueLiteralsFrom? text (rounds + 1) start
      = (valueLiteralsFrom? text rounds
          (start + utf8Length ('"' :: (splitLiteral '"' rest).1))).map
        fun others =>
          if (skipBlank (splitLiteral '"' rest).2).head? == some ':' then others
          else (start, start + utf8Length ('"' :: (splitLiteral '"' rest).1)) :: others := by
  have hfind : findChar? (fun c => c == '"') ('"' :: rest) = some 0 := by
    rw [findChar?_eq]
    simp
  obtain ⟨next, hskip, hnext⟩ := exists_skipBlank? (place_literalEnd h)
  rw [valueLiteralsFrom?, h.sliceFrom?, Option.bind_eq_bind, Option.bind_some, hfind]
  simp only [Nat.add_zero, literalEnd?_eq h, Option.bind_eq_bind, Option.bind_some, hskip,
    hnext.sliceFrom?, Option.map_eq_bind]
  rfl

theorem valueLiteralsFrom?_eq (text : List Char) (offset : Nat) (rest front : List Char)
    (rounds : Nat) (h : text = front ++ rest) (ho : offset = front.length)
    (hr : rest.length < rounds) :
    valueLiteralsFrom? text rounds (utf8Length front)
      = some ((valueLiterals offset rest).map (byteSpan text)) := by
  have hplace : Place text (utf8Length front) rest := ⟨front, h, rfl⟩
  fun_induction valueLiterals offset rest generalizing front rounds with
  | case1 =>
    obtain ⟨rounds, rfl⟩ := Nat.exists_eq_add_one_of_ne_zero (Nat.ne_zero_of_lt hr)
    rw [valueLiteralsFrom?, hplace.sliceFrom?]
    rfl
  | case2 offset rest body after stop others hk ih =>
    obtain ⟨rounds, rfl⟩ := Nat.exists_eq_add_one_of_ne_zero (Nat.ne_zero_of_lt hr)
    obtain ⟨htext, hstop⟩ := Argument.whole_eq_append h ho rfl
    have hothers := ih (front ++ '"' :: body) rounds htext hstop (length_splitLiteral_lt hr)
      ⟨_, htext, rfl⟩
    rw [utf8Length_append] at hothers
    rw [valueLiteralsFrom?_quote hplace, hothers, Option.map_some, if_pos hk]
  | case3 offset rest body after stop others hk ih =>
    obtain ⟨rounds, rfl⟩ := Nat.exists_eq_add_one_of_ne_zero (Nat.ne_zero_of_lt hr)
    obtain ⟨htext, hstop⟩ := Argument.whole_eq_append h ho rfl
    have hothers := ih (front ++ '"' :: body) rounds htext hstop (length_splitLiteral_lt hr)
      ⟨_, htext, rfl⟩
    rw [utf8Length_append] at hothers
    have hspan := byteSpan_append front ('"' :: body) after
    rw [← List.append_assoc, ← htext, ← List.length_append, ← hstop, ← ho] at hspan
    rw [valueLiteralsFrom?_quote hplace, hothers, Option.map_some, if_neg hk, List.map_cons, hspan]
  | case4 offset c rest hc ih =>
    have htext : text = front ++ [c] ++ rest := by rw [h, List.append_assoc, List.singleton_append]
    have hrest := ih (front ++ [c]) rounds htext
      (by rw [ho, List.length_append, List.length_singleton]) (Nat.lt_of_succ_lt hr)
      ⟨_, htext, rfl⟩
    rw [utf8Length_append, utf8Length_cons, utf8Length_nil, Nat.add_zero] at hrest
    rw [valueLiteralsFrom?_cons hplace hc, hrest]

theorem quoteKeys?_eq (text : List Char) : quoteKeys? text = some (Argument.quoteKeys text) :=
  quoteKeysFrom?_eq none (.zero text) (Nat.lt_succ_self _)

theorem valueLiterals?_eq (text : List Char) :
    valueLiterals? text = some ((valueLiterals 0 text).map (byteSpan text)) :=
  valueLiteralsFrom?_eq text 0 text [] _ rfl rfl (Nat.lt_succ_self _)

end ShellQuery.Offset

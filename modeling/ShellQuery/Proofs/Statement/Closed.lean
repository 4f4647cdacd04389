import ShellQuery.Proofs.Statement.Split
import ShellQuery.Proofs.Text.Group
import ShellQuery.Text.Identifier

/-!
# Texts that the splitter passes over

A text is *closed* when no character of it cuts a script and the scan is back at its
start behind it.  Closed texts may be put one after the other.  Literals and groups
are closed, whatever stands in them, and so are characters that are neither quotes
nor parentheses nor semicolons.
-/

namespace ShellQuery

open ShellQuery.Text

namespace ScanState

/-! ## Closed texts and plain characters -/

/-- A text without a cut, behind which the scan is at its start again. -/
def Closed (text : List Char) : Prop := start.Uncut text ∧ start.run text = start

theorem closed_nil : Closed [] := ⟨trivial, rfl⟩

theorem Closed.append {a b : List Char} (ha : Closed a) (hb : Closed b) : Closed (a ++ b) := by
  refine ⟨uncut_append.2 ⟨ha.1, ?_⟩, ?_⟩
  · rw [ha.2]
    exact hb.1
  · rw [run_append, ha.2, hb.2]

/-- Characters that the scan takes no notice of. -/
def Plain (c : Char) : Prop := isQuote c = false ∧ c ≠ '(' ∧ c ≠ ')' ∧ c ≠ ';'

theorem step_of_plain {c : Char} (h : Plain c) (depth : Nat) :
    (ScanState.mk .outside depth).step c = ⟨.outside, depth⟩ := by
  obtain ⟨hq, ho, hc, -⟩ := h
  simp [step, QuoteState.step, QuoteState.covers, stepDepth, hq, ho, hc]

theorem cuts_of_ne {s : ScanState} {c : Char} (h : c ≠ ';') : s.cuts c = false := by
  cases hc : s.cuts c with
  | false => rfl
  | true => exact absurd (cuts_iff.1 hc).1 h

theorem Closed.cons {c : Char} (h : Plain c) {rest : List Char} (hr : Closed rest) :
    Closed (c :: rest) := by
  have hs : start.step c = start := step_of_plain h 0
  refine ⟨⟨cuts_of_ne h.2.2.2, ?_⟩, ?_⟩
  · rw [hs]
    exact hr.1
  · rw [run_cons, hs, hr.2]

theorem closed_of_plain {text : List Char} (h : ∀ c ∈ text, Plain c) : Closed text := by
  induction text with
  | nil => exact closed_nil
  | cons c rest ih =>
    simp only [List.mem_cons, forall_eq_or_imp] at h
    exact (ih h.2).cons h.1

theorem plain_of_isBlank {c : Char} (h : isBlank c = true) : Plain c := by
  refine ⟨isQuote_of_isBlank h, ?_, ?_, ?_⟩ <;> rintro rfl <;> revert h <;> decide

theorem plain_of_isIdentChar {c : Char} (h : isIdentChar c = true) : Plain c := by
  refine ⟨isQuote_eq_false h (by decide), ?_, ?_, ?_⟩ <;> rintro rfl <;> revert h <;> decide

/-! ## Literals and groups -/

/-- The rest of a closed literal has no cut, and the scan is outside behind it. -/
theorem run_literal {q : Char} {body : List Char} (hq : isQuote q = true)
    (h : IsLiteralBody q body) (depth : Nat) :
    (ScanState.mk (.inside q false) depth).Uncut body
      ∧ (ScanState.mk (.inside q false) depth).run body = ⟨.outside, depth⟩ := by
  induction h with
  | close =>
    have hs : (ScanState.mk (.inside q false) depth).step q = ⟨.outside, depth⟩ := by
      simp [step, QuoteState.step, QuoteState.covers, ne_backslash_of_isQuote hq]
    exact ⟨⟨rfl, trivial⟩, by rw [run_cons, hs, run_nil]⟩
  | @escape c body _ ih =>
    have hs : (ScanState.mk (.inside q false) depth).run ['\\', c] = ⟨.inside q false, depth⟩ := by
      simp [step, QuoteState.step, QuoteState.covers]
    refine ⟨⟨rfl, rfl, ?_⟩, ?_⟩
    · exact ih.1
    · rw [show '\\' :: c :: body = ['\\', c] ++ body from rfl, run_append, hs, ih.2]
  | @char c body hne hb _ ih =>
    have hs : (ScanState.mk (.inside q false) depth).step c = ⟨.inside q false, depth⟩ := by
      simp [step, QuoteState.step, QuoteState.covers, hne, hb]
    refine ⟨⟨rfl, ?_⟩, ?_⟩
    · rw [hs]
      exact ih.1
    · rw [run_cons, hs, ih.2]

theorem closed_literal {q : Char} {body : List Char} (hq : isQuote q = true)
    (h : IsLiteralBody q body) : Closed (q :: body) := by
  have hs : start.step q = ⟨.inside q false, 0⟩ := by
    simp [start, step, QuoteState.step, QuoteState.covers, hq]
  have hne : q ≠ ';' := by
    rintro rfl
    revert hq
    decide
  refine ⟨⟨cuts_of_ne hne, ?_⟩, ?_⟩
  · rw [hs]
    exact (run_literal hq h 0).1
  · rw [run_cons, hs, (run_literal hq h 0).2]
    rfl

theorem step_opener (depth : Nat) :
    (ScanState.mk .outside depth).step '(' = ⟨.outside, depth + 1⟩ := rfl

theorem step_closer (depth : Nat) :
    (ScanState.mk .outside (depth + 1)).step ')' = ⟨.outside, depth⟩ := rfl

/-- Parentheses around a text that leaves the count alone leave it alone too. -/
theorem run_around {inner : List Char} {depth : Nat}
    (h : (ScanState.mk .outside (depth + 1)).run inner = ⟨.outside, depth + 1⟩) :
    (ScanState.mk .outside depth).run ('(' :: inner ++ [')']) = ⟨.outside, depth⟩ := by
  rw [List.cons_append, run_cons, step_opener, run_append, h, run_cons, step_closer, run_nil]

/-- The scan counts as many closing as opening parentheses in items. -/
theorem run_isItems {items : List Char} (h : IsItems '(' ')' items) (depth : Nat) :
    (ScanState.mk .outside depth).run items = ⟨.outside, depth⟩ := by
  induction h using IsItems.induct generalizing depth with
  | nil => rfl
  | @group inner items _ _ ihInner ih =>
    rw [run_append, run_around (ihInner _), ih]
  | @literal q body items hq hb _ ih =>
    have hs : (ScanState.mk .outside depth).step q = ⟨.inside q false, depth⟩ := by
      simp [step, QuoteState.step, QuoteState.covers, hq]
    rw [List.cons_append, run_cons, hs, run_append, (run_literal hq hb depth).2, ih]
  | @char c items ho hc hq _ ih =>
    have hs : (ScanState.mk .outside depth).step c = ⟨.outside, depth⟩ := by
      simp [step, QuoteState.step, QuoteState.covers, stepDepth, ho, hc, hq]
    rw [run_cons, hs, ih]

theorem cuts_of_depth (quote : QuoteState) (depth : Nat) (c : Char) :
    (ScanState.mk quote (depth + 1)).cuts c = false := by
  simp [cuts]

/-- Nothing cuts while a parenthesis is open. -/
theorem uncut_isItems {items : List Char} (h : IsItems '(' ')' items) (depth : Nat) :
    (ScanState.mk .outside (depth + 1)).Uncut items := by
  induction h using IsItems.induct generalizing depth with
  | nil => trivial
  | @group inner items hi _ ihInner ih =>
    rw [uncut_append, run_around (run_isItems hi _), List.cons_append]
    refine ⟨⟨cuts_of_depth _ _ _, ?_⟩, ih depth⟩
    rw [step_opener, uncut_append]
    exact ⟨ihInner _, cuts_of_ne (by decide), trivial⟩
  | @literal q body items hq hb _ ih =>
    have hs : (ScanState.mk .outside (depth + 1)).step q = ⟨.inside q false, depth + 1⟩ := by
      simp [step, QuoteState.step, QuoteState.covers, hq]
    rw [List.cons_append]
    refine ⟨cuts_of_depth _ _ _, ?_⟩
    rw [hs, uncut_append, (run_literal hq hb _).2]
    exact ⟨(run_literal hq hb _).1, ih depth⟩
  | @char c items ho hc hq _ ih =>
    have hs : (ScanState.mk .outside (depth + 1)).step c = ⟨.outside, depth + 1⟩ := by
      simp [step, QuoteState.step, QuoteState.covers, stepDepth, ho, hc, hq]
    refine ⟨cuts_of_depth _ _ _, ?_⟩
    rw [hs]
    exact ih depth

/-- A group is closed: its parentheses hide every semicolon inside. -/
theorem closed_group {items : List Char} (h : IsItems '(' ')' items) :
    Closed ('(' :: items ++ [')']) := by
  have hr : start.run ('(' :: items) = ⟨.outside, 1⟩ := by
    rw [run_cons, show start.step '(' = ⟨.outside, 1⟩ from rfl, run_isItems h]
  refine ⟨?_, run_around (run_isItems h 1)⟩
  rw [uncut_append, hr]
  exact ⟨⟨rfl, uncut_isItems h 0⟩, rfl, trivial⟩

end ScanState

end ShellQuery

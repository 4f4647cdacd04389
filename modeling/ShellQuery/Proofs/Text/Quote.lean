import ShellQuery.Proofs.Text.Group

/-!
# The scan of a literal

`QuoteState.run` follows a text character by character, and `IsLiteralBody` says what one
literal is.  Behind the body of a literal the scan is outside again, and as long as no
body is complete it stays inside.
-/

namespace ShellQuery.Text.QuoteState

variable {q : Char}

theorem step_backslash : (inside q false).step '\\' = inside q true := by
  rw [step, if_pos rfl]

theorem step_closing (hq : q ≠ '\\') : (inside q false).step q = outside := by
  rw [step, if_neg hq, if_pos rfl]

theorem step_inside {c : Char} (hc : c ≠ q) (hb : c ≠ '\\') :
    (inside q false).step c = inside q false := by
  rw [step, if_neg hb, if_neg hc]

/-- Behind the body of a literal the scan is outside. -/
theorem run_isLiteralBody (hq : q ≠ '\\') {body : List Char} (h : IsLiteralBody q body) :
    (inside q false).run body = outside := by
  induction h with
  | close => rw [run_cons, step_closing hq, run_nil]
  | escape _ ih => rw [run_cons, run_cons, step_backslash, step, ih]
  | char hc hb _ ih => rw [run_cons, step_inside hc hb, ih]

/-- Characters that are no quotes leave the scan outside. -/
theorem run_append_of_noQuote {front : List Char} (h : ∀ c ∈ front, isQuote c = false)
    (rest : List Char) : outside.run (front ++ rest) = outside.run rest := by
  induction front with
  | nil => rfl
  | cons c front ih =>
    rw [List.forall_mem_cons] at h
    rw [List.cons_append, run_cons, step, if_neg (by simp [h.1]), ih h.2]

/-- The scan of a literal stays inside as long as the literal is not closed. -/
theorem exists_inside_or_closed (text : List Char) :
    (∃ escaped, (inside q false).run text = inside q escaped)
      ∨ ∃ body after, IsLiteralBody q body ∧ text = body ++ after := by
  fun_induction splitLiteral q text with
  | case1 => exact .inl ⟨false, rfl⟩
  | case2 => exact .inl ⟨true, by rw [run_cons, step_backslash, run_nil]⟩
  | case3 c rest _ _ _ ih =>
    rcases ih with ⟨escaped, hrun⟩ | ⟨body, after, hb, rfl⟩
    · exact .inl ⟨escaped, by rw [run_cons, run_cons, step_backslash, step, hrun]⟩
    · exact .inr ⟨_, after, .escape hb, rfl⟩
  | case4 rest => exact .inr ⟨_, rest, .close q, rfl⟩
  | case5 c rest h1 h2 hc _ _ _ ih =>
    have hb : c ≠ '\\' := by
      rintro rfl
      cases rest with
      | nil => exact h1 rfl rfl
      | cons d rest => exact h2 d rest rfl rfl
    rcases ih with ⟨escaped, hrun⟩ | ⟨body, after, hbody, rfl⟩
    · exact .inl ⟨escaped, by rw [run_cons, step_inside hc hb, hrun]⟩
    · exact .inr ⟨_, after, .char hc hb hbody, rfl⟩

end ShellQuery.Text.QuoteState

import Mathlib.Data.List.TakeWhile
import ShellQuery.Connection.UriText

/-!
# Cuts of a text

A text is cut at the first or at the last place of a character, or at the first place of a
separator.  Each cut is said by what it makes of the text, so that no proof about cuts has to
look at how the place is found (`cutAt_eq_some_iff`, `cutAtLast_eq_some_iff`,
`cutAtText_eq_some_iff`).

Where the first place of a separator is depends on the text up to the end of the separator
only (`IsFirstCut.append`).
-/

namespace ShellQuery

namespace ServerAddress

/-! ## The first place of a character -/

variable {sep : Char} {text before after : List Char}

theorem bne_of_notMem (h : sep ∉ text) : ∀ c ∈ text, (c != sep) = true := by
  intro c hc
  rw [bne_iff_ne]
  rintro rfl
  exact h hc

theorem cutAt_append (h : sep ∉ before) (after : List Char) :
    cutAt sep (before ++ sep :: after) = some (before, after) := by
  have hkeep := bne_of_notMem h
  rw [cutAt, List.dropWhile_append_of_pos hkeep, List.takeWhile_append_of_pos hkeep]
  simp

theorem cutAt_of_notMem (h : sep ∉ text) : cutAt sep text = none := by
  rw [cutAt, List.dropWhile_eq_nil_iff.2 (bne_of_notMem h)]

theorem cutAt_eq_none_iff : cutAt sep text = none ↔ sep ∉ text := by
  refine ⟨fun h hmem => ?_, cutAt_of_notMem⟩
  obtain ⟨before, after, rfl, hbefore⟩ := List.eq_append_cons_of_mem hmem
  rw [cutAt_append hbefore] at h
  cases h

theorem cutAt_eq_some_iff :
    cutAt sep text = some (before, after) ↔ text = before ++ sep :: after ∧ sep ∉ before := by
  constructor
  · intro h
    have hmem : sep ∈ text := Decidable.byContradiction fun hnot => by
      rw [cutAt_of_notMem hnot] at h
      cases h
    obtain ⟨front, back, rfl, hfront⟩ := List.eq_append_cons_of_mem hmem
    rw [cutAt_append hfront] at h
    cases h
    exact ⟨rfl, hfront⟩
  · rintro ⟨rfl, hbefore⟩
    exact cutAt_append hbefore after

end ServerAddress

namespace ConnectionString

open ServerAddress

section

variable {sep : Char} {text before after : List Char}

/-! ## The last place of a character -/

theorem cutAtLast_eq_none_iff : cutAtLast sep text = none ↔ sep ∉ text := by
  rw [cutAtLast, Option.map_eq_none_iff, cutAt_eq_none_iff, List.mem_reverse]

theorem cutAtLast_eq_some_iff :
    cutAtLast sep text = some (before, after) ↔ text = before ++ sep :: after ∧ sep ∉ after := by
  rw [cutAtLast, Option.map_eq_some_iff]
  constructor
  · rintro ⟨⟨back, front⟩, hcut, heq⟩
    cases heq
    obtain ⟨htext, hback⟩ := cutAt_eq_some_iff.1 hcut
    refine ⟨?_, by rwa [List.mem_reverse]⟩
    rw [← List.reverse_reverse text, htext, List.reverse_append, List.reverse_cons,
      List.append_assoc]
    rfl
  · rintro ⟨rfl, hafter⟩
    refine ⟨(after.reverse, before.reverse), cutAt_eq_some_iff.2 ⟨?_, ?_⟩, ?_⟩
    · simp
    · rwa [List.mem_reverse]
    · simp

/-! ## A part that may be missing -/

theorem splitFirst_of_notMem (h : sep ∉ text) : splitFirst sep text = (text, none) := by
  rw [splitFirst, cutAt_of_notMem h]

theorem splitFirst_append (h : sep ∉ before) (after : List Char) :
    splitFirst sep (before ++ sep :: after) = (before, some after) := by
  rw [splitFirst, cutAt_append h]

theorem splitFirst_append_snd {front : List Char} (h : sep ∉ front)
    (rest : List Char) : (splitFirst sep (front ++ rest)).2 = (splitFirst sep rest).2 := by
  cases hcut : cutAt sep rest with
  | none =>
    have hrest := cutAt_eq_none_iff.1 hcut
    rw [splitFirst_of_notMem hrest, splitFirst_of_notMem (by simp [h, hrest])]
  | some cut =>
    obtain ⟨rfl, hbefore⟩ := cutAt_eq_some_iff.1 hcut
    rw [splitFirst_append hbefore, ← List.append_assoc, splitFirst_append (by simp [h, hbefore])]

end

/-! ## The first place of a separator -/

/-- A text has a separator between two parts, and no separator starts in front of it. -/
structure IsFirstCut (sep text before after : List Char) : Prop where
  eq : text = before ++ sep ++ after
  first : ∀ earlier rest, text = earlier ++ sep ++ rest → before.length ≤ earlier.length

section

variable {sep text before after : List Char}

theorem IsFirstCut.unique {before' after' : List Char} (h : IsFirstCut sep text before after)
    (h' : IsFirstCut sep text before' after') : before = before' ∧ after = after' := by
  have hle := h.first before' after' h'.eq
  have hge := h'.first before after h.eq
  have heq := h.eq.symm.trans h'.eq
  rw [List.append_assoc, List.append_assoc] at heq
  obtain ⟨hbefore, hrest⟩ := List.append_inj heq (Nat.le_antisymm hle hge)
  exact ⟨hbefore, List.append_cancel_left hrest⟩

/-- A place that is the first one stays the first one before any other text. -/
theorem IsFirstCut.append (h : IsFirstCut sep text before after) (more : List Char) :
    IsFirstCut sep (before ++ sep ++ more) before more := by
  refine ⟨rfl, fun earlier rest heq => Nat.le_of_not_lt fun hlt => ?_⟩
  -- An earlier place is inside what does not change.
  have hfront : earlier ++ sep <+: before ++ sep := by
    have hwhole : earlier ++ sep <+: before ++ sep ++ more := ⟨rest, heq.symm⟩
    refine List.prefix_of_prefix_length_le hwhole (List.prefix_append _ _) ?_
    simp only [List.length_append]
    omega
  obtain ⟨between, hbetween⟩ := hfront
  refine Nat.not_le_of_lt hlt (h.first earlier (between ++ after) ?_)
  rw [h.eq, ← hbetween, List.append_assoc]

/-- A separator is first behind a text without its first character. -/
theorem isFirstCut_of_notMem {c : Char} {more : List Char} (h : c ∉ before) (after : List Char) :
    IsFirstCut (c :: more) (before ++ c :: more ++ after) before after := by
  refine ⟨rfl, fun earlier rest heq => Nat.le_of_not_lt fun hlt => ?_⟩
  rw [List.append_assoc, List.append_assoc] at heq
  obtain ⟨between, rfl⟩ : earlier <+: before :=
    List.prefix_of_prefix_length_le ⟨_, heq.symm⟩ ⟨_, rfl⟩ (by omega)
  rw [List.append_assoc] at heq
  cases between with
  | nil => simp at hlt
  | cons d between =>
    obtain ⟨rfl, -⟩ := List.cons.inj (List.append_cancel_left heq)
    exact h (by simp)

theorem cutAtText_isFirstCut (hsep : sep ≠ []) (h : cutAtText sep text = some (before, after)) :
    IsFirstCut sep text before after := by
  induction text generalizing before with
  | nil =>
    rw [cutAtText, if_neg (by simpa using hsep)] at h
    cases h
  | cons c rest ih =>
    rw [cutAtText] at h
    split at h
    next hhere =>
      obtain ⟨tail, htail⟩ := List.isPrefixOf_iff_prefix.1 hhere
      cases h
      refine ⟨?_, fun earlier _ _ => Nat.zero_le _⟩
      rw [← htail, List.drop_left, List.nil_append]
    next hhere =>
      obtain ⟨⟨front, back⟩, hcut, heq⟩ := Option.map_eq_some_iff.1 h
      cases heq
      obtain ⟨hrest, hfirst⟩ := ih hcut
      refine ⟨by rw [hrest]; rfl, fun earlier behind hearlier => ?_⟩
      cases earlier with
      | nil => exact absurd (List.isPrefixOf_iff_prefix.2 ⟨behind, hearlier.symm⟩) hhere
      | cons d earlier =>
        obtain ⟨-, hbehind⟩ := List.cons.inj hearlier
        exact Nat.succ_le_succ (hfirst earlier behind hbehind)

theorem cutAtText_eq_none_iff (hsep : sep ≠ []) : cutAtText sep text = none ↔ ¬sep <:+: text := by
  constructor
  · intro h hin
    induction text with
    | nil => exact hsep (List.infix_nil.1 hin)
    | cons c rest ih =>
      rw [cutAtText] at h
      split at h
      next => cases h
      next hhere =>
        obtain hprefix | hrest := List.infix_cons_iff.1 hin
        · exact hhere (List.isPrefixOf_iff_prefix.2 hprefix)
        · exact ih (Option.map_eq_none_iff.1 h) hrest
  · intro hnot
    cases h : cutAtText sep text with
    | none => rfl
    | some cut =>
      refine absurd ?_ hnot
      rw [(cutAtText_isFirstCut hsep h).eq]
      exact ⟨cut.1, cut.2, rfl⟩

theorem cutAtText_eq_some_iff (hsep : sep ≠ []) :
    cutAtText sep text = some (before, after) ↔ IsFirstCut sep text before after := by
  refine ⟨cutAtText_isFirstCut hsep, fun h => ?_⟩
  cases hcut : cutAtText sep text with
  | none => exact absurd ⟨before, after, h.eq.symm⟩ ((cutAtText_eq_none_iff hsep).1 hcut)
  | some cut =>
    obtain ⟨rfl, rfl⟩ := (cutAtText_isFirstCut hsep hcut).unique h
    rfl

end

end ConnectionString

theorem UriText.schemeEnd_ne_nil : UriText.schemeEnd ≠ [] := by decide

end ShellQuery

import ShellQuery.Proofs.Text.Offset

/-!
# The closing bracket of a balanced group

The byte that the scan for a closing bracket gives is where the group of the grammar ends
that starts at the opening bracket, and there is none just if no group starts there
(`closing?_findsGroup`).

That the count of open brackets never falls below zero on the way is said with the count
itself: `scan` is where the scan stands behind a text and how many brackets are open there.
`endsIn_or_passesThrough` follows it through the text in front of a character.  Either the
group has ended there, or a bracket is still open and the scan goes on.
-/

namespace ShellQuery

open ShellQuery.Text

namespace Text

variable {opener closer : Char}

/-- The scan cuts off the group of the grammar at the start of a text. -/
theorem splitGroup?_eq_some_iff (ho : isQuote opener = false) (hc : isQuote closer = false)
    (hne : opener ≠ closer) {rest group after : List Char} :
    splitGroup? opener closer (opener :: rest) = some (group, after)
      ↔ opener :: rest = group ++ after ∧ IsGroup opener closer group := by
  constructor
  · intro h
    have happ := (splitGroupFrom?_append h).2
    obtain ⟨body, rfl⟩ := Offset.exists_body_of_splitGroup? h
    have hread : readGroup? opener closer (opener :: rest) = some (body, after) := by
      rw [readGroup?, if_pos rfl, h]
      simp [groupBody]
    exact ⟨happ.symm, .around ((readGroup?_eq_some_iff ho hc hne).1 hread).2⟩
  · rintro ⟨happ, hgroup⟩
    obtain ⟨items, rfl, hitems⟩ := isGroup_iff.1 hgroup
    have htext : opener :: rest = opener :: (items ++ closer :: after) := by
      rw [happ]
      simp
    rw [htext, splitGroup?, splitGroupFrom?_opener ho, splitGroupFrom?_isItems ho hc hne hitems,
      splitGroupFrom?_last hc hne]
    rfl

/-! ## The count on the way -/

/-- Where the scan stands and how many brackets are open, after one more character. -/
def scanStep (opener closer : Char) : QuoteState × Nat → Char → QuoteState × Nat
  | (state, depth), c =>
      (state.step c, if state.covers c then depth else stepDepth opener closer depth c)

/-- Where the scan stands behind a text, and how many brackets are open there. -/
def scan (opener closer : Char) (text : List Char) : QuoteState × Nat :=
  text.foldl (scanStep opener closer) (.outside, 0)

theorem step_of_not_covers {state : QuoteState} {c : Char} (h : ¬ state.covers c = true) :
    state.step c = state := by
  cases state with
  | outside => exact if_neg h
  | inside q escaped => exact absurd rfl h

/-- The group that a scan is in ends in a text. -/
def EndsIn (opener closer : Char) (s : QuoteState × Nat) (front : List Char) : Prop :=
  ∃ group tail, front = group ++ tail ∧ ∀ after,
    splitGroupFrom? opener closer s.1 s.2 (front ++ after) = some (group, tail ++ after)

/-- A scan comes to the end of a text with a bracket open, and goes on from there. -/
def PassesThrough (opener closer : Char) (s : QuoteState × Nat) (front : List Char) : Prop :=
  0 < (front.foldl (scanStep opener closer) s).2 ∧ ∀ after,
    splitGroupFrom? opener closer s.1 s.2 (front ++ after)
      = prependToCut front (splitGroupFrom? opener closer
          (front.foldl (scanStep opener closer) s).1 (front.foldl (scanStep opener closer) s).2
          after)

/-- A step that cuts nothing off. -/
theorem endsIn_or_passesThrough_cons {s s' : QuoteState × Nat} {c : Char} {front : List Char}
    (hstep : scanStep opener closer s c = s')
    (hcut : ∀ text, splitGroupFrom? opener closer s.1 s.2 (c :: text)
      = consToCut c (splitGroupFrom? opener closer s'.1 s'.2 text))
    (h : EndsIn opener closer s' front ∨ PassesThrough opener closer s' front) :
    EndsIn opener closer s (c :: front) ∨ PassesThrough opener closer s (c :: front) := by
  rcases h with ⟨group, tail, rfl, hgroup⟩ | ⟨hpos, hrun⟩
  · refine .inl ⟨c :: group, tail, rfl, fun after => ?_⟩
    rw [List.cons_append, hcut, hgroup]
    rfl
  · rw [PassesThrough, List.foldl_cons, hstep]
    refine .inr ⟨hpos, fun after => ?_⟩
    rw [List.cons_append, hcut, hrun, consToCut_prependToCut]

/-- In front of a character either the group has ended, or a bracket is open. -/
theorem endsIn_or_passesThrough (front : List Char) (state : QuoteState) (depth : Nat) :
    EndsIn opener closer (state, depth + 1) front
      ∨ PassesThrough opener closer (state, depth + 1) front := by
  induction front generalizing state depth with
  | nil => exact .inr ⟨Nat.succ_pos depth, fun after => (prependToCut_nil _).symm⟩
  | cons c front ih =>
    by_cases hcovers : state.covers c = true
    · refine endsIn_or_passesThrough_cons ?_ (fun text => ?_) (ih (state.step c) depth)
      · rw [scanStep, if_pos hcovers]
      · rw [splitGroupFrom?, if_pos hcovers]
    have hstate := step_of_not_covers hcovers
    by_cases hopen : c = opener
    · refine endsIn_or_passesThrough_cons ?_ (fun text => ?_) (ih state (depth + 1))
      · rw [scanStep, if_neg hcovers, hstate, stepDepth, if_pos hopen]
      · rw [splitGroupFrom?, if_neg hcovers, if_pos hopen]
    by_cases hclose : c = closer
    · cases depth with
      | zero =>
        refine .inl ⟨[c], front, rfl, fun after => ?_⟩
        rw [List.cons_append, splitGroupFrom?, if_neg hcovers, if_neg hopen, if_pos hclose]
        exact if_pos rfl
      | succ depth =>
        refine endsIn_or_passesThrough_cons ?_ (fun text => ?_) (ih state depth)
        · rw [scanStep, if_neg hcovers, hstate, stepDepth, if_neg hopen, if_pos hclose]
          rfl
        · rw [splitGroupFrom?, if_neg hcovers, if_neg hopen, if_pos hclose]
          exact if_neg (Nat.succ_ne_zero depth)
    · refine endsIn_or_passesThrough_cons ?_ (fun text => ?_) (ih state depth)
      · rw [scanStep, if_neg hcovers, hstate, stepDepth, if_neg hopen, if_neg hclose]
      · rw [splitGroupFrom?, if_neg hcovers, if_neg hopen, if_neg hclose]

/-- The same from the opening bracket of a group on. -/
theorem endsIn_or_passesThrough_opener (ho : isQuote opener = false) (closer : Char)
    (front : List Char) :
    EndsIn opener closer (.outside, 0) (opener :: front)
      ∨ PassesThrough opener closer (.outside, 0) (opener :: front) := by
  refine endsIn_or_passesThrough_cons ?_ (splitGroupFrom?_opener ho 0)
    (endsIn_or_passesThrough front .outside 0)
  simp [scanStep, QuoteState.covers, QuoteState.step, ho, stepDepth]

/-- Up to a character that the group does not end before, the scan keeps the count, and the
bracket that the character may close is open. -/
theorem splitGroup?_goesOn (ho : isQuote opener = false) (hne : opener ≠ closer)
    {rest front after : List Char} {c : Char} (hrest : opener :: rest = front ++ c :: after)
    (hbefore : ∀ group tail, front = group ++ tail →
      splitGroup? opener closer (opener :: rest) ≠ some (group, tail ++ c :: after)) :
    splitGroup? opener closer (opener :: rest)
        = prependToCut front (splitGroupFrom? opener closer (scan opener closer front).1
            (scan opener closer front).2 (c :: after))
      ∧ ((scan opener closer front).1.covers c = false → c = closer →
        0 < (scan opener closer front).2) := by
  cases front with
  | nil =>
    obtain ⟨rfl, -⟩ := List.cons.inj hrest
    exact ⟨by rw [hrest, prependToCut_nil]; rfl, fun _ hclose => absurd hclose hne⟩
  | cons d front =>
    obtain rfl : opener = d := (List.cons.inj hrest).1
    rw [hrest] at hbefore ⊢
    rcases endsIn_or_passesThrough_opener ho closer front with
      ⟨group, tail, hfront, hends⟩ | ⟨hpos, hrun⟩
    · exact absurd (hends (c :: after)) (hbefore group tail hfront)
    · exact ⟨hrun (c :: after), fun _ _ => hpos⟩

theorem utf8Length_dropLast_lt {text : List Char} (h : text ≠ []) :
    utf8Length text.dropLast < utf8Length text := by
  have hpos := Char.utf8Size_pos (text.getLast h)
  have hlength := congrArg utf8Length (List.dropLast_concat_getLast h)
  rw [utf8Length_append, utf8Length_cons, utf8Length_nil] at hlength
  omega

end Text

/-! ## What is found -/

namespace Offset

/-- The text from a byte up to and with the bracket at another byte is a group. -/
def IsGroupAt (opener closer : Char) (text : List Char) (start last : Nat) : Prop :=
  ∃ group, slice? text start (last + closer.utf8Size) = some group ∧ IsGroup opener closer group

/-- What the search for the closing bracket finds from a byte where `rest` is left. -/
structure FindsGroup (opener closer : Char) (text : List Char) (start : Nat)
    (rest : List Char) : Prop where
  /-- The byte is where the group ends that is cut off from the text left. -/
  cut : (closing? opener closer text start).run
    = some ((splitGroup? opener closer rest).map
        fun (group, _) => start + utf8Length group.dropLast)
  /-- The text up to the byte is a group, and no other byte is found. -/
  found : ∀ last, (closing? opener closer text start).run = some (some last)
    ↔ IsGroupAt opener closer text start last
  /-- No two groups start at one byte. -/
  unique : ∀ last last', IsGroupAt opener closer text start last →
    IsGroupAt opener closer text start last' → last = last'
  /-- The text behind the group does not count. -/
  independent : ∀ last other, IsGroupAt opener closer text start last →
    sliceTo? other (last + closer.utf8Size) = sliceTo? text (last + closer.utf8Size) →
    (closing? opener closer other start).run = some (some last)
  /-- Up to the closing bracket, the scan meets each character with the count of `scan`, and
  each closing bracket outside literals with a bracket open. -/
  counted : ∀ front c after, rest = front ++ c :: after →
    (∀ last, IsGroupAt opener closer text start last → start + utf8Length front ≤ last) →
    splitGroup? opener closer rest
        = prependToCut front (splitGroupFrom? opener closer (scan opener closer front).1
            (scan opener closer front).2 (c :: after))
      ∧ ((scan opener closer front).1.covers c = false → c = closer →
        0 < (scan opener closer front).2)
  /-- Nothing is found just if the text left starts with no group. -/
  absent : (closing? opener closer text start).run = some none
    ↔ ∀ group, group <+: rest → ¬ IsGroup opener closer group

variable {opener closer : Char} {text rest : List Char} {start : Nat}

theorem isGroupAt_iff (ho : isQuote opener = false) (hc : isQuote closer = false)
    (hne : opener ≠ closer) (h : Place text start (opener :: rest)) {last : Nat} :
    IsGroupAt opener closer text start last
      ↔ (splitGroup? opener closer (opener :: rest)).map
          (fun (group, _) => start + utf8Length group.dropLast) = some last := by
  rw [Option.map_eq_some_iff]
  constructor
  · rintro ⟨group, hslice, hgroup⟩
    obtain ⟨⟨after, front, htext, hstart⟩, hlast⟩ := slice?_eq_some_iff.1 hslice
    obtain ⟨front', htext', hstart'⟩ := h
    obtain ⟨rfl, happ⟩ : front' = front ∧ opener :: rest = group ++ after := by
      have hfrom : sliceFrom? text start = some (opener :: rest) :=
        sliceFrom?_eq_some_iff.2 ⟨front', htext', hstart'⟩
      have hfrom' : sliceFrom? text start = some (group ++ after) :=
        sliceFrom?_eq_some_iff.2 ⟨front, htext, hstart⟩
      rw [hfrom, Option.some.injEq] at hfrom'
      refine ⟨?_, hfrom'⟩
      rw [htext', ← hfrom'] at htext
      exact List.append_cancel_right htext
    refine ⟨(group, after), (splitGroup?_eq_some_iff ho hc hne).2 ⟨happ, hgroup⟩, ?_⟩
    obtain ⟨items, rfl, -⟩ := isGroup_iff.1 hgroup
    dsimp only
    rw [List.dropLast_concat]
    rw [utf8Length_append, utf8Length_cons closer, utf8Length_nil] at hlast
    omega
  · rintro ⟨⟨group, after⟩, hcut, rfl⟩
    obtain ⟨happ, hgroup⟩ := (splitGroup?_eq_some_iff ho hc hne).1 hcut
    rw [happ] at h
    refine ⟨group, slice?_eq_some_iff.2 ⟨⟨after, h⟩, ?_⟩, hgroup⟩
    obtain ⟨items, rfl, -⟩ := isGroup_iff.1 hgroup
    dsimp only
    rw [List.dropLast_concat, utf8Length_append, utf8Length_cons closer, utf8Length_nil]
    omega

/-- Where a group starts there is its opening bracket. -/
theorem IsGroupAt.place {last : Nat} (h : IsGroupAt opener closer text start last) :
    ∃ rest, Place text start (opener :: rest) := by
  obtain ⟨group, hslice, hgroup⟩ := h
  obtain ⟨⟨after, hplace⟩, -⟩ := slice?_eq_some_iff.1 hslice
  obtain ⟨items, rfl, -⟩ := isGroup_iff.1 hgroup
  exact ⟨_, hplace⟩

/-- The search for a closing bracket finds the end of a balanced group, and nothing else. -/
theorem closing?_findsGroup (ho : isQuote opener = false) (hc : isQuote closer = false)
    (hne : opener ≠ closer) (h : Place text start (opener :: rest)) :
    FindsGroup opener closer text start (opener :: rest) := by
  have found {text rest : List Char} (h : Place text start (opener :: rest)) (last : Nat) :
      (closing? opener closer text start).run = some (some last)
        ↔ IsGroupAt opener closer text start last := by
    rw [closing?_eq opener closer h, Option.some.injEq, isGroupAt_iff ho hc hne h]
  refine ⟨closing?_eq opener closer h, found h, ?_, ?_, ?_, ?_⟩
  · intro last last' hlast hlast'
    have hrun := (found h last).2 hlast
    rw [(found h last').2 hlast', Option.some.injEq, Option.some.injEq] at hrun
    exact hrun.symm
  · intro last other hlast hsame
    have hother : IsGroupAt opener closer other start last := by
      obtain ⟨group, hslice, hgroup⟩ := hlast
      refine ⟨group, ?_, hgroup⟩
      rw [slice?, hsame, ← slice?, hslice]
    obtain ⟨rest', hrest'⟩ := hother.place
    exact (found hrest' last).2 hother
  · intro front c after hrest hbefore
    refine splitGroup?_goesOn ho hne hrest fun group tail hfront hcut => ?_
    -- the group would end in front of the character
    have hle : start + utf8Length front ≤ start + utf8Length group.dropLast :=
      hbefore _ ((isGroupAt_iff ho hc hne h).2 (congrArg _ hcut))
    have hlt := utf8Length_dropLast_lt (splitGroupFrom?_append hcut).1
    rw [hfront, utf8Length_append] at hle
    omega
  · rw [closing?_eq opener closer h, Option.some.injEq, Option.map_eq_none_iff]
    constructor
    · rintro hnone group ⟨after, happ⟩ hgroup
      rw [(splitGroup?_eq_some_iff ho hc hne).2 ⟨happ.symm, hgroup⟩] at hnone
      cases hnone
    · intro hnone
      cases hs : splitGroup? opener closer (opener :: rest) with
      | none => rfl
      | some found =>
        obtain ⟨happ, hgroup⟩ := (splitGroup?_eq_some_iff ho hc hne).1 hs
        exact absurd hgroup (hnone found.1 ⟨found.2, happ.symm⟩)

/-- A group with a group and a bracket in a literal inside, behind a character of two bytes. -/
theorem closing?_findsGroup_nested :
    isQuote '(' = false ∧ isQuote ')' = false ∧ '(' ≠ ')'
      ∧ Place "é(ü(\")\")c)d)".toList 2 ('(' :: "ü(\")\")c)d)".toList)
      ∧ FindsGroup '(' ')' "é(ü(\")\")c)d)".toList 2 ('(' :: "ü(\")\")c)d)".toList)
      ∧ IsGroupAt '(' ')' "é(ü(\")\")c)d)".toList 2 11 := by
  have ho : isQuote '(' = false := by decide
  have hc : isQuote ')' = false := by decide
  have hne : '(' ≠ ')' := by decide
  have h : Place "é(ü(\")\")c)d)".toList 2 ('(' :: "ü(\")\")c)d)".toList) :=
    ⟨['é'], by decide, by decide⟩
  have hfinds := closing?_findsGroup ho hc hne h
  refine ⟨ho, hc, hne, h, hfinds, (hfinds.found 11).1 ?_⟩
  rw [hfinds.cut]
  decide

end Offset

end ShellQuery

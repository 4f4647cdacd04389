import ShellQuery.Proofs.Number.Exact
import ShellQuery.Proofs.Operation.Chain

/-!
# Integer options of cursors

Four cursor methods take an integer: `limit`, `skip`, `maxTimeMS` and `batchSize`.  A method
takes its arguments exactly (`TakesExactly`) when an accepted call stores the very number
that the arguments start with, every integer of 64 bits that the method allows is accepted,
and a number of more bits is refused.

`takesExactly_iff` says that this holds unless the arguments start with an integer of more
than 64 bits on a side where the method has no bound of its own.  There the call is accepted,
and what it stores is the end of the range.
-/

namespace ShellQuery.Mapping

open ShellQuery

/-! ## The methods -/

/-- A cursor method that takes an integer. -/
inductive IntegerMethod where
  /-- The largest number of documents. -/
  | limit
  /-- How many documents are passed over. -/
  | skip
  /-- The time the server may take. -/
  | maxTimeMS
  /-- How many documents come in one reply. -/
  | batchSize
  deriving DecidableEq, Repr

namespace IntegerMethod

/-- The cursor method. -/
def toMethod : IntegerMethod → CursorMethod
  | limit => .limit
  | skip => .skip
  | maxTimeMS => .maxTimeMS
  | batchSize => .batchSize

/-- The integers that a method allows. -/
def Allows : IntegerMethod → ℤ → Prop
  | limit, _ => True
  | skip, n | maxTimeMS, n => 0 ≤ n
  | batchSize, n => 0 < n

/-- The options with the option of a method set. -/
def set (m : IntegerMethod) (o : QueryOptions) (n : Int64) : QueryOptions :=
  match m with
  | limit => { o with limit := some n }
  | skip => { o with skip := some n }
  | maxTimeMS => { o with maxTimeMS := some n }
  | batchSize => { o with batchSize := some n }

/-- A call of a method. -/
def call (m : IntegerMethod) (args : String) : CursorCall := ⟨m.toMethod.name, args⟩

theorem usable_iff {m : IntegerMethod} {args : String} :
    usable args m.toMethod = true
      ↔ ∃ v, integerArgument? args = some v ∧ m.Allows v.toInt := by
  cases m with
  | limit => simp [toMethod, usable, Allows, Option.isSome_iff_exists]
  | skip | maxTimeMS =>
    simp [toMethod, usable, Allows, Option.any_eq_true, Int64.le_iff_toInt_le]
  | batchSize => simp [toMethod, usable, Allows, Option.any_eq_true, Int64.lt_iff_toInt_lt]

theorem accepts_iff {j : Judging} {m : IntegerMethod} {args : String}
    (h : m.toMethod.appliesTo (j.kindFor m.toMethod) = true) :
    accepts j (m.call args) = true
      ↔ ∃ v, integerArgument? args = some v ∧ m.Allows v.toInt := by
  rw [accepts, call, CursorMethod.ofName?_name, ← usable_iff]
  simp [h]

/-- An accepted call sets the option of its method, and no other. -/
theorem applyCall_eq_set {j : Judging} {m : IntegerMethod} {args : String} {v : Int64}
    (h : m.toMethod.appliesTo (j.kindFor m.toMethod) = true)
    (hv : integerArgument? args = some v) (hallows : m.Allows v.toInt) (o : QueryOptions) :
    applyCall j o (m.call args) = (m.set o v, none) := by
  have haccepts : accepts j (m.call args) = true := (accepts_iff h).2 ⟨v, hv, hallows⟩
  have hwarning : warning? j (m.call args) = none := by
    simpa [haccepts] using warning?_eq j (m.call args)
  have hname : CursorMethod.ofName? (m.call args).method = some m.toMethod :=
    CursorMethod.ofName?_name _
  rw [applyCall_eq, hwarning]
  simp only [written, haccepts, if_true, hname, Option.bind_some]
  cases m <;> simp [optionTable, only, modeOf?, toMethod, call, set, hv]

end IntegerMethod

/-! ## The integer of the arguments -/

/-- The integer that the arguments start with, of any width. -/
def exactArgument? (args : String) : Option ℤ :=
  match firstArgument? args with
  | some (.number n) => n.integer?
  | _ => none

theorem exactArgument?_eq_some_iff {args : String} {n : ℤ} :
    exactArgument? args = some n
      ↔ ∃ number, firstArgument? args = some (.number number) ∧ number.value? = some (n : ℚ) := by
  rw [exactArgument?]
  constructor
  · intro h
    split at h
    next number hfirst => exact ⟨number, hfirst, JsonNumber.integer?_eq_some_iff.1 h⟩
    next => cases h
  · rintro ⟨number, hfirst, hvalue⟩
    rw [hfirst]
    exact JsonNumber.integer?_eq_some_iff.2 hvalue

/-- What is stored is the integer of the arguments, brought into the range. -/
theorem integerArgument?_eq (args : String) :
    integerArgument? args = (exactArgument? args).map clampInt64 := by
  rw [integerArgument?, exactArgument?]
  cases firstArgument? args with
  | none => rfl
  | some value =>
    cases value with
    | number n => cases n <;> rfl
    | null | bool _ | string _ | array _ | object _ => rfl

theorem toInt_clampInt64 (n : ℤ) :
    (clampInt64 n).toInt = max Width.int64Min (min Width.int64Max n) := by
  refine Int64.toInt_ofInt_of_le ?_ ?_ <;> simp only [Width.int64Min, Width.int64Max] <;> omega

theorem toInt_clampInt64_of_isInt64 {n : ℤ} (h : Width.isInt64 n = true) :
    (clampInt64 n).toInt = n := by
  have hbounds := Width.isInt64_iff.1 h
  rw [toInt_clampInt64]
  simp only [Width.int64Min, Width.int64Max]
  omega

/-! ## Exactness -/

/-- Whether a method takes its arguments exactly. -/
structure TakesExactly (j : Judging) (m : IntegerMethod) (args : String) : Prop where
  /-- An accepted call stores the number that the arguments start with. -/
  stored : ∀ o, (applyCall j o (m.call args)).2 = none →
    ∃ number v, firstArgument? args = some (.number number)
      ∧ number.value? = some ((v : Int64).toInt : ℚ)
      ∧ (applyCall j o (m.call args)).1 = m.set o v
  /-- An integer of 64 bits that the method allows is accepted. -/
  accepted : ∀ number (n : ℤ), firstArgument? args = some (.number number) →
    number.value? = some (n : ℚ) → Width.isInt64 n = true → m.Allows n →
    ∀ o, (applyCall j o (m.call args)).2 = none
  /-- A number outside the range of 64 bits is refused with a warning and changes nothing. -/
  refused : ∀ number (q : ℚ), firstArgument? args = some (.number number) →
    number.value? = some q → q < Width.int64Min ∨ Width.int64Max < q →
    ∀ o, (applyCall j o (m.call args)).1 = o ∧ (applyCall j o (m.call args)).2.isSome = true

/-- An integer for which the range has no end that the method would store in its place. -/
def IntegerMethod.Fits (m : IntegerMethod) (n : ℤ) : Prop :=
  n ≤ Width.int64Max ∧ (m = .limit → Width.int64Min ≤ n)

/-- The end of the range that an integer is brought to is allowed only if the integer has
64 bits or does not fit. -/
theorem IntegerMethod.Fits.isInt64 {m : IntegerMethod} {n : ℤ} (hfits : m.Fits n)
    (hallows : m.Allows (clampInt64 n).toInt) : Width.isInt64 n = true := by
  obtain ⟨hhigh, hlimit⟩ := hfits
  rw [toInt_clampInt64] at hallows
  simp only [Width.int64Min, Width.int64Max] at hallows hhigh hlimit
  rw [Width.isInt64_iff]
  refine ⟨?_, hhigh⟩
  cases m with
  | limit => exact hlimit rfl
  | skip | maxTimeMS | batchSize => simp only [Allows] at hallows; omega

/-- What does not fit is accepted. -/
theorem IntegerMethod.allows_clampInt64_of_not_fits {m : IntegerMethod} {n : ℤ}
    (h : ¬m.Fits n) : m.Allows (clampInt64 n).toInt ∧ Width.isInt64 n = false := by
  rw [Fits, not_and_or, Classical.not_imp] at h
  rw [toInt_clampInt64, Bool.eq_false_iff, Ne, Width.isInt64_iff]
  simp only [Width.int64Min, Width.int64Max] at h ⊢
  cases m <;> simp only [Allows, reduceCtorEq, false_and, or_false, true_and] at h ⊢ <;> omega

section

variable {j : Judging} {m : IntegerMethod} {args : String}

/-- An integer that does not fit is accepted, and the end of the range is stored for it. -/
theorem applyCall_of_not_fits (h : m.toMethod.appliesTo (j.kindFor m.toMethod) = true) {n : ℤ}
    (hn : exactArgument? args = some n) (hfits : ¬m.Fits n) (o : QueryOptions) :
    applyCall j o (m.call args) = (m.set o (clampInt64 n), none) := by
  refine IntegerMethod.applyCall_eq_set h ?_ (IntegerMethod.allows_clampInt64_of_not_fits hfits).1 o
  rw [integerArgument?_eq, hn, Option.map_some]

/-- Arguments that a method takes exactly start with an integer that fits, if they start with
an integer at all. -/
theorem TakesExactly.fits (h : m.toMethod.appliesTo (j.kindFor m.toMethod) = true)
    (hexact : TakesExactly j m args) {n : ℤ} (hn : exactArgument? args = some n) : m.Fits n := by
  by_contra hfits
  obtain ⟨number, hfirst, hvalue⟩ := exactArgument?_eq_some_iff.1 hn
  have hwide : n < Width.int64Min ∨ Width.int64Max < n := by
    have hnot := (IntegerMethod.allows_clampInt64_of_not_fits hfits).2
    rw [Bool.eq_false_iff, Ne, Width.isInt64_iff] at hnot
    simp only [Width.int64Min, Width.int64Max]
    omega
  have hrefused := (hexact.refused number n hfirst hvalue (by exact_mod_cast hwide) {}).2
  rw [applyCall_of_not_fits h hn hfits] at hrefused
  cases hrefused

/-- A call with an integer that fits is accepted just if the integer has 64 bits and is allowed,
and then it stores that integer. -/
theorem exists_of_accepted (h : m.toMethod.appliesTo (j.kindFor m.toMethod) = true)
    (hfits : ∀ n, exactArgument? args = some n → m.Fits n)
    (haccepts : accepts j (m.call args) = true) :
    ∃ v : Int64, exactArgument? args = some v.toInt
      ∧ ∀ o, applyCall j o (m.call args) = (m.set o v, none) := by
  obtain ⟨v, hv, hallows⟩ := (IntegerMethod.accepts_iff h).1 haccepts
  refine ⟨v, ?_, IntegerMethod.applyCall_eq_set h hv hallows⟩
  rw [integerArgument?_eq, Option.map_eq_some_iff] at hv
  obtain ⟨n, hn, rfl⟩ := hv
  rw [hn, toInt_clampInt64_of_isInt64 ((hfits n hn).isInt64 hallows)]

/-- A method that applies takes its arguments exactly just if the integer that they start
with, if there is one, is not beyond the range of 64 bits, or is below the range and the method
has a bound of its own there. -/
theorem takesExactly_iff (h : m.toMethod.appliesTo (j.kindFor m.toMethod) = true) :
    TakesExactly j m args
      ↔ ∀ number (n : ℤ), firstArgument? args = some (.number number) →
          number.value? = some (n : ℚ) →
          n ≤ Width.int64Max ∧ (m = .limit → Width.int64Min ≤ n) := by
  constructor
  · intro hexact number n hfirst hvalue
    exact hexact.fits h (exactArgument?_eq_some_iff.2 ⟨number, hfirst, hvalue⟩)
  intro hall
  have hfits : ∀ n, exactArgument? args = some n → m.Fits n := fun n hn => by
    obtain ⟨number, hfirst, hvalue⟩ := exactArgument?_eq_some_iff.1 hn
    exact hall number n hfirst hvalue
  refine ⟨?stored, ?accepted, ?refused⟩
  case stored =>
    intro o hnone
    have haccepts : accepts j (m.call args) = true := by
      by_contra hnot
      have hwarning := warning?_eq j (m.call args)
      rw [if_neg hnot, show warning? j (m.call args) = none by rw [← hnone, applyCall_eq]]
        at hwarning
      cases hwarning
    obtain ⟨v, hv, hset⟩ := exists_of_accepted h hfits haccepts
    obtain ⟨number, hfirst, hvalue⟩ := exactArgument?_eq_some_iff.1 hv
    exact ⟨number, v, hfirst, hvalue, congrArg Prod.fst (hset o)⟩
  case accepted =>
    intro number n hfirst hvalue hwidth hallows o
    have hn := exactArgument?_eq_some_iff.2 ⟨number, hfirst, hvalue⟩
    have hv : integerArgument? args = some (clampInt64 n) := by
      rw [integerArgument?_eq, hn, Option.map_some]
    rw [← toInt_clampInt64_of_isInt64 hwidth] at hallows
    rw [IntegerMethod.applyCall_eq_set h hv hallows]
  case refused =>
    intro number q hfirst hvalue hwide o
    cases haccepts : accepts j (m.call args) with
    | false =>
      rw [applyCall_of_not_accepts haccepts]
      have hwarning := warning?_eq j (m.call args)
      rw [haccepts, if_neg Bool.false_ne_true] at hwarning
      exact ⟨rfl, by rw [← Option.isSome_map, hwarning]; rfl⟩
    | true =>
      -- Accepted arguments start with an integer of 64 bits, so they are not wide.
      obtain ⟨v, hv, -⟩ := exists_of_accepted h hfits haccepts
      obtain ⟨number', hfirst', hvalue'⟩ := exactArgument?_eq_some_iff.1 hv
      cases hfirst.symm.trans hfirst'
      cases hvalue.symm.trans hvalue'
      have hbounds := Width.isInt64_iff.1 (Width.isInt64_toInt v)
      simp only [Width.int64Min, Width.int64Max] at hwide
      norm_cast at hwide
      omega

end

/-- A float without a fraction is taken exactly. -/
theorem takesExactly_iff_float :
    IntegerMethod.limit.toMethod.appliesTo ((Judging.mk .find .find).kindFor .limit) = true
      ∧ TakesExactly ⟨.find, .find⟩ .limit "-5e2" := by
  have happlies :
      IntegerMethod.limit.toMethod.appliesTo ((Judging.mk .find .find).kindFor .limit) = true := by
    decide
  refine ⟨happlies, (takesExactly_iff happlies).2 fun number n hfirst hvalue => ?_⟩
  have hn : exactArgument? "-5e2" = some n :=
    exactArgument?_eq_some_iff.2 ⟨number, hfirst, hvalue⟩
  have heval : exactArgument? "-5e2" = some (-500) := by decide +kernel
  cases hn.symm.trans heval
  decide

/-- A limit of 64 bits without a sign is accepted, and another number is stored. -/
theorem not_takesExactly_wide :
    IntegerMethod.limit.toMethod.appliesTo ((Judging.mk .find .find).kindFor .limit) = true
      ∧ exactArgument? "9223372036854775808" = some 9223372036854775808
      ∧ applyCall ⟨.find, .find⟩ {} ⟨"limit", "9223372036854775808"⟩
          = ({ limit := some 9223372036854775807 }, none)
      ∧ ¬TakesExactly ⟨.find, .find⟩ .limit "9223372036854775808" := by
  have happlies :
      IntegerMethod.limit.toMethod.appliesTo ((Judging.mk .find .find).kindFor .limit) = true := by
    decide
  have hn : exactArgument? "9223372036854775808" = some 9223372036854775808 := by decide +kernel
  have hfits : ¬IntegerMethod.limit.Fits 9223372036854775808 := by
    rintro ⟨hhigh, -⟩
    revert hhigh
    decide
  refine ⟨happlies, hn, ?_, fun hexact => hfits (hexact.fits happlies hn)⟩
  exact (applyCall_of_not_fits happlies hn hfits {}).trans rfl

end ShellQuery.Mapping

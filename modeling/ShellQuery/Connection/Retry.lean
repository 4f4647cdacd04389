/-!
# Trying again

An attempt that fails is made again after a wait, up to a number of times.  Each
wait is twice the one before.  The number of attempts and the factor of a wait are
words of 32 bits, and the seconds of a wait are a word of 64 bits.  A number that is
no such word stops everything: there is neither a success nor an error then.

An attempt is an arbitrary function on a state, so what is made of the attempts can
be said without saying what they do.
-/

namespace ShellQuery

/-- How something comes out that may fail. -/
inductive Outcome (ε α : Type) where
  /-- It succeeded. -/
  | ok (a : α)
  /-- It failed. -/
  | error (e : ε)
  /-- It was stopped by a number that is no word. -/
  | overflow
  deriving DecidableEq, Repr

/-- The outcome with another error, if it failed. -/
def Outcome.mapError {ε ε' α : Type} (f : ε → ε') : Outcome ε α → Outcome ε' α
  | ok a => ok a
  | error e => error (f e)
  | overflow => overflow

/-- Something that may fail and can be done again. -/
abbrev Attempt (State ε α : Type) := State → State × Except ε α

/-- What some attempts have come to. -/
structure Attempts (State ε α : Type) where
  /-- The state behind the last of them. -/
  state : State
  /-- The waits between them, in milliseconds. -/
  waits : List Nat
  /-- The first success, or the error of the last one.  Without any attempt there is
  neither. -/
  outcome : Outcome (Option ε) α

namespace Retry

/-! ## Words -/

/-- The word of 32 bits for a number. -/
def word? (n : Nat) : Option UInt32 := if n < UInt32.size then some (.ofNat n) else none

/-- The longest time that can be waited, in milliseconds.  Its seconds are a word of 64
bits. -/
def longestWait : Nat := (UInt64.size - 1) * 1000 + 999

/-- A time that can be waited. -/
def time? (milliseconds : Nat) : Option Nat :=
  if milliseconds ≤ longestWait then some milliseconds else none

/-- The number of attempts if the first is made again some times. -/
def total? (again : UInt32) : Option UInt32 := word? (again.toNat + 1)

/-- The first wait, in milliseconds. -/
def firstWait : Nat := 250

/-- The factor of the wait after some failed attempts and one more. -/
def factor? (failed : Nat) : Option UInt32 := word? (Nat.pow 2 failed)

/-- The wait after some failed attempts and one more. -/
def wait? (failed : Nat) : Option Nat :=
  (factor? failed).bind fun factor => time? (firstWait * factor.toNat)

/-! ## Runs -/

variable {State ε α : Type}

/-- Makes at most `left` attempts after some failed ones, of which the last one had
the given error. -/
def run (attempt : Attempt State ε α) :
    (left : Nat) → (failed : Nat) → Option ε → State → Attempts State ε α
  | 0, _, last, state => { state := state, waits := [], outcome := .error last }
  | left + 1, failed, _, state =>
      match attempt state with
      | (state, .ok a) => { state := state, waits := [], outcome := .ok a }
      | (state, .error e) =>
          -- behind the last attempt no wait is worked out
          if left = 0 then { state := state, waits := [], outcome := .error (some e) }
          else
            match wait? failed with
            | none => { state := state, waits := [], outcome := .overflow }
            | some w =>
                let rest := run attempt left (failed + 1) (some e) state
                { rest with waits := w :: rest.waits }

/-- Makes an attempt, and makes it again some times as long as it fails. -/
def attempts (attempt : Attempt State ε α) (again : UInt32) (state : State) :
    Attempts State ε α :=
  match total? again with
  | none => { state := state, waits := [], outcome := .overflow }
  | some total => run attempt total.toNat 0 none state

example : wait? 0 = some 250 ∧ wait? 3 = some 2000 ∧ wait? 32 = none := by decide

/-- Attempts that fail at all times. -/
example :
    let failing : Attempt Nat String Unit := fun n => (n + 1, .error "no")
    (attempts failing 2 0).waits = [250, 500] ∧ (attempts failing 2 0).state = 3 := by
  decide +kernel

end Retry

end ShellQuery

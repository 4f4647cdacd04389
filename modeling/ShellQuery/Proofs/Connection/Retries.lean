import Mathlib.Algebra.Group.Nat.Defs
import Mathlib.Data.Nat.Find
import ShellQuery.Connection.Lifecycle
import ShellQuery.Server.Scripted

/-!
# Connecting with retries

What attempts come to is said by the attempts that would be made one after another: the state
behind the first `k` of them and the outcome of the next one.

A run of attempts stops behind the first that succeeds, or behind the last one it has left
(`run_of_success`, `run_of_failure`).  So it makes no attempt behind a success.  It waits
between two attempts only, and each wait is twice the one before.  There are 32 such waits,
and behind them the run is stopped (`wait?_eq_some`, `wait?_eq_none`).  Opening a connection
makes such a run (`openBy_retries`).
-/

namespace ShellQuery

namespace Retry

variable {State ε α : Type} {attempt : Attempt State ε α} {state : State}

/-! ## One attempt after another -/

/-- The state behind some attempts. -/
def stateAfter (attempt : Attempt State ε α) : Nat → State → State
  | 0, state => state
  | made + 1, state => stateAfter attempt made (attempt state).1

/-- The outcome of the attempt behind some others. -/
def outcomeAfter (attempt : Attempt State ε α) (made : Nat) (state : State) : Except ε α :=
  (attempt (stateAfter attempt made state)).2

/-! ## Waits -/

theorem word?_of_lt {n : Nat} (h : n < UInt32.size) : word? n = some (.ofNat n) := by
  rw [word?, if_pos h]

theorem word?_of_le {n : Nat} (h : UInt32.size ≤ n) : word? n = none := by
  rw [word?, if_neg (Nat.not_lt.2 h)]

theorem two_pow_lt_size {failed : Nat} (h : failed < 32) : 2 ^ failed < UInt32.size :=
  Nat.pow_lt_pow_right (by decide : 1 < 2) h

theorem size_le_two_pow {failed : Nat} (h : 32 ≤ failed) : UInt32.size ≤ 2 ^ failed :=
  Nat.pow_le_pow_right (by decide : 0 < 2) h

theorem factor?_of_lt {failed : Nat} (h : failed < 32) :
    factor? failed = some (.ofNat (2 ^ failed)) :=
  word?_of_lt (two_pow_lt_size h)

theorem factor?_of_le {failed : Nat} (h : 32 ≤ failed) : factor? failed = none :=
  word?_of_le (size_le_two_pow h)

/-- A wait is not too long, whatever word its factor is. -/
theorem mul_le_longestWait {factor : Nat} (h : factor < UInt32.size) :
    250 * factor ≤ longestWait := by
  simp only [UInt32.size] at h
  simp only [longestWait, UInt64.size]
  omega

/-- As long as its factor is a word, each wait is twice the one before. -/
theorem wait?_eq_some {failed : Nat} (h : failed < 32) :
    wait? failed = some (250 * 2 ^ failed) := by
  have hfactor := two_pow_lt_size h
  rw [wait?, factor?_of_lt h, Option.bind_some, UInt32.toNat_ofNat_of_lt' hfactor, firstWait,
    time?, if_pos (mul_le_longestWait hfactor)]

theorem wait?_eq_none {failed : Nat} (h : 32 ≤ failed) : wait? failed = none := by
  rw [wait?, factor?_of_le h, Option.bind_none]

/-- The waits behind the failed attempts of a run that are not its last one. -/
def waitsFrom (failed made : Nat) : List Nat :=
  (List.range made).map fun j => 250 * 2 ^ (failed + j)

theorem waitsFrom_succ (failed made : Nat) :
    waitsFrom failed (made + 1) = 250 * 2 ^ failed :: waitsFrom (failed + 1) made := by
  simp [waitsFrom, List.range_succ_eq_map, Nat.add_assoc, Nat.add_comm 1]

theorem waitsFrom_zero (made : Nat) :
    waitsFrom 0 made = (List.range made).map fun j => 250 * 2 ^ j := by
  simp only [waitsFrom, Nat.zero_add]

/-! ## Runs -/

theorem run_ok {a : α} (h : outcomeAfter attempt 0 state = .ok a) (left failed : Nat)
    (last : Option ε) :
    run attempt (left + 1) failed last state
      = { state := (attempt state).1, waits := [], outcome := .ok a } := by
  have hattempt : attempt state = ((attempt state).1, .ok a) := Prod.ext rfl h
  rw [run, hattempt]

/-- Behind the failure of the last attempt there is no wait. -/
theorem run_last {e : ε} (h : outcomeAfter attempt 0 state = .error e) (failed : Nat)
    (last : Option ε) :
    run attempt 1 failed last state
      = { state := (attempt state).1, waits := [], outcome := .error (some e) } := by
  have hattempt : attempt state = ((attempt state).1, .error e) := Prod.ext rfl h
  rw [run, hattempt]
  rfl

/-- Behind any other failure there is a wait, and the rest of the run. -/
theorem run_again {e : ε} (h : outcomeAfter attempt 0 state = .error e) {left failed : Nat}
    (hfailed : failed < 32) {rest : Attempts State ε α}
    (hrest : run attempt (left + 1) (failed + 1) (some e) (attempt state).1 = rest)
    (last : Option ε) :
    run attempt (left + 2) failed last state
      = { rest with waits := 250 * 2 ^ failed :: rest.waits } := by
  have hattempt : attempt state = ((attempt state).1, .error e) := Prod.ext rfl h
  rw [run, hattempt, ← hrest]
  simp only [Nat.succ_ne_zero, if_false, wait?_eq_some hfailed]

/-- A run is stopped where the factor of a wait is no word. -/
theorem run_overflow {e : ε} (h : outcomeAfter attempt 0 state = .error e) {failed : Nat}
    (hfailed : 32 ≤ failed) (left : Nat) (last : Option ε) :
    run attempt (left + 2) failed last state
      = { state := (attempt state).1, waits := [], outcome := .overflow } := by
  have hattempt : attempt state = ((attempt state).1, .error e) := Prod.ext rfl h
  rw [run, hattempt]
  simp only [Nat.succ_ne_zero, if_false, wait?_eq_none hfailed]

/-- A run stops behind its first success. -/
theorem run_of_success {made left failed : Nat} {a : α} (hleft : made < left)
    (hmade : failed + made ≤ 32)
    (hfail : ∀ j < made, ∃ e, outcomeAfter attempt j state = .error e)
    (hok : outcomeAfter attempt made state = .ok a) (last : Option ε) :
    run attempt left failed last state
      = { state := stateAfter attempt (made + 1) state
          waits := waitsFrom failed made
          outcome := .ok a } := by
  -- The induction is on the failures in front of the success.
  induction made generalizing left failed last state with
  | zero =>
    obtain ⟨left, rfl⟩ := Nat.exists_eq_add_one.2 hleft
    exact run_ok hok left failed last
  | succ made ih =>
    obtain ⟨left, rfl⟩ := Nat.exists_eq_add_of_le' (show 2 ≤ left by omega)
    obtain ⟨e, he⟩ := hfail 0 (Nat.succ_pos made)
    have hleft : made < left + 1 := by omega
    have hfail : ∀ j < made, ∃ e, outcomeAfter attempt j (attempt state).1 = .error e :=
      fun j hj => hfail (j + 1) (by omega)
    have hmade : failed + 1 + made ≤ 32 := by omega
    have hrest := ih hleft hmade hfail hok (some e)
    rw [run_again he (by omega) hrest, waitsFrom_succ]
    rfl

/-- A run without a success makes all its attempts, and its error is that of the last one. -/
theorem run_of_failure {left failed : Nat} {e : ε} (hleft : failed + left ≤ 32)
    (hfail : ∀ j < left, ∃ e, outcomeAfter attempt j state = .error e)
    (hlast : outcomeAfter attempt left state = .error e) (last : Option ε) :
    run attempt (left + 1) failed last state
      = { state := stateAfter attempt (left + 1) state
          waits := waitsFrom failed left
          outcome := .error (some e) } := by
  induction left generalizing failed last state with
  | zero => exact run_last hlast failed last
  | succ left ih =>
    obtain ⟨e', he'⟩ := hfail 0 (Nat.succ_pos left)
    have hfail : ∀ j < left, ∃ e, outcomeAfter attempt j (attempt state).1 = .error e :=
      fun j hj => hfail (j + 1) (by omega)
    have hleft : failed + 1 + left ≤ 32 := by omega
    have hrest := ih hleft hfail hlast (some e')
    rw [run_again he' (by omega) hrest, waitsFrom_succ]
    rfl

/-- A run with more failures than it can wait behind makes one attempt behind its last wait. -/
theorem run_of_overflow {made left failed : Nat} (hleft : made + 1 < left)
    (hmade : failed + made = 32)
    (hfail : ∀ j ≤ made, ∃ e, outcomeAfter attempt j state = .error e) (last : Option ε) :
    run attempt left failed last state
      = { state := stateAfter attempt (made + 1) state
          waits := waitsFrom failed made
          outcome := .overflow } := by
  induction made generalizing left failed last state with
  | zero =>
    obtain ⟨left, rfl⟩ := Nat.exists_eq_add_of_le' (show 2 ≤ left by omega)
    obtain ⟨e, he⟩ := hfail 0 (Nat.le_refl 0)
    exact run_overflow he (by omega) left last
  | succ made ih =>
    obtain ⟨left, rfl⟩ := Nat.exists_eq_add_of_le' (show 2 ≤ left by omega)
    obtain ⟨e, he⟩ := hfail 0 (Nat.zero_le _)
    have hfail : ∀ j ≤ made, ∃ e, outcomeAfter attempt j (attempt state).1 = .error e :=
      fun j hj => hfail (j + 1) (by omega)
    have hleft : made + 1 < left + 1 := by omega
    have hmade : failed + 1 + made = 32 := by omega
    have hrest := ih hleft hmade hfail (some e)
    rw [run_again he (by omega) hrest, waitsFrom_succ]
    rfl

/-! ## Attempts -/

variable {again : UInt32}

/-- The attempts are a run, unless their number is no word. -/
theorem attempts_eq_run (h : again.toNat + 1 < UInt32.size) :
    attempts attempt again state = run attempt (again.toNat + 1) 0 none state := by
  rw [attempts, total?, word?_of_lt h]
  dsimp only
  rw [UInt32.toNat_ofNat_of_lt' h]

theorem toNat_add_one_lt (h : again ≤ 32) : again.toNat + 1 < UInt32.size := by
  have hagain : again.toNat ≤ 32 := UInt32.le_iff_toNat_le.1 h
  simp only [UInt32.size]
  omega

theorem attempts_eq_overflow (h : UInt32.size ≤ again.toNat + 1) :
    attempts attempt again state = { state := state, waits := [], outcome := .overflow } := by
  rw [attempts, total?, word?_of_le h]

theorem attempts_of_success (h : again ≤ 32) {made : Nat} {a : α} (hmade : made ≤ again.toNat)
    (hfail : ∀ j < made, ∃ e, outcomeAfter attempt j state = .error e)
    (hok : outcomeAfter attempt made state = .ok a) :
    attempts attempt again state
      = { state := stateAfter attempt (made + 1) state
          waits := (List.range made).map fun j => 250 * 2 ^ j
          outcome := .ok a } := by
  have hagain : again.toNat ≤ 32 := UInt32.le_iff_toNat_le.1 h
  rw [attempts_eq_run (toNat_add_one_lt h), run_of_success (by omega) (by omega) hfail hok,
    waitsFrom_zero]

theorem attempts_of_failure (h : again ≤ 32) {e : ε}
    (hfail : ∀ j < again.toNat, ∃ e, outcomeAfter attempt j state = .error e)
    (hlast : outcomeAfter attempt again.toNat state = .error e) :
    attempts attempt again state
      = { state := stateAfter attempt (again.toNat + 1) state
          waits := (List.range again.toNat).map fun j => 250 * 2 ^ j
          outcome := .error (some e) } := by
  have hagain : again.toNat ≤ 32 := UInt32.le_iff_toNat_le.1 h
  rw [attempts_eq_run (toNat_add_one_lt h), run_of_failure (by omega) hfail hlast, waitsFrom_zero]

end Retry

/-! ## Opening -/

namespace Connection

variable {State : Type}

theorem error_of_ne_ok {ε : Type} {x : Except ε Unit} (h : x ≠ .ok ()) : ∃ e, x = .error e := by
  cases x with
  | error e => exact ⟨e, rfl⟩
  | ok u => exact absurd rfl h

variable {attempt : ClientOptions → Attempt State ConnectionError Unit} {c : Connection}
  {server : State} {target : ConnectionString}

theorem openBy_of_success (htarget : ConnectionString.parse c.uri = .ok target) {state : State}
    {waits : List Nat}
    (h : Retry.attempts (attempt (ClientOptions.of target c.config)) c.config.retryAttempts server
      = { state := state, waits := waits, outcome := .ok () }) :
    (openBy attempt c server).outcome = .ok () ∧ (openBy attempt c server).server = state
      ∧ (openBy attempt c server).waits = waits := by
  rw [openBy_of_target htarget, openTo, h]
  exact ⟨rfl, rfl, rfl⟩

theorem openBy_of_failure (htarget : ConnectionString.parse c.uri = .ok target) {state : State}
    {waits : List Nat} {e : ConnectionError}
    (h : Retry.attempts (attempt (ClientOptions.of target c.config)) c.config.retryAttempts server
      = { state := state, waits := waits, outcome := .error (some e) }) :
    (openBy attempt c server).outcome
        = .error (.connectionFailed (QueryError.connection e).message)
      ∧ (openBy attempt c server).server = state
      ∧ (openBy attempt c server).waits = waits := by
  rw [openBy_of_target htarget, openTo, h]
  exact ⟨rfl, rfl, rfl⟩

/-- Opening a connection makes attempts until one succeeds, and at most one more than it is
told to make again.  Behind the first success nothing more is asked of the server, and without
one the error is that of the last attempt.  It waits behind each failed attempt but the last. -/
theorem openBy_retries (attempt : ClientOptions → Attempt State ConnectionError Unit)
    (c : Connection) (server : State) {target : ConnectionString}
    (htarget : ConnectionString.parse c.uri = .ok target) (hagain : c.config.retryAttempts ≤ 32) :
    let once := attempt (ClientOptions.of target c.config)
    let again := c.config.retryAttempts.toNat
    let opening := openBy attempt c server
    (opening.outcome = .ok () ↔ ∃ k ≤ again, Retry.outcomeAfter once k server = .ok ())
    ∧ (∀ k ≤ again, Retry.outcomeAfter once k server = .ok () →
        (∀ j < k, Retry.outcomeAfter once j server ≠ .ok ()) →
        opening.server = Retry.stateAfter once (k + 1) server
          ∧ opening.waits = (List.range k).map fun j => 250 * 2 ^ j)
    ∧ ((∀ k ≤ again, Retry.outcomeAfter once k server ≠ .ok ()) →
        opening.server = Retry.stateAfter once (again + 1) server
          ∧ (opening.waits = (List.range again).map fun j => 250 * 2 ^ j)
          ∧ ∃ e, Retry.outcomeAfter once again server = .error e
            ∧ opening.outcome = .error (.connectionFailed (QueryError.connection e).message)) := by
  intro once again opening
  have hsuccess {k : Nat} (hk : k ≤ again) (hok : Retry.outcomeAfter once k server = .ok ())
      (hfirst : ∀ j < k, Retry.outcomeAfter once j server ≠ .ok ()) :=
    openBy_of_success htarget
      (Retry.attempts_of_success hagain hk (fun j hj => error_of_ne_ok (hfirst j hj)) hok)
  have hfailure (hnone : ∀ k ≤ again, Retry.outcomeAfter once k server ≠ .ok ())
      {e : ConnectionError} (he : Retry.outcomeAfter once again server = .error e) :=
    openBy_of_failure htarget (Retry.attempts_of_failure hagain
      (fun j hj => error_of_ne_ok (hnone j (Nat.le_of_lt hj))) he)
  refine ⟨⟨fun hopen => ?_, fun hsome => ?_⟩, fun k hk hok hfirst => ?_, fun hnone => ?_⟩
  · by_contra hnone
    have hnone : ∀ k ≤ again, Retry.outcomeAfter once k server ≠ .ok () := fun k hk hok =>
      hnone ⟨k, hk, hok⟩
    obtain ⟨e, he⟩ := error_of_ne_ok (hnone again (Nat.le_refl again))
    rw [(hfailure hnone he).1] at hopen
    cases hopen
  · classical
    obtain ⟨hk, hok⟩ := Nat.find_spec hsome
    refine (hsuccess hk hok fun j hj hj' => ?_).1
    exact Nat.find_min hsome hj ⟨Nat.le_trans (Nat.le_of_lt hj) hk, hj'⟩
  · exact (hsuccess hk hok hfirst).2
  · obtain ⟨e, he⟩ := error_of_ne_ok (hnone again (Nat.le_refl again))
    obtain ⟨houtcome, hserver, hwaits⟩ := hfailure hnone he
    exact ⟨hserver, hwaits, e, he, houtcome⟩

/-- A server that refuses two pings and answers the third one. -/
theorem openBy_retries_third :
    let refused : Document := [("ok", .int32 0)]
    let c := of "mongodb://localhost" { retryAttempts := 2 }
    let opening := connect ScriptedServer.answer c { pings := [refused, refused] }
    opening.outcome = .ok () ∧ opening.server.pingCount = 3 ∧ opening.waits = [250, 500] := by
  intro refused c opening
  let target : ConnectionString := { hosts := [.host "localhost" none] }
  let once := Client.attempt ScriptedServer.answer (ClientOptions.of target c.config)
  let server : ScriptedServer := { pings := [refused, refused] }
  have htarget : ConnectionString.parse c.uri = .ok target := by decide +kernel
  have hthird : Retry.outcomeAfter once 2 server = .ok () := by decide +kernel
  have hfirst : ∀ j < 2, Retry.outcomeAfter once j server ≠ .ok () := by decide +kernel
  have hcount : (Retry.stateAfter once 3 server).pingCount = 3 := by decide +kernel
  obtain ⟨hiff, hstop, -⟩ := openBy_retries (Client.attempt ScriptedServer.answer) c server htarget
    (by decide)
  obtain ⟨hserver, hwaits⟩ := hstop 2 (by decide) hthird hfirst
  refine ⟨hiff.2 ⟨2, by decide, hthird⟩, ?_, hwaits⟩
  rw [← hcount, ← hserver]
  rfl

end Connection

end ShellQuery

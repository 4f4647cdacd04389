import Mathlib.Data.List.Chain
import ShellQuery.Program.Run
import ShellQuery.Proofs.Config.Effective
import ShellQuery.Proofs.Connection.Retries

/-!
# The arithmetic of retries

The number of attempts and the factor of a wait are words of 32 bits, and the settings name
any word as the number of retries: no check of theirs is about it (`validate_withRetries`).

The arithmetic of opening a connection is in range (`InRange`) if both are words, as far as
they are come to, and no wait is longer than a time can be.  If it is not, opening the
connection is stopped (`openBy_overflow_iff`).  How far a run gets is said by `Stops`, and
everything follows from the number of its waits.  The factor of wait 33 is no word any more, so
the arithmetic is in range exactly if the number of attempts is a word and there are at most 32
waits to make (`inRange_iff`).  With the largest number of retries nothing is attempted
(`openBy_of_max`).
-/

namespace ShellQuery

namespace Retry

variable {State ε α : Type} {attempt : Attempt State ε α} {state : State} {left made : Nat}

/-! ## Counting -/

/-- An attempt that is counted. -/
def counted (attempt : Attempt State ε α) : Attempt (State × Nat) ε α := fun (state, made) =>
  (((attempt state).1, made + 1), (attempt state).2)

theorem stateAfter_counted (attempt : Attempt State ε α) (k : Nat) (state : State) (made : Nat) :
    stateAfter (counted attempt) k (state, made) = (stateAfter attempt k state, made + k) := by
  induction k generalizing state made with
  | zero => rfl
  | succ k ih =>
    rw [stateAfter, stateAfter, counted, ih, Nat.add_right_comm, Nat.add_assoc]

theorem outcomeAfter_counted (attempt : Attempt State ε α) (k : Nat) (state : State) (made : Nat) :
    outcomeAfter (counted attempt) k (state, made) = outcomeAfter attempt k state := by
  rw [outcomeAfter, stateAfter_counted]
  rfl

/-! ## How far a run gets -/

/-- A run with one attempt and some more left gets to an attempt behind some failures, which
succeeds or is the last one left. -/
structure Stops (attempt : Attempt State ε α) (left : Nat) (state : State) (failed : Nat) :
    Prop where
  le : failed ≤ left
  failures : ∀ j < failed, ∃ e, outcomeAfter attempt j state = .error e
  last : (∃ a, outcomeAfter attempt failed state = .ok a) ∨ failed = left

theorem exists_stops (attempt : Attempt State ε α) (left : Nat) (state : State) :
    ∃ failed, Stops attempt left state failed := by
  induction left generalizing state with
  | zero => exact ⟨0, Nat.le_refl 0, fun j hj => absurd hj (Nat.not_lt_zero j), .inr rfl⟩
  | succ left ih =>
    cases hfirst : outcomeAfter attempt 0 state with
    | ok a => exact ⟨0, Nat.zero_le _, fun j hj => absurd hj (Nat.not_lt_zero j), .inl ⟨a, hfirst⟩⟩
    | error e =>
      obtain ⟨failed, hle, hfailures, hlast⟩ := ih (attempt state).1
      refine ⟨failed + 1, Nat.succ_le_succ hle, fun j hj => ?_, ?_⟩
      · cases j with
        | zero => exact ⟨e, hfirst⟩
        | succ j => exact hfailures j (Nat.lt_of_succ_lt_succ hj)
      · exact hlast.imp id (congrArg (· + 1))

theorem Stops.counted {failed : Nat} (h : Stops attempt left state failed) (made : Nat) :
    Stops (counted attempt) left (state, made) failed := by
  refine ⟨h.le, fun j hj => ?_, ?_⟩
  · rw [outcomeAfter_counted]
    exact h.failures j hj
  · rw [outcomeAfter_counted]
    exact h.last

/-- How far a run gets with at most 32 waits says how many waits it has, what state it ends in
and whether it is stopped. -/
theorem Stops.run_eq {failed : Nat} (h : Stops attempt (min left 32) state failed)
    (last : Option ε) :
    (run attempt (left + 1) 0 last state).waits = waitsFrom 0 failed
      ∧ (run attempt (left + 1) 0 last state).state = stateAfter attempt (failed + 1) state
      ∧ ((run attempt (left + 1) 0 last state).outcome = .overflow
        ↔ 32 < left ∧ ∀ k ≤ 32, ∃ e, outcomeAfter attempt k state = .error e) := by
  obtain ⟨hle, hfailures, hlast⟩ := h
  cases hoc : outcomeAfter attempt failed state with
  | ok a =>
    rw [run_of_success (by omega) (by omega) hfailures hoc]
    refine ⟨rfl, rfl, iff_of_false nofun ?_⟩
    rintro ⟨-, hall⟩
    obtain ⟨e, he⟩ := hall failed (by omega)
    rw [hoc] at he
    cases he
  | error e =>
    obtain ⟨a, ha⟩ | rfl := hlast
    · rw [hoc] at ha
      cases ha
    · by_cases hleft : left ≤ 32
      · rw [Nat.min_eq_left hleft] at hfailures hoc ⊢
        rw [run_of_failure (by omega) hfailures hoc]
        exact ⟨rfl, rfl, iff_of_false nofun fun h => Nat.not_lt.2 hleft h.1⟩
      · rw [Nat.min_eq_right (by omega)] at hfailures hoc ⊢
        have hall : ∀ k ≤ 32, ∃ e, outcomeAfter attempt k state = .error e := by
          intro k hk
          obtain hk | rfl := Nat.lt_or_eq_of_le hk
          · exact hfailures k hk
          · exact ⟨e, hoc⟩
        rw [run_of_overflow (by omega) rfl hall]
        exact ⟨rfl, rfl, iff_of_true rfl ⟨by omega, hall⟩⟩

/-! ## Words -/

/-- The number of attempts is a word, unless the retries are as many as a word can say. -/
theorem toNat_add_one_lt_iff {again : UInt32} :
    again.toNat + 1 < UInt32.size ↔ again ≠ 4294967295 := by
  have hsize := again.toNat_lt_size
  have hmax : (4294967295 : UInt32).toNat = 4294967295 := rfl
  rw [Ne, ← UInt32.toNat_inj, hmax]
  simp only [UInt32.size] at hsize ⊢
  omega

variable {again : UInt32}

/-- Where attempts are a run, they are what the run is. -/
theorem Stops.attempts_eq {failed : Nat} (hmax : again ≠ 4294967295)
    (h : Stops attempt (min again.toNat 32) state failed) :
    (attempts attempt again state).waits = waitsFrom 0 failed
      ∧ (attempts attempt again state).state = stateAfter attempt (failed + 1) state
      ∧ ((attempts attempt again state).outcome = .overflow
        ↔ 32 < again.toNat ∧ ∀ k ≤ 32, ∃ e, outcomeAfter attempt k state = .error e) := by
  rw [attempts_eq_run (toNat_add_one_lt_iff.2 hmax)]
  exact h.run_eq none

/-- Each of the first waits is longer than the one before. -/
theorem isChain_waitsFrom (waits : Nat) : (waitsFrom 0 waits).IsChain (· < ·) := by
  rw [List.isChain_iff_getElem]
  simp only [waitsFrom_zero, List.length_map, List.length_range, List.getElem_map,
    List.getElem_range]
  intro j hj
  rw [Nat.pow_succ]
  have hpos := Nat.two_pow_pos j
  omega

end Retry

/-! ## Settings -/

/-- Settings with another number of retries. -/
def Config.withRetries (config : Config) (again : UInt32) : Config :=
  { config with connection := { config.connection with retryAttempts := again } }

/-- No check is about the number of retries. -/
theorem Config.validate_withRetries (config : Config) (again : UInt32) :
    (config.withRetries again).validate = config.validate := by
  have hchecks : (config.withRetries again).checks = config.checks := rfl
  -- Not `rw`, since the equation of `validate` takes long to make.
  delta validate
  rw [hchecks]

namespace Connection

variable {State : Type}

/-! ## The arithmetic of opening a connection -/

/-- Opening a connection comes to a wait behind some failed attempts and one more. -/
def Awaits (attempt : ClientOptions → Attempt State ConnectionError Unit) (c : Connection)
    (server : State) (failed : Nat) : Prop :=
  failed < c.config.retryAttempts.toNat
    ∧ ∃ target, ConnectionString.parse c.uri = .ok target
      ∧ ∀ j ≤ failed, ∃ e,
        Retry.outcomeAfter (attempt (ClientOptions.of target c.config)) j server = .error e

/-- No number that opening a connection comes to is too large for its word. -/
structure InRange (attempt : ClientOptions → Attempt State ConnectionError Unit) (c : Connection)
    (server : State) : Prop where
  /-- The number of attempts is a word. -/
  total : c.config.retryAttempts.toNat + 1 < UInt32.size
  /-- The factor of each wait is a word. -/
  factor : ∀ failed, Awaits attempt c server failed → 2 ^ failed < UInt32.size
  /-- No wait is longer than a time can be. -/
  wait : ∀ failed, Awaits attempt c server failed → 250 * 2 ^ failed ≤ Retry.longestWait

/-- How many attempts are made to open a connection. -/
def attemptsMade (attempt : ClientOptions → Attempt State ConnectionError Unit) (c : Connection)
    (server : State) : Nat :=
  (openBy (fun o => Retry.counted (attempt o)) c (server, 0)).server.2

/-- Opening a connection backs off: its arithmetic is in range, an attempt is made and each wait
is longer than the one before. -/
structure BacksOff (attempt : ClientOptions → Attempt State ConnectionError Unit) (c : Connection)
    (server : State) : Prop extends InRange attempt c server where
  /-- An attempt is made. -/
  made : 0 < attemptsMade attempt c server
  /-- Each wait is longer than the one before. -/
  longer : (openBy attempt c server).waits.IsChain (· < ·)

variable {attempt : ClientOptions → Attempt State ConnectionError Unit} {c : Connection}
  {server : State} {target : ConnectionString}

theorem awaits_iff (htarget : ConnectionString.parse c.uri = .ok target) {failed : Nat} :
    Awaits attempt c server failed ↔ failed < c.config.retryAttempts.toNat
      ∧ ∀ j ≤ failed, ∃ e,
        Retry.outcomeAfter (attempt (ClientOptions.of target c.config)) j server = .error e := by
  constructor
  · rintro ⟨hlt, read, hread, hfail⟩
    rw [htarget] at hread
    cases hread
    exact ⟨hlt, hfail⟩
  · rintro ⟨hlt, hfail⟩
    exact ⟨hlt, target, htarget, hfail⟩

theorem exists_error_iff {k : Nat} {once : Attempt State ConnectionError Unit} :
    (∃ e, Retry.outcomeAfter once k server = .error e)
      ↔ Retry.outcomeAfter once k server ≠ .ok () := by
  constructor
  · rintro ⟨e, he⟩ hok
    rw [he] at hok
    cases hok
  · exact error_of_ne_ok

/-- The arithmetic of opening a connection is in range exactly if the number of attempts is a
word and one of the 33 first attempts succeeds or is the last. -/
theorem inRange_iff (htarget : ConnectionString.parse c.uri = .ok target) :
    InRange attempt c server
      ↔ c.config.retryAttempts ≠ 4294967295
        ∧ (c.config.retryAttempts ≤ 32
          ∨ ∃ k ≤ 32, Retry.outcomeAfter (attempt (ClientOptions.of target c.config)) k server
              = .ok ()) := by
  constructor
  · intro h
    refine ⟨Retry.toNat_add_one_lt_iff.1 h.total, ?_⟩
    by_contra hnot
    obtain ⟨hmany, hnone⟩ := not_or.1 hnot
    have hmany : 32 < c.config.retryAttempts.toNat :=
      Nat.lt_of_not_le fun hle => hmany (UInt32.le_iff_toNat_le.2 hle)
    have hawaits : Awaits attempt c server 32 := (awaits_iff htarget).2
      ⟨hmany, fun j hj => exists_error_iff.2 fun hok => hnone ⟨j, hj, hok⟩⟩
    exact absurd (h.factor 32 hawaits) (by decide)
  · rintro ⟨hmax, hfew⟩
    have hlt {failed : Nat} (h : Awaits attempt c server failed) : failed < 32 := by
      obtain ⟨hagain, hfail⟩ := (awaits_iff htarget).1 h
      obtain hle | ⟨k, hk, hok⟩ := hfew
      · exact Nat.lt_of_lt_of_le hagain (UInt32.le_iff_toNat_le.1 hle)
      · by_contra hge
        exact exists_error_iff.1 (hfail k (by omega)) hok
    exact ⟨Retry.toNat_add_one_lt_iff.2 hmax, fun failed h => Retry.two_pow_lt_size (hlt h),
      fun failed h => Retry.mul_le_longestWait (Retry.two_pow_lt_size (hlt h))⟩

/-! ## What opening a connection comes to -/

theorem mapError_eq_overflow_iff {ε ε' α : Type} {f : ε → ε'} {x : Outcome ε α} :
    x.mapError f = .overflow ↔ x = .overflow := by
  cases x with
  | ok a => exact iff_of_false nofun nofun
  | error e => exact iff_of_false nofun nofun
  | overflow => exact iff_of_true rfl rfl

variable (attempt server) in
/-- With as many retries as a word can say, no attempt is made, whatever it would come to. -/
theorem openBy_of_max (htarget : ConnectionString.parse c.uri = .ok target)
    (hmax : c.config.retryAttempts = 4294967295) :
    attemptsMade attempt c server = 0
      ∧ (openBy attempt c server).waits = []
      ∧ (openBy attempt c server).outcome = .overflow := by
  have hsize : UInt32.size ≤ c.config.retryAttempts.toNat + 1 := by
    rw [hmax]
    decide
  rw [attemptsMade, openBy_of_target htarget, openBy_of_target htarget, openTo, openTo,
    Retry.attempts_eq_overflow hsize, Retry.attempts_eq_overflow hsize]
  exact ⟨rfl, rfl, rfl⟩

variable (attempt server) in
/-- With fewer retries the attempts and the waits are those of a run. -/
theorem exists_stops_of_ne_max (htarget : ConnectionString.parse c.uri = .ok target)
    (hmax : c.config.retryAttempts ≠ 4294967295) :
    ∃ failed, (openBy attempt c server).waits = Retry.waitsFrom 0 failed
      ∧ attemptsMade attempt c server = failed + 1 := by
  obtain ⟨failed, hstops⟩ := Retry.exists_stops (attempt (ClientOptions.of target c.config))
    (min c.config.retryAttempts.toNat 32) server
  refine ⟨failed, ?_, ?_⟩
  · rw [openBy_of_target htarget]
    exact (hstops.attempts_eq hmax).1
  · rw [attemptsMade, openBy_of_target htarget]
    have hstate := ((hstops.counted 0).attempts_eq hmax).2.1
    rw [Retry.stateAfter_counted, Nat.zero_add] at hstate
    exact congrArg Prod.snd hstate

/-- Opening a connection is stopped exactly if its arithmetic is not in range. -/
theorem openBy_overflow_iff (htarget : ConnectionString.parse c.uri = .ok target) :
    (openBy attempt c server).outcome = .overflow ↔ ¬InRange attempt c server := by
  by_cases hmax : c.config.retryAttempts = 4294967295
  · refine iff_of_true (openBy_of_max attempt server htarget hmax).2.2 fun h => ?_
    exact ((inRange_iff htarget).1 h).1 hmax
  · obtain ⟨failed, hstops⟩ := Retry.exists_stops (attempt (ClientOptions.of target c.config))
      (min c.config.retryAttempts.toNat 32) server
    have hrange : InRange attempt c server ↔ c.config.retryAttempts ≤ 32
        ∨ ∃ k ≤ 32, Retry.outcomeAfter (attempt (ClientOptions.of target c.config)) k server
          = .ok () := (inRange_iff htarget).trans (and_iff_right hmax)
    have hmany : ¬c.config.retryAttempts ≤ 32 ↔ 32 < c.config.retryAttempts.toNat :=
      (not_congr UInt32.le_iff_toNat_le).trans Nat.not_le
    rw [openBy_of_target htarget, openTo, mapError_eq_overflow_iff,
      (hstops.attempts_eq hmax).2.2, hrange, not_or, hmany]
    simp only [exists_error_iff, not_exists, not_and]

theorem isChain_waits (htarget : ConnectionString.parse c.uri = .ok target) :
    (openBy attempt c server).waits.IsChain (· < ·) := by
  by_cases hmax : c.config.retryAttempts = 4294967295
  · rw [(openBy_of_max attempt server htarget hmax).2.1]
    exact .nil
  · obtain ⟨failed, hwaits, -⟩ := exists_stops_of_ne_max attempt server htarget hmax
    rw [hwaits]
    exact Retry.isChain_waitsFrom failed

theorem attemptsMade_pos_iff (htarget : ConnectionString.parse c.uri = .ok target) :
    0 < attemptsMade attempt c server ↔ c.config.retryAttempts ≠ 4294967295 := by
  constructor
  · intro hmade hmax
    rw [(openBy_of_max attempt server htarget hmax).1] at hmade
    cases hmade
  · intro hmax
    obtain ⟨failed, -, hmade⟩ := exists_stops_of_ne_max attempt server htarget hmax
    rw [hmade]
    exact failed.succ_pos

/-- A connection that is opened backs off exactly if its arithmetic is in range. -/
theorem backsOff_iff_inRange (htarget : ConnectionString.parse c.uri = .ok target) :
    BacksOff attempt c server ↔ InRange attempt c server := by
  constructor
  · exact fun h => h.toInRange
  · intro h
    have hmax := ((inRange_iff htarget).1 h).1
    exact ⟨h, (attemptsMade_pos_iff htarget).2 hmax, isChain_waits htarget⟩

/-- The settings may name any number of retries.  Opening a connection makes an attempt unless
that number is the largest word.  It backs off unless that number is the largest word or 33
attempts fail and there are more to make, and then it is stopped, behind waits that grow.  So it
backs off whatever the attempts come to exactly if there are at most 32 retries. -/
theorem validate_backsOff_iff (config : Config) {uri : String} {target : ConnectionString}
    (htarget : ConnectionString.parse uri = .ok target) :
    let c := of uri config.connection
    let again := config.connection.retryAttempts
    (∀ n, (config.withRetries n).validate = config.validate)
    ∧ (∀ {State : Type} (attempt : ClientOptions → Attempt State ConnectionError Unit)
        (server : State),
        let early := ∃ k ≤ 32, Retry.outcomeAfter
          (attempt (ClientOptions.of target config.connection)) k server = .ok ()
        (BacksOff attempt c server ↔ again ≠ 4294967295 ∧ (again ≤ 32 ∨ early))
        ∧ ((openBy attempt c server).outcome = .overflow ↔ ¬BacksOff attempt c server)
        ∧ (0 < attemptsMade attempt c server ↔ again ≠ 4294967295)
        ∧ (openBy attempt c server).waits.IsChain (· < ·))
    ∧ ((∀ (State : Type) (attempt : ClientOptions → Attempt State ConnectionError Unit)
        (server : State), BacksOff attempt c server) ↔ again ≤ 32) := by
  intro c again
  have htarget : ConnectionString.parse c.uri = .ok target := htarget
  have hsound {State : Type} (attempt : ClientOptions → Attempt State ConnectionError Unit)
      (server : State) : BacksOff attempt c server ↔ again ≠ 4294967295 ∧ (again ≤ 32
        ∨ ∃ k ≤ 32, Retry.outcomeAfter (attempt (ClientOptions.of target config.connection)) k
          server = .ok ()) :=
    (backsOff_iff_inRange htarget).trans (inRange_iff htarget)
  refine ⟨config.validate_withRetries, fun attempt server => ⟨hsound attempt server, ?_,
    attemptsMade_pos_iff htarget, isChain_waits htarget⟩, fun hall => ?_,
    fun hle State attempt server => ?_⟩
  · rw [backsOff_iff_inRange htarget]
    exact openBy_overflow_iff htarget
  · -- Attempts that fail at all times show that there must not be more retries.
    obtain ⟨-, hle | ⟨k, -, hok⟩⟩ :=
      (hsound (fun _ s => (s, .error .notConnected)) ()).1 (hall Unit _ ())
    · exact hle
    · cases hok
  · refine (hsound attempt server).2 ⟨fun hmax => ?_, .inl hle⟩
    rw [hmax] at hle
    revert hle
    decide

/-- Forty retries, of which a server needs two. -/
theorem validate_backsOff_iff_early :
    let config := ({} : Config).withRetries 40
    let server : ScriptedServer := { pings := [[("ok", .int32 0)], [("ok", .int32 0)]] }
    (∃ target, ConnectionString.parse "mongodb://localhost" = .ok target)
      ∧ BacksOff (Client.attempt ScriptedServer.answer) (of "mongodb://localhost" config.connection)
          server := by
  intro config server
  let target : ConnectionString := { hosts := [.host "localhost" none] }
  have htarget : ConnectionString.parse "mongodb://localhost" = .ok target := by decide +kernel
  have hthird : Retry.outcomeAfter (Client.attempt ScriptedServer.answer
      (ClientOptions.of target config.connection)) 2 server = .ok () := by decide +kernel
  refine ⟨⟨target, htarget⟩, ?_⟩
  exact ((validate_backsOff_iff config htarget).2.1 _ server).1.2
    ⟨by decide, .inr ⟨2, by decide, hthird⟩⟩

/-- The largest number of retries is accepted, and the program is stopped before an attempt is
made to open a connection to a server that would answer.  With 33 retries that all fail, it is
stopped behind the last wait but one. -/
theorem not_backsOff_max :
    let files : Files := fun path =>
      if path = "c.toml" then .ok "[connection]\nretry_attempts = 4294967295\n"
      else .error .notFound
    let host : Host := { home := "", files := files, input := .ok "", freshId := .ofNat }
    let arguments := ["--uri", "mongodb://localhost", "-e", "db.a.find()", "-c", "c.toml"]
    let config := ({} : Config).withRetries 4294967295
    let c := of "mongodb://localhost" config.connection
    let failing : ClientOptions → Attempt Unit ConnectionError Unit :=
      fun _ s => (s, .error .notConnected)
    let more := ({} : Config).withRetries 33
    let c' := of "mongodb://localhost" more.connection
    (config.validate = .ok ()
        ∧ ConnectionString.parse c.uri = .ok { hosts := [.host "localhost" none] }
        ∧ attemptsMade (Client.attempt ScriptedServer.answer) c {} = 0
        ∧ (connect ScriptedServer.answer c {}).outcome = .overflow
        ∧ (Program.run host ScriptedServer.answer arguments {}).2.ending.status = 101
        ∧ ¬BacksOff (Client.attempt ScriptedServer.answer) c {})
      ∧ more.validate = .ok ()
      ∧ (openBy failing c' ()).outcome = .overflow
      ∧ ¬BacksOff failing c' () := by
  intro files host arguments config c failing more c'
  have hvalid (again : UInt32) : (({} : Config).withRetries again).validate = .ok () := by
    rw [Config.validate_withRetries]
    exact Config.validate_eq_ok_iff.2 Config.valid_default
  have htarget : ConnectionString.parse "mongodb://localhost"
      = .ok { hosts := [.host "localhost" none] } := by decide +kernel
  obtain ⟨hmade, -, houtcome⟩ :=
    openBy_of_max (c := c) (Client.attempt ScriptedServer.answer) {} htarget rfl
  have hstatus : (Program.run host ScriptedServer.answer arguments {}).2.ending.status = 101 := by
    decide +kernel
  have hmore : ¬InRange failing c' () := by
    intro h
    obtain ⟨-, hle | ⟨k, -, hok⟩⟩ := (inRange_iff (c := c') htarget).1 h
    · revert hle
      decide
    · cases hok
  refine ⟨⟨hvalid _, htarget, hmade, houtcome, hstatus, fun h => ?_⟩, hvalid _,
    (openBy_overflow_iff (c := c') htarget).2 hmore, fun h => hmore h.toInRange⟩
  have hpos := h.made
  rw [hmade] at hpos
  cases hpos

end Connection

end ShellQuery

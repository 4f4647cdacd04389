import ShellQuery.Proofs.Connection.Backoff

/-!
# The state and the client of a connection

A connection has a state, which tells whether it is open, and a client, through which
statements are sent.  The two agree if there is a client just when the connection is open.

Opening a connection, closing it and choosing a database keep the two in agreement, but for
one case: if an open connection is opened again and that does not succeed, it is not open any
more but it has its client still (`agrees_perform_iff`).  So over a sequence of calls they agree
throughout exactly if this case does not come up (`calls_agree_iff`).  In any case an open
connection has a client.

The state tells how a call has come out, unless opening a connection is stopped by a number
that is no word.  Then the connection is left as being opened.
-/

namespace ShellQuery

namespace Connection

/-! ## Calls -/

/-- What is done with a connection. -/
inductive Call (State : Type) where
  /-- It is opened, with a way to make a client and a server for it. -/
  | connect (attempt : ClientOptions → Attempt State ConnectionError Unit) (server : State)
  /-- It is closed. -/
  | disconnect
  /-- It is given another database. -/
  | setDatabase (name : String)

variable {State : Type}

/-- A connection behind a call. -/
def perform (c : Connection) : Call State → Connection
  | .connect attempt server => (openBy attempt c server).connection
  | .disconnect => c.close
  | .setDatabase name => c.setDatabase name

/-- A connection behind each of some calls. -/
def trace (c : Connection) : List (Call State) → List Connection
  | [] => []
  | call :: rest => c.perform call :: (c.perform call).trace rest

/-- The state that a call leaves a connection in. -/
def stateBehind (c : Connection) : Call State → ConnectionState
  | .connect attempt server =>
      match (openBy attempt c server).outcome with
      | .ok () => .connected
      | .error e => .failed (QueryError.connection e).message
      | .overflow => .connecting
  | .disconnect => .disconnected
  | .setDatabase _ => c.state

/-- There are a client and a database exactly if the connection is open. -/
structure Agrees (c : Connection) : Prop where
  client : (∃ o, c.getClient = .ok o) ↔ c.isConnected = true
  database : (∃ name, c.defaultDatabase = .ok name) ↔ c.isConnected = true

/-- A call opens a connection that is open, and that does not succeed. -/
def Breaks (c : Connection) : Call State → Prop
  | .connect attempt server => c.isConnected = true ∧ (openBy attempt c server).outcome ≠ .ok ()
  | .disconnect | .setDatabase _ => False

/-- Whenever a call opens a connection that is open, that succeeds. -/
inductive Smooth : Connection → List (Call State) → Prop
  | nil {c : Connection} : Smooth c []
  | cons {c : Connection} {call : Call State} {rest : List (Call State)}
      (hcall : ¬ c.Breaks call) (hrest : Smooth (c.perform call) rest) : Smooth c (call :: rest)

/-! ## Opening -/

/-- What opening a connection can come to.  It makes a client, or it changes the state and leaves
the client as it is. -/
inductive Opened (c : Connection) (o : Opening State) : Prop where
  /-- The connection is open. -/
  | opened (outcome : o.outcome = .ok ()) (state : o.connection.state = .connected)
      (client : o.connection.client.isSome = true)
  /-- It failed to open. -/
  | failed (e : ConnectionError) (outcome : o.outcome = .error e)
      (state : o.connection.state = .failed (QueryError.connection e).message)
      (client : o.connection.client = c.client)
  /-- It was stopped while it was being opened. -/
  | stopped (outcome : o.outcome = .overflow) (state : o.connection.state = .connecting)
      (client : o.connection.client = c.client)

theorem openBy_cases (attempt : ClientOptions → Attempt State ConnectionError Unit)
    (c : Connection) (server : State) : Opened c (openBy attempt c server) := by
  cases htarget : ConnectionString.parse c.uri with
  | error e =>
    rw [openBy, htarget]
    exact .failed (.invalidUri e.text) rfl rfl rfl
  | ok target =>
    rw [openBy_of_target htarget, openTo]
    cases (Retry.attempts (attempt (ClientOptions.of target c.config)) c.config.retryAttempts
      server).outcome with
    | ok u => exact .opened rfl rfl rfl
    | error last => exact .failed (exhausted last) rfl rfl rfl
    | overflow => exact .stopped rfl rfl rfl

/-- Opening a connection is stopped exactly if its connection string can be read and its
arithmetic is not in range. -/
theorem openBy_stopped_iff {attempt : ClientOptions → Attempt State ConnectionError Unit}
    {c : Connection} {server : State} :
    (openBy attempt c server).outcome = .overflow
      ↔ (∃ target, ConnectionString.parse c.uri = .ok target) ∧ ¬InRange attempt c server := by
  cases htarget : ConnectionString.parse c.uri with
  | error e =>
    rw [openBy, htarget]
    constructor
    · intro h
      cases h
    · rintro ⟨⟨target, h⟩, -⟩
      cases h
  | ok target =>
    rw [openBy_overflow_iff htarget]
    exact (and_iff_right ⟨target, rfl⟩).symm

theorem state_perform (c : Connection) (call : Call State) :
    (c.perform call).state = c.stateBehind call := by
  cases call with
  | connect attempt server =>
    rw [perform, stateBehind]
    cases openBy_cases attempt c server with
    | opened houtcome hstate => rw [hstate, houtcome]
    | failed e houtcome hstate => rw [hstate, houtcome]
    | stopped houtcome hstate => rw [hstate, houtcome]
  | disconnect => rfl
  | setDatabase name => rfl

/-! ## One call -/

theorem isConnected_iff {c : Connection} : c.isConnected = true ↔ c.state = .connected :=
  beq_iff_eq

theorem exists_getClient_iff {c : Connection} :
    (∃ o, c.getClient = .ok o) ↔ c.client.isSome = true := by
  rw [getClient]
  cases c.client with
  | none => simp
  | some o => simp

theorem exists_defaultDatabase_iff {c : Connection} :
    (∃ name, c.defaultDatabase = .ok name) ↔ ∃ o, c.getClient = .ok o := by
  rw [defaultDatabase]
  cases c.getClient with
  | error e => simp [Except.map]
  | ok o => simp [Except.map]

theorem agrees_iff {c : Connection} :
    c.Agrees ↔ (c.client.isSome = true ↔ c.state = .connected) := by
  constructor
  · intro h
    rw [← exists_getClient_iff, h.client, isConnected_iff]
  · intro h
    rw [← exists_getClient_iff, ← isConnected_iff] at h
    exact ⟨h, exists_defaultDatabase_iff.trans h⟩

/-- An open connection has a client. -/
def Served (c : Connection) : Prop := c.state = .connected → c.client.isSome = true

theorem served_perform {c : Connection} (h : c.Served) (call : Call State) :
    (c.perform call).Served := by
  cases call with
  | connect attempt server =>
    intro hopen
    rw [perform] at hopen
    cases openBy_cases attempt c server with
    | opened houtcome hstate hclient => exact hclient
    | failed e houtcome hstate =>
      rw [hstate] at hopen
      cases hopen
    | stopped houtcome hstate =>
      rw [hstate] at hopen
      cases hopen
  | disconnect =>
    intro hopen
    cases hopen
  | setDatabase name => exact h

/-- A call keeps the state and the client in agreement unless it opens an open connection and that
does not succeed. -/
theorem agrees_perform_iff {c : Connection} (h : c.Agrees) (call : Call State) :
    (c.perform call).Agrees ↔ ¬ c.Breaks call := by
  rw [agrees_iff] at h ⊢
  cases call with
  | connect attempt server =>
    rw [perform, Breaks, isConnected_iff, ← h]
    cases openBy_cases attempt c server with
    | opened houtcome hstate hclient => simp [houtcome, hstate, hclient]
    | failed e houtcome hstate hclient => simp [houtcome, hstate, hclient]
    | stopped houtcome hstate hclient => simp [houtcome, hstate, hclient]
  | disconnect => simp [perform, close, Breaks]
  | setDatabase name => simpa [perform, setDatabase, Breaks] using h

/-! ## A sequence of calls -/

theorem served_trace {c : Connection} (h : c.Served) (calls : List (Call State)) :
    ∀ c' ∈ c.trace calls, c'.Served := by
  induction calls generalizing c with
  | nil =>
    intro c' hc'
    cases hc'
  | cons call rest ih =>
    rw [trace, List.forall_mem_cons]
    exact ⟨served_perform h call, ih (served_perform h call)⟩

theorem agrees_trace_iff {c : Connection} (h : c.Agrees) (calls : List (Call State)) :
    (∀ c' ∈ c.trace calls, c'.Agrees) ↔ c.Smooth calls := by
  induction calls generalizing c with
  | nil =>
    refine iff_of_true ?_ .nil
    intro c' hc'
    cases hc'
  | cons call rest ih =>
    rw [trace, List.forall_mem_cons]
    constructor
    · rintro ⟨hcall, hrest⟩
      exact .cons ((agrees_perform_iff h call).1 hcall) ((ih hcall).1 hrest)
    · intro hsmooth
      cases hsmooth with
      | cons hcall hrest =>
        have hagrees := (agrees_perform_iff h call).2 hcall
        exact ⟨hagrees, (ih hagrees).2 hrest⟩

theorem agrees_of (uri : String) (config : ConnectionConfig) : (of uri config).Agrees :=
  agrees_iff.2 (by simp [of])

/-- What calls do to a connection.  Its state is what the last call makes of it: it tells whether
opening it has succeeded, or why it has failed, unless its arithmetic is not in range and it is
stopped.  It has a client whenever it is open.  It has one only then, throughout, exactly if
opening it while it is open succeeds. -/
theorem calls_agree_iff (uri : String) (config : ConnectionConfig) (calls : List (Call State)) :
    (∀ (c : Connection) (call : Call State), (c.perform call).state = c.stateBehind call)
    ∧ (∀ (attempt : ClientOptions → Attempt State ConnectionError Unit) (c : Connection)
        (server : State), (openBy attempt c server).outcome = .overflow
          ↔ (∃ target, ConnectionString.parse c.uri = .ok target) ∧ ¬InRange attempt c server)
    ∧ (∀ c ∈ (of uri config).trace calls, c.isConnected = true → ∃ o, c.getClient = .ok o)
    ∧ ((∀ c ∈ (of uri config).trace calls, c.Agrees) ↔ (of uri config).Smooth calls) := by
  refine ⟨state_perform, fun attempt c server => openBy_stopped_iff, fun c hc hopen => ?_,
    agrees_trace_iff (agrees_of uri config) calls⟩
  have hserved : (of uri config).Served := fun h => by cases h
  exact exists_getClient_iff.2 (served_trace hserved calls c hc (isConnected_iff.1 hopen))

/-- With the largest number of retries, opening a connection leaves it neither open nor failed,
and the program is stopped, although the server would answer.  With none, an open connection is
opened again, and the server refuses the ping.  The connection is not open any more, but it has
its client still. -/
theorem not_agrees_reopened :
    let files : Files := fun path =>
      if path = "c.toml" then .ok "[connection]\nretry_attempts = 4294967295\n"
      else .error .notFound
    let host : Host := { home := "", files := files, input := .ok "", freshId := .ofNat }
    let arguments := ["--uri", "mongodb://localhost", "-e", "db.a.count()", "-c", "c.toml"]
    let up : Call ScriptedServer := .connect (Client.attempt ScriptedServer.answer) {}
    let down : Call ScriptedServer :=
      .connect (Client.attempt ScriptedServer.answer) { pings := [[("ok", .int32 0)]] }
    let c := (of "mongodb://localhost" { retryAttempts := 0 }).perform up
    (((of "mongodb://localhost" { retryAttempts := 4294967295 }).perform up).state = .connecting
        ∧ (Program.run host ScriptedServer.answer arguments {}).2.ending.status = 101)
      ∧ c.Agrees ∧ (c.perform down).isConnected = false
      ∧ (∃ o, (c.perform down).getClient = .ok o) ∧ ¬ (c.perform down).Agrees := by
  intro files host arguments up down c
  have hstopped : ((of "mongodb://localhost" { retryAttempts := 4294967295 }).perform up).state
        = .connecting
      ∧ (Program.run host ScriptedServer.answer arguments {}).2.ending.status = 101 := by
    decide +kernel
  have hc : c.client.isSome = true ∧ c.state = .connected := by decide +kernel
  have hagain : (c.perform down).client.isSome = true ∧ (c.perform down).isConnected = false := by
    decide +kernel
  have hclient := exists_getClient_iff.2 hagain.1
  refine ⟨hstopped, agrees_iff.2 (iff_of_true hc.1 hc.2), hagain.2, hclient, fun h => ?_⟩
  rw [h.client, hagain.2] at hclient
  cases hclient

end Connection

end ShellQuery

import ShellQuery.Execution.Perform
import ShellQuery.Proofs.Operation.Chain

/-!
# Finds that become counts

A find with `count`, `size` or `itcount` in its chain is compared with the calls that it
stands for.  These methods write no option and are never rejected behind a find, so they
may be dropped from the chain (`applyCalls_plain`).  What is left of them is the kind and
the count mode, and the last one decides about both.

A count by the client is judged as the find is, and its execution is the find with the
documents counted at the end (`countOf_ofServer`).  A count by the server is judged as
`countDocuments` is, and its execution does not look at what differs.
-/

namespace ShellQuery

open Mapping

/-! ## Calls that count -/

/-- A call of a method that turns a find into a count. -/
def CursorCall.Counts (call : CursorCall) : Prop :=
  call.method = "count" ∨ call.method = "size" ∨ call.method = "itcount"

instance (call : CursorCall) : Decidable call.Counts :=
  inferInstanceAs (Decidable (_ ∨ _ ∨ _))

/-- The calls of a chain that do not count. -/
def plainCalls (chain : List CursorCall) : List CursorCall := chain.filter fun c => ¬c.Counts

namespace Mapping

theorem countModeOf?_count {call : CursorCall} (h : call.method = "count") :
    countModeOf? call = some .server := by
  rw [countModeOf?, h]
  rfl

theorem countModeOf?_size {call : CursorCall}
    (h : call.method = "size" ∨ call.method = "itcount") : countModeOf? call = some .client := by
  rw [countModeOf?]
  rcases h with h | h <;> rw [h] <;> rfl

theorem exists_countModeOf? {call : CursorCall} (h : call.Counts) :
    ∃ mode, countModeOf? call = some mode := by
  rcases h with h | h
  · exact ⟨_, countModeOf?_count h⟩
  · exact ⟨_, countModeOf?_size h⟩

/-- A method that does not count is none of the three. -/
theorem isCounting_eq_false {call : CursorCall} (h : ¬call.Counts) {m : CursorMethod}
    (hm : CursorMethod.ofName? call.method = some m) : m.isCounting = false := by
  have hn := CursorMethod.name_of_ofName? hm
  cases m
  case count => exact absurd (Or.inl hn.symm) h
  case size => exact absurd (Or.inr (Or.inl hn.symm)) h
  case itcount => exact absurd (Or.inr (Or.inr hn.symm)) h
  all_goals rfl

theorem countModeOf?_eq_none {call : CursorCall} (h : ¬call.Counts) : countModeOf? call = none := by
  rw [countModeOf?]
  cases hm : CursorMethod.ofName? call.method with
  | none => rfl
  | some m =>
    have hc := isCounting_eq_false h hm
    cases m
    case count | size | itcount => cases hc
    all_goals rfl

theorem applyCalls_cons_counts {call : CursorCall} (h : call.Counts) (other : OperationKind)
    (o : QueryOptions) (rest : List CursorCall) :
    applyCalls ⟨.find, other⟩ o (call :: rest) = applyCalls ⟨.find, other⟩ o rest := by
  obtain ⟨mode, hmode⟩ := exists_countModeOf? h
  rw [applyCalls, applyCall, readEffect_counts hmode]
  rfl

/-- Behind a find, the calls that count may be dropped from the chain. -/
theorem applyCalls_plain (other : OperationKind) (o : QueryOptions) (chain : List CursorCall) :
    applyCalls ⟨.find, other⟩ o chain = applyCalls ⟨.find, other⟩ o (plainCalls chain) := by
  induction chain generalizing o with
  | nil => rfl
  | cons call rest ih =>
    by_cases hc : call.Counts
    · rw [applyCalls_cons_counts hc, ih, plainCalls, plainCalls,
        List.filter_cons_of_neg (by simpa using hc)]
    · have hp : plainCalls (call :: rest) = call :: plainCalls rest :=
        List.filter_cons_of_pos (by simpa using hc)
      rw [hp]
      simp only [applyCalls, ih]

/-- The kind of the base call judges none of the other calls. -/
theorem readEffect_plain {call : CursorCall} (h : ¬call.Counts) (base base' other : OperationKind) :
    readEffect ⟨base, other⟩ call = readEffect ⟨base', other⟩ call := by
  rw [readEffect, readEffect]
  cases hm : CursorMethod.ofName? call.method with
  | none => rfl
  | some m => simp only [Judging.kindFor, isCounting_eq_false h hm, Bool.false_eq_true, if_false]

theorem applyCalls_base {chain : List CursorCall} (h : ∀ c ∈ chain, ¬c.Counts)
    (base base' other : OperationKind) (o : QueryOptions) :
    applyCalls ⟨base, other⟩ o chain = applyCalls ⟨base', other⟩ o chain := by
  induction chain generalizing o with
  | nil => rfl
  | cons call rest ih =>
    obtain ⟨hc, hrest⟩ := List.forall_mem_cons.1 h
    have hcall : applyCall ⟨base, other⟩ o call = applyCall ⟨base', other⟩ o call := by
      rw [applyCall, applyCall, readEffect_plain hc base base' other]
    simp only [applyCalls, hcall, ih hrest]

theorem plainCalls_eq_self {chain : List CursorCall} (h : ∀ c ∈ chain, ¬c.Counts) :
    plainCalls chain = chain :=
  List.filter_eq_self.2 fun c hc => by simpa using h c hc

theorem plainCalls_insert {call : CursorCall} (h : call.Counts) (before after : List CursorCall) :
    plainCalls (before ++ call :: after) = plainCalls (before ++ after) := by
  rw [plainCalls, plainCalls, List.filter_append, List.filter_cons_of_neg (by simpa using h),
    List.filter_append]

/-! ## Reclassification -/

theorem filterMap_countModeOf?_plain {chain : List CursorCall} (h : ∀ c ∈ chain, ¬c.Counts) :
    chain.filterMap countModeOf? = [] :=
  List.filterMap_eq_nil_iff.2 fun c hc => countModeOf?_eq_none (h c hc)

theorem reclassify_plain {chain : List CursorCall} (h : ∀ c ∈ chain, ¬c.Counts)
    (base : OperationKind) : reclassify base chain = (base, none) := by
  rw [reclassify, filterMap_countModeOf?_plain h]
  split <;> rfl

/-- The last call that counts decides. -/
theorem reclassify_last {call : CursorCall} {mode : CountMode} (hm : countModeOf? call = some mode)
    (before : List CursorCall) {after : List CursorCall} (h : ∀ c ∈ after, ¬c.Counts) :
    reclassify .find (before ++ call :: after) = (.count, some mode) := by
  rw [reclassify, if_pos rfl, List.filterMap_append, List.filterMap_cons, hm,
    filterMap_countModeOf?_plain h, List.getLast?_concat]

theorem counts_of_countModeOf? {call : CursorCall} {mode : CountMode}
    (h : countModeOf? call = some mode) : call.Counts := by
  by_cases hc : call.Counts
  · exact hc
  · rw [countModeOf?_eq_none hc] at h
    cases h

/-! ## Descriptors -/

/-- The descriptor of a find whose chain counts.  The last call that counts decides about
the count mode, and else only the plain calls matter. -/
theorem ofCalls_counting (collection text : String) (args : List Json) {c : CursorCall}
    {mode : CountMode} (hmode : countModeOf? c = some mode) (before : List CursorCall)
    {after : List CursorCall} (hafter : ∀ c ∈ after, ¬c.Counts) :
    let result := applyCalls (judging .find .count (some mode))
      (initialOptions .find "find" args (some mode)) (plainCalls (before ++ after))
    Descriptor.ofCalls ⟨collection, "find", text⟩ (before ++ c :: after) args = .ok
      ({ collection := collection
         kind := .count
         data := shapeData args .find
         options := result.1
         calls := before ++ c :: after }, result.2) := by
  have hc := counts_of_countModeOf? hmode
  have hb : OperationKind.ofOperation? "find" = some .find := rfl
  simp only [Descriptor.ofCalls, hb, reclassify_last hmode before hafter, judging,
    applyCalls_plain _ _ (before ++ c :: after), plainCalls_insert hc]

/-- The descriptor of a read whose chain does not count. -/
theorem ofCalls_plain {call : BaseCall} {base : OperationKind}
    (hbase : OperationKind.ofOperation? call.operation = some base) {chain : List CursorCall}
    (hchain : ∀ c ∈ chain, ¬c.Counts) (args : List Json) :
    let result := applyCalls ⟨base, base⟩ (initialOptions base call.operation args none) chain
    Descriptor.ofCalls call chain args = .ok
      ({ collection := call.collection
         kind := base
         data := shapeData args base
         options := result.1
         calls := chain }, result.2) := by
  rw [Descriptor.ofCalls, hbase]
  simp only [reclassify_plain hchain]
  rfl

/-- A count by the client has the options of the find, but for the count mode. -/
theorem applyCalls_client (args : List Json) (chain : List CursorCall) :
    applyCalls (judging .find .count (some .client))
        (initialOptions .find "find" args (some .client)) chain
      = ({ (applyCalls ⟨.find, .find⟩ (initialOptions .find "find" args none) chain).1 with
            countMode := some .client },
          (applyCalls ⟨.find, .find⟩ (initialOptions .find "find" args none) chain).2) := by
  rw [applyCalls_eq, applyCalls_eq]
  rfl

/-- A count by the server has the options of `countDocuments`, but for the count mode and the
projection. -/
theorem applyCalls_server (args : List Json) {chain : List CursorCall}
    (h : ∀ c ∈ chain, ¬c.Counts) :
    applyCalls (judging .find .count (some .server))
        (initialOptions .find "find" args (some .server)) chain
      = ({ (applyCalls ⟨.count, .count⟩
              (initialOptions .count "countDocuments" args none) chain).1 with
            countMode := some .server
            projection := projectionOf? args .find },
          (applyCalls ⟨.count, .count⟩
            (initialOptions .count "countDocuments" args none) chain).2) := by
  rw [← applyCalls_base h .find .count .count, applyCalls_eq, applyCalls_eq]
  rfl

end Mapping

/-- The descriptor of a find, as a count by the client. -/
def Descriptor.byClient (d : Descriptor) (calls : List CursorCall) : Descriptor :=
  { d with kind := .count, options := { d.options with countMode := some .client }, calls := calls }

/-- The descriptor of a count, as one that a find becomes. -/
def Descriptor.byServer (d : Descriptor) (projection : Option Json) (calls : List CursorCall) :
    Descriptor :=
  { d with
    options := { d.options with countMode := some .server, projection := projection }
    calls := calls }

theorem ofCalls_client (collection text : String) (args : List Json)
    {before after : List CursorCall} (hplain : ∀ c ∈ before ++ after, ¬c.Counts) {c : CursorCall}
    (hc : c.method = "size" ∨ c.method = "itcount") :
    ∃ d warnings, Descriptor.ofCalls ⟨collection, "find", text⟩ (before ++ after) args
        = .ok (d, warnings)
      ∧ d.kind = .find
      ∧ Descriptor.ofCalls ⟨collection, "find", text⟩ (before ++ c :: after) args
        = .ok (d.byClient (before ++ c :: after), warnings) := by
  have hbase : OperationKind.ofOperation? (BaseCall.mk collection "find" text).operation
      = some .find := rfl
  have hafter : ∀ c ∈ after, ¬c.Counts := fun c h => hplain c (List.mem_append_right before h)
  refine ⟨_, _, ofCalls_plain hbase hplain args, rfl, ?_⟩
  have hcount := ofCalls_counting collection text args (countModeOf?_size hc) before hafter
  rw [plainCalls_eq_self hplain, applyCalls_client] at hcount
  exact hcount

theorem ofCalls_server (collection text : String) (args : List Json)
    {before after : List CursorCall} (hplain : ∀ c ∈ before ++ after, ¬c.Counts) {c : CursorCall}
    (hc : c.method = "count") :
    ∃ d warnings, Descriptor.ofCalls ⟨collection, "countDocuments", text⟩ (before ++ after) args
        = .ok (d, warnings)
      ∧ d.kind = .count ∧ d.isClientCount = false
      ∧ Descriptor.ofCalls ⟨collection, "find", text⟩ (before ++ c :: after) args
        = .ok (d.byServer (projectionOf? args .find) (before ++ c :: after), warnings) := by
  have hbase : OperationKind.ofOperation? (BaseCall.mk collection "countDocuments" text).operation
      = some .count := rfl
  have hafter : ∀ c ∈ after, ¬c.Counts := fun c h => hplain c (List.mem_append_right before h)
  refine ⟨_, _, ofCalls_plain hbase hplain args, rfl, ?_, ?_⟩
  · rw [applyCalls_eq]
    rfl
  · have hcount := ofCalls_counting collection text args (countModeOf?_count hc) before hafter
    rw [plainCalls_eq_self hplain, applyCalls_server args hplain] at hcount
    exact hcount

/-- Of several calls that count, those before the last one are of no account. -/
theorem ofCalls_last (collection text : String) (args : List Json) (earlier : List CursorCall)
    {after : List CursorCall} (hafter : ∀ c ∈ after, ¬c.Counts) {c : CursorCall} (hc : c.Counts) :
    ∃ d warnings,
      Descriptor.ofCalls ⟨collection, "find", text⟩ (plainCalls earlier ++ c :: after) args
        = .ok (d, warnings)
      ∧ Descriptor.ofCalls ⟨collection, "find", text⟩ (earlier ++ c :: after) args
        = .ok ({ d with calls := earlier ++ c :: after }, warnings) := by
  obtain ⟨mode, hmode⟩ := exists_countModeOf? hc
  have hp : plainCalls (plainCalls earlier ++ after) = plainCalls (earlier ++ after) := by
    simp [plainCalls, List.filter_append]
  have hfew := ofCalls_counting collection text args hmode (plainCalls earlier) hafter
  rw [hp] at hfew
  exact ⟨_, _, hfew, ofCalls_counting collection text args hmode earlier hafter⟩

/-! ## Executions -/

variable {State : Type}

/-- What a count makes of what a find comes to: the number of its documents, in the same
state of the server, or the same error. -/
inductive CountOf : State × Except QueryError ExecutionResult →
    State × Except QueryError ExecutionResult → Prop
  /-- The documents are counted. -/
  | counted (state : State) (docs : List Document) (mode : Option ProcessingMode) :
      CountOf
        (state, .ok { data := .documents docs, stats := { returned := docs.length },
                      processingMode := mode })
        (state, .ok { data := .counted docs.length, processingMode := mode })
  /-- There is nothing to count. -/
  | failed (state : State) (e : QueryError) : CountOf (state, .error e) (state, .error e)

namespace Exchange

theorem countBatch_eq (counted : Nat) (docs : List Document) :
    countBatch counted docs = counted + docs.length := by
  induction docs generalizing counted with
  | nil => rfl
  | cons doc rest ih => rw [countBatch, ih, List.length_cons, Nat.add_right_comm, Nat.add_assoc]

/-- Moving past the rest of a cursor sends what reading it sends, and comes to the number of its
documents. -/
theorem countRest_eq (server : Server State) (batchSize : Option Nat) (patience counted : Nat)
    (batch : Reply.Batch) :
    countRest server batchSize patience counted batch = (do
      let docs ← restOfCursor server batchSize patience batch
      pure (counted + docs.length)) := by
  -- The induction is on the replies that are left to wait for.
  induction patience generalizing counted batch with
  | zero =>
    rw [countRest, restOfCursor, countBatch_eq]
    split
    · rw [pure_bind]
    · rfl
  | succ patience ih =>
    rw [countRest, restOfCursor, countBatch_eq]
    split
    · rw [pure_bind]
    · simp only [ih, bind_assoc, pure_bind, List.length_append, Nat.add_assoc]

end Exchange

namespace Perform

/-- The documents that a find reads. -/
def cursor (set : RunSettings) (server : Server State) (ns : Namespace) (d : Descriptor) :
    Exchange State (List Document) := do
  let filter ← Exchange.ofExecution (Bson.documentOfJson set.now d.data)
  let o ← Exchange.ofExecution (FindOptions.ofQuery set.now d.options)
  findDocuments set server ns filter o

theorem find_eq_cursor (set : RunSettings) (server : Server State) (ns : Namespace)
    (d : Descriptor) :
    find set server ns d = (do
      let docs ← cursor set server ns d
      pure (result (.documents docs) docs.length)) := by
  simp only [find, cursor, bind_assoc]

/-- The loop of a count comes to the number of the documents that a find reads. -/
theorem countFound_eq (set : RunSettings) (server : Server State) (ns : Namespace)
    (filter : Document) (o : FindOptions) :
    countFound set server ns filter o = (do
      let docs ← findDocuments set server ns filter o
      pure docs.length) := by
  simp only [countFound, findDocuments, Exchange.readCursor, bind_assoc, Exchange.countRest_eq,
    Nat.zero_add]

theorem count_eq_cursor (set : RunSettings) (server : Server State) (ns : Namespace)
    {d : Descriptor} (h : d.isClientCount = true) :
    count set server ns d = (do
      let docs ← cursor set server ns d
      pure (result (.counted docs.length))) := by
  simp only [count, h, if_true, cursor, countFound_eq, bind_assoc, pure_bind]

/-- A function behind an exchange changes the answer and not the state. -/
theorem run_bind_pure {α β : Type} (x : Exchange State α) (f : α → β) (state : State) :
    (do let a ← x; pure (f a) : Exchange State β).run state
      = ((x.run state).1.map f, (x.run state).2) := by
  rw [bind_pure_comp, ExceptT.run_map]
  rfl

/-- A descriptor on a database is performed on its collection. -/
theorem ofServer_some {set : RunSettings} {database : String} (h : set.database = some database)
    (server : Server State) (state : State) (d : Descriptor) :
    Executor.ofServer set server state d
      = (((onCollection set server ⟨database, d.collection⟩ d).run state).2,
          ((onCollection set server ⟨database, d.collection⟩ d).run state).1.map fun r =>
            { r with processingMode := d.options.processingMode }) := by
  simp only [Executor.ofServer, Perform.descriptor, h, run_bind_pure]

theorem ofServer_none {set : RunSettings} (h : set.database = none) (server : Server State)
    (state : State) (d : Descriptor) :
    Executor.ofServer set server state d = (state, .error (.connection .notConnected)) := by
  simp only [Executor.ofServer, Perform.descriptor, h]
  rfl

/-- A count by the client is the find with its documents counted. -/
theorem countOf_ofServer (set : RunSettings) (server : Server State) (state : State)
    {d : Descriptor} (hd : d.kind = .find) (calls : List CursorCall) :
    CountOf (Executor.ofServer set server state d)
      (Executor.ofServer set server state (d.byClient calls)) := by
  cases hdb : set.database with
  | none =>
    rw [ofServer_none hdb, ofServer_none hdb]
    exact .failed state _
  | some database =>
    have hfind : onCollection set server ⟨database, d.collection⟩ d
        = find set server ⟨database, d.collection⟩ d := by rw [onCollection, hd]
    have hcount : onCollection set server ⟨database, d.collection⟩ (d.byClient calls)
        = count set server ⟨database, d.collection⟩ (d.byClient calls) := rfl
    have hcursor : cursor set server ⟨database, d.collection⟩ (d.byClient calls)
        = cursor set server ⟨database, d.collection⟩ d := rfl
    rw [ofServer_some hdb, ofServer_some hdb, hfind, find_eq_cursor, run_bind_pure]
    rw [show (d.byClient calls).collection = d.collection from rfl, hcount,
      count_eq_cursor set server _ rfl, hcursor, run_bind_pure]
    cases ((cursor set server ⟨database, d.collection⟩ d).run state).1 with
    | error e => exact .failed _ e
    | ok docs => exact .counted _ docs _

theorem count_byServer (set : RunSettings) (server : Server State) (ns : Namespace)
    {d : Descriptor} (hmode : d.isClientCount = false) (projection : Option Json)
    (calls : List CursorCall) :
    count set server ns (d.byServer projection calls) = count set server ns d := by
  have hserver : (d.byServer projection calls).isClientCount = false := by
    simp [Descriptor.isClientCount, Descriptor.byServer]
  simp only [count, hserver, hmode]
  rfl

/-- A count by the server looks neither at the projection nor at the chain. -/
theorem ofServer_byServer (set : RunSettings) (server : Server State) (state : State)
    {d : Descriptor} (hkind : d.kind = .count) (hmode : d.isClientCount = false)
    (projection : Option Json) (calls : List CursorCall) :
    Executor.ofServer set server state (d.byServer projection calls)
      = Executor.ofServer set server state d := by
  cases hdb : set.database with
  | none => rw [ofServer_none hdb, ofServer_none hdb]
  | some database =>
    have hcount : ∀ d' : Descriptor, d'.kind = .count →
        onCollection set server ⟨database, d.collection⟩ d'
          = count set server ⟨database, d.collection⟩ d' := fun d' h => by rw [onCollection, h]
    rw [ofServer_some hdb, ofServer_some hdb,
      show (d.byServer projection calls).collection = d.collection from rfl,
      hcount (d.byServer projection calls) hkind, hcount d hkind, count_byServer _ _ _ hmode]
    rfl

end Perform

/-! ## Counts and the calls that they replace -/

/-- A find with a call that counts, anywhere in its chain, comes to what it stands for.
`size` and `itcount` give the descriptor and the warnings of the plain find, but for the
kind and the count mode.  So the requests are the same, and the number is that of the
documents of the find.  `count` gives the descriptor and the warnings of `countDocuments`,
but for the count mode and the projection.  So the requests and the answers are the same.
Of several calls that count, those before the last one are of no account. -/
theorem count_stands_for (collection text : String) (args : List Json)
    {before after : List CursorCall} (hplain : ∀ c ∈ before ++ after, ¬c.Counts) :
    (∀ c : CursorCall, c.method = "size" ∨ c.method = "itcount" →
      ∃ d warnings,
        Descriptor.ofCalls ⟨collection, "find", text⟩ (before ++ after) args = .ok (d, warnings)
        ∧ Descriptor.ofCalls ⟨collection, "find", text⟩ (before ++ c :: after) args
          = .ok (d.byClient (before ++ c :: after), warnings)
        ∧ (∀ now, FindOptions.ofQuery now (d.byClient (before ++ c :: after)).options
          = FindOptions.ofQuery now d.options)
        ∧ ∀ (State : Type) (set : RunSettings) (server : Server State) (state : State),
            CountOf (Executor.ofServer set server state d)
              (Executor.ofServer set server state (d.byClient (before ++ c :: after))))
    ∧ (∀ c : CursorCall, c.method = "count" →
      ∃ d warnings,
        Descriptor.ofCalls ⟨collection, "countDocuments", text⟩ (before ++ after) args
          = .ok (d, warnings)
        ∧ Descriptor.ofCalls ⟨collection, "find", text⟩ (before ++ c :: after) args
          = .ok (d.byServer (projectionOf? args .find) (before ++ c :: after), warnings)
        ∧ (∀ now, ReadOptions.ofQuery now
            (d.byServer (projectionOf? args .find) (before ++ c :: after)).options
          = ReadOptions.ofQuery now d.options)
        ∧ ∀ (State : Type) (set : RunSettings) (server : Server State) (state : State),
            Executor.ofServer set server state
              (d.byServer (projectionOf? args .find) (before ++ c :: after))
            = Executor.ofServer set server state d)
    ∧ ∀ (earlier : List CursorCall) (c : CursorCall), c.Counts →
      ∃ d warnings,
        Descriptor.ofCalls ⟨collection, "find", text⟩ (plainCalls earlier ++ c :: after) args
          = .ok (d, warnings)
        ∧ Descriptor.ofCalls ⟨collection, "find", text⟩ (earlier ++ c :: after) args
          = .ok ({ d with calls := earlier ++ c :: after }, warnings) := by
  refine ⟨fun c hc => ?_, fun c hc => ?_, fun earlier c hc => ?_⟩
  · obtain ⟨d, warnings, hfind, hkind, hcount⟩ := ofCalls_client collection text args hplain hc
    exact ⟨d, warnings, hfind, hcount, fun _ => rfl,
      fun _ set server state => Perform.countOf_ofServer set server state hkind _⟩
  · obtain ⟨d, warnings, hread, hkind, hmode, hcount⟩ :=
      ofCalls_server collection text args hplain hc
    exact ⟨d, warnings, hread, hcount, fun _ => rfl,
      fun _ set server state => Perform.ofServer_byServer set server state hkind hmode _ _⟩
  · have hafter : ∀ c ∈ after, ¬c.Counts := fun c h => hplain c (List.mem_append_right before h)
    exact ofCalls_last collection text args earlier hafter hc

/-- `size` and `count` between a limit and a skip, and a `count` before a `size`. -/
theorem count_stands_for_limit :
    (∀ c ∈ ([⟨"limit", "2"⟩] ++ [⟨"skip", "1"⟩] : List CursorCall), ¬c.Counts)
    ∧ (∃ d warnings,
      Descriptor.ofCalls ⟨"c", "find", ""⟩ [⟨"limit", "2"⟩, ⟨"skip", "1"⟩] [] = .ok (d, warnings)
      ∧ Descriptor.ofCalls ⟨"c", "find", ""⟩ [⟨"limit", "2"⟩, ⟨"size", ""⟩, ⟨"skip", "1"⟩] []
        = .ok (d.byClient [⟨"limit", "2"⟩, ⟨"size", ""⟩, ⟨"skip", "1"⟩], warnings))
    ∧ (∃ d warnings,
      Descriptor.ofCalls ⟨"c", "countDocuments", ""⟩ [⟨"limit", "2"⟩, ⟨"skip", "1"⟩] []
        = .ok (d, warnings)
      ∧ Descriptor.ofCalls ⟨"c", "find", ""⟩ [⟨"limit", "2"⟩, ⟨"count", ""⟩, ⟨"skip", "1"⟩] []
        = .ok (d.byServer none [⟨"limit", "2"⟩, ⟨"count", ""⟩, ⟨"skip", "1"⟩], warnings))
    ∧ ∃ d warnings,
      Descriptor.ofCalls ⟨"c", "find", ""⟩ [⟨"size", ""⟩, ⟨"skip", "1"⟩] [] = .ok (d, warnings)
      ∧ Descriptor.ofCalls ⟨"c", "find", ""⟩ [⟨"count", ""⟩, ⟨"size", ""⟩, ⟨"skip", "1"⟩] []
        = .ok ({ d with calls := [⟨"count", ""⟩, ⟨"size", ""⟩, ⟨"skip", "1"⟩] }, warnings) := by
  have hplain : ∀ c ∈ ([⟨"limit", "2"⟩] ++ [⟨"skip", "1"⟩] : List CursorCall), ¬c.Counts := by
    decide
  obtain ⟨hclient, hserver, hlast⟩ := count_stands_for "c" "" [] hplain
  refine ⟨hplain, ?_, ?_, ?_⟩
  · obtain ⟨d, warnings, hfind, hsize, -⟩ := hclient ⟨"size", ""⟩ (.inl rfl)
    exact ⟨d, warnings, hfind, hsize⟩
  · obtain ⟨d, warnings, hcount, hfind, -⟩ := hserver ⟨"count", ""⟩ rfl
    exact ⟨d, warnings, hcount, hfind⟩
  · exact hlast [⟨"count", ""⟩] ⟨"size", ""⟩ (by decide)

end ShellQuery

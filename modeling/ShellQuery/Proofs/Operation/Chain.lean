import ShellQuery.Operation.Mapping

/-!
# What a chain writes

The options of a descriptor, told without a state that is carried along the chain.
Whether a call is accepted is a matter of the call and of the kinds that judge it
(`accepts`).  An option has the value that the last accepted call with a value for it
wrote, and if there is none, the value from before the chain (`lastWritten`).  The table
of the options (`optionTable`) says which methods have a value for which option.

`applyCalls_eq` is the run lemma: the chain, call by call, comes to the table.  A
rejected call is one warning and nothing else.
-/

namespace ShellQuery.Mapping

open ShellQuery

/-! ## Accepted calls -/

/-- Whether a method can use its arguments. -/
def usable (args : String) : CursorMethod → Bool
  | .sort | .collation => (objectArgument? args).isSome
  | .limit => (integerArgument? args).isSome
  | .skip | .maxTimeMS => (integerArgument? args).any (0 ≤ ·)
  | .batchSize => (integerArgument? args).any (0 < ·)
  | .hint => (indexArgument? args).isSome
  | .comment | .readConcern | .readPref => (stringArgument? args).isSome
  | .allowDiskUse | .noCursorTimeout | .returnKey | .showRecordId => (flagArgument? args).isSome
  | .forEach | .map => (FunctionLiteral.read? args.toList).isSome
  | .pretty | .count | .size | .itcount | .toArray => true

/-- Whether a call is accepted: its method is known and applies, and its arguments can be
used. -/
def accepts (j : Judging) (call : CursorCall) : Bool :=
  match CursorMethod.ofName? call.method with
  | none => false
  | some m => m.appliesTo (j.kindFor m) && usable call.args m

/-- The warning for a call, if it is rejected. -/
def warning? (j : Judging) (call : CursorCall) : Option Warning :=
  match readEffect j call with
  | .ok _ => none
  | .error reason => some ⟨call.method, reason⟩

theorem isOk_orReason {α β : Type} (f : α → β) (reason : String) (x : Option α) :
    (f <$> orReason reason x).isOk = x.isSome := by
  cases x <;> rfl

theorem isOk_boundedArgument (f : Int64 → Effect) (args : String) (bound : Int64 → Bool)
    (reason : String) :
    (f <$> boundedArgument args bound reason).isOk = (integerArgument? args).any bound := by
  rw [boundedArgument]
  cases integerArgument? args with
  | none => rfl
  | some n =>
    change (f <$> if bound n then Except.ok n else Except.error reason).isOk = bound n
    cases bound n <;> rfl

/-- A method has an effect just if it can use its arguments. -/
theorem isOk_methodEffect (args : String) (m : CursorMethod) :
    (methodEffect args m).isOk = usable args m := by
  cases m
  case skip | maxTimeMS | batchSize => exact isOk_boundedArgument _ _ _ _
  case pretty | count | size | itcount | toArray => rfl
  all_goals exact isOk_orReason _ _ _

theorem isOk_readEffect (j : Judging) (call : CursorCall) :
    (readEffect j call).isOk = accepts j call := by
  rw [readEffect, accepts]
  cases CursorMethod.ofName? call.method with
  | none => rfl
  | some m =>
    cases ha : m.appliesTo (j.kindFor m) with
    | false => simp [ha, Except.isOk, Except.toBool]
    | true => simp [ha, isOk_methodEffect]

theorem warning?_eq (j : Judging) (call : CursorCall) :
    (warning? j call).map Warning.method = if accepts j call then none else some call.method := by
  rw [← isOk_readEffect, warning?]
  cases readEffect j call <;> rfl

/-! ## The table of options -/

/-- The value that an accepted call has for an option.  `read` finds it in the arguments of
the methods that write the option. -/
def written {α : Type} (j : Judging) (read : CursorMethod → String → Option α)
    (call : CursorCall) : Option α :=
  if accepts j call then (CursorMethod.ofName? call.method).bind (read · call.args) else none

/-- The value that the last accepted call with a value for an option has. -/
def lastWritten {α : Type} (j : Judging) (read : CursorMethod → String → Option α)
    (chain : List CursorCall) : Option α :=
  (chain.filterMap (written j read)).getLast?

/-- An option that one method writes. -/
def only {α : Type} (m : CursorMethod) (read : String → Option α) (m' : CursorMethod)
    (args : String) : Option α :=
  if m' = m then read args else none

/-- The function of a call. -/
def functionArgument? (args : String) : Option FunctionLiteral := FunctionLiteral.read? args.toList

/-- The option that two methods write. -/
def modeOf? (m : CursorMethod) (args : String) : Option ProcessingMode :=
  match m with
  | .forEach => (functionArgument? args).map fun _ => .forEach
  | .map => (functionArgument? args).map fun _ => .map
  | _ => none

/-- The options by the values that the methods have for them, over those from before. -/
def optionTable (value : (α : Type) → (CursorMethod → String → Option α) → Option α)
    (start : QueryOptions) : QueryOptions where
  sort := (value _ (only .sort objectArgument?)).or start.sort
  limit := (value _ (only .limit integerArgument?)).or start.limit
  skip := (value _ (only .skip integerArgument?)).or start.skip
  hint := (value _ (only .hint indexArgument?)).or start.hint
  comment := (value _ (only .comment stringArgument?)).or start.comment
  maxTimeMS := (value _ (only .maxTimeMS integerArgument?)).or start.maxTimeMS
  allowDiskUse := (value _ (only .allowDiskUse flagArgument?)).or start.allowDiskUse
  batchSize := (value _ (only .batchSize integerArgument?)).or start.batchSize
  collation := (value _ (only .collation objectArgument?)).or start.collation
  readConcern := (value _ (only .readConcern stringArgument?)).or start.readConcern
  readPreference := (value _ (only .readPref stringArgument?)).or start.readPreference
  noCursorTimeout := (value _ (only .noCursorTimeout flagArgument?)).or start.noCursorTimeout
  returnKey := (value _ (only .returnKey flagArgument?)).or start.returnKey
  showRecordId := (value _ (only .showRecordId flagArgument?)).or start.showRecordId
  pretty := (value _ (only .pretty fun _ => some true)).or start.pretty
  forEach := (value _ (only .forEach functionArgument?)).or start.forEach
  map := (value _ (only .map functionArgument?)).or start.map
  processingMode := (value _ modeOf?).or start.processingMode
  many := start.many
  countMode := start.countMode
  projection := start.projection
  upsert := start.upsert

theorem optionTable_optionTable (v w : (α : Type) → (CursorMethod → String → Option α) → Option α)
    (start : QueryOptions) :
    optionTable v (optionTable w start)
      = optionTable (fun α read => (v α read).or (w α read)) start := by
  simp only [optionTable, Option.or_assoc]

theorem lastWritten_cons {α : Type} (j : Judging) (read : CursorMethod → String → Option α)
    (call : CursorCall) (rest : List CursorCall) :
    lastWritten j read (call :: rest) = (lastWritten j read rest).or (written j read call) := by
  cases hw : written j read call with
  | none => simp [lastWritten, hw]
  | some value =>
    cases hl : (rest.filterMap (written j read)).getLast? with
    | none => simp [lastWritten, hw, List.getLast?_cons, hl]
    | some last => simp [lastWritten, hw, List.getLast?_cons, hl]

/-- A value for an option comes from an accepted call of the chain. -/
theorem exists_of_lastWritten {α : Type} {j : Judging} {read : CursorMethod → String → Option α}
    {chain : List CursorCall} {value : α} (h : lastWritten j read chain = some value) :
    ∃ call ∈ chain, ∃ m, CursorMethod.ofName? call.method = some m
      ∧ m.appliesTo (j.kindFor m) = true ∧ usable call.args m = true
      ∧ read m call.args = some value := by
  obtain ⟨call, hcall, hw⟩ := List.mem_filterMap.1 (List.mem_of_getLast? h)
  rw [written] at hw
  split at hw
  next ha =>
    obtain ⟨m, hm, hread⟩ := Option.bind_eq_some_iff.1 hw
    rw [accepts, hm, Bool.and_eq_true] at ha
    exact ⟨call, hcall, m, hm, ha.1, ha.2, hread⟩
  next => cases hw

/-- An option of one method has a value only if the method applies, and the value is in
arguments that the method can use. -/
theorem exists_of_lastWritten_only {α : Type} {j : Judging} {m : CursorMethod}
    {read : String → Option α} {chain : List CursorCall} {value : α}
    (h : lastWritten j (only m read) chain = some value) :
    m.appliesTo (j.kindFor m) = true ∧ ∃ args, usable args m = true ∧ read args = some value := by
  obtain ⟨call, -, m', -, happlies, husable, hread⟩ := exists_of_lastWritten h
  rw [only] at hread
  split at hread
  next hm =>
    subst hm
    exact ⟨happlies, call.args, husable, hread⟩
  next => cases hread

theorem lastWritten_only_eq_none {α : Type} {j : Judging} {m : CursorMethod}
    (h : m.appliesTo (j.kindFor m) = false) (read : String → Option α) (chain : List CursorCall) :
    lastWritten j (only m read) chain = none := by
  cases hl : lastWritten j (only m read) chain with
  | none => rfl
  | some value =>
    rw [(exists_of_lastWritten_only hl).1] at h
    cases h

/-! ## One call and a whole chain -/

/-- A rejected call changes nothing. -/
theorem applyCall_of_not_accepts {j : Judging} {call : CursorCall} (h : accepts j call = false)
    (o : QueryOptions) : applyCall j o call = (o, warning? j call) := by
  rw [← isOk_readEffect] at h
  rw [applyCall, warning?]
  cases hr : readEffect j call with
  | error reason => rfl
  | ok effect => rw [hr] at h; cases h

theorem readEffect_of_accepts {j : Judging} {call : CursorCall} {m : CursorMethod}
    (hm : CursorMethod.ofName? call.method = some m) (h : accepts j call = true) :
    readEffect j call = methodEffect call.args m := by
  rw [accepts, hm, Bool.and_eq_true] at h
  simp only [readEffect, hm, h.1, if_true]

theorem exists_of_orReason {α : Type} {f : α → Effect} {reason : String} {x : Option α}
    {effect : Effect} (h : f <$> orReason reason x = .ok effect) :
    ∃ value, x = some value ∧ f value = effect := by
  cases x with
  | none => cases h
  | some value => exact ⟨value, rfl, Except.ok.inj h⟩

theorem exists_of_boundedArgument {f : Int64 → Effect} {args reason : String}
    {bound : Int64 → Bool} {effect : Effect}
    (h : f <$> boundedArgument args bound reason = .ok effect) :
    ∃ n, integerArgument? args = some n ∧ f n = effect := by
  rw [boundedArgument] at h
  cases hn : integerArgument? args with
  | none => rw [hn] at h; cases h
  | some n =>
    rw [hn] at h
    change (f <$> if bound n then Except.ok n else Except.error reason) = _ at h
    split at h
    · exact ⟨n, rfl, Except.ok.inj h⟩
    · cases h

/-- The effect of a method writes the options that the method has a value for. -/
theorem apply_methodEffect {args : String} {m : CursorMethod} {effect : Effect}
    (h : methodEffect args m = .ok effect) (o : QueryOptions) :
    effect.apply o = optionTable (fun _ read => read m args) o := by
  cases m
  case skip | maxTimeMS | batchSize =>
    obtain ⟨n, hn, rfl⟩ := exists_of_boundedArgument h
    simp [Effect.apply, optionTable, only, modeOf?, hn]
  case pretty | count | size | itcount | toArray =>
    cases h
    simp [Effect.apply, optionTable, only, modeOf?]
  all_goals
    obtain ⟨value, hv, rfl⟩ := exists_of_orReason h
    simp [Effect.apply, optionTable, only, modeOf?, functionArgument?, hv]

/-- One call writes the options that it has a value for. -/
theorem applyCall_eq (j : Judging) (o : QueryOptions) (call : CursorCall) :
    applyCall j o call = (optionTable (fun _ read => written j read call) o, warning? j call) := by
  cases ha : accepts j call with
  | false =>
    rw [applyCall_of_not_accepts ha]
    simp only [written, ha]
    rfl
  | true =>
    cases hm : CursorMethod.ofName? call.method with
    | none => simp [accepts, hm] at ha
    | some m =>
      have hr := readEffect_of_accepts hm ha
      cases he : methodEffect call.args m with
      | error reason => rw [← isOk_readEffect, hr, he] at ha; cases ha
      | ok effect =>
        rw [applyCall, warning?, hr, he]
        simp only [written, ha, hm, if_true, Option.bind_some, apply_methodEffect he]

/-- A chain writes each option by its last accepted call with a value for it, and there is
one warning for each rejected call. -/
theorem applyCalls_eq (j : Judging) (o : QueryOptions) (chain : List CursorCall) :
    applyCalls j o chain
      = (optionTable (fun _ read => lastWritten j read chain) o, chain.filterMap (warning? j)) := by
  induction chain generalizing o with
  | nil => rfl
  | cons call rest ih =>
    simp only [applyCalls, applyCall_eq, ih, optionTable_optionTable, lastWritten_cons]
    cases hw : warning? j call <;> simp [hw]

/-! ## Descriptors -/

/-- The kinds that judge a chain behind a base call. -/
def chainJudging (base : OperationKind) (chain : List CursorCall) : Judging :=
  judging base (reclassify base chain).1 (reclassify base chain).2

/-- The descriptor of a base call of a kind, and its warnings. -/
theorem ofCalls_eq {call : BaseCall} {base : OperationKind}
    (h : OperationKind.ofOperation? call.operation = some base) (chain : List CursorCall)
    (args : List Json) :
    Descriptor.ofCalls call chain args = .ok
      ({ collection := call.collection
         kind := (reclassify base chain).1
         data := shapeData args base
         options := optionTable (fun _ read => lastWritten (chainJudging base chain) read chain)
           (initialOptions base call.operation args (reclassify base chain).2)
         calls := chain },
       chain.filterMap (warning? (chainJudging base chain))) := by
  rw [Descriptor.ofCalls, h]
  simp only [applyCalls_eq]
  rfl

/-- A chain makes nothing of a base call but a count of a find. -/
theorem reclassify_cases (base : OperationKind) (chain : List CursorCall) :
    reclassify base chain = (base, none)
      ∨ base = .find ∧ ∃ mode, reclassify base chain = (.count, some mode) := by
  rw [reclassify]
  split
  next hfind =>
    split
    next mode _ => exact .inr ⟨hfind, mode, rfl⟩
    next => exact .inl rfl
  next => exact .inl rfl

/-- A call that counts writes no option and gives no warning behind a find. -/
theorem readEffect_counts {call : CursorCall} {mode : CountMode}
    (h : countModeOf? call = some mode) (other : OperationKind) :
    readEffect ⟨.find, other⟩ call = .ok .nothing := by
  rw [countModeOf?] at h
  rw [readEffect]
  cases hm : CursorMethod.ofName? call.method with
  | none => rw [hm] at h; cases h
  | some m =>
    rw [hm] at h
    cases m
    case count | size | itcount => rfl
    all_goals cases h

theorem accepts_of_countModeOf? {call : CursorCall} {mode : CountMode}
    (h : countModeOf? call = some mode) (other : OperationKind) :
    accepts ⟨.find, other⟩ call = true := by
  rw [← isOk_readEffect, readEffect_counts h]
  rfl

theorem filterMap_countModeOf?_filter (other : OperationKind) (chain : List CursorCall) :
    (chain.filter (accepts ⟨.find, other⟩)).filterMap countModeOf?
      = chain.filterMap countModeOf? := by
  induction chain with
  | nil => rfl
  | cons call rest ih =>
    cases hm : countModeOf? call with
    | some mode =>
      rw [List.filter_cons_of_pos (accepts_of_countModeOf? hm other), List.filterMap_cons, hm,
        List.filterMap_cons, hm, ih]
    | none =>
      rw [List.filter_cons, List.filterMap_cons, hm]
      split
      · rw [List.filterMap_cons, hm, ih]
      · exact ih

/-- Rejected calls are of no account when a find becomes a count. -/
theorem reclassify_filter (base other : OperationKind) (chain : List CursorCall) :
    reclassify base (chain.filter (accepts ⟨base, other⟩)) = reclassify base chain := by
  rw [reclassify, reclassify]
  split
  next hb => subst hb; rw [filterMap_countModeOf?_filter]
  next => rfl

theorem lastWritten_filter {α : Type} (j : Judging) (read : CursorMethod → String → Option α)
    (chain : List CursorCall) :
    lastWritten j read (chain.filter (accepts j)) = lastWritten j read chain := by
  induction chain with
  | nil => rfl
  | cons call rest ih =>
    rw [List.filter_cons]
    split
    next => rw [lastWritten_cons, lastWritten_cons, ih]
    next ha => rw [lastWritten_cons, ih, written, if_neg ha, Option.or_none]

theorem filterMap_warning?_filter (j : Judging) (chain : List CursorCall) :
    (chain.filter (accepts j)).filterMap (warning? j) = [] := by
  rw [List.filterMap_eq_nil_iff]
  intro call hcall
  have hw := warning?_eq j call
  rw [if_pos (List.mem_filter.1 hcall).2] at hw
  exact Option.map_eq_none_iff.1 hw

/-- A supported operation has a descriptor, whatever is chained to it.  A chained call is
accepted or rejected by what it is itself, by the kind of the base call, and by the kind
and the count mode that the chain makes of it.  There is one warning for each rejected
call, in order.  An option has the value of the last accepted call that writes it, or the
value from before the chain, and without its rejected calls the chain has the same
options.  The calls are kept as they are. -/
theorem ofCalls_last_wins {call : BaseCall} {base : OperationKind}
    (h : OperationKind.ofOperation? call.operation = some base) (chain : List CursorCall)
    (args : List Json) :
    let kind := (reclassify base chain).1
    let mode := (reclassify base chain).2
    let j := judging base kind mode
    ∃ d warnings, Descriptor.ofCalls call chain args = .ok (d, warnings)
      ∧ d.options = optionTable (fun _ read => lastWritten j read chain)
          { many := isMany call.operation
            countMode := mode
            projection := projectionOf? args base
            upsert := upsertOf? args base }
      ∧ (d.kind = kind ∧ d.collection = call.collection ∧ d.data = shapeData args base
        ∧ d.calls = chain)
      ∧ warnings = chain.filterMap (warning? j)
      ∧ (∀ c, (warning? j c).map Warning.method = if accepts j c then none else some c.method)
      ∧ Descriptor.ofCalls call (chain.filter (accepts j)) args
          = .ok ({ d with calls := chain.filter (accepts j) }, []) := by
  intro kind mode j
  have hr : reclassify base (chain.filter (accepts j)) = reclassify base chain :=
    reclassify_filter _ _ _
  have hj : chainJudging base (chain.filter (accepts j)) = j := by rw [chainJudging, hr]
  refine ⟨_, _, ofCalls_eq h chain args, rfl, ⟨rfl, rfl, rfl, rfl⟩, rfl, warning?_eq j, ?_⟩
  rw [ofCalls_eq h, hj, hr]
  simp only [lastWritten_filter, filterMap_warning?_filter]
  rfl

/-- The last limit wins, and a batch size that is not positive leaves the one before it. -/
theorem ofCalls_last_wins_limit :
    OperationKind.ofOperation? "find" = some .find
      ∧ ∃ d warnings, Descriptor.ofCalls ⟨"c", "find", ""⟩
          [⟨"limit", "5"⟩, ⟨"batchSize", "2"⟩, ⟨"limit", "7"⟩, ⟨"batchSize", "0"⟩] []
            = .ok (d, warnings)
        ∧ d.options.limit = some 7 ∧ d.options.batchSize = some 2
        ∧ warnings = [⟨"batchSize", "value must be positive"⟩] := by
  have h : OperationKind.ofOperation? (BaseCall.mk "c" "find" "").operation = some .find := rfl
  obtain ⟨d, warnings, hok, ho, -, hw, -⟩ := ofCalls_last_wins h
    [⟨"limit", "5"⟩, ⟨"batchSize", "2"⟩, ⟨"limit", "7"⟩, ⟨"batchSize", "0"⟩] []
  refine ⟨rfl, d, warnings, hok, ?_, ?_, ?_⟩
  · rw [ho]; decide +kernel
  · rw [ho]; decide +kernel
  · rw [hw]; decide +kernel

/-- The kind of the base call and the kind that results do not decide about a call: a count
by the server rejects a limit, and a count by the client accepts it. -/
theorem accepts_needs_countMode :
    ¬ ∃ accepted : CursorCall → OperationKind → OperationKind → Bool,
      ∀ (call : BaseCall) (base : OperationKind) (chain : List CursorCall) (args : List Json)
        (d : Descriptor) (warnings : List Warning),
        OperationKind.ofOperation? call.operation = some base →
        Descriptor.ofCalls call chain args = .ok (d, warnings) →
        warnings.map Warning.method
          = (chain.filter fun c => !accepted c base d.kind).map CursorCall.method := by
  rintro ⟨accepted, h⟩
  have hfind : OperationKind.ofOperation? (BaseCall.mk "c" "find" "").operation = some .find := rfl
  have hserver := h _ _ [⟨"limit", "3"⟩, ⟨"count", ""⟩] [] _ _ hfind (ofCalls_eq hfind _ _)
  have hclient := h _ _ [⟨"limit", "3"⟩, ⟨"size", ""⟩] [] _ _ hfind (ofCalls_eq hfind _ _)
  have hrejected : ([⟨"limit", "3"⟩, ⟨"count", ""⟩].filterMap
      (warning? (chainJudging .find [⟨"limit", "3"⟩, ⟨"count", ""⟩]))).map Warning.method
        = ["limit"] := by
    decide +kernel
  have haccepted : ([⟨"limit", "3"⟩, ⟨"size", ""⟩].filterMap
      (warning? (chainJudging .find [⟨"limit", "3"⟩, ⟨"size", ""⟩]))).map Warning.method = [] := by
    decide +kernel
  rw [hrejected, show (reclassify .find [⟨"limit", "3"⟩, ⟨"count", ""⟩]).1 = .count by decide]
    at hserver
  rw [haccepted, show (reclassify .find [⟨"limit", "3"⟩, ⟨"size", ""⟩]).1 = .count by decide]
    at hclient
  -- The same call, judged by the same two kinds.
  cases hlimit : accepted ⟨"limit", "3"⟩ .find .count with
  | true =>
    rw [List.filter_cons_of_neg (by simp [hlimit])] at hserver
    cases hcount : accepted ⟨"count", ""⟩ .find .count <;> simp [hcount] at hserver
  | false => simp [hlimit] at hclient

end ShellQuery.Mapping

import ShellQuery.Proofs.Json.Literal
import ShellQuery.Proofs.Operation.Chain
import ShellQuery.Request.Options
import ShellQuery.Statement.Parse

/-!
# Options on the way to the server

What becomes of the options of a statement that reads.  `CarriedOptions` is what is handed
over for it, whatever the kind of the request: a find has every option, a count few, and
an aggregation has some of them as stages behind its own.

`KeepsOptions` says that each option of a descriptor is carried with its value.  That does
not hold of every statement, since the table of the methods and the requests do not agree.
It holds just when the descriptor `Fits`: a batch size has 32 bits, the server does not
count under a projection, and an aggregation asks for none of the three options that only
a find has.
-/

namespace ShellQuery

open Mapping

/-! ## What is handed over -/

/-- The options that are handed over for a read, by whatever way they go there.  Numbers are
told without their width. -/
structure CarriedOptions where
  read : ReadOptions
  sort : Option Document := none
  projection : Option Document := none
  limit : Option Int := none
  skip : Option Int := none
  allowDiskUse : Option Bool := none
  batchSize : Option Int := none
  noCursorTimeout : Option Bool := none
  returnKey : Option Bool := none
  showRecordId : Option Bool := none

/-- The options of a find. -/
def FindOptions.carried (o : FindOptions) : CarriedOptions where
  read := o.aggregate.read
  sort := o.sort
  projection := o.projection
  limit := o.limit.map Int64.toInt
  skip := o.skip.map Int.ofNat
  allowDiskUse := o.aggregate.allowDiskUse
  batchSize := o.aggregate.batchSize.map Int.ofNat
  noCursorTimeout := o.noCursorTimeout
  returnKey := o.returnKey
  showRecordId := o.showRecordId

/-- The options of a count by the server. -/
def ReadOptions.carried (o : ReadOptions) : CarriedOptions where
  read := o

/-- The value of the first stage with a name. -/
def stageValue? (name : String) (stages : List Document) : Option Bson :=
  stages.findSome? (Document.find? name)

/-- The document of a stage. -/
def documentStage? (name : String) (stages : List Document) : Option Document :=
  match stageValue? name stages with
  | some (.document doc) => some doc
  | _ => none

/-- The integer of a stage. -/
def integerStage? (name : String) (stages : List Document) : Option Int :=
  match stageValue? name stages with
  | some (.int64 n) => some n.toInt
  | _ => none

/-- The options of an aggregation and of the stages behind those of its data. -/
def AggregateOptions.carried (o : AggregateOptions) (behind : List Document) :
    CarriedOptions where
  read := o.read
  sort := documentStage? "$sort" behind
  limit := integerStage? "$limit" behind
  skip := integerStage? "$skip" behind
  allowDiskUse := o.allowDiskUse
  batchSize := o.batchSize.map Int.ofNat

/-- What is handed over for a descriptor that reads documents or counts them. -/
def Descriptor.carried? (now : Int64) (d : Descriptor) :
    Option (Except ExecutionError CarriedOptions) :=
  match d.kind with
  | .find | .findOne => some ((FindOptions.ofQuery now d.options).map FindOptions.carried)
  | .count =>
      if d.isClientCount then some ((FindOptions.ofQuery now d.options).map FindOptions.carried)
      else some ((ReadOptions.ofQuery now d.options).map ReadOptions.carried)
  | .aggregate => some do
      let own ← Bson.documentsOfJson now d.data
      let stages ← pipelineOfQuery now d.data d.options
      let o ← AggregateOptions.ofQuery now d.options
      .ok (o.carried (stages.drop own.length))
  | .insert | .update | .delete | .distinct => none

/-! ## Kept options -/

/-- An option that is given is carried with the same value. -/
def Kept {α β : Type} (same : α → β → Prop) (given : Option α) (carried : Option β) : Prop :=
  ∀ a ∈ given, ∃ b ∈ carried, same a b

/-- The document of a value. -/
def SameDocument (now : Int64) (value : Json) (doc : Document) : Prop :=
  Bson.documentOfJson now value = .ok doc

/-- An index, by its name or by its keys. -/
inductive SameHint (now : Int64) : Json → Hint → Prop
  /-- By its name. -/
  | name (s : String) : SameHint now (.string s) (.name s)
  /-- By its keys. -/
  | keys {value : Json} {doc : Document} (h : SameDocument now value doc) :
      SameHint now value (.keys doc)

/-- The options of every read are carried. -/
structure KeepsReadOptions (now : Int64) (o : QueryOptions) (r : ReadOptions) : Prop where
  hint : Kept (SameHint now) o.hint r.hint
  comment : Kept Eq o.comment r.comment
  maxTimeMS : Kept (fun n millis : _ => n.toInt = Int.ofNat millis) o.maxTimeMS r.maxTimeMillis
  collation : Kept (fun _ _ => True) o.collation r.collation
  readConcern : Kept Eq o.readConcern r.readConcern
  readPreference : Kept (fun s mode => Text.lower mode.name = Text.lower s)
    o.readPreference r.readPreference

/-- Every option that is given is carried. -/
structure KeepsOptions (now : Int64) (o : QueryOptions) (c : CarriedOptions) : Prop where
  read : KeepsReadOptions now o c.read
  sort : Kept (SameDocument now) o.sort c.sort
  projection : Kept (SameDocument now) o.projection c.projection
  limit : Kept (fun n i => n.toInt = i) o.limit c.limit
  skip : Kept (fun n i => n.toInt = i) o.skip c.skip
  allowDiskUse : Kept Eq o.allowDiskUse c.allowDiskUse
  batchSize : Kept (fun n i => n.toInt = i) o.batchSize c.batchSize
  noCursorTimeout : Kept Eq o.noCursorTimeout c.noCursorTimeout
  returnKey : Kept Eq o.returnKey c.returnKey
  showRecordId : Kept Eq o.showRecordId c.showRecordId

/-- Nothing is lost of the options of a descriptor. -/
structure Descriptor.Fits (d : Descriptor) : Prop where
  batchSize : ∀ n ∈ d.options.batchSize, n.toInt < Width.words32
  projection : d.kind = .count → d.isClientCount = false → d.options.projection = none
  noCursorTimeout : d.kind = .aggregate → d.options.noCursorTimeout = none
  returnKey : d.kind = .aggregate → d.options.returnKey = none
  showRecordId : d.kind = .aggregate → d.options.showRecordId = none

/-! ## One option -/

theorem kept_none {α β : Type} (same : α → β → Prop) (carried : Option β) :
    Kept same none carried := fun _ h => by cases h

theorem kept_of_eq_none {α β : Type} {same : α → β → Prop} {given : Option α} {carried : Option β}
    (h : given = none) : Kept same given carried := by
  rw [h]
  exact kept_none _ _

theorem kept_eq {α : Type} (given : Option α) : Kept Eq given given := fun a h => ⟨a, h, rfl⟩

theorem eq_none_of_kept {α β : Type} {same : α → β → Prop} {given : Option α}
    (h : Kept same given none) : given = none := by
  cases given with
  | none => rfl
  | some a =>
    obtain ⟨b, hb, -⟩ := h a rfl
    cases hb

theorem kept_map {α β : Type} {same : α → β → Prop} {f : α → β} {given : Option α}
    (h : ∀ a ∈ given, same a (f a)) : Kept same given (given.map f) :=
  fun a ha => ⟨f a, Option.mem_map_of_mem f ha, h a ha⟩

/-- An option that is converted without an error is carried. -/
theorem kept_mapPresent {α β ε : Type} {same : α → β → Prop} {f : α → Except ε β}
    (hf : ∀ a b, f a = .ok b → same a b) {given : Option α} {carried : Option β}
    (h : mapPresent f given = .ok carried) : Kept same given carried := by
  cases given with
  | none => exact kept_none _ _
  | some a =>
    rw [mapPresent] at h
    cases hb : f a with
    | error e => rw [hb] at h; cases h
    | ok b =>
      rw [hb] at h
      cases h
      rintro _ ⟨⟩
      exact ⟨b, rfl, hf a b hb⟩

/-- A number that is not negative is carried just when it is below the bound. -/
theorem kept_naturalBelow?_iff {bound : Nat} {given : Option Int64}
    (h : ∀ n ∈ given, 0 ≤ n.toInt) :
    Kept (fun n i => n.toInt = i) given ((given.bind (naturalBelow? bound)).map Int.ofNat)
      ↔ ∀ n ∈ given, n.toInt < bound := by
  cases given with
  | none => exact ⟨fun _ _ hn => absurd hn (by simp), fun _ => kept_none _ _⟩
  | some n =>
    have hn : 0 ≤ n.toInt := h n rfl
    by_cases hb : n.toInt < bound
    · have hnat : naturalBelow? bound n = some n.toInt.toNat := by simp [naturalBelow?, hn, hb]
      refine ⟨fun _ m hm => ?_, fun _ m hm => ?_⟩
      · cases hm
        exact hb
      · cases hm
        refine ⟨n.toInt, ?_, rfl⟩
        rw [Option.bind_some, hnat, Option.map_some, Int.ofNat_eq_natCast,
          Int.toNat_of_nonneg hn]
        rfl
    · have hnat : naturalBelow? bound n = none := by simp [naturalBelow?, hb]
      constructor
      · intro hk
        obtain ⟨i, hi, -⟩ := hk n rfl
        simp [hnat] at hi
      · intro hlt
        exact absurd (hlt n rfl) hb

theorem sameHint_ofJson {now : Int64} (value : Json) (hint : Hint)
    (h : Hint.ofJson now value = .ok hint) : SameHint now value hint := by
  unfold Hint.ofJson at h
  split at h
  next s =>
    cases h
    exact .name s
  next =>
    cases hd : Bson.documentOfJson now value with
    | error e => rw [hd] at h; cases h
    | ok doc =>
      rw [hd] at h
      cases h
      exact .keys hd

theorem lower_ofName? {s : String} {mode : ReadMode} (h : ReadMode.ofName? s = some mode) :
    Text.lower mode.name = Text.lower s := by
  simpa using List.find?_some h

theorem lower_parse (s : String) (mode : ReadMode) (h : ReadMode.parse s = .ok mode) :
    Text.lower mode.name = Text.lower s := by
  rw [ReadMode.parse] at h
  cases hm : ReadMode.ofName? s with
  | none => rw [hm] at h; cases h
  | some m =>
    rw [hm] at h
    cases h
    exact lower_ofName? hm

/-! ## The options of every read -/

/-- Numbers of options that the methods have checked. -/
structure QueryOptions.Bounded (o : QueryOptions) : Prop where
  skip : ∀ n ∈ o.skip, 0 ≤ n.toInt
  maxTimeMS : ∀ n ∈ o.maxTimeMS, 0 ≤ n.toInt
  batchSize : ∀ n ∈ o.batchSize, 0 ≤ n.toInt

theorem keepsReadOptions {now : Int64} {o : QueryOptions} {r : ReadOptions} (ho : o.Bounded)
    (h : ReadOptions.ofQuery now o = .ok r) : KeepsReadOptions now o r := by
  obtain ⟨hint, hhint, h⟩ := Json.bind_eq_ok.1 h
  obtain ⟨collation, hcollation, h⟩ := Json.bind_eq_ok.1 h
  obtain ⟨mode, hmode, h⟩ := Json.bind_eq_ok.1 h
  cases h
  exact
    { hint := kept_mapPresent sameHint_ofJson hhint
      comment := kept_eq _
      maxTimeMS := kept_map fun n hn => (Int.toNat_of_nonneg (ho.maxTimeMS n hn)).symm
      collation := kept_mapPresent (fun _ _ _ => trivial) hcollation
      readConcern := kept_eq _
      readPreference := kept_mapPresent lower_parse hmode }

/-- A find keeps everything but a batch size that is too large. -/
theorem keepsOptions_find_iff {now : Int64} {o : QueryOptions} {f : FindOptions} (ho : o.Bounded)
    (h : FindOptions.ofQuery now o = .ok f) :
    KeepsOptions now o f.carried ↔ ∀ n ∈ o.batchSize, n.toInt < Width.words32 := by
  obtain ⟨sort, hsort, h⟩ := Json.bind_eq_ok.1 h
  obtain ⟨projection, hprojection, h⟩ := Json.bind_eq_ok.1 h
  obtain ⟨aggregate, haggregate, h⟩ := Json.bind_eq_ok.1 h
  obtain ⟨read, hread, hagg⟩ := Json.bind_eq_ok.1 haggregate
  cases hagg
  cases h
  refine ⟨fun hk => (kept_naturalBelow?_iff ho.batchSize).1 hk.batchSize, fun hbatch => ?_⟩
  exact
    { read := keepsReadOptions ho hread
      sort := kept_mapPresent (fun _ _ hd => hd) hsort
      projection := kept_mapPresent (fun _ _ hd => hd) hprojection
      limit := kept_map fun _ _ => rfl
      skip := (kept_naturalBelow?_iff ho.skip).2 fun n _ => by
        have := n.toInt_lt
        simp only [Width.words64]
        omega
      allowDiskUse := kept_eq _
      batchSize := (kept_naturalBelow?_iff ho.batchSize).2 hbatch
      noCursorTimeout := kept_eq _
      returnKey := kept_eq _
      showRecordId := kept_eq _ }

/-- Options that no count by the server has. -/
structure QueryOptions.OfServerCount (o : QueryOptions) : Prop where
  sort : o.sort = none
  limit : o.limit = none
  skip : o.skip = none
  allowDiskUse : o.allowDiskUse = none
  batchSize : o.batchSize = none
  noCursorTimeout : o.noCursorTimeout = none
  returnKey : o.returnKey = none
  showRecordId : o.showRecordId = none

/-- A count by the server has no place for a projection, and nothing else is left to lose. -/
theorem keepsOptions_count_iff {now : Int64} {o : QueryOptions} {r : ReadOptions} (ho : o.Bounded)
    (hcount : o.OfServerCount) (h : ReadOptions.ofQuery now o = .ok r) :
    KeepsOptions now o r.carried ↔ o.projection = none := by
  refine ⟨fun hk => eq_none_of_kept hk.projection, fun hp => ?_⟩
  exact
    { read := keepsReadOptions ho h
      sort := kept_of_eq_none hcount.sort
      projection := kept_of_eq_none hp
      limit := kept_of_eq_none hcount.limit
      skip := kept_of_eq_none hcount.skip
      allowDiskUse := kept_of_eq_none hcount.allowDiskUse
      batchSize := kept_of_eq_none hcount.batchSize
      noCursorTimeout := kept_of_eq_none hcount.noCursorTimeout
      returnKey := kept_of_eq_none hcount.returnKey
      showRecordId := kept_of_eq_none hcount.showRecordId }

/-! ## Aggregations -/

/-- The stages behind those of the data: the order, the documents to pass over and the
largest number. -/
def stagesBehind (sort : Option Document) (skip limit : Option Int64) : List Document :=
  (sort.map fun doc => [("$sort", Bson.document doc)]).toList
    ++ (skip.map fun n => [("$skip", Bson.int64 n)]).toList
    ++ (limit.map fun n => [("$limit", Bson.int64 n)]).toList

theorem drop_pipelineOfQuery {now : Int64} {data : Json} {o : QueryOptions}
    {own stages : List Document} (hown : Bson.documentsOfJson now data = .ok own)
    (h : pipelineOfQuery now data o = .ok stages) :
    ∃ sort, mapPresent (Bson.documentOfJson now) o.sort = .ok sort
      ∧ stages.drop own.length = stagesBehind sort o.skip o.limit := by
  obtain ⟨own', hown', h⟩ := Json.bind_eq_ok.1 h
  obtain ⟨sort, hsort, h⟩ := Json.bind_eq_ok.1 h
  rw [hown] at hown'
  cases hown'
  cases h
  refine ⟨sort, hsort, ?_⟩
  rw [List.append_assoc, List.append_assoc, List.drop_left, stagesBehind, List.append_assoc]

/-- The stages behind those of the data give back what they were made of. -/
theorem carried_stagesBehind (a : AggregateOptions) (sort : Option Document)
    (skip limit : Option Int64) :
    a.carried (stagesBehind sort skip limit) =
      { read := a.read
        sort := sort
        limit := limit.map Int64.toInt
        skip := skip.map Int64.toInt
        allowDiskUse := a.allowDiskUse
        batchSize := a.batchSize.map Int.ofNat } := by
  cases sort <;> cases skip <;> cases limit <;> rfl

/-- An aggregation keeps everything but a batch size that is too large and the three
options that only a find has. -/
theorem keepsOptions_aggregate_iff {now : Int64} {data : Json} {o : QueryOptions}
    {own stages : List Document} {a : AggregateOptions} (ho : o.Bounded)
    (hprojection : o.projection = none) (hown : Bson.documentsOfJson now data = .ok own)
    (hstages : pipelineOfQuery now data o = .ok stages)
    (h : AggregateOptions.ofQuery now o = .ok a) :
    KeepsOptions now o (a.carried (stages.drop own.length))
      ↔ (∀ n ∈ o.batchSize, n.toInt < Width.words32) ∧ o.noCursorTimeout = none
        ∧ o.returnKey = none ∧ o.showRecordId = none := by
  obtain ⟨sort, hsort, hbehind⟩ := drop_pipelineOfQuery hown hstages
  obtain ⟨read, hread, h⟩ := Json.bind_eq_ok.1 h
  cases h
  rw [hbehind, carried_stagesBehind]
  constructor
  · intro hk
    exact ⟨(kept_naturalBelow?_iff ho.batchSize).1 hk.batchSize,
      eq_none_of_kept hk.noCursorTimeout, eq_none_of_kept hk.returnKey,
      eq_none_of_kept hk.showRecordId⟩
  · rintro ⟨hbatch, htimeout, hkey, hrecord⟩
    exact
      { read := keepsReadOptions ho hread
        sort := kept_mapPresent (fun _ _ hd => hd) hsort
        projection := kept_of_eq_none hprojection
        limit := kept_map fun _ _ => rfl
        skip := kept_map fun _ _ => rfl
        allowDiskUse := kept_eq _
        batchSize := (kept_naturalBelow?_iff ho.batchSize).2 hbatch
        noCursorTimeout := kept_of_eq_none htimeout
        returnKey := kept_of_eq_none hkey
        showRecordId := kept_of_eq_none hrecord }

/-! ## Descriptors of statements -/

/-- The numbers that have a bound keep to it. -/
structure QueryOptions.InRange (o : QueryOptions) : Prop where
  skip : ∀ n ∈ o.skip, 0 ≤ n
  maxTimeMS : ∀ n ∈ o.maxTimeMS, 0 ≤ n
  batchSize : ∀ n ∈ o.batchSize, 0 < n

/-- The options of a descriptor are those of the table, for a chain that made its kind and
its count mode. -/
structure Descriptor.FromChain (d : Descriptor) (base : OperationKind) (operation : String)
    (args : List Json) (chain : List CursorCall) : Prop where
  kind : d.kind = (reclassify base chain).1
  options : d.options = optionTable (fun _ read => lastWritten (chainJudging base chain) read chain)
    (initialOptions base operation args (reclassify base chain).2)

/-- An accepted statement is a supported operation with a chain and arguments. -/
theorem exists_of_parseStatement {statement : String} {d : Descriptor} {warnings : List Warning}
    (h : parseStatement statement = .ok (d, warnings)) :
    ∃ call base chain args, OperationKind.ofOperation? call.operation = some base
      ∧ Descriptor.ofCalls call chain args = .ok (d, warnings) := by
  simp only [parseStatement] at h
  split at h
  next => cases h
  next =>
    obtain ⟨⟨call, rest⟩, -, h⟩ := Json.bind_eq_ok.1 h
    obtain ⟨args, -, h⟩ := Json.bind_eq_ok.1 h
    cases hbase : OperationKind.ofOperation? call.operation with
    | none => rw [Descriptor.ofCalls, hbase] at h; cases h
    | some base => exact ⟨call, base, CursorCall.chain rest, args, hbase, h⟩

theorem fromChain_of_ofCalls {call : BaseCall} {base : OperationKind}
    (hbase : OperationKind.ofOperation? call.operation = some base) {chain : List CursorCall}
    {args : List Json} {d : Descriptor} {warnings : List Warning}
    (h : Descriptor.ofCalls call chain args = .ok (d, warnings)) :
    d.FromChain base call.operation args chain := by
  rw [ofCalls_eq hbase] at h
  cases h
  exact ⟨rfl, rfl⟩

theorem exists_fromChain {statement : String} {d : Descriptor} {warnings : List Warning}
    (h : parseStatement statement = .ok (d, warnings)) :
    ∃ base operation args chain, d.FromChain base operation args chain := by
  obtain ⟨call, base, chain, args, hbase, h⟩ := exists_of_parseStatement h
  exact ⟨base, call.operation, args, chain, fromChain_of_ofCalls hbase h⟩

namespace Descriptor.FromChain

variable {d : Descriptor} {base : OperationKind} {operation : String} {args : List Json}
  {chain : List CursorCall}

/-- The methods check the numbers that they take. -/
theorem inRange (h : d.FromChain base operation args chain) : d.options.InRange := by
  rw [h.options]
  refine ⟨fun n hn => ?_, fun n hn => ?_, fun n hn => ?_⟩
  all_goals
    obtain ⟨-, text, husable, hread⟩ := exists_of_lastWritten_only ((Option.or_none).symm.trans hn)
    simpa only [usable, hread, Option.any_some, decide_eq_true_eq] using husable

theorem bounded (h : d.FromChain base operation args chain) : d.options.Bounded where
  skip := fun n hn => Int64.le_iff_toInt_le.1 (h.inRange.skip n hn)
  maxTimeMS := fun n hn => Int64.le_iff_toInt_le.1 (h.inRange.maxTimeMS n hn)
  batchSize := fun n hn => Int64.le_iff_toInt_le.1 (Int64.le_of_lt (h.inRange.batchSize n hn))

/-- The chain of a count by the server is judged as a count. -/
theorem other_eq_count (h : d.FromChain base operation args chain) (hkind : d.kind = .count)
    (hmode : d.isClientCount = false) : (chainJudging base chain).other = .count := by
  have hclient : (reclassify base chain).2 ≠ some .client := by
    intro hc
    have : d.options.countMode = some .client := by rw [h.options]; exact hc
    simp [Descriptor.isClientCount, hkind, this] at hmode
  rw [chainJudging, judging, if_neg hclient]
  exact h.kind.symm.trans hkind

theorem ofServerCount (h : d.FromChain base operation args chain) (hkind : d.kind = .count)
    (hmode : d.isClientCount = false) : d.options.OfServerCount := by
  have hother := h.other_eq_count hkind hmode
  -- A method that does not apply to a count has no value for its option.
  have hnone : ∀ {α : Type} (m : CursorMethod) (read : String → Option α),
      m.isCounting = false → m.appliesTo .count = false →
        (lastWritten (chainJudging base chain) (only m read) chain).or none = none := by
    intro α m read hm happlies
    rw [Option.or_none]
    refine lastWritten_only_eq_none ?_ read chain
    rw [Judging.kindFor, hm, hother]
    exact happlies
  rw [h.options]
  exact
    { sort := hnone .sort _ rfl rfl
      limit := hnone .limit _ rfl rfl
      skip := hnone .skip _ rfl rfl
      allowDiskUse := hnone .allowDiskUse _ rfl rfl
      batchSize := hnone .batchSize _ rfl rfl
      noCursorTimeout := hnone .noCursorTimeout _ rfl rfl
      returnKey := hnone .returnKey _ rfl rfl
      showRecordId := hnone .showRecordId _ rfl rfl }

/-- Only a find has a projection. -/
theorem projection_aggregate (h : d.FromChain base operation args chain)
    (hkind : d.kind = .aggregate) : d.options.projection = none := by
  have hbase : base = .aggregate := by
    have hk : (reclassify base chain).1 = .aggregate := h.kind.symm.trans hkind
    obtain hsame | ⟨-, mode, hcount⟩ := reclassify_cases base chain
    · rwa [hsame] at hk
    · rw [hcount] at hk
      cases hk
  rw [h.options, hbase]
  rfl

end Descriptor.FromChain

/-! ## Statements -/

theorem exists_of_map_eq_ok {α β ε : Type} {f : α → β} {x : Except ε α} {b : β}
    (h : x.map f = .ok b) : ∃ a, x = .ok a ∧ f a = b :=
  Json.map_eq_ok.1 h

theorem fits_iff_of_find {d : Descriptor} (hcount : d.kind = .count → d.isClientCount = true)
    (hkind : d.kind ≠ .aggregate) :
    d.Fits ↔ ∀ n ∈ d.options.batchSize, n.toInt < Width.words32 := by
  refine ⟨Descriptor.Fits.batchSize, fun hbatch => ?_⟩
  exact
    { batchSize := hbatch
      projection := fun hk hserver => absurd ((hcount hk).symm.trans hserver) nofun
      noCursorTimeout := fun hk => absurd hk hkind
      returnKey := fun hk => absurd hk hkind
      showRecordId := fun hk => absurd hk hkind }

theorem fits_iff_of_count {d : Descriptor} (hkind : d.kind = .count)
    (hserver : d.isClientCount = false) (hbatch : d.options.batchSize = none) :
    d.Fits ↔ d.options.projection = none := by
  have hne : d.kind ≠ .aggregate := by rw [hkind]; nofun
  refine ⟨fun h => h.projection hkind hserver, fun hp => ?_⟩
  exact
    { batchSize := by rw [hbatch]; nofun
      projection := fun _ _ => hp
      noCursorTimeout := fun hk => absurd hk hne
      returnKey := fun hk => absurd hk hne
      showRecordId := fun hk => absurd hk hne }

theorem fits_iff_of_aggregate {d : Descriptor} (hkind : d.kind = .aggregate) :
    d.Fits ↔ (∀ n ∈ d.options.batchSize, n.toInt < Width.words32)
      ∧ d.options.noCursorTimeout = none ∧ d.options.returnKey = none
      ∧ d.options.showRecordId = none := by
  constructor
  · intro h
    exact ⟨h.batchSize, h.noCursorTimeout hkind, h.returnKey hkind, h.showRecordId hkind⟩
  · rintro ⟨hbatch, htimeout, hkey, hrecord⟩
    exact
      { batchSize := hbatch
        projection := fun hk => absurd (hkind.symm.trans hk) nofun
        noCursorTimeout := fun _ => htimeout
        returnKey := fun _ => hkey
        showRecordId := fun _ => hrecord }

/-- A statement is read and handed over, and its descriptor and what is handed over pass a
check. -/
def passes (now : Int64) (statement : String) (check : Descriptor → CarriedOptions → Bool) : Bool :=
  match parseStatement statement with
  | .ok (d, _) =>
      match d.carried? now with
      | some (.ok c) => check d c
      | _ => false
  | .error _ => false

theorem exists_of_passes {now : Int64} {statement : String}
    {check : Descriptor → CarriedOptions → Bool} (h : passes now statement check = true) :
    ∃ d warnings c, parseStatement statement = .ok (d, warnings) ∧ d.carried? now = some (.ok c)
      ∧ check d c = true := by
  unfold passes at h
  split at h
  next d warnings hparse =>
    split at h
    next c hcarried => exact ⟨d, warnings, c, hparse, hcarried, h⟩
    next => cases h
  next => cases h

/-- What is handed over for a statement that reads has each of its options with its value
just if the descriptor fits: no batch size is too large, the server does not count under a
projection, and an aggregation has no option that only a find has. -/
theorem keepsOptions_iff {now : Int64} {statement : String} {d : Descriptor}
    {warnings : List Warning} (hparse : parseStatement statement = .ok (d, warnings))
    {c : CarriedOptions} (hcarried : d.carried? now = some (.ok c)) :
    KeepsOptions now d.options c ↔ d.Fits := by
  obtain ⟨base, operation, args, chain, hd⟩ := exists_fromChain hparse
  have ho := hd.bounded
  have hfind : ∀ {c : CarriedOptions},
      (FindOptions.ofQuery now d.options).map FindOptions.carried = .ok c →
        (KeepsOptions now d.options c ↔ ∀ n ∈ d.options.batchSize, n.toInt < Width.words32) := by
    intro c hc
    obtain ⟨f, hf, rfl⟩ := exists_of_map_eq_ok hc
    exact keepsOptions_find_iff ho hf
  cases hkind : d.kind with
  | find | findOne =>
    simp only [Descriptor.carried?, hkind, Option.some.injEq] at hcarried
    rw [fits_iff_of_find (by simp [hkind]) (by simp [hkind])]
    exact hfind hcarried
  | count =>
    simp only [Descriptor.carried?, hkind] at hcarried
    cases hclient : d.isClientCount with
    | true =>
      simp only [hclient, if_true, Option.some.injEq] at hcarried
      rw [fits_iff_of_find (fun _ => hclient) (by simp [hkind])]
      exact hfind hcarried
    | false =>
      simp only [hclient, Bool.false_eq_true, if_false, Option.some.injEq] at hcarried
      obtain ⟨r, hr, rfl⟩ := exists_of_map_eq_ok hcarried
      have hcount := hd.ofServerCount hkind hclient
      rw [fits_iff_of_count hkind hclient hcount.batchSize]
      exact keepsOptions_count_iff ho hcount hr
  | aggregate =>
    simp only [Descriptor.carried?, hkind, Option.some.injEq] at hcarried
    obtain ⟨own, hown, hcarried⟩ := Json.bind_eq_ok.1 hcarried
    obtain ⟨stages, hstages, hcarried⟩ := Json.bind_eq_ok.1 hcarried
    obtain ⟨a, ha, hcarried⟩ := Json.bind_eq_ok.1 hcarried
    cases hcarried
    rw [fits_iff_of_aggregate hkind]
    exact keepsOptions_aggregate_iff ho (hd.projection_aggregate hkind) hown hstages ha
  | insert | update | delete | distinct => simp [Descriptor.carried?, hkind] at hcarried

/-- The order, the bounds and the batch size of an aggregation arrive. -/
theorem keepsOptions_iff_aggregate :
    ∃ d warnings c,
      parseStatement "db.c.aggregate([{$limit: 9}]).sort({a: 1}).limit(3).batchSize(5)"
          = .ok (d, warnings)
        ∧ d.carried? 0 = some (.ok c)
        ∧ (d.options.sort.isSome ∧ d.options.limit = some 3 ∧ d.options.batchSize = some 5)
        ∧ KeepsOptions 0 d.options c := by
  have hpasses : passes 0 "db.c.aggregate([{$limit: 9}]).sort({a: 1}).limit(3).batchSize(5)"
      (fun d _ => d.kind = .aggregate ∧ (d.options.sort.isSome ∧ d.options.limit = some 3
        ∧ d.options.batchSize = some 5) ∧ d.options.noCursorTimeout = none
        ∧ d.options.returnKey = none ∧ d.options.showRecordId = none) = true := by
    decide +kernel
  obtain ⟨d, warnings, c, hparse, hcarried, hcheck⟩ := exists_of_passes hpasses
  obtain ⟨hkind, hgiven, hflags⟩ := of_decide_eq_true hcheck
  have hbatch : ∀ n ∈ d.options.batchSize, n.toInt < Width.words32 := by
    rw [hgiven.2.2]
    rintro _ ⟨⟩
    decide
  exact ⟨d, warnings, c, hparse, hcarried, hgiven,
    (keepsOptions_iff hparse hcarried).2 ((fits_iff_of_aggregate hkind).2 ⟨hbatch, hflags⟩)⟩

/-- Something is lost of the options of a statement that is read and handed over. -/
def LosesOption (statement : String) : Prop :=
  ∃ d warnings c, parseStatement statement = .ok (d, warnings) ∧ d.carried? 0 = some (.ok c)
    ∧ ¬KeepsOptions 0 d.options c

/-- An option that is given and not carried. -/
def lacks {α β : Type} (given : Option α) (carried : Option β) : Bool :=
  given.isSome && carried.isNone

theorem not_kept_of_lacks {α β : Type} {same : α → β → Prop} {given : Option α}
    {carried : Option β} (h : lacks given carried = true) : ¬Kept same given carried := by
  intro hk
  rw [lacks, Bool.and_eq_true, Option.isNone_iff_eq_none] at h
  rw [h.2] at hk
  simp [eq_none_of_kept hk] at h

theorem losesOption_of_passes {statement : String} (check : Descriptor → CarriedOptions → Bool)
    (hcheck : ∀ d c, check d c = true → ¬KeepsOptions 0 d.options c)
    (h : passes 0 statement check = true) : LosesOption statement := by
  obtain ⟨d, warnings, c, hparse, hcarried, hpassed⟩ := exists_of_passes h
  exact ⟨d, warnings, c, hparse, hcarried, hcheck d c hpassed⟩

/-- A batch size of 33 bits, an option that only a find has, and a projection of what the
server counts do not arrive. -/
theorem losesOption_statements :
    LosesOption "db.c.find().batchSize(4294967296)"
      ∧ LosesOption "db.c.aggregate([]).noCursorTimeout().returnKey(true).showRecordId()"
      ∧ LosesOption "db.c.find({}, {a: 1}).count()" := by
  refine ⟨?batchSize, ?returnKey, ?projection⟩
  case batchSize =>
    refine losesOption_of_passes (fun d c => lacks d.options.batchSize c.batchSize) ?_ ?_
    · exact fun d c hlacks hk => not_kept_of_lacks hlacks hk.batchSize
    · decide +kernel
  case returnKey =>
    refine losesOption_of_passes (fun d c => lacks d.options.returnKey c.returnKey) ?_ ?_
    · exact fun d c hlacks hk => not_kept_of_lacks hlacks hk.returnKey
    · decide +kernel
  case projection =>
    refine losesOption_of_passes (fun d c => lacks d.options.projection c.projection) ?_ ?_
    · exact fun d c hlacks hk => not_kept_of_lacks hlacks hk.projection
    · decide +kernel

end ShellQuery

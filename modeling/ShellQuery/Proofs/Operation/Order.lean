import Mathlib.Data.List.Sort
import Mathlib.Logic.Equiv.Basic
import ShellQuery.Proofs.Operation.Counting
import ShellQuery.Proofs.Request.Carried

/-!
# The order of a chain

A chain may be written in another order without a change to what it means, as long as
calls that interfere keep theirs.  Calls interfere when they write the same option or
decide both about the kind.

What a descriptor takes from a chain it takes from calls that interfere with one another:
an option from the calls of its method, the processing mode from `forEach` and `map`, the
kind from the calls that count.  Such a part of the chain is the same in both orders
(`Reordering.filterMap_eq`), and that is the whole argument.

For an aggregation the stages behind those of the data have an order of their own,
whatever the order of the chain (`pipelineOfQuery_ofCalls`).
-/

namespace ShellQuery

open Mapping

/-! ## Reorderings -/

/-- A call with a function for each document. -/
def CursorCall.Processes (call : CursorCall) : Prop :=
  call.method = "forEach" ∨ call.method = "map"

/-- Calls that write the same option, or that decide both about the kind. -/
def CursorCall.Interferes (a b : CursorCall) : Prop :=
  a.method = b.method ∨ a.Processes ∧ b.Processes ∨ a.Counts ∧ b.Counts

instance (a b : CursorCall) : Decidable (a.Interferes b) :=
  inferInstanceAs (Decidable (_ ∨ (_ ∨ _) ∧ (_ ∨ _) ∨ _))

/-- The places of the calls of a chain in another chain.  Of two calls that interfere the
first one stays the first. -/
structure Reordering (chain chain' : List CursorCall) where
  place : Fin chain.length ≃ Fin chain'.length
  get_place : ∀ i, chain'.get (place i) = chain.get i
  place_lt : ∀ i j, i < j → (chain.get i).Interferes (chain.get j) → place i < place j

namespace Reordering

variable {chain chain' : List CursorCall}

/-- The calls with a property are at increasing places, when all of them interfere. -/
theorem filter_eq (r : Reordering chain chain') {p : CursorCall → Bool}
    (hp : ∀ a b, p a = true → p b = true → a.Interferes b) : chain'.filter p = chain.filter p := by
  have hsorted : ∀ l : List CursorCall,
      ((List.finRange l.length).filter fun i => p (l.get i)).Pairwise (· < ·) := fun l =>
    (List.sortedLT_finRange l.length).pairwise.filter _
  have hplaces : ((List.finRange chain.length).filter fun i => p (chain.get i)).map r.place
      = (List.finRange chain'.length).filter fun i => p (chain'.get i) := by
    refine List.Pairwise.eq_of_mem_iff (r := (· < ·)) ?_ (hsorted chain') fun i => ?_
    · rw [List.pairwise_map]
      refine (hsorted chain).imp_of_mem fun {i j} hi hj hij => ?_
      simp only [List.mem_filter] at hi hj
      exact r.place_lt i j hij (hp _ _ hi.2 hj.2)
    · simp only [List.mem_map, List.mem_filter, List.mem_finRange, true_and]
      constructor
      · rintro ⟨j, hj, rfl⟩
        rwa [r.get_place]
      · intro hi
        refine ⟨r.place.symm i, ?_, r.place.apply_symm_apply i⟩
        rwa [← r.get_place, r.place.apply_symm_apply]
  have hfilter : ∀ l : List CursorCall,
      l.filter p = ((List.finRange l.length).filter fun i => p (l.get i)).map l.get := by
    intro l
    conv => lhs; rw [← List.map_get_finRange l, List.filter_map]
    rfl
  rw [hfilter, hfilter, ← hplaces, List.map_map]
  exact List.map_congr_left fun i _ => r.get_place i

theorem filterMap_filter_isSome {α β : Type} (f : α → Option β) (l : List α) :
    (l.filter fun a => (f a).isSome).filterMap f = l.filterMap f := by
  induction l with
  | nil => rfl
  | cons a rest ih =>
    cases hf : f a with
    | none => simp [hf, ih]
    | some b => simp [hf, ih]

/-- What is taken from calls that all interfere is the same in both orders. -/
theorem filterMap_eq (r : Reordering chain chain') {α : Type} {f : CursorCall → Option α}
    (hf : ∀ a b, (f a).isSome = true → (f b).isSome = true → a.Interferes b) :
    chain'.filterMap f = chain.filterMap f := by
  rw [← filterMap_filter_isSome f chain', r.filter_eq hf, filterMap_filter_isSome]

theorem perm (r : Reordering chain chain') : chain'.Perm chain := by
  have hplaces : ((List.finRange chain.length).map r.place).Perm (List.finRange chain'.length) := by
    rw [List.perm_ext_iff_of_nodup ((List.nodup_finRange _).map r.place.injective)
      (List.nodup_finRange _)]
    intro i
    simp only [List.mem_map, List.mem_finRange, true_and, iff_true]
    exact ⟨r.place.symm i, r.place.apply_symm_apply i⟩
  have hcalls : ((List.finRange chain.length).map r.place).map chain'.get = chain := by
    rw [List.map_map]
    conv => rhs; rw [← List.map_get_finRange chain]
    exact List.map_congr_left fun i _ => r.get_place i
  have hperm := hplaces.map chain'.get
  rw [hcalls, List.map_get_finRange] at hperm
  exact hperm.symm

/-! ## Kinds, options and warnings -/

theorem reclassify_eq (r : Reordering chain chain') (base : OperationKind) :
    reclassify base chain' = reclassify base chain := by
  have hcounts : ∀ a : CursorCall, (countModeOf? a).isSome = true → a.Counts := fun a ha => by
    obtain ⟨mode, hmode⟩ := Option.isSome_iff_exists.1 ha
    exact counts_of_countModeOf? hmode
  have hmodes : chain'.filterMap countModeOf? = chain.filterMap countModeOf? :=
    r.filterMap_eq fun a b ha hb => .inr (.inr ⟨hcounts a ha, hcounts b hb⟩)
  rw [reclassify, reclassify, hmodes]

/-- A call with a value for an option of one method is a call of that method. -/
theorem method_of_written {α : Type} {j : Judging} {m : CursorMethod} {read : String → Option α}
    {call : CursorCall} (h : (written j (only m read) call).isSome = true) :
    call.method = m.name := by
  obtain ⟨value, hvalue⟩ := Option.isSome_iff_exists.1 h
  rw [written, Option.ite_none_right_eq_some] at hvalue
  obtain ⟨m', hm', hread⟩ := Option.bind_eq_some_iff.1 hvalue.2
  rw [only, Option.ite_none_right_eq_some] at hread
  rw [← hread.1, CursorMethod.name_of_ofName? hm']

theorem processes_of_written {j : Judging} {call : CursorCall}
    (h : (written j modeOf? call).isSome = true) : call.Processes := by
  obtain ⟨value, hvalue⟩ := Option.isSome_iff_exists.1 h
  rw [written, Option.ite_none_right_eq_some] at hvalue
  obtain ⟨m, hm, hread⟩ := Option.bind_eq_some_iff.1 hvalue.2
  have hname := CursorMethod.name_of_ofName? hm
  cases m
  case forEach => exact .inl hname.symm
  case map => exact .inr hname.symm
  all_goals cases hread

theorem lastWritten_only (r : Reordering chain chain') (j : Judging) {α : Type} (m : CursorMethod)
    (read : String → Option α) :
    lastWritten j (only m read) chain' = lastWritten j (only m read) chain := by
  rw [lastWritten, lastWritten, r.filterMap_eq fun a b ha hb => .inl ?_]
  rw [method_of_written ha, method_of_written hb]

theorem lastWritten_modeOf? (r : Reordering chain chain') (j : Judging) :
    lastWritten j modeOf? chain' = lastWritten j modeOf? chain := by
  rw [lastWritten, lastWritten, r.filterMap_eq fun a b ha hb => .inr (.inl ?_)]
  exact ⟨processes_of_written ha, processes_of_written hb⟩

theorem optionTable_eq (r : Reordering chain chain') (j : Judging) (start : QueryOptions) :
    optionTable (fun _ read => lastWritten j read chain') start
      = optionTable (fun _ read => lastWritten j read chain) start := by
  simp only [optionTable, r.lastWritten_only, r.lastWritten_modeOf?]

end Reordering

/-! ## Descriptors -/

/-- Two descriptors that differ in the calls that they keep, and the requests that are built
from them. -/
structure Descriptor.SameRequests (d d' : Descriptor) : Prop where
  collection : d'.collection = d.collection
  kind : d'.kind = d.kind
  data : d'.data = d.data
  options : d'.options = d.options
  find : ∀ now, FindOptions.ofQuery now d'.options = FindOptions.ofQuery now d.options
  count : ∀ now, ReadOptions.ofQuery now d'.options = ReadOptions.ofQuery now d.options
  aggregate : ∀ now, AggregateOptions.ofQuery now d'.options = AggregateOptions.ofQuery now d.options
  pipeline : ∀ now, pipelineOfQuery now d'.data d'.options = pipelineOfQuery now d.data d.options

/-- Two outcomes of a base call that differ in the order of their calls and warnings. -/
inductive SameUpToOrder (chain chain' : List CursorCall) :
    Except ParseError (Descriptor × List Warning) →
    Except ParseError (Descriptor × List Warning) → Prop
  | accepted {d d' : Descriptor} {warnings warnings' : List Warning} (h : d.SameRequests d')
      (hcalls : d.calls = chain) (hcalls' : d'.calls = chain') (hwarnings : warnings'.Perm warnings) :
      SameUpToOrder chain chain' (.ok (d, warnings)) (.ok (d', warnings'))
  | rejected (e : ParseError) : SameUpToOrder chain chain' (.error e) (.error e)

theorem sameUpToOrder_ofCalls {chain chain' : List CursorCall} (r : Reordering chain chain')
    (call : BaseCall) (args : List Json) :
    SameUpToOrder chain chain' (Descriptor.ofCalls call chain args)
      (Descriptor.ofCalls call chain' args) := by
  cases hbase : OperationKind.ofOperation? call.operation with
  | none =>
    rw [Descriptor.ofCalls, Descriptor.ofCalls, hbase]
    exact .rejected _
  | some base =>
    have hj : chainJudging base chain' = chainJudging base chain := by
      rw [chainJudging, chainJudging, r.reclassify_eq]
    rw [ofCalls_eq hbase, ofCalls_eq hbase, hj, r.reclassify_eq, r.optionTable_eq]
    refine .accepted ⟨rfl, rfl, rfl, rfl, ?_, ?_, ?_, ?_⟩ rfl rfl (r.perm.filterMap _)
    all_goals exact fun now => rfl

/-! ## Stages behind those of the data -/

/-- The last accepted call of a method. -/
def lastAccepted? (j : Judging) (m : CursorMethod) (chain : List CursorCall) : Option CursorCall :=
  (chain.filter fun call => call.method == m.name && accepts j call).getLast?

theorem lastAccepted?_cons (j : Judging) (m : CursorMethod) (call : CursorCall)
    (rest : List CursorCall) :
    lastAccepted? j m (call :: rest) = (lastAccepted? j m rest).or
      (if call.method == m.name && accepts j call then some call else none) := by
  rw [lastAccepted?, lastAccepted?, List.filter_cons]
  split
  next =>
    rw [List.getLast?_cons]
    cases (rest.filter fun call => call.method == m.name && accepts j call).getLast? <;> rfl
  next => rw [Option.or_none]

theorem usable_of_lastAccepted? {j : Judging} {m : CursorMethod} {chain : List CursorCall}
    {call : CursorCall} (h : lastAccepted? j m chain = some call) : usable call.args m = true := by
  have hmem := List.mem_of_getLast? h
  simp only [List.mem_filter, Bool.and_eq_true, beq_iff_eq] at hmem
  obtain ⟨-, hmethod, haccepts⟩ := hmem
  rw [accepts, hmethod, CursorMethod.ofName?_name, Bool.and_eq_true] at haccepts
  exact haccepts.2

theorem written_only (j : Judging) (m : CursorMethod) {α : Type} (read : String → Option α)
    (call : CursorCall) :
    written j (only m read) call
      = (if call.method == m.name && accepts j call then some call else none).bind
          fun c => read c.args := by
  rw [written]
  cases accepts j call with
  | false => simp
  | true =>
    by_cases hm : call.method = m.name
    · simp [hm, CursorMethod.ofName?_name, only]
    · have hnone : (CursorMethod.ofName? call.method).bind (only m read · call.args) = none := by
        refine Option.bind_eq_none_iff.2 fun m' hm' => if_neg ?_
        rintro rfl
        exact hm (CursorMethod.name_of_ofName? hm').symm
      simp [hm, hnone]

/-- When a method needs its value to be accepted, the last accepted call has it. -/
theorem lastWritten_only_eq (j : Judging) (m : CursorMethod) {α : Type} (read : String → Option α)
    (hread : ∀ args, usable args m = true → (read args).isSome = true) (chain : List CursorCall) :
    lastWritten j (only m read) chain = (lastAccepted? j m chain).bind fun c => read c.args := by
  induction chain with
  | nil => rfl
  | cons call rest ih =>
    rw [lastWritten_cons, ih, lastAccepted?_cons, written_only]
    cases hl : lastAccepted? j m rest with
    | none => rfl
    | some last =>
      obtain ⟨value, hvalue⟩ := Option.isSome_iff_exists.1 (hread _ (usable_of_lastAccepted? hl))
      simp only [Option.bind_some, hvalue, Option.some_or]

/-- The pipeline of an aggregation: the stages of its first argument, and behind them the
last accepted order, number of documents to pass over and largest number. -/
theorem pipelineOfQuery_ofCalls {call : BaseCall}
    (h : OperationKind.ofOperation? call.operation = some .aggregate) (chain : List CursorCall)
    (args : List Json) :
    let last := fun m => lastAccepted? ⟨.aggregate, .aggregate⟩ m chain
    ∃ d warnings, Descriptor.ofCalls call chain args = .ok (d, warnings)
      ∧ ∀ now, pipelineOfQuery now d.data d.options = (do
        let own ← Bson.documentsOfJson now (argumentOr args 0 (.array []))
        let sort ← mapPresent (Bson.documentOfJson now)
          ((last .sort).bind fun c => objectArgument? c.args)
        .ok (own ++ stagesBehind sort ((last .skip).bind fun c => integerArgument? c.args)
          ((last .limit).bind fun c => integerArgument? c.args))) := by
  intro last
  have hsort := lastWritten_only_eq ⟨.aggregate, .aggregate⟩ .sort objectArgument?
    (fun _ h => h) chain
  have hinteger : ∀ args : String, ∀ bound, (integerArgument? args).any bound = true →
      (integerArgument? args).isSome = true := fun args bound h => by
    obtain ⟨n, hn, -⟩ := (Option.any_eq_true _ _).1 h
    rw [hn]
    rfl
  have hskip := lastWritten_only_eq ⟨.aggregate, .aggregate⟩ .skip integerArgument?
    (fun args h => hinteger args _ h) chain
  have hlimit := lastWritten_only_eq ⟨.aggregate, .aggregate⟩ .limit integerArgument?
    (fun _ h => h) chain
  refine ⟨_, _, ofCalls_eq h chain args, fun now => ?_⟩
  have hj : chainJudging .aggregate chain = ⟨.aggregate, .aggregate⟩ := rfl
  simp only [pipelineOfQuery, optionTable, hj, hsort, hskip, hlimit, initialOptions, Option.or_none,
    stagesBehind, List.append_assoc, shapeData]
  rfl

/-- A chain in another order, in which calls that interfere keep theirs, gives the same but
for the order of the calls and of the warnings: the same kind, data and options, and so the
same requests, or the same error.  An aggregation has the stages of its first argument,
and behind them the last accepted order, number of documents to pass over and largest
number. -/
theorem ofCalls_reordering {chain chain' : List CursorCall} (r : Reordering chain chain')
    (call : BaseCall) (args : List Json) :
    SameUpToOrder chain chain' (Descriptor.ofCalls call chain args)
      (Descriptor.ofCalls call chain' args)
    ∧ (OperationKind.ofOperation? call.operation = some .aggregate →
      let last := fun m => lastAccepted? ⟨.aggregate, .aggregate⟩ m chain
      ∃ d warnings, Descriptor.ofCalls call chain args = .ok (d, warnings)
        ∧ ∀ now, pipelineOfQuery now d.data d.options = (do
          let own ← Bson.documentsOfJson now (argumentOr args 0 (.array []))
          let sort ← mapPresent (Bson.documentOfJson now)
            ((last .sort).bind fun c => objectArgument? c.args)
          .ok (own ++ stagesBehind sort ((last .skip).bind fun c => integerArgument? c.args)
            ((last .limit).bind fun c => integerArgument? c.args)))) :=
  ⟨sameUpToOrder_ofCalls r call args, fun h => pipelineOfQuery_ofCalls h chain args⟩

/-- A skip between two limits may stand in front of them, and the last limit is the stage. -/
theorem ofCalls_reordering_limit :
    OperationKind.ofOperation? "aggregate" = some .aggregate
    ∧ (∃ _ : Reordering [⟨"limit", "5"⟩, ⟨"skip", "2"⟩, ⟨"limit", "7"⟩]
        [⟨"skip", "2"⟩, ⟨"limit", "5"⟩, ⟨"limit", "7"⟩],
      SameUpToOrder [⟨"limit", "5"⟩, ⟨"skip", "2"⟩, ⟨"limit", "7"⟩]
        [⟨"skip", "2"⟩, ⟨"limit", "5"⟩, ⟨"limit", "7"⟩]
        (Descriptor.ofCalls ⟨"c", "aggregate", ""⟩
          [⟨"limit", "5"⟩, ⟨"skip", "2"⟩, ⟨"limit", "7"⟩] [])
        (Descriptor.ofCalls ⟨"c", "aggregate", ""⟩
          [⟨"skip", "2"⟩, ⟨"limit", "5"⟩, ⟨"limit", "7"⟩] []))
    ∧ ∃ d warnings, Descriptor.ofCalls ⟨"c", "aggregate", ""⟩
          [⟨"limit", "5"⟩, ⟨"skip", "2"⟩, ⟨"limit", "7"⟩] [] = .ok (d, warnings)
        ∧ pipelineOfQuery 0 d.data d.options
          = .ok [[("$skip", .int64 2)], [("$limit", .int64 7)]] := by
  let r : Reordering [⟨"limit", "5"⟩, ⟨"skip", "2"⟩, ⟨"limit", "7"⟩]
      [⟨"skip", "2"⟩, ⟨"limit", "5"⟩, ⟨"limit", "7"⟩] :=
    { place := Equiv.swap (0 : Fin 3) 1
      get_place := by decide
      place_lt := by decide }
  obtain ⟨hsame, hstages⟩ := ofCalls_reordering r ⟨"c", "aggregate", ""⟩ []
  obtain ⟨d, warnings, hcalls, hpipeline⟩ := hstages rfl
  have hsort : lastAccepted? ⟨.aggregate, .aggregate⟩ .sort
      [⟨"limit", "5"⟩, ⟨"skip", "2"⟩, ⟨"limit", "7"⟩] = none := by decide +kernel
  have hskip : (lastAccepted? ⟨.aggregate, .aggregate⟩ .skip
      [⟨"limit", "5"⟩, ⟨"skip", "2"⟩, ⟨"limit", "7"⟩]).bind (fun c => integerArgument? c.args)
        = some 2 := by decide +kernel
  have hlimit : (lastAccepted? ⟨.aggregate, .aggregate⟩ .limit
      [⟨"limit", "5"⟩, ⟨"skip", "2"⟩, ⟨"limit", "7"⟩]).bind (fun c => integerArgument? c.args)
        = some 7 := by decide +kernel
  refine ⟨rfl, ⟨r, hsame⟩, d, warnings, hcalls, ?_⟩
  rw [hpipeline 0]
  simp only [hsort, hskip, hlimit]
  rfl

end ShellQuery

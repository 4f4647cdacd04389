import ShellQuery.Proofs.Request.Carried

/-!
# Options that belong to their statement

The options of a statement come from four sources: the name of its operation, the values
of its arguments, the chain as a whole and the calls of the chain.  The first two go by the
kind of the base call, and a call of the chain goes by the kind that the chain results in.

`optionRows` tells for each option the kinds that it belongs to.  What the sources write is
compared with it: `allows_of_written` for the calls of the chain, and one lemma for each
of the other sources.  The two kinds differ only for a find that becomes a count, and so it
is only there that an option can be out of place: the projection, when the server counts
(`onlyRelevant_iff`).
-/

namespace ShellQuery

open Mapping

/-! ## The table -/

/-- An option, and the kinds of operations that it belongs to. -/
structure OptionRow where
  name : String
  given : QueryOptions → Bool
  kinds : List OperationKind

/-- The options that calls of a chain write. -/
def chainRows : List OptionRow :=
  [ ⟨"sort", fun o => o.sort.isSome, [.find, .findOne, .aggregate]⟩,
    ⟨"limit", fun o => o.limit.isSome, [.find, .findOne, .aggregate]⟩,
    ⟨"skip", fun o => o.skip.isSome, [.find, .findOne, .aggregate]⟩,
    ⟨"hint", fun o => o.hint.isSome, [.find, .findOne, .count, .aggregate]⟩,
    ⟨"comment", fun o => o.comment.isSome, [.find, .findOne, .count, .aggregate]⟩,
    ⟨"maxTimeMS", fun o => o.maxTimeMS.isSome, [.find, .findOne, .count, .aggregate]⟩,
    ⟨"collation", fun o => o.collation.isSome, [.find, .findOne, .count, .aggregate]⟩,
    ⟨"readConcern", fun o => o.readConcern.isSome, [.find, .findOne, .count, .aggregate]⟩,
    ⟨"readPreference", fun o => o.readPreference.isSome, [.find, .findOne, .count, .aggregate]⟩,
    ⟨"allowDiskUse", fun o => o.allowDiskUse.isSome, [.find, .aggregate]⟩,
    ⟨"noCursorTimeout", fun o => o.noCursorTimeout.isSome, [.find, .aggregate]⟩,
    ⟨"returnKey", fun o => o.returnKey.isSome, [.find, .aggregate]⟩,
    ⟨"showRecordId", fun o => o.showRecordId.isSome, [.find, .aggregate]⟩,
    ⟨"batchSize", fun o => o.batchSize.isSome, [.find, .aggregate]⟩,
    ⟨"pretty", fun o => o.pretty.isSome, OperationKind.all⟩,
    ⟨"forEach", fun o => o.forEach.isSome, [.find, .aggregate]⟩,
    ⟨"map", fun o => o.map.isSome, [.find, .aggregate]⟩,
    ⟨"processingMode", fun o => o.processingMode.isSome, [.find, .aggregate]⟩ ]

/-- The options of the table, and those that have another source than a call of the chain. -/
def optionRows : List OptionRow :=
  chainRows ++
    [ ⟨"many", fun o => o.many, [.insert, .update, .delete]⟩,
      ⟨"countMode", fun o => o.countMode.isSome, [.count]⟩,
      ⟨"projection", fun o => o.projection.isSome, [.find, .findOne]⟩,
      ⟨"upsert", fun o => o.upsert.isSome, [.update]⟩ ]

namespace Descriptor

/-- An option of some kinds has a place here.  A count by the client also has what a find
has. -/
def Allows (d : Descriptor) (kinds : List OperationKind) : Prop :=
  d.kind ∈ kinds ∨ d.isClientCount = true ∧ .find ∈ kinds

instance (d : Descriptor) (kinds : List OperationKind) : Decidable (d.Allows kinds) :=
  inferInstanceAs (Decidable (_ ∨ _))

/-- Every option that is given has a place here. -/
def OnlyRelevant (d : Descriptor) : Prop :=
  ∀ row ∈ optionRows, row.given d.options = true → d.Allows row.kinds

instance (d : Descriptor) : Decidable d.OnlyRelevant :=
  inferInstanceAs (Decidable (∀ row ∈ optionRows, _))

end Descriptor

/-! ## The sources of options -/

/-- Only operations that change documents have a name for many of them. -/
theorem mem_of_isMany {operation : String} {base : OperationKind}
    (h : OperationKind.ofOperation? operation = some base) (hmany : isMany operation = true) :
    base ∈ [.insert, .update, .delete] := by
  unfold OperationKind.ofOperation? at h
  split at h
  all_goals cases h
  all_goals first
    | decide
    | exact absurd hmany (by decide)

theorem mem_of_projectionOf? {args : List Json} {base : OperationKind}
    (h : (projectionOf? args base).isSome = true) : base ∈ [.find, .findOne] := by
  cases base
  case find | findOne => decide
  all_goals cases h

theorem eq_update_of_upsertOf? {args : List Json} {base : OperationKind}
    (h : (upsertOf? args base).isSome = true) : base = .update := by
  cases base
  case update => rfl
  all_goals cases h

namespace Descriptor.FromChain

variable {d : Descriptor} {base : OperationKind} {operation : String} {args : List Json}
  {chain : List CursorCall}

/-- The kind of a descriptor is that of the base call, or a count of a find, and the count
mode is set for the latter. -/
theorem kind_cases (h : d.FromChain base operation args chain) :
    d.kind = base ∧ d.options.countMode = none
      ∨ base = .find ∧ d.kind = .count ∧ ∃ mode, d.options.countMode = some mode := by
  rw [h.kind, h.options]
  obtain hsame | ⟨hfind, mode, hcount⟩ := reclassify_cases base chain
  · exact .inl ⟨by rw [hsame], by simp only [optionTable, initialOptions, hsame]⟩
  · exact .inr ⟨hfind, by rw [hcount], mode, by simp only [optionTable, initialOptions, hcount]⟩

/-- The kind by which the calls of the chain are judged: that of the descriptor, or a find
for a count by the client. -/
theorem allows_of_other (h : d.FromChain base operation args chain) {kinds : List OperationKind}
    (hk : (chainJudging base chain).other ∈ kinds) : d.Allows kinds := by
  rw [chainJudging, judging] at hk
  dsimp only at hk
  split at hk
  next hclient =>
    refine .inr ⟨?_, hk⟩
    have hmode : d.options.countMode = some .client := by
      rw [h.options]
      exact hclient
    obtain ⟨-, hnone⟩ | ⟨-, hkind, -⟩ := h.kind_cases
    · rw [hnone] at hmode
      cases hmode
    · simp [isClientCount, hkind, hmode]
  next =>
    rw [← h.kind] at hk
    exact .inl hk

/-- A method that has written an option applies. -/
theorem allows_of_written (h : d.FromChain base operation args chain) {m : CursorMethod}
    (hm : m.isCounting = false) {α : Type} {read : String → Option α}
    (hw : ((lastWritten (chainJudging base chain) (only m read) chain).or none).isSome = true) :
    d.Allows m.kinds := by
  obtain ⟨value, hvalue⟩ := Option.isSome_iff_exists.1 hw
  rw [Option.or_none] at hvalue
  obtain ⟨happlies, -⟩ := exists_of_lastWritten_only hvalue
  rw [Judging.kindFor, hm, if_neg Bool.false_ne_true, CursorMethod.appliesTo,
    List.contains_iff_mem] at happlies
  exact h.allows_of_other happlies

theorem allows_of_mode (h : d.FromChain base operation args chain)
    (hw : d.options.processingMode.isSome = true) : d.Allows [.find, .aggregate] := by
  rw [h.options] at hw
  obtain ⟨mode, hmode⟩ := Option.isSome_iff_exists.1 hw
  obtain ⟨call, -, m, -, happlies, -, hread⟩ :=
    exists_of_lastWritten ((Option.or_none).symm.trans hmode)
  cases m
  case forEach | map =>
    rw [CursorMethod.appliesTo, List.contains_iff_mem] at happlies
    exact h.allows_of_other happlies
  all_goals cases hread

/-- Only a find changes its kind. -/
theorem allows_of_base (h : d.FromChain base operation args chain) {kinds : List OperationKind}
    (hb : base ∈ kinds) (hne : base ≠ .find) : d.Allows kinds := by
  obtain ⟨hkind, -⟩ | ⟨hfind, -⟩ := h.kind_cases
  · exact .inl (hkind ▸ hb)
  · exact absurd hfind hne

theorem allows_of_countMode (h : d.FromChain base operation args chain)
    (hmode : d.options.countMode.isSome = true) : d.Allows [.count] := by
  obtain ⟨-, hnone⟩ | ⟨-, hkind, -⟩ := h.kind_cases
  · rw [hnone] at hmode
    cases hmode
  · exact .inl (by simp [hkind])

/-- A projection has a place unless the server counts. -/
theorem allows_of_projection (h : d.FromChain base operation args chain)
    (hp : d.options.projection.isSome = true) :
    d.Allows [.find, .findOne] ∨ d.kind = .count ∧ d.isClientCount = false := by
  rw [h.options] at hp
  have hbase := mem_of_projectionOf? hp
  obtain ⟨hkind, -⟩ | ⟨-, hkind, -⟩ := h.kind_cases
  · exact .inl (.inl (hkind ▸ hbase))
  · cases hclient : d.isClientCount with
    | true => exact .inl (.inr ⟨hclient, by decide⟩)
    | false => exact .inr ⟨hkind, rfl⟩

/-! ## All options -/

theorem allows_chainRows (h : d.FromChain base operation args chain) :
    ∀ row ∈ chainRows, row.given d.options = true → d.Allows row.kinds := by
  have hmode := h.allows_of_mode
  rw [h.options] at hmode ⊢
  simp only [chainRows, List.forall_mem_cons, List.not_mem_nil, false_imp_iff, implies_true,
    and_true]
  exact ⟨h.allows_of_written (m := .sort) rfl, h.allows_of_written (m := .limit) rfl,
    h.allows_of_written (m := .skip) rfl, h.allows_of_written (m := .hint) rfl,
    h.allows_of_written (m := .comment) rfl, h.allows_of_written (m := .maxTimeMS) rfl,
    h.allows_of_written (m := .collation) rfl, h.allows_of_written (m := .readConcern) rfl,
    h.allows_of_written (m := .readPref) rfl, h.allows_of_written (m := .allowDiskUse) rfl,
    h.allows_of_written (m := .noCursorTimeout) rfl, h.allows_of_written (m := .returnKey) rfl,
    h.allows_of_written (m := .showRecordId) rfl, h.allows_of_written (m := .batchSize) rfl,
    h.allows_of_written (m := .pretty) rfl, h.allows_of_written (m := .forEach) rfl,
    h.allows_of_written (m := .map) rfl, hmode⟩

theorem allows_optionRows (h : d.FromChain base operation args chain)
    (hbase : OperationKind.ofOperation? operation = some base) :
    ∀ row ∈ optionRows, row.given d.options = true →
      d.Allows row.kinds ∨ row.name = "projection" ∧ d.kind = .count ∧ d.isClientCount = false
        ∧ d.options.projection ≠ none := by
  rw [optionRows, List.forall_mem_append]
  refine ⟨fun row hrow hgiven => .inl (h.allows_chainRows row hrow hgiven), ?_⟩
  simp only [List.forall_mem_cons, List.not_mem_nil, false_imp_iff, implies_true, and_true]
  refine ⟨fun hmany => .inl ?_, fun hmode => .inl (h.allows_of_countMode hmode), fun hp => ?_,
    fun hupsert => .inl ?_⟩
  · rw [h.options] at hmany
    have hmem := mem_of_isMany hbase hmany
    exact h.allows_of_base hmem (by rintro rfl; revert hmem; decide)
  · obtain hallows | ⟨hkind, hserver⟩ := h.allows_of_projection hp
    · exact .inl hallows
    · exact .inr ⟨trivial, hkind, hserver, Option.isSome_iff_ne_none.1 hp⟩
  · rw [h.options] at hupsert
    have hupdate := eq_update_of_upsertOf? hupsert
    exact h.allows_of_base (by simp [hupdate]) (by simp [hupdate])

end Descriptor.FromChain

/-- Of an accepted statement every option but the projection belongs to its kind, and
numbers with a bound keep to it.  The projection belongs to it too, unless the statement is
a find that the server counts. -/
theorem onlyRelevant_iff {statement : String} {d : Descriptor} {warnings : List Warning}
    (h : parseStatement statement = .ok (d, warnings)) :
    d.options.InRange
      ∧ (∀ row ∈ optionRows, row.given d.options = true →
          d.Allows row.kinds ∨ row.name = "projection")
      ∧ (d.OnlyRelevant
          ↔ (d.kind = .count → d.isClientCount = false → d.options.projection = none)) := by
  obtain ⟨call, base, chain, args, hbase, hcalls⟩ := exists_of_parseStatement h
  have hd := fromChain_of_ofCalls hbase hcalls
  have hrows := hd.allows_optionRows hbase
  refine ⟨hd.inRange, fun row hrow hgiven => ?_, fun hrelevant hkind hserver => ?_,
    fun hnone row hrow hgiven => ?_⟩
  · exact (hrows row hrow hgiven).imp_right And.left
  · cases hp : d.options.projection with
    | none => rfl
    | some value =>
      have hallows : d.Allows [.find, .findOne] :=
        hrelevant ⟨"projection", fun o => o.projection.isSome, [.find, .findOne]⟩
          (by simp [optionRows]) (by simp [hp])
      obtain hmem | ⟨hclient, -⟩ := hallows
      · simp [hkind] at hmem
      · rw [hserver] at hclient
        cases hclient
  · obtain hallows | ⟨-, hkind, hserver, hp⟩ := hrows row hrow hgiven
    · exact hallows
    · exact absurd (hnone hkind hserver) hp

/-- A statement is accepted, and its descriptor passes a check. -/
def readsAs (statement : String) (check : Descriptor → Bool) : Bool :=
  match parseStatement statement with
  | .ok (d, _) => check d
  | .error _ => false

theorem exists_of_readsAs {statement : String} {check : Descriptor → Bool}
    (h : readsAs statement check = true) :
    ∃ d warnings, parseStatement statement = .ok (d, warnings) ∧ check d = true := by
  unfold readsAs at h
  split at h
  next d warnings hparse => exact ⟨d, warnings, hparse, h⟩
  next => cases h

/-- A count by the client keeps the projection and the batch size of its find. -/
theorem onlyRelevant_iff_size :
    ∃ d warnings,
      parseStatement "db.c.find(\x7b\x7d, \x7ba: 1\x7d).batchSize(5).size()" = .ok (d, warnings)
        ∧ d.isClientCount = true ∧ d.options.projection ≠ none ∧ d.options.batchSize = some 5
        ∧ d.OnlyRelevant := by
  have hreads : readsAs "db.c.find(\x7b\x7d, \x7ba: 1\x7d).batchSize(5).size()"
      (fun d => d.isClientCount && d.options.projection.isSome && d.options.batchSize == some 5)
        = true := by
    decide +kernel
  obtain ⟨d, warnings, hparse, hcheck⟩ := exists_of_readsAs hreads
  simp only [Bool.and_eq_true, beq_iff_eq] at hcheck
  obtain ⟨⟨hclient, hp⟩, hbatch⟩ := hcheck
  refine ⟨d, warnings, hparse, hclient, Option.isSome_iff_ne_none.1 hp, hbatch, ?_⟩
  refine (onlyRelevant_iff hparse).2.2.2 fun _ hserver => ?_
  rw [hclient] at hserver
  cases hserver

/-- A count by the server is left with the projection of its find. -/
theorem not_onlyRelevant_count :
    ∃ d warnings, parseStatement "db.c.find(\x7b\x7d, \x7ba: 1\x7d).count()" = .ok (d, warnings)
      ∧ ¬d.OnlyRelevant := by
  have hreads : readsAs "db.c.find(\x7b\x7d, \x7ba: 1\x7d).count()" (fun d => ¬d.OnlyRelevant)
      = true := by
    decide +kernel
  obtain ⟨d, warnings, hparse, hcheck⟩ := exists_of_readsAs hreads
  exact ⟨d, warnings, hparse, of_decide_eq_true hcheck⟩

end ShellQuery

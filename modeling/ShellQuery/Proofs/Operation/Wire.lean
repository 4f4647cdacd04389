import Mathlib.Data.List.Forall2
import Mathlib.Data.List.Nodup
import ShellQuery.Operation.Wire
import ShellQuery.Proofs.Statement.Relevant

/-!
# Descriptors read back

A descriptor is read back from the object that is written for it, with all its options,
exactly if none of the options that may be any value is `null` (`wire_roundTrip`).  On the
wire such an option and an absent one look the same once they are read, and no statement
gives one.

Writer and reader meet in two tables, the rows that are written and the fields that are
read.  `RowFits` says that a row belongs to a field.  From this alone the members of an
object pass the checks of the reader (`source_presentRows`), and each field has the value of
its row (`find?_presentRows`).  What is left is one law for each type of value (`Reads`).
-/

namespace ShellQuery

open Mapping

namespace Decode

/-! ## Values -/

/-- What an encoder writes is read as the value that it was written for, and it is not what
stands for an absent value. -/
structure Reads {α : Type} (decoder : Decoder α) (encode : α → Json) : Prop where
  read : ∀ a, decoder (encode a) = .ok a
  ne_null : ∀ a, encode a ≠ .null

theorem reads_string : Reads string .string where
  read := fun _ => rfl
  ne_null := by
    intro s h
    cases h

theorem reads_bool : Reads bool .bool where
  read := fun _ => rfl
  ne_null := by
    intro b h
    cases h

theorem reads_int64 : Reads int64 Wire.ofInt64 where
  read := by
    intro n
    have hrange :
        (decide (Width.int64Min ≤ n.toInt) && decide (n.toInt ≤ Width.int64Max)) = true :=
      Width.isInt64_toInt n
    rw [Wire.ofInt64, Json.int, int64, integer, if_pos hrange, Except.map, Int64.ofInt_toInt]
  ne_null := by
    intro n h
    cases h

theorem nullable_of_ne_null {α : Type} (decoder : Decoder α) {value : Json}
    (h : value ≠ .null) : nullable decoder value = (decoder value).map some := by
  cases value with
  | null => exact absurd rfl h
  | bool _ | number _ | string _ | array _ | object _ => rfl

theorem Reads.nullable {α : Type} {decoder : Decoder α} {encode : α → Json}
    (h : Reads decoder encode) (a : α) : Decode.nullable decoder (encode a) = .ok (some a) := by
  rw [nullable_of_ne_null decoder (h.ne_null a), h.read, Except.map]

/-- An option of any type of value, in a source that has what was written for it. -/
theorem Reads.fieldOr {α : Type} {decoder : Decoder α} {encode : α → Json}
    (h : Reads decoder encode) {s : Source} {name : String} {place : Nat} {o : Option α}
    (hv : s.value? name place = o.map encode) :
    Decode.fieldOr s name place (Decode.nullable decoder) none = .ok o := by
  rw [Decode.fieldOr, hv]
  cases o with
  | none => rfl
  | some a => exact h.nullable a

theorem list_map {α : Type} {decoder : Decoder α} {encode : α → Json} (h : Reads decoder encode)
    (items : List α) : list decoder (.array (items.map encode)) = .ok items := by
  rw [list]
  induction items with
  | nil => rfl
  | cons a rest ih =>
    rw [List.map_cons, List.mapM_cons, h.read, ih]
    rfl

theorem choice_string {α : Type} {choices : List (String × α)} {name : String} {a : α}
    (h : choices.lookup name = some a) : choice choices (.string name) = .ok a := by
  rw [choice, choice.named, h]

/-- An option without its value if that is `null`. -/
def dropNull : Option Json → Option Json
  | some .null => none
  | o => o

theorem dropNull_eq_self_iff {o : Option Json} : dropNull o = o ↔ o ≠ some .null := by
  constructor
  · rintro h rfl
    cases h
  · intro h
    unfold dropNull
    split
    next => exact absurd rfl h
    next => rfl

/-- An option that may be any value. -/
theorem fieldOr_any {s : Source} {name : String} {place : Nat} {o : Option Json}
    (hv : s.value? name place = o) :
    fieldOr s name place (nullable any) none = .ok (dropNull o) := by
  rw [fieldOr, hv]
  cases o with
  | none => rfl
  | some value =>
    cases value with
    | null | bool _ | number _ | string _ | array _ | object _ => rfl

/-! ## Records -/

/-- What is written in a row is a value of a field. -/
def RowFits (row : String × Option Json) (f : Field) : Prop :=
  row.1 = f.name ∧ ∀ value ∈ row.2, f.check value = .ok ()

theorem Reads.rowFits {α : Type} {decoder : Decoder α} {encode : α → Json}
    (h : Reads decoder encode) (name : String) (o : Option α) :
    RowFits (name, o.map encode) (field name (Decode.nullable decoder)) := by
  refine ⟨rfl, fun value hvalue => ?_⟩
  obtain ⟨a, -, rfl⟩ := Option.map_eq_some_iff.1 hvalue
  simp only [field, h.nullable, Except.map]

theorem rowFits_any (name : String) (o : Option Json) : RowFits (name, o) (field name any) :=
  ⟨rfl, fun _ _ => rfl⟩

theorem rowFits_ok {α : Type} {decoder : Decoder α} {value : Json} {a : α}
    (h : decoder value = .ok a) (name : String) :
    RowFits (name, some value) (field name decoder) := by
  refine ⟨rfl, fun v hv => ?_⟩
  obtain rfl := Option.some.inj hv
  simp only [field, h, Except.map]

theorem mem_presentRows {rows : List (String × Option Json)} {m : String × Json} :
    m ∈ Wire.presentRows rows ↔ (m.1, some m.2) ∈ rows := by
  obtain ⟨name, value⟩ := m
  rw [Wire.presentRows, List.mem_filterMap]
  constructor
  · rintro ⟨⟨key, value?⟩, hmem, hrow⟩
    obtain ⟨v, hv, hpair⟩ := Option.map_eq_some_iff.1 hrow
    cases hpair
    exact hv ▸ hmem
  · intro hmem
    exact ⟨(name, some value), hmem, rfl⟩

theorem find?_eq_none_of_notMem {name : String} {members : JsonMembers}
    (h : name ∉ members.map Prod.fst) : Json.find? name members = none := by
  induction members with
  | nil => rfl
  | cons m rest ih =>
    rw [List.map_cons, List.mem_cons, not_or] at h
    rw [Json.find?, if_neg fun heq => h.1 heq.symm]
    exact ih h.2

/-- A row has the value that was written in it, if there is one. -/
theorem find?_presentRows {rows : List (String × Option Json)} (hnodup : (rows.map Prod.fst).Nodup)
    {name : String} {value? : Option Json} (hmem : (name, value?) ∈ rows) :
    Json.find? name (Wire.presentRows rows) = value? := by
  induction rows with
  | nil => cases hmem
  | cons row rest ih =>
    obtain ⟨key, first?⟩ := row
    rw [List.map_cons, List.nodup_cons] at hnodup
    obtain ⟨hfirst, hrest⟩ := hnodup
    obtain heq | hmem := List.mem_cons.1 hmem
    · cases heq
      cases value? with
      | some value => exact if_pos rfl
      | none =>
        have habsent : name ∉ (Wire.presentRows rest).map Prod.fst := by
          intro hin
          obtain ⟨m, hm, rfl⟩ := List.mem_map.1 hin
          exact hfirst (List.mem_map.2 ⟨_, mem_presentRows.1 hm, rfl⟩)
        exact find?_eq_none_of_notMem habsent
    · have hne : key ≠ name := by
        rintro rfl
        exact hfirst (List.mem_map.2 ⟨_, hmem, rfl⟩)
      have hvalue := ih hrest hmem
      cases first? with
      | none => exact hvalue
      | some value => exact (if_neg hne).trans hvalue

/-- Members pass the checks of a record if each of them passes the check of its field. -/
theorem checkMembers_eq_ok {fields : List Field} {members : JsonMembers}
    (h : ∀ m ∈ members, ∀ f ∈ fields, f.name = m.1 → f.check m.2 = .ok ()) :
    checkMembers fields members = .ok () := by
  induction members with
  | nil => rfl
  | cons m rest ih =>
    obtain ⟨key, value⟩ := m
    have hrest := ih fun m hm => h m (List.mem_cons_of_mem _ hm)
    refine Json.bind_eq_ok.2 ⟨(), ?_, hrest⟩
    dsimp only
    cases hfind : fields.find? (·.name == key) with
    | none => rfl
    | some f =>
      have hname : f.name = key := by simpa using List.find?_some hfind
      exact h (key, value) List.mem_cons_self f (List.mem_of_find?_eq_some hfind) hname

theorem exists_of_mem_rows {fields : List Field} {rows : List (String × Option Json)}
    (h : List.Forall₂ RowFits rows fields) {row : String × Option Json} (hrow : row ∈ rows) :
    ∃ f ∈ fields, RowFits row f := by
  induction h with
  | nil => cases hrow
  | cons hfits hrest ih =>
    obtain rfl | hrow := List.mem_cons.1 hrow
    · exact ⟨_, List.mem_cons_self, hfits⟩
    · obtain ⟨f, hf, hfits⟩ := ih hrow
      exact ⟨f, List.mem_cons_of_mem _ hf, hfits⟩

theorem map_fst_rows {fields : List Field} {rows : List (String × Option Json)}
    (h : List.Forall₂ RowFits rows fields) : rows.map Prod.fst = fields.map Field.name := by
  induction h with
  | nil => rfl
  | cons hfits hrest ih => rw [List.map_cons, List.map_cons, hfits.1, ih]

/-- An object that was written from rows is a record with fields for them. -/
theorem source_presentRows (title : String) {fields : List Field}
    {rows : List (String × Option Json)} (hnodup : (fields.map Field.name).Nodup)
    (h : List.Forall₂ RowFits rows fields) :
    source title fields (.object (Wire.presentRows rows))
      = .ok (.members (Wire.presentRows rows)) := by
  have hcheck : checkMembers fields (Wire.presentRows rows) = .ok () := by
    refine checkMembers_eq_ok fun m hm f hf hname => ?_
    obtain ⟨f', hf', hfits, hvalue⟩ := exists_of_mem_rows h (mem_presentRows.1 hm)
    -- Names tell fields apart, so the check of the row is that of the member.
    obtain rfl := List.inj_on_of_nodup_map hnodup hf hf' (hname.trans hfits)
    exact hvalue m.2 rfl
  rw [source, hcheck]
  rfl

/-- A field of such a record has the value of the row at its place. -/
theorem value?_presentRows {fields : List Field} {rows : List (String × Option Json)}
    (hnodup : (fields.map Field.name).Nodup) (h : List.Forall₂ RowFits rows fields) (place : Nat)
    {name : String} {value? : Option Json} (hrow : rows[place]? = some (name, value?)) :
    Source.value? name place (.members (Wire.presentRows rows)) = value? := by
  have hrows : (rows.map Prod.fst).Nodup := by
    rw [map_fst_rows h]
    exact hnodup
  exact find?_presentRows hrows (List.mem_of_getElem? hrow)

end Decode

/-! ## Types of values -/

namespace Wire

open Decode

/-- A record of two strings, written from its two projections. -/
theorem reads_stringPair {α : Type} {title first second : String} {make : String → String → α}
    (hne : first ≠ second) {fst snd : α → String} (hmake : ∀ a, make (fst a) (snd a) = a) :
    Reads (stringPair title first second make) fun a =>
      .object [(first, .string (fst a)), (second, .string (snd a))] where
  read := by
    intro a
    let fields := [field first string, field second string]
    let rows := [(first, some (Json.string (fst a))), (second, some (Json.string (snd a)))]
    have hnodup : (fields.map Field.name).Nodup := by simpa [fields, field] using hne
    have hfits : List.Forall₂ RowFits rows fields :=
      .cons (rowFits_ok (reads_string.read _) first)
        (.cons (rowFits_ok (reads_string.read _) second) .nil)
    have hsource := source_presentRows title hnodup hfits
    have value := value?_presentRows hnodup hfits
    change stringPair title first second make (.object (presentRows rows)) = _
    rw [stringPair, hsource]
    simp only [bind, Except.bind, required, value 0 rfl, value 1 rfl, reads_string.read, hmake]
  ne_null := by
    intro a h
    cases h

theorem reads_function : Reads readFunction function :=
  reads_stringPair (by decide) fun _ => rfl

theorem reads_call : Reads readCall call := reads_stringPair (by decide) fun _ => rfl

theorem reads_readConcern :
    Reads readConcern fun level => .object [("level", .string level)] where
  read := fun _ => rfl
  ne_null := by
    intro level h
    cases h

theorem reads_processingMode :
    Reads readProcessingMode fun mode : ProcessingMode => .string mode.name where
  read := by
    intro mode
    cases mode with
    | forEach | map => exact choice_string (by decide)
  ne_null := by
    intro mode h
    cases h

theorem reads_countMode : Reads readCountMode fun mode : CountMode => .string mode.name where
  read := by
    intro mode
    cases mode with
    | server | client => exact choice_string (by decide)
  ne_null := by
    intro mode h
    cases h

theorem readKind_name (kind : OperationKind) : readKind (.string kind.name) = .ok kind := by
  cases kind with
  | find | findOne | insert | update | delete | count | aggregate | distinct =>
    exact choice_string (by decide)

end Wire

/-! ## Options -/

namespace QueryOptions

/-- No option that may be any value is `null`. -/
structure NonNull (o : QueryOptions) : Prop where
  sort : o.sort ≠ some .null
  hint : o.hint ≠ some .null
  collation : o.collation ≠ some .null
  projection : o.projection ≠ some .null

/-- Options without those that are `null`. -/
def withoutNull (o : QueryOptions) : QueryOptions :=
  { o with
    sort := Decode.dropNull o.sort
    hint := Decode.dropNull o.hint
    collation := Decode.dropNull o.collation
    projection := Decode.dropNull o.projection }

theorem withoutNull_eq_self_iff {o : QueryOptions} : o.withoutNull = o ↔ o.NonNull := by
  constructor
  · intro h
    exact
      { sort := Decode.dropNull_eq_self_iff.1 (congrArg QueryOptions.sort h)
        hint := Decode.dropNull_eq_self_iff.1 (congrArg QueryOptions.hint h)
        collation := Decode.dropNull_eq_self_iff.1 (congrArg QueryOptions.collation h)
        projection := Decode.dropNull_eq_self_iff.1 (congrArg QueryOptions.projection h) }
  · intro h
    rw [withoutNull, Decode.dropNull_eq_self_iff.2 h.sort, Decode.dropNull_eq_self_iff.2 h.hint,
      Decode.dropNull_eq_self_iff.2 h.collation, Decode.dropNull_eq_self_iff.2 h.projection]

end QueryOptions

namespace Wire

open Decode

theorem nodup_optionFields : (optionFields.map Field.name).Nodup := by
  decide +kernel

theorem rowFits_many (many : Bool) :
    RowFits ("many", if many then some (.bool true) else none) (defaulted "many" bool) := by
  refine ⟨rfl, fun value hvalue => ?_⟩
  cases many with
  | false => cases hvalue
  | true =>
    cases hvalue
    rfl

/-- The rows of options are for the fields of options, one by one. -/
theorem rowFits_optionRows (o : QueryOptions) :
    List.Forall₂ RowFits (Wire.optionRows o) optionFields := by
  simp only [Wire.optionRows, optionFields, List.forall₂_cons, List.forall₂_nil_left_iff]
  exact ⟨rowFits_any _ _, reads_int64.rowFits _ _, reads_int64.rowFits _ _, rowFits_any _ _,
    reads_string.rowFits _ _, reads_int64.rowFits _ _, reads_bool.rowFits _ _,
    reads_int64.rowFits _ _, rowFits_any _ _, reads_readConcern.rowFits _ _,
    reads_string.rowFits _ _, reads_bool.rowFits _ _, reads_bool.rowFits _ _,
    reads_bool.rowFits _ _, rowFits_many _, reads_bool.rowFits _ _, reads_function.rowFits _ _,
    reads_function.rowFits _ _, reads_processingMode.rowFits _ _, reads_countMode.rowFits _ _,
    rowFits_any _ _, reads_bool.rowFits _ _, trivial⟩

theorem fieldOr_many {s : Source} {place : Nat} {many : Bool}
    (hv : s.value? "many" place = if many then some (.bool true) else none) :
    fieldOr s "many" place bool false = .ok many := by
  rw [fieldOr, hv]
  cases many with
  | false | true => rfl

/-- Options are read back without those that are `null`. -/
theorem readOptions_options (o : QueryOptions) :
    readOptions (Wire.options o) = .ok o.withoutNull := by
  have hfits := rowFits_optionRows o
  have value := value?_presentRows nodup_optionFields hfits
  rw [readOptions, Wire.options, source_presentRows "QueryOptions" nodup_optionFields hfits]
  simp only [bind, Except.bind, fieldOr_any (value 0 rfl), reads_int64.fieldOr (value 1 rfl),
    reads_int64.fieldOr (value 2 rfl), fieldOr_any (value 3 rfl),
    reads_string.fieldOr (value 4 rfl), reads_int64.fieldOr (value 5 rfl),
    reads_bool.fieldOr (value 6 rfl), reads_int64.fieldOr (value 7 rfl),
    fieldOr_any (value 8 rfl), reads_readConcern.fieldOr (value 9 rfl),
    reads_string.fieldOr (value 10 rfl), reads_bool.fieldOr (value 11 rfl),
    reads_bool.fieldOr (value 12 rfl), reads_bool.fieldOr (value 13 rfl),
    fieldOr_many (value 14 rfl), reads_bool.fieldOr (value 15 rfl),
    reads_function.fieldOr (value 16 rfl), reads_function.fieldOr (value 17 rfl),
    reads_processingMode.fieldOr (value 18 rfl), reads_countMode.fieldOr (value 19 rfl),
    fieldOr_any (value 20 rfl), reads_bool.fieldOr (value 21 rfl), QueryOptions.withoutNull]

end Wire

/-! ## Descriptors -/

namespace Descriptor

open Decode

/-- A descriptor is read back without the options that are `null`. -/
theorem ofJson_toJson (d : Descriptor) :
    ofJson d.toJson = .ok { d with options := d.options.withoutNull } := by
  let rows : List (String × Option Json) :=
    [ ("collection", some (.string d.collection)), ("type", some (.string d.kind.name)),
      ("data", some d.data), ("options", some (Wire.options d.options)),
      ("cursorOperations", some (.array (d.calls.map Wire.call))) ]
  have hcalls := list_map Wire.reads_call d.calls
  have hfits : List.Forall₂ RowFits rows Wire.descriptorFields := by
    simp only [rows, Wire.descriptorFields, List.forall₂_cons, List.forall₂_nil_left_iff]
    exact ⟨rowFits_ok (reads_string.read _) _, rowFits_ok (Wire.readKind_name _) _,
      rowFits_any _ _, rowFits_ok (Wire.readOptions_options _) _, rowFits_ok hcalls _, trivial⟩
  have hnodup : (Wire.descriptorFields.map Field.name).Nodup := by decide +kernel
  have hsource := source_presentRows "OperationDescriptor" hnodup hfits
  have value := value?_presentRows hnodup hfits
  change ofJson (.object (Wire.presentRows rows)) = _
  rw [ofJson, hsource]
  simp only [bind, Except.bind, required, value 0 rfl, value 1 rfl, value 2 rfl, value 3 rfl,
    value 4 rfl, reads_string.read, Wire.readKind_name, any, Wire.readOptions_options, hcalls]

theorem withoutNull_eq_self_iff {d : Descriptor} :
    { d with options := d.options.withoutNull } = d ↔ d.options.NonNull := by
  rw [← QueryOptions.withoutNull_eq_self_iff]
  constructor
  · intro h
    exact congrArg Descriptor.options h
  · intro h
    rw [h]

theorem filter_ne_null {p : Json → Bool} (hp : p .null = false) (o : Option Json) :
    o.filter p ≠ some .null := by
  intro h
  obtain ⟨-, hnull⟩ := Option.filter_eq_some_iff.1 h
  rw [hp] at hnull
  cases hnull

theorem lastWritten_ne_null {j : Judging} {m : CursorMethod} {read : String → Option Json}
    (hread : ∀ args, read args ≠ some .null) (chain : List CursorCall) :
    (lastWritten j (only m read) chain).or none ≠ some .null := by
  rw [Option.or_none]
  intro h
  obtain ⟨-, args, -, hargs⟩ := exists_of_lastWritten_only h
  exact hread args hargs

/-- No option of a statement is `null`: what takes any value asks for an object or a name. -/
theorem FromChain.nonNull {d : Descriptor} {base : OperationKind} {operation : String}
    {args : List Json} {chain : List CursorCall} (h : d.FromChain base operation args chain) :
    d.options.NonNull := by
  have hprojection : projectionOf? args base ≠ some .null := by
    cases base with
    | find | findOne => exact filter_ne_null rfl _
    | insert | update | delete | count | aggregate | distinct =>
      exact Option.some_ne_none _ ∘ Eq.symm
  rw [h.options]
  exact
    { sort := lastWritten_ne_null (fun _ => filter_ne_null rfl _) chain
      hint := lastWritten_ne_null (fun _ => filter_ne_null rfl _) chain
      collation := lastWritten_ne_null (fun _ => filter_ne_null rfl _) chain
      projection := hprojection }

/-- A descriptor is read back from what is written for it exactly if no option of it is
`null`, so two such descriptors that are written alike are equal; and the descriptor of a
statement is one. -/
theorem wire_roundTrip :
    (∀ d : Descriptor, ofJson d.toJson = .ok d ↔ d.options.NonNull)
    ∧ (∀ d e : Descriptor, d.options.NonNull → e.options.NonNull → d.toJson = e.toJson → d = e)
    ∧ ∀ (statement : String) (d : Descriptor) (warnings : List Warning),
        parseStatement statement = .ok (d, warnings) → d.options.NonNull := by
  have hread (d : Descriptor) : ofJson d.toJson = .ok d ↔ d.options.NonNull := by
    rw [ofJson_toJson, ← withoutNull_eq_self_iff, Except.ok.injEq]
  refine ⟨hread, fun d e hd he hsame => ?_, fun statement d warnings hparse => ?_⟩
  · have hok : Except.ok d = Except.ok (ε := String) e :=
      calc Except.ok d = ofJson d.toJson := ((hread d).2 hd).symm
        _ = ofJson e.toJson := by rw [hsame]
        _ = .ok e := (hread e).2 he
    exact Except.ok.inj hok
  · obtain ⟨base, operation, args, chain, h⟩ := exists_fromChain hparse
    exact h.nonNull

/-- A statement with a flag that is false, one that is absent, and a function. -/
theorem wire_roundTrip_statement :
    ∃ d warnings,
      parseStatement "db.c.find({}, {a: 1}).returnKey(false).limit(3).map(x => x)"
        = .ok (d, warnings)
      ∧ d.options.returnKey = some false ∧ d.options.showRecordId = none ∧ d.calls.length = 3
      ∧ ofJson d.toJson = .ok d
      ∧ ∀ e : Descriptor, e.options.NonNull → e.toJson = d.toJson → e = d := by
  have hreads : readsAs "db.c.find({}, {a: 1}).returnKey(false).limit(3).map(x => x)"
      (fun d => d.options.returnKey == some false && d.options.showRecordId == none
        && d.calls.length == 3) = true := by
    decide +kernel
  obtain ⟨d, warnings, hparse, hcheck⟩ := exists_of_readsAs hreads
  simp only [Bool.and_eq_true, beq_iff_eq] at hcheck
  obtain ⟨⟨hfalse, habsent⟩, hlength⟩ := hcheck
  obtain ⟨hread, hinj, hstatement⟩ := wire_roundTrip
  have hd := hstatement _ d warnings hparse
  exact ⟨d, warnings, hparse, hfalse, habsent, hlength, (hread d).2 hd,
    fun e he hsame => hinj e d he hd hsame⟩

end Descriptor

end ShellQuery

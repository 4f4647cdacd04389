import ShellQuery.Bson.OfJson
import ShellQuery.Execution.Result
import ShellQuery.Proofs.Calendar.Written

/-!
# Shown values read back

A database value that is shown in the relaxed form can be written into a statement again.
It is the same value there exactly if it is `Faithful`: `ofJson_relaxed_iff`.  What is left
out are the values whose relaxed form is the form of another value: a long integer that is
small, a number that is not finite, and a document that looks like a wrapper.

What a result shows is read back in the same way: `ofJson_toJson_iff`.
-/

namespace ShellQuery

open ShellQuery.Text

/-! ## Object ids -/

theorem hexDigit_utf8Size (d : Fin 16) : (hexDigit d.val).utf8Size = 1 := by
  revert d
  decide

theorem utf8Length_hexDigits (digits : List (Fin 16)) :
    utf8Length (digits.map fun d => hexDigit d.val) = digits.length := by
  induction digits with
  | nil => rfl
  | cons d rest ih =>
    rw [List.map_cons, utf8Length_cons, hexDigit_utf8Size, ih, List.length_cons, Nat.add_comm]

theorem readHexDigits_hexDigits (index : Nat) (digits : List (Fin 16)) :
    readHexDigits index (digits.map fun d => hexDigit d.val) = .ok digits := by
  induction digits generalizing index with
  | nil => rfl
  | cons d rest ih =>
    simp only [List.map_cons, readHexDigits, hexDigit?_hexDigit, ih]
    rfl

/-- The text of an object id is read as the object id. -/
theorem ObjectId.ofText_hexText (id : ObjectId) : ofText id.hexText.toList = .ok id := by
  obtain ⟨digits, hlength⟩ := id
  have heven : ¬ utf8Length (digits.map fun d => hexDigit d.val) % 2 = 1 := by
    rw [utf8Length_hexDigits, hlength]
    decide
  rw [hexText, String.toList_ofList, ofText, if_neg heven, readHexDigits_hexDigits]
  exact dif_pos hlength

namespace Bson

/-! ## Dates -/

/-- Any date is read from its canonical form. -/
theorem ofJson_canonicalDate (now millis : Int64) :
    ofJson now (canonicalDate millis) = .ok (.dateTime millis) := by
  have hread : DateText.readInt64? (intText millis.toInt) = some millis := by
    rw [DateText.readInt64?, Decimal.integer?_intText, Option.bind_some,
      if_pos (Width.isInt64_toInt millis), Int64.ofInt_toInt]
  have hlong : longMillis? [("$numberLong", .string (String.ofList (intText millis.toInt)))]
      = some millis := by
    rw [longMillis?, Json.find?, if_pos rfl, Option.bind_some, Json.asString?, Option.bind_some,
      String.toList_ofList, hread]
  simp only [canonicalDate, wrapped, ofJson, ofDateWrapper, hlong]

/-- A date is read from its relaxed form, the text or the number. -/
theorem ofJson_relaxedDate (now millis : Int64) :
    ofJson now (relaxedDate millis) = .ok (.dateTime millis) := by
  rw [relaxedDate]
  by_cases h : 0 ≤ millis.toInt ∧ millis.toInt < year10000
  · obtain ⟨i, hi, hmillis⟩ := Option.map_eq_some_iff.1 (DateText.read?_instantText h.1 h.2)
    have hrange : (decide (0 ≤ millis.toInt) && decide (millis.toInt < year10000)) = true := by
      simp [h]
    rw [if_pos hrange]
    simp only [wrapped, ofJson, ofDateWrapper, if_neg (DateText.instantText_ne_now _),
      String.toList_ofList, hi, hmillis, Int64.ofInt_toInt]
  · have hrange : (decide (0 ≤ millis.toInt) && decide (millis.toInt < year10000)) ≠ true := by
      simpa using h
    rw [if_neg hrange]
    exact ofJson_canonicalDate now millis

/-! ## Values -/

/-- Whether fields are one field with the key of a wrapper. -/
def IsWrapper {α : Type} (fields : List (String × α)) : Prop :=
  ∃ value, fields = [("$oid", value)] ∨ fields = [("$date", value)]

/-- A value whose relaxed form is not that of another value, in any of its parts. -/
inductive Faithful : Bson → Prop
  | null : Faithful .null
  | bool (b : Bool) : Faithful (.bool b)
  | int32 (n : Int32) : Faithful (.int32 n)
  | int64 {n : Int64} (h : Width.isInt32 n.toInt = false) : Faithful (.int64 n)
  | double {x : Float} (h : x.isFinite = true) : Faithful (.double x)
  | string (s : String) : Faithful (.string s)
  | objectId (id : ObjectId) : Faithful (.objectId id)
  | dateTime (millis : Int64) : Faithful (.dateTime millis)
  | array {items : List Bson} (h : ∀ b ∈ items, Faithful b) : Faithful (.array items)
  | document {fields : Document} (h : ∀ f ∈ fields, Faithful f.2) (hw : ¬ IsWrapper fields) :
      Faithful (.document fields)

theorem faithful_array_iff {items : List Bson} :
    Faithful (.array items) ↔ ∀ b ∈ items, Faithful b :=
  ⟨fun | .array h => h, .array⟩

theorem faithful_document_iff {fields : Document} :
    Faithful (.document fields) ↔ ¬ IsWrapper fields ∧ ∀ f ∈ fields, Faithful f.2 :=
  ⟨fun | .document h hw => ⟨hw, h⟩, fun h => .document h.2 h.1⟩

theorem relaxedItems_eq_map (items : List Bson) : relaxedItems items = items.map relaxed := by
  induction items with
  | nil => rfl
  | cons b rest ih => rw [relaxedItems, ih, List.map_cons]

theorem relaxedFields_eq_map (fields : Document) :
    relaxedFields fields = fields.map fun f => (f.1, f.2.relaxed) := by
  induction fields with
  | nil => rfl
  | cons f rest ih =>
    obtain ⟨key, value⟩ := f
    rw [relaxedFields, ih, List.map_cons]

theorem isWrapper_map {α β : Type} (g : α → β) (fields : List (String × α)) :
    IsWrapper (fields.map fun f => (f.1, g f.2)) ↔ IsWrapper fields := by
  constructor
  · rintro ⟨value, h | h⟩
    · obtain ⟨⟨key, x⟩, rfl, hx⟩ := List.map_eq_singleton_iff.1 h
      obtain rfl : key = "$oid" := congrArg Prod.fst hx
      exact ⟨x, .inl rfl⟩
    · obtain ⟨⟨key, x⟩, rfl, hx⟩ := List.map_eq_singleton_iff.1 h
      obtain rfl : key = "$date" := congrArg Prod.fst hx
      exact ⟨x, .inr rfl⟩
  · rintro ⟨value, rfl | rfl⟩
    · exact ⟨g value, .inl rfl⟩
    · exact ⟨g value, .inr rfl⟩

/-- An object that is no wrapper is a document. -/
theorem ofJson_object (now : Int64) {members : JsonMembers} (h : ¬ IsWrapper members) :
    ofJson now (.object members) = (ofMembers now members).map .document := by
  rw [ofJson]
  · rintro inner rfl
    exact h ⟨inner, .inl rfl⟩
  · rintro inner rfl
    exact h ⟨inner, .inr rfl⟩

theorem exists_objectId_of_ofObjectIdWrapper {inner : Json} {b : Bson}
    (h : ofObjectIdWrapper inner = .ok b) : ∃ id, b = .objectId id := by
  unfold ofObjectIdWrapper at h
  split at h
  next =>
    split at h
    next id _ => exact ⟨id, (Except.ok.inj h).symm⟩
    next => cases h
  next => cases h

theorem exists_dateTime_of_ofDateWrapper {now : Int64} {inner : Json} {b : Bson}
    (h : ofDateWrapper now inner = .ok b) : ∃ millis, b = .dateTime millis := by
  unfold ofDateWrapper at h
  split at h
  next =>
    split at h
    next => exact ⟨_, (Except.ok.inj h).symm⟩
    next =>
      split at h
      next => exact ⟨_, (Except.ok.inj h).symm⟩
      next => cases h
  next =>
    split at h
    next => exact ⟨_, (Except.ok.inj h).symm⟩
    next => cases h
  next => cases h
  next =>
    split at h
    next => exact ⟨_, (Except.ok.inj h).symm⟩
    next => cases h
  next => cases h

/-- A wrapper is no document. -/
theorem ofJson_ne_document {now : Int64} {members : JsonMembers} (h : IsWrapper members)
    (fields : Document) : ofJson now (.object members) ≠ .ok (.document fields) := by
  obtain ⟨inner, rfl | rfl⟩ := h
  · intro hread
    obtain ⟨id, hid⟩ := exists_objectId_of_ofObjectIdWrapper hread
    cases hid
  · intro hread
    obtain ⟨millis, hmillis⟩ := exists_dateTime_of_ofDateWrapper hread
    cases hmillis

/-! ## Parts -/

theorem ofItems_cons_eq_ok {now : Int64} {x : Json} {rest : List Json} {y : Bson}
    {ys : List Bson} :
    ofItems now (x :: rest) = .ok (y :: ys) ↔ ofJson now x = .ok y ∧ ofItems now rest = .ok ys := by
  rw [ofItems]
  cases ofJson now x with
  | error e => simp [bind, Except.bind]
  | ok z => cases ofItems now rest <;> simp [bind, Except.bind]

theorem ofMembers_cons_eq_ok {now : Int64} {key : String} {x : Json} {rest : JsonMembers}
    {y : Bson} {ys : Document} :
    ofMembers now ((key, x) :: rest) = .ok ((key, y) :: ys)
      ↔ ofJson now x = .ok y ∧ ofMembers now rest = .ok ys := by
  rw [ofMembers]
  cases ofJson now x with
  | error e => simp [bind, Except.bind]
  | ok z => cases ofMembers now rest <;> simp [bind, Except.bind]

/-- Items are read back if each of them is. -/
theorem ofItems_map_iff (now : Int64) (items : List Bson) :
    ofItems now (items.map relaxed) = .ok items ↔ ∀ b ∈ items, ofJson now b.relaxed = .ok b := by
  induction items with
  | nil => simp [ofItems]
  | cons b rest ih => rw [List.map_cons, ofItems_cons_eq_ok, ih, List.forall_mem_cons]

/-- Fields are read back if the value of each is. -/
theorem ofMembers_map_iff (now : Int64) (fields : Document) :
    ofMembers now (fields.map fun f => (f.1, f.2.relaxed)) = .ok fields
      ↔ ∀ f ∈ fields, ofJson now f.2.relaxed = .ok f.2 := by
  induction fields with
  | nil => simp [ofMembers]
  | cons f rest ih => rw [List.map_cons, ofMembers_cons_eq_ok, ih, List.forall_mem_cons]

theorem map_array_eq_ok {x : Except ExecutionError (List Bson)} {items : List Bson} :
    x.map Bson.array = .ok (.array items) ↔ x = .ok items := by
  cases x with
  | error e => simp [Except.map]
  | ok ys => simp [Except.map]

theorem map_document_eq_ok {x : Except ExecutionError Document} {fields : Document} :
    x.map Bson.document = .ok (.document fields) ↔ x = .ok fields := by
  cases x with
  | error e => simp [Except.map]
  | ok ys => simp [Except.map]

/-! ## Read back -/

theorem ofJson_int64_iff (now n : Int64) :
    ofJson now (relaxed (.int64 n)) = .ok (.int64 n) ↔ Width.isInt32 n.toInt = false := by
  rw [relaxed, Json.int, ofJson, ofNumber]
  cases h : Width.isInt32 n.toInt with
  | true => simp
  | false => simp [Width.isInt64_toInt, Int64.ofInt_toInt]

theorem ofJson_double_iff (now : Int64) (x : Float) :
    ofJson now (relaxed (.double x)) = .ok (.double x) ↔ x.isFinite = true := by
  rw [relaxed, relaxedDouble]
  cases h : x.isFinite with
  | true => simp [Json.float, ofJson, ofNumber]
  | false =>
    have hw : ¬ IsWrapper [("$numberDouble", Json.string (specialText x))] := by
      rintro ⟨value, h | h⟩
      · simp at h
      · simp at h
    simp only [Bool.false_eq_true, if_false, iff_false, wrapped, ofJson_object now hw]
    intro hread
    cases hm : ofMembers now [("$numberDouble", Json.string (specialText x))] with
    | error e => rw [hm] at hread; cases hread
    | ok fields => rw [hm] at hread; cases hread

mutual

/-- A value is read back from its relaxed form exactly if it is faithful. -/
theorem ofJson_relaxed_iff (now : Int64) : ∀ b : Bson,
    ofJson now b.relaxed = .ok b ↔ Faithful b
  | .null => iff_of_true rfl .null
  | .bool b => iff_of_true rfl (.bool b)
  | .int32 n => by
    refine iff_of_true ?_ (.int32 n)
    rw [relaxed, Json.int, ofJson, ofNumber, if_pos (Width.isInt32_toInt n), Int32.ofInt_toInt]
  | .int64 n => by
    rw [ofJson_int64_iff]
    exact ⟨.int64, fun | .int64 h => h⟩
  | .double x => by
    rw [ofJson_double_iff]
    exact ⟨.double, fun | .double h => h⟩
  | .string s => iff_of_true rfl (.string s)
  | .objectId id => by
    refine iff_of_true ?_ (.objectId id)
    simp only [relaxed, wrapped, ofJson, ofObjectIdWrapper, ObjectId.ofText_hexText]
  | .dateTime millis => iff_of_true (ofJson_relaxedDate now millis) (.dateTime millis)
  | .array items => by
    rw [relaxed, ofJson, relaxedItems_eq_map, map_array_eq_ok, ofItems_map_iff, faithful_array_iff]
    exact forall₂_congr fun b hb => ofJson_items_iff now items b hb
  | .document fields => by
    rw [relaxed, relaxedFields_eq_map, faithful_document_iff]
    by_cases hw : IsWrapper fields
    · exact iff_of_false (ofJson_ne_document ((isWrapper_map relaxed fields).2 hw) fields)
        fun h => h.1 hw
    · rw [ofJson_object now (mt (isWrapper_map relaxed fields).1 hw), map_document_eq_ok,
        ofMembers_map_iff, and_iff_right hw]
      exact forall₂_congr fun f hf => ofJson_fields_iff now fields f hf

theorem ofJson_items_iff (now : Int64) : ∀ (items : List Bson), ∀ b ∈ items,
    (ofJson now b.relaxed = .ok b ↔ Faithful b)
  | first :: rest, b, hb => by
    rcases List.mem_cons.1 hb with h | hb
    · rw [h]
      exact ofJson_relaxed_iff now first
    · exact ofJson_items_iff now rest b hb

theorem ofJson_fields_iff (now : Int64) : ∀ (fields : List (String × Bson)), ∀ f ∈ fields,
    (ofJson now f.2.relaxed = .ok f.2 ↔ Faithful f.2)
  | (key, value) :: rest, f, hf => by
    rcases List.mem_cons.1 hf with h | hf
    · rw [h]
      exact ofJson_relaxed_iff now value
    · exact ofJson_fields_iff now rest f hf

end

end Bson

/-! ## Results -/

namespace ResultData

/-- The values in a result that come from the database. -/
def stored : ResultData → List Bson
  | documents docs => docs.map .document
  | document doc => [.document doc]
  | inserted id => [id]
  | insertedMany ids => ids
  | updated _ _ upsertedId => upsertedId.toList
  | deleted _ => []
  | counted _ => []
  | values vs => vs
  | none => []

/-- The document about a write that the server has taken. -/
def acknowledgement (fields : Document) : Bson :=
  .document (("acknowledged", .bool true) :: fields)

/-- The value that a result shows: its values from the database as they are, and its counts
as numbers. -/
def toBson : ResultData → Bson
  | documents docs => .array (docs.map .document)
  | document doc => .document doc
  | inserted id => acknowledgement [("insertedId", id)]
  | insertedMany ids => acknowledgement [("insertedIds", .array ids)]
  | updated matched modified upsertedId =>
      acknowledgement
        ([("matchedCount", Bson.ofNumber (.int matched)),
          ("modifiedCount", Bson.ofNumber (.int modified))]
          ++ (upsertedId.map fun id => ("upsertedId", id)).toList)
  | deleted n => acknowledgement [("deletedCount", Bson.ofNumber (.int n))]
  | counted n => Bson.ofNumber (.int n)
  | values vs => .array vs
  | none => .null

open Bson

theorem ofJson_acknowledged_iff (now : Int64) (members : JsonMembers) (fields : Document) :
    ofJson now (acknowledged members) = .ok (acknowledgement fields)
      ↔ ofMembers now members = .ok fields := by
  have hw : ¬ IsWrapper (("acknowledged", Json.bool true) :: members) := by
    rintro ⟨value, h | h⟩
    · simp at h
    · simp at h
  rw [acknowledged, acknowledgement, ofJson_object now hw, map_document_eq_ok,
    ofMembers_cons_eq_ok]
  exact and_iff_right rfl

theorem ofJson_int (now : Int64) (n : Int) : ofJson now (.int n) = .ok (ofNumber (.int n)) := rfl

theorem ofJson_items (now : Int64) (items : List Bson) :
    ofJson now (.array (items.map relaxed)) = .ok (.array items) ↔ ∀ b ∈ items, Faithful b := by
  rw [ofJson, map_array_eq_ok, ofItems_map_iff]
  simp only [ofJson_relaxed_iff]

/-- What a result shows is read back exactly if its values from the database are faithful. -/
theorem ofJson_toJson_iff (now : Int64) (r : ResultData) :
    ofJson now r.toJson = .ok r.toBson ↔ ∀ b ∈ r.stored, Faithful b := by
  cases r with
  | documents docs =>
    have hmap : docs.map (fun doc => (Bson.document doc).relaxed)
        = (docs.map Bson.document).map relaxed := by
      rw [List.map_map]
      rfl
    rw [toJson, hmap, toBson, stored, ofJson_items]
  | document doc => rw [toJson, toBson, stored, ofJson_relaxed_iff, List.forall_mem_singleton]
  | inserted id =>
    rw [toJson, toBson, stored, ofJson_acknowledged_iff, ofMembers_cons_eq_ok, ofJson_relaxed_iff,
      List.forall_mem_singleton]
    exact and_iff_left rfl
  | insertedMany ids =>
    rw [toJson, toBson, stored, ofJson_acknowledged_iff, ofMembers_cons_eq_ok, ofJson_items]
    exact and_iff_left rfl
  | updated matched modified upsertedId =>
    rw [toJson, toBson, stored, ofJson_acknowledged_iff]
    simp only [List.cons_append, List.nil_append, ofMembers_cons_eq_ok, ofJson_int, true_and]
    cases upsertedId with
    | none => exact iff_of_true rfl (List.forall_mem_nil _)
    | some id =>
      rw [Option.map_some, Option.map_some, Option.toList_some, Option.toList_some,
        Option.toList_some, ofMembers_cons_eq_ok, ofJson_relaxed_iff, List.forall_mem_singleton]
      exact and_iff_left rfl
  | deleted n =>
    rw [toJson, toBson, stored, ofJson_acknowledged_iff, ofMembers_cons_eq_ok]
    exact iff_of_true ⟨ofJson_int now n, rfl⟩ (List.forall_mem_nil _)
  | counted n => exact iff_of_true (ofJson_int now n) (List.forall_mem_nil _)
  | values vs => rw [toJson, toBson, stored, ofJson_items]
  | none => exact iff_of_true rfl (List.forall_mem_nil _)

end ResultData

/-- A value is read back from its relaxed form, with the order of its items and fields,
exactly if it is faithful; and what a result shows is read back exactly if all values of the
database in it are. -/
theorem ofJson_shown_iff (now : Int64) :
    (∀ b : Bson, Bson.ofJson now b.relaxed = .ok b ↔ b.Faithful)
    ∧ ∀ r : ResultData, Bson.ofJson now r.toJson = .ok r.toBson ↔ ∀ b ∈ r.stored, b.Faithful :=
  ⟨Bson.ofJson_relaxed_iff now, ResultData.ofJson_toJson_iff now⟩

end ShellQuery

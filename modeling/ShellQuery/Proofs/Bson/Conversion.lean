import Mathlib.Data.List.Forall2
import ShellQuery.Proofs.Bson.Wrapper
import ShellQuery.Proofs.Json.Literal

/-!
# Which values are converted

A value is converted exactly if every wrapper in it is well formed.  `wrappers` lists them
from left to right.  It does not look into a wrapper, since what is in one is no value on its
own.  `Converted` tells what the value becomes: everything is kept but wrappers and numbers.

If some wrappers are not well formed, the error is that of the first, `FirstError`.  For this
the outcome of each part `Explains` the wrappers of the part, and the outcome of a whole is
put together from those of its parts (`Explains.both`).
-/

namespace ShellQuery

namespace Bson

/-! ## Wrappers in a value -/

mutual

/-- The wrappers that are reached in a value, from left to right. -/
def wrappers : Json → List Wrapper
  | .null | .bool _ | .number _ | .string _ => []
  | .array items => wrappersOfItems items
  | .object members =>
      match members with
      | [("$oid", inner)] => [.objectId inner]
      | [("$date", inner)] => [.date inner]
      | _ => wrappersOfMembers members

/-- The wrappers in items. -/
def wrappersOfItems : List Json → List Wrapper
  | [] => []
  | x :: rest => wrappers x ++ wrappersOfItems rest

/-- The wrappers in members. -/
def wrappersOfMembers : List (String × Json) → List Wrapper
  | [] => []
  | (_, v) :: rest => wrappers v ++ wrappersOfMembers rest

end

theorem wrappers_object {members : JsonMembers} (hw : ¬ IsWrapper members) :
    wrappers (.object members) = wrappersOfMembers members := by
  rw [wrappers]
  · rintro inner rfl
    exact hw ⟨inner, .inl rfl⟩
  · rintro inner rfl
    exact hw ⟨inner, .inr rfl⟩

/-- What a value becomes at a time.  Only wrappers and numbers change. -/
inductive Converted (now : Int64) : Json → Bson → Prop
  | null : Converted now .null .null
  | bool (b : Bool) : Converted now (.bool b) (.bool b)
  | string (s : String) : Converted now (.string s) (.string s)
  /-- An integer of 32 bits. -/
  | int32 (n : Int32) : Converted now (.int n.toInt) (.int32 n)
  /-- An integer of 64 bits that has not 32. -/
  | int64 {n : Int64} (h : Width.isInt32 n.toInt = false) :
      Converted now (.int n.toInt) (.int64 n)
  /-- An integer beyond both ranges. -/
  | beyond {n : Int} (h : Width.isInt64 n = false) :
      Converted now (.int n) (.double (Float.ofInt n))
  | float (x : Float) : Converted now (.float x) (.double x)
  | objectId {inner : Json} {b : Bson} (h : (Wrapper.objectId inner).StandsFor now b) :
      Converted now (.object [("$oid", inner)]) b
  | date {inner : Json} {b : Bson} (h : (Wrapper.date inner).StandsFor now b) :
      Converted now (.object [("$date", inner)]) b
  /-- Items in their order. -/
  | array {items : List Json} {bs : List Bson} (h : List.Forall₂ (Converted now) items bs) :
      Converted now (.array items) (.array bs)
  /-- Members in their order, under their keys. -/
  | document {members : JsonMembers} {fields : Document} (hw : ¬ IsWrapper members)
      (hkeys : members.map Prod.fst = fields.map Prod.fst)
      (h : List.Forall₂ (Converted now) (members.map Prod.snd) (fields.map Prod.snd)) :
      Converted now (.object members) (.document fields)

/-- What members become at a time: fields under the same keys, in the same order. -/
def ConvertedMembers (now : Int64) (members : JsonMembers) (fields : Document) : Prop :=
  members.map Prod.fst = fields.map Prod.fst
    ∧ List.Forall₂ (Converted now) (members.map Prod.snd) (fields.map Prod.snd)

/-! ## What values become -/

theorem ofNumber_int32 (n : Int32) : ofNumber (.int n.toInt) = .int32 n := by
  rw [ofNumber, if_pos (Width.isInt32_toInt n), Int32.ofInt_toInt]

theorem ofNumber_int64 {n : Int64} (h : Width.isInt32 n.toInt = false) :
    ofNumber (.int n.toInt) = .int64 n := by
  rw [ofNumber, h, if_neg Bool.false_ne_true, if_pos (Width.isInt64_toInt n), Int64.ofInt_toInt]

theorem ofNumber_beyond {n : Int} (h : Width.isInt64 n = false) :
    ofNumber (.int n) = .double (Float.ofInt n) := by
  have hsmall : Width.isInt32 n = false := by
    cases hn : Width.isInt32 n with
    | false => rfl
    | true => rw [Width.isInt64_of_isInt32 hn] at h; cases h
  rw [ofNumber, hsmall, h, if_neg Bool.false_ne_true, if_neg Bool.false_ne_true]
  cases n with
  | ofNat m => exact if_neg (Int.not_lt.2 (Int.natCast_nonneg m))
  | negSucc m => exact if_pos (Int.negSucc_lt_zero m)

theorem converted_number_iff {now : Int64} {n : JsonNumber} {b : Bson} :
    Converted now (.number n) b ↔ b = ofNumber n := by
  constructor
  · intro h
    cases h with
    | int32 n => exact (ofNumber_int32 n).symm
    | int64 h => exact (ofNumber_int64 h).symm
    | beyond h => exact (ofNumber_beyond h).symm
    | float x => rfl
  · rintro rfl
    cases n with
    | float x => exact .float x
    | int n =>
      cases h64 : Width.isInt64 n with
      | false =>
        rw [ofNumber_beyond h64]
        exact .beyond h64
      | true =>
        cases h32 : Width.isInt32 n with
        | false =>
          obtain ⟨m, rfl⟩ := Width.exists_int64 h64
          rw [ofNumber_int64 h32]
          exact .int64 h32
        | true =>
          obtain ⟨m, rfl⟩ := Width.exists_int32 h32
          rw [ofNumber_int32]
          exact .int32 m

/-- An object is one of the two wrappers or a document. -/
theorem Converted.object_inv {now : Int64} {members : JsonMembers} {b : Bson}
    (h : Converted now (.object members) b) :
    (∃ inner, members = [("$oid", inner)] ∧ (Wrapper.objectId inner).StandsFor now b)
      ∨ (∃ inner, members = [("$date", inner)] ∧ (Wrapper.date inner).StandsFor now b)
      ∨ ∃ fields : Document, b = .document fields ∧ ¬ IsWrapper members
        ∧ ConvertedMembers now members fields := by
  cases h with
  | objectId h => exact .inl ⟨_, rfl, h⟩
  | date h => exact .inr (.inl ⟨_, rfl, h⟩)
  | document hw hkeys h => exact .inr (.inr ⟨_, rfl, hw, hkeys, h⟩)

theorem converted_objectId_iff {now : Int64} {inner : Json} {b : Bson} :
    Converted now (.object [("$oid", inner)]) b ↔ (Wrapper.objectId inner).StandsFor now b := by
  refine ⟨fun h => ?_, .objectId⟩
  obtain ⟨inner', heq, h⟩ | ⟨inner', heq, -⟩ | ⟨fields, -, hw, -⟩ := h.object_inv
  · cases heq
    exact h
  · simp at heq
  · exact absurd ⟨inner, .inl rfl⟩ hw

theorem converted_date_iff {now : Int64} {inner : Json} {b : Bson} :
    Converted now (.object [("$date", inner)]) b ↔ (Wrapper.date inner).StandsFor now b := by
  refine ⟨fun h => ?_, .date⟩
  obtain ⟨inner', heq, -⟩ | ⟨inner', heq, h⟩ | ⟨fields, -, hw, -⟩ := h.object_inv
  · simp at heq
  · cases heq
    exact h
  · exact absurd ⟨inner, .inr rfl⟩ hw

theorem converted_document_iff {now : Int64} {members : JsonMembers} {b : Bson}
    (hw : ¬ IsWrapper members) :
    Converted now (.object members) b
      ↔ ∃ fields : Document, b = .document fields ∧ ConvertedMembers now members fields := by
  constructor
  · intro h
    obtain ⟨inner, heq, -⟩ | ⟨inner, heq, -⟩ | ⟨fields, hb, -, h⟩ := h.object_inv
    · exact absurd ⟨inner, .inl heq⟩ hw
    · exact absurd ⟨inner, .inr heq⟩ hw
    · exact ⟨fields, hb, h⟩
  · rintro ⟨fields, rfl, hkeys, h⟩
    exact .document hw hkeys h

theorem convertedMembers_nil_iff {now : Int64} {fields : Document} :
    ConvertedMembers now [] fields ↔ fields = [] := by
  rw [ConvertedMembers, List.map_nil, List.map_nil, List.forall₂_nil_left_iff, List.map_eq_nil_iff]
  refine ⟨And.right, ?_⟩
  rintro rfl
  exact ⟨rfl, rfl⟩

theorem convertedMembers_cons_iff {now : Int64} {key : String} {x : Json} {rest : JsonMembers}
    {fields : Document} :
    ConvertedMembers now ((key, x) :: rest) fields
      ↔ ∃ y ys, Converted now x y ∧ ConvertedMembers now rest ys ∧ (key, y) :: ys = fields := by
  constructor
  · rintro ⟨hkeys, h⟩
    cases fields with
    | nil => cases hkeys
    | cons f ys =>
      obtain ⟨name, y⟩ := f
      obtain ⟨rfl, htail⟩ := List.cons.inj hkeys
      obtain ⟨hy, hys⟩ := List.forall₂_cons.1 h
      exact ⟨y, ys, hy, ⟨htail, hys⟩, rfl⟩
  · rintro ⟨y, ys, hy, ⟨hkeys, hys⟩, rfl⟩
    exact ⟨congrArg (key :: ·) hkeys, .cons hy hys⟩

mutual

/-- A value is converted to what it becomes. -/
theorem ofJson_eq_ok_iff (now : Int64) : ∀ (v : Json) (b : Bson),
    ofJson now v = .ok b ↔ Converted now v b
  | .null, b => ⟨fun h => Except.ok.inj h ▸ .null, fun | .null => rfl⟩
  | .bool x, b => ⟨fun h => Except.ok.inj h ▸ .bool x, fun | .bool _ => rfl⟩
  | .string s, b => ⟨fun h => Except.ok.inj h ▸ .string s, fun | .string _ => rfl⟩
  | .number n, b => by
    rw [converted_number_iff, ofJson, Except.ok.injEq]
    exact eq_comm
  | .array items, b => by
    rw [ofJson, Json.map_eq_ok]
    constructor
    · rintro ⟨bs, hbs, rfl⟩
      exact .array ((ofItems_eq_ok_iff now items bs).1 hbs)
    · rintro (_ | _ | _ | _ | _ | _ | _ | _ | _ | ⟨h⟩)
      exact ⟨_, (ofItems_eq_ok_iff now items _).2 h, rfl⟩
  | .object members, b => by
    by_cases hw : IsWrapper members
    · obtain ⟨inner, rfl | rfl⟩ := hw
      · exact (ofJson_wrapper_eq_ok (w := .objectId inner)).trans converted_objectId_iff.symm
      · exact (ofJson_wrapper_eq_ok (w := .date inner)).trans converted_date_iff.symm
    · rw [ofJson_object now hw, Json.map_eq_ok, converted_document_iff hw]
      refine exists_congr fun fields => ?_
      rw [ofMembers_eq_ok_iff now members fields]
      exact and_comm.trans (and_congr_left' eq_comm)

theorem ofItems_eq_ok_iff (now : Int64) : ∀ (items : List Json) (bs : List Bson),
    ofItems now items = .ok bs ↔ List.Forall₂ (Converted now) items bs
  | [], bs => by
    rw [ofItems, Except.ok.injEq, List.forall₂_nil_left_iff]
    exact eq_comm
  | x :: rest, bs => by
    rw [ofItems, List.forall₂_cons_left_iff]
    simp only [Json.bind_eq_ok, ofJson_eq_ok_iff now x, ofItems_eq_ok_iff now rest, Except.ok.injEq]
    exact exists_congr fun y => by simp only [exists_and_left, eq_comm]

theorem ofMembers_eq_ok_iff (now : Int64) : ∀ (members : List (String × Json)) (fields : Document),
    ofMembers now members = .ok fields ↔ ConvertedMembers now members fields
  | [], fields => by
    rw [ofMembers, Except.ok.injEq, convertedMembers_nil_iff]
    exact eq_comm
  | (key, x) :: rest, fields => by
    rw [ofMembers, convertedMembers_cons_iff]
    simp only [Json.bind_eq_ok, ofJson_eq_ok_iff now x, ofMembers_eq_ok_iff now rest,
      Except.ok.injEq, exists_and_left]

end

/-! ## The first wrapper without a meaning -/

/-- The error of the first wrapper of a list that is not well formed. -/
inductive FirstError (now : Int64) : List Wrapper → ExecutionError → Prop
  /-- It is the first of all. -/
  | here {w : Wrapper} {rest : List Wrapper} {e : ExecutionError} (hw : ¬ w.WellFormed)
      (h : ofJson now w.toJson = .error e) : FirstError now (w :: rest) e
  /-- It stands behind a wrapper that is well formed. -/
  | later {w : Wrapper} {rest : List Wrapper} {e : ExecutionError} (hw : w.WellFormed)
      (h : FirstError now rest e) : FirstError now (w :: rest) e

namespace FirstError

variable {now : Int64} {ws ws' : List Wrapper} {e e' : ExecutionError}

theorem unique (h : FirstError now ws e) (h' : FirstError now ws e') : e = e' := by
  induction h with
  | here hw h =>
    cases h' with
    | here _ h' =>
      rw [h] at h'
      exact Except.error.inj h'
    | later hwell _ => exact absurd hwell hw
  | later hwell _ ih =>
    cases h' with
    | here hw _ => exact absurd hwell hw
    | later _ h' => exact ih h'

theorem not_all (h : FirstError now ws e) : ¬ ∀ w ∈ ws, w.WellFormed := by
  intro hall
  induction h with
  | here hw _ => exact hw (hall _ List.mem_cons_self)
  | later _ _ ih => exact ih fun w hw => hall w (List.mem_cons_of_mem _ hw)

theorem append_right (h : FirstError now ws e) : FirstError now (ws ++ ws') e := by
  induction h with
  | here hw h => exact .here hw h
  | later hw _ ih => exact .later hw ih

theorem append_left (hall : ∀ w ∈ ws, w.WellFormed) (h : FirstError now ws' e) :
    FirstError now (ws ++ ws') e := by
  induction ws with
  | nil => exact h
  | cons w rest ih =>
    obtain ⟨hw, hrest⟩ := List.forall_mem_cons.1 hall
    exact .later hw (ih hrest)

end FirstError

/-- An outcome is what the wrappers that were met call for. -/
def Explains (now : Int64) (ws : List Wrapper) {α : Type} : Except ExecutionError α → Prop
  | .ok _ => ∀ w ∈ ws, w.WellFormed
  | .error e => FirstError now ws e

namespace Explains

variable {now : Int64} {ws ws' : List Wrapper} {α β γ : Type}

theorem nil (a : α) : Explains now [] (.ok a) := by
  intro w hw
  cases hw

theorem wrapper (w : Wrapper) : Explains now [w] (ofJson now w.toJson) := by
  cases h : ofJson now w.toJson with
  | ok b =>
    intro w' hw'
    obtain rfl := List.mem_singleton.1 hw'
    exact (exists_standsFor_iff now w').1 ⟨b, ofJson_wrapper_eq_ok.1 h⟩
  | error e =>
    refine .here (fun hw => ?_) h
    obtain ⟨b, hb⟩ := (exists_standsFor_iff now w).2 hw
    rw [ofJson_wrapper_eq_ok.2 hb] at h
    cases h

theorem map {x : Except ExecutionError α} (h : Explains now ws x) (f : α → β) :
    Explains now ws (x.map f) := by
  cases x with
  | ok a => exact h
  | error e => exact h

/-- One part after the other: the second counts only if the first has no error. -/
theorem both {x : Except ExecutionError α} {y : Except ExecutionError β}
    (hx : Explains now ws x) (hy : Explains now ws' y) (f : α → β → γ) :
    Explains now (ws ++ ws') (do let a ← x; let b ← y; .ok (f a b)) := by
  cases x with
  | error e => exact FirstError.append_right hx
  | ok a =>
    cases y with
    | error e => exact FirstError.append_left hx hy
    | ok b =>
      intro w hw
      obtain hw | hw := List.mem_append.1 hw
      · exact hx w hw
      · exact hy w hw

theorem exists_ok_iff {x : Except ExecutionError α} (h : Explains now ws x) :
    (∃ a, x = .ok a) ↔ ∀ w ∈ ws, w.WellFormed := by
  cases x with
  | ok a => exact iff_of_true ⟨a, rfl⟩ h
  | error e =>
    refine iff_of_false ?_ (FirstError.not_all h)
    rintro ⟨a, ha⟩
    cases ha

theorem eq_error_iff {x : Except ExecutionError α} (h : Explains now ws x) {e : ExecutionError} :
    x = .error e ↔ FirstError now ws e := by
  cases x with
  | ok a => exact iff_of_false (fun he => by cases he) fun he => he.not_all h
  | error e' =>
    constructor
    · intro he
      exact Except.error.inj he ▸ h
    · intro he
      rw [FirstError.unique h he]

end Explains

mutual

/-- The outcome of a value is what its wrappers call for. -/
theorem explains_ofJson (now : Int64) : ∀ v : Json, Explains now (wrappers v) (ofJson now v)
  | .null => .nil _
  | .bool _ => .nil _
  | .number _ => .nil _
  | .string _ => .nil _
  | .array items => by
    rw [wrappers, ofJson]
    exact (explains_ofItems now items).map _
  | .object members => by
    by_cases hw : IsWrapper members
    · obtain ⟨inner, rfl | rfl⟩ := hw
      · exact .wrapper (.objectId inner)
      · exact .wrapper (.date inner)
    · rw [ofJson_object now hw, wrappers_object hw]
      exact (explains_ofMembers now members).map _

theorem explains_ofItems (now : Int64) : ∀ items : List Json,
    Explains now (wrappersOfItems items) (ofItems now items)
  | [] => .nil _
  | x :: rest => by
    rw [wrappersOfItems, ofItems]
    exact (explains_ofJson now x).both (explains_ofItems now rest) _

theorem explains_ofMembers (now : Int64) : ∀ members : List (String × Json),
    Explains now (wrappersOfMembers members) (ofMembers now members)
  | [] => .nil _
  | (key, x) :: rest => by
    rw [wrappersOfMembers, ofMembers]
    exact (explains_ofJson now x).both (explains_ofMembers now rest) _

end

/-! ## Documents -/

/-- An object that is no wrapper is the same as a value and as a document. -/
theorem documentOfJson_map {now : Int64} {members : JsonMembers} (hw : ¬ IsWrapper members) :
    (documentOfJson now (.object members)).map .document = ofJson now (.object members) := by
  rw [documentOfJson, ofJson_object now hw]

/-- An object with one member is a document with one field, also if it is a wrapper. -/
theorem documentOfJson_single (now : Int64) (key : String) (inner : Json) :
    documentOfJson now (.object [(key, inner)])
      = (ofJson now inner).map fun b => [(key, b)] := by
  rw [documentOfJson, ofMembers, ofMembers]
  cases ofJson now inner <;> rfl

theorem mapM_documentOfJson_eq_ok_iff (now : Int64) {items : List Json} {docs : List Document} :
    items.mapM (documentOfJson now) = .ok docs
      ↔ List.Forall₂ (fun item doc => documentOfJson now item = .ok doc) items docs := by
  induction items generalizing docs with
  | nil =>
    rw [List.mapM_nil, List.forall₂_nil_left_iff]
    constructor
    · intro h
      exact (Except.ok.inj h).symm
    · rintro rfl
      rfl
  | cons item rest ih =>
    rw [List.mapM_cons, Json.bind_eq_ok, List.forall₂_cons_left_iff]
    refine exists_congr fun doc => ?_
    rw [Json.bind_eq_ok]
    constructor
    · rintro ⟨hdoc, more, hmore, h⟩
      exact ⟨more, hdoc, ih.1 hmore, (Except.ok.inj h).symm⟩
    · rintro ⟨more, hdoc, hmore, rfl⟩
      exact ⟨hdoc, more, ih.2 hmore, rfl⟩

/-- The documents of an array are those of its items, one for each and in order. -/
theorem documentsOfJson_eq_ok_iff (now : Int64) {v : Json} {docs : List Document} :
    documentsOfJson now v = .ok docs ↔ ∃ items, v = .array items
      ∧ List.Forall₂ (fun item doc => documentOfJson now item = .ok doc) items docs := by
  cases v with
  | array items => simp [documentsOfJson, mapM_documentOfJson_eq_ok_iff]
  | null | bool b | number n | string s | object members => simp [documentsOfJson]

/-- A value is converted exactly if every wrapper that is reached in it is well formed.  Then
it becomes what `Converted` tells, and else the error is that of the first wrapper that is
not.  As a document an object is the same, but a wrapper is there a document with one field.
The items of an array become documents one by one. -/
theorem ofJson_converts (now : Int64) :
    (∀ v : Json, (∃ b, ofJson now v = .ok b) ↔ ∀ w ∈ wrappers v, w.WellFormed)
    ∧ (∀ (v : Json) (b : Bson), ofJson now v = .ok b ↔ Converted now v b)
    ∧ (∀ (v : Json) (e : ExecutionError),
        ofJson now v = .error e ↔ FirstError now (wrappers v) e)
    ∧ (∀ members : JsonMembers, ¬ IsWrapper members →
        (documentOfJson now (.object members)).map .document = ofJson now (.object members))
    ∧ (∀ (key : String) (inner : Json),
        documentOfJson now (.object [(key, inner)])
          = (ofJson now inner).map fun b => [(key, b)])
    ∧ ∀ (v : Json) (docs : List Document), documentsOfJson now v = .ok docs
        ↔ ∃ items, v = .array items
          ∧ List.Forall₂ (fun item doc => documentOfJson now item = .ok doc) items docs :=
  ⟨fun v => (explains_ofJson now v).exists_ok_iff, ofJson_eq_ok_iff now,
    fun v _ => (explains_ofJson now v).eq_error_iff, fun _ hw => documentOfJson_map hw,
    documentOfJson_single now, fun _ _ => documentsOfJson_eq_ok_iff now⟩

/-- Of two wrappers that are not well formed the first is the error.  The object around them
has the key of a wrapper, but not it alone. -/
theorem ofJson_converts_first :
    let members : JsonMembers :=
      [ ("a", .array [.object [("$date", .int 5)], .object [("$oid", .bool true)]]),
        ("$date", .object [("$date", .bool true)]) ]
    ¬ IsWrapper members
      ∧ ofJson 0 (.object members) = .error (.conversion "$oid must be a string")
      ∧ (documentOfJson 0 (.object members)).map .document = ofJson 0 (.object members) := by
  intro members
  obtain ⟨-, -, herror, hdocument, -⟩ := ofJson_converts 0
  have hw : ¬ IsWrapper members := by
    rintro ⟨value, h | h⟩
    · simp [members] at h
    · simp [members] at h
  have hill : ¬ (Wrapper.objectId (.bool true)).WellFormed := by
    intro h
    cases h
  exact ⟨hw, (herror _ _).2 (.later (.millis rfl) (.here hill rfl)), hdocument members hw⟩

end Bson

end ShellQuery

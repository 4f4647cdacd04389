import ShellQuery.Proofs.Bson.RoundTrip

/-!
# What wrappers stand for

An object whose only key is that of a wrapper stands for an object id or a date.  `StandsFor`
tells what it is, and `WellFormed` whether it is anything at all, which does not depend on the
time (`exists_standsFor_iff`).  The conversion agrees: `ofJson_wrapper_eq_ok`.
-/

namespace ShellQuery

open ShellQuery.Text

/-! ## Object ids -/

theorem utf8Size_of_hexDigit? {c : Char} {d : Fin 16} (h : hexDigit? c = some d) :
    c.utf8Size = 1 := by
  rw [Char.utf8Size_eq_one_iff]
  unfold hexDigit? at h
  split at h
  next hdigit =>
    have hle : c.val ≤ '9'.val := of_decide_eq_true (Bool.and_eq_true_iff.1 hdigit).2
    exact UInt32.le_trans hle (by decide)
  next =>
    split at h
    next hlower => exact UInt32.le_trans hlower.2 (by decide)
    next =>
      split at h
      next hupper => exact UInt32.le_trans hupper.2 (by decide)
      next => cases h

theorem readHexDigits_eq_ok (index : Nat) {text : List Char} {digits : List (Fin 16)} :
    readHexDigits index text = .ok digits ↔ text.map hexDigit? = digits.map some := by
  induction text generalizing index digits with
  | nil => cases digits <;> simp [readHexDigits]
  | cons c rest ih =>
    rw [readHexDigits, List.map_cons]
    cases hc : hexDigit? c with
    | none => cases digits <;> simp
    | some d =>
      cases digits with
      | nil => cases hrest : readHexDigits (index + 1) rest <;> simp [Except.map]
      | cons d' digits' =>
        rw [List.map_cons, List.cons.injEq, Option.some.injEq, ← ih (index + 1)]
        cases hrest : readHexDigits (index + 1) rest <;> simp [Except.map]

theorem utf8Length_of_map_hexDigit? {text : List Char} {digits : List (Fin 16)}
    (h : text.map hexDigit? = digits.map some) : utf8Length text = digits.length := by
  induction text generalizing digits with
  | nil =>
    obtain rfl := List.map_eq_nil_iff.1 h.symm
    rfl
  | cons c rest ih =>
    obtain ⟨d, digits', rfl, hd, hrest⟩ := List.map_eq_cons_iff.1 h.symm
    rw [utf8Length_cons, utf8Size_of_hexDigit? hd.symm, ih hrest.symm, List.length_cons,
      Nat.add_comm]

/-- A text is an object id exactly if its characters are the digits of the id. -/
theorem ObjectId.ofText_eq_ok {text : List Char} {id : ObjectId} :
    ObjectId.ofText text = .ok id ↔ text.map hexDigit? = id.digits.map some := by
  obtain ⟨digits, hlength⟩ := id
  constructor
  · intro h
    unfold ObjectId.ofText at h
    split at h
    next => cases h
    next =>
      split at h
      next => cases h
      next read hread =>
        split at h
        next =>
          cases h
          exact (readHexDigits_eq_ok 0).1 hread
        next => cases h
  · intro h
    have heven : ¬ utf8Length text % 2 = 1 := by
      rw [utf8Length_of_map_hexDigit? h, hlength]
      decide
    rw [ofText, if_neg heven, (readHexDigits_eq_ok 0).2 h]
    exact dif_pos hlength

namespace Bson

/-! ## Wrappers -/

/-- A wrapper, by what is in it. -/
inductive Wrapper where
  /-- An object id. -/
  | objectId (inner : Json)
  /-- A date. -/
  | date (inner : Json)

namespace Wrapper

/-- The object that is the wrapper. -/
def toJson : Wrapper → Json
  | objectId inner => .object [("$oid", inner)]
  | date inner => .object [("$date", inner)]

/-- What a wrapper has to hold to stand for something. -/
inductive WellFormed : Wrapper → Prop
  /-- A text of 24 hexadecimal digits. -/
  | digits {s : String} (hlength : s.toList.length = 24)
      (h : ∀ c ∈ s.toList, (hexDigit? c).isSome = true) : WellFormed (.objectId (.string s))
  /-- The text for the current time. -/
  | now : WellFormed (.date (.string "now"))
  /-- The text of a date. -/
  | text {s : String} (h : (DateText.read? s.toList).isSome = true) : WellFormed (.date (.string s))
  /-- An integer of 64 bits. -/
  | millis {n : Int} (h : Width.isInt64 n = true) : WellFormed (.date (.int n))
  /-- An object with the text of such an integer under its key. -/
  | long {members : JsonMembers} {s : String}
      (hfind : Json.find? "$numberLong" members = some (.string s))
      (h : (DateText.readInt64? s.toList).isSome = true) : WellFormed (.date (.object members))

/-- What a wrapper stands for at a time. -/
inductive StandsFor (now : Int64) : Wrapper → Bson → Prop
  /-- The object id with the digits of the text. -/
  | digits {s : String} {id : ObjectId} (h : s.toList.map hexDigit? = id.digits.map some) :
      StandsFor now (.objectId (.string s)) (.objectId id)
  /-- The current time. -/
  | now : StandsFor now (.date (.string "now")) (.dateTime now)
  /-- The date of the text. -/
  | text {s : String} {i : Instant} (hne : s ≠ "now") (h : DateText.read? s.toList = some i) :
      StandsFor now (.date (.string s)) (.dateTime (Int64.ofInt i.millis))
  /-- The date with the milliseconds. -/
  | millis (n : Int64) : StandsFor now (.date (.int n.toInt)) (.dateTime n)
  /-- The date with the milliseconds of the text. -/
  | long {members : JsonMembers} {s : String} {n : Int64}
      (hfind : Json.find? "$numberLong" members = some (.string s))
      (h : DateText.readInt64? s.toList = some n) :
      StandsFor now (.date (.object members)) (.dateTime n)

end Wrapper

theorem longMillis?_eq_some {members : JsonMembers} {n : Int64} :
    longMillis? members = some n
      ↔ ∃ s, Json.find? "$numberLong" members = some (.string s)
        ∧ DateText.readInt64? s.toList = some n := by
  rw [longMillis?, Option.bind_eq_some_iff]
  constructor
  · rintro ⟨s, hs, hn⟩
    obtain ⟨value, hfind, hvalue⟩ := Option.bind_eq_some_iff.1 hs
    cases value with
    | string =>
      cases hvalue
      exact ⟨s, hfind, hn⟩
    | null | bool _ | number _ | array _ | object _ => cases hvalue
  · rintro ⟨s, hfind, hn⟩
    exact ⟨s, by rw [hfind]; rfl, hn⟩

theorem ofObjectIdWrapper_eq_ok {now : Int64} {inner : Json} {b : Bson} :
    ofObjectIdWrapper inner = .ok b ↔ (Wrapper.objectId inner).StandsFor now b := by
  constructor
  · intro h
    cases inner with
    | string s =>
      rw [ofObjectIdWrapper] at h
      split at h
      next id hid =>
        cases h
        exact .digits (ObjectId.ofText_eq_ok.1 hid)
      next => cases h
    | null | bool _ | number _ | array _ | object _ => cases h
  · intro h
    cases h with
    | digits h => rw [ofObjectIdWrapper, ObjectId.ofText_eq_ok.2 h]

theorem ofDateWrapper_int (now n : Int64) :
    ofDateWrapper now (.int n.toInt) = .ok (.dateTime n) := by
  rw [Json.int, ofDateWrapper, if_pos (Width.isInt64_toInt n), Int64.ofInt_toInt]

theorem ofDateWrapper_eq_ok {now : Int64} {inner : Json} {b : Bson} :
    ofDateWrapper now inner = .ok b ↔ (Wrapper.date inner).StandsFor now b := by
  constructor
  · intro h
    cases inner with
    | string s =>
      rw [ofDateWrapper] at h
      split at h
      next hnow =>
        cases h
        subst hnow
        exact .now
      next hne =>
        split at h
        next i hi =>
          cases h
          exact .text hne hi
        next => cases h
    | number n =>
      cases n with
      | int n =>
        cases hn : Width.isInt64 n with
        | true =>
          obtain ⟨m, rfl⟩ := Width.exists_int64 hn
          cases (ofDateWrapper_int now m).symm.trans h
          exact .millis m
        | false =>
          rw [ofDateWrapper, hn] at h
          cases h
      | float x => cases h
    | object members =>
      rw [ofDateWrapper] at h
      split at h
      next n hn =>
        cases h
        obtain ⟨s, hfind, hs⟩ := longMillis?_eq_some.1 hn
        exact .long hfind hs
      next => cases h
    | null | bool _ | array _ => cases h
  · intro h
    cases h with
    | now => rfl
    | text hne h => rw [ofDateWrapper, if_neg hne, h]
    | millis n => exact ofDateWrapper_int now n
    | long hfind h => rw [ofDateWrapper, longMillis?_eq_some.2 ⟨_, hfind, h⟩]

/-- A wrapper is converted to what it stands for. -/
theorem ofJson_wrapper_eq_ok {now : Int64} {w : Wrapper} {b : Bson} :
    ofJson now w.toJson = .ok b ↔ w.StandsFor now b := by
  cases w with
  | objectId inner => exact ofObjectIdWrapper_eq_ok
  | date inner => exact ofDateWrapper_eq_ok

/-- The characters of a text of hexadecimal digits are the digits of a list. -/
theorem exists_digits {text : List Char} (h : ∀ c ∈ text, (hexDigit? c).isSome = true) :
    ∃ digits : List (Fin 16), text.map hexDigit? = digits.map some := by
  induction text with
  | nil => exact ⟨[], rfl⟩
  | cons c rest ih =>
    obtain ⟨hc, hrest⟩ := List.forall_mem_cons.1 h
    obtain ⟨d, hd⟩ := Option.isSome_iff_exists.1 hc
    obtain ⟨digits, hdigits⟩ := ih hrest
    exact ⟨d :: digits, by rw [List.map_cons, List.map_cons, hd, hdigits]⟩

/-- A wrapper stands for something exactly if it is well formed, whatever the time. -/
theorem exists_standsFor_iff (now : Int64) (w : Wrapper) :
    (∃ b, w.StandsFor now b) ↔ w.WellFormed := by
  constructor
  · rintro ⟨b, h⟩
    cases h with
    | @digits s id h =>
      have hlength : s.toList.length = 24 := by
        rw [← List.length_map, h, List.length_map, id.length_eq]
      refine .digits hlength fun c hc => ?_
      have hmem : hexDigit? c ∈ id.digits.map some := h ▸ List.mem_map_of_mem hc
      obtain ⟨d, -, hd⟩ := List.mem_map.1 hmem
      rw [← hd, Option.isSome_some]
    | now => exact .now
    | text hne h => exact .text (Option.isSome_of_eq_some h)
    | millis n => exact .millis (Width.isInt64_toInt n)
    | long hfind h => exact .long hfind (Option.isSome_of_eq_some h)
  · intro h
    cases h with
    | @digits s hlength h =>
      obtain ⟨digits, hdigits⟩ := exists_digits h
      have hcount : digits.length = 24 := by
        rw [← List.length_map, ← hdigits, List.length_map, hlength]
      exact ⟨.objectId ⟨digits, hcount⟩, .digits hdigits⟩
    | now => exact ⟨_, .now⟩
    | @text s h =>
      by_cases hnow : s = "now"
      · subst hnow
        exact ⟨_, .now⟩
      · obtain ⟨i, hi⟩ := Option.isSome_iff_exists.1 h
        exact ⟨_, .text hnow hi⟩
    | @millis n h =>
      obtain ⟨m, rfl⟩ := Width.exists_int64 h
      exact ⟨_, .millis m⟩
    | long hfind h =>
      obtain ⟨n, hn⟩ := Option.isSome_iff_exists.1 h
      exact ⟨_, .long hfind hn⟩

end Bson

end ShellQuery

import ShellQuery.Proofs.Argument.Broken

/-!
# JSON as an argument

An argument text that is JSON already, between brackets, comes out as it is read, unless
one of two things happens: a constructor call is found in the raw text, or a string looks
like the placeholder of a date that was taken out.  `normalize_json_iff` says that nothing
else happens, and that both do harm whenever they happen.
-/

namespace ShellQuery.Argument

open ShellQuery.Text
open ShellQuery.Spelling

variable {text : List Char} {items : List Json}

/-- No call of any constructor is found at any place of a text. -/
def HasNoCall (text : List Char) : Prop := FindsNone [.objectId, .isoDate, .date] none text

theorem findsNone_append (ks ks' : List Constructor) {before : Option Char} {text : List Char} :
    FindsNone (ks ++ ks') before text ↔ FindsNone ks before text ∧ FindsNone ks' before text := by
  have happend : ∀ before text,
      readCall? (ks ++ ks') before text
        = (readCall? ks before text).or (readCall? ks' before text) := by
    intro before text
    rw [readCall?, readCall?, readCall?, List.findSome?_append]
  simp only [FindsNone, happend, Option.or_eq_none_iff]
  constructor
  · intro h
    exact ⟨fun front rest ht => (h front rest ht).1, fun front rest ht => (h front rest ht).2⟩
  · rintro ⟨h, h'⟩ front rest ht
    exact ⟨h front rest ht, h' front rest ht⟩

/-- A text without calls stays. -/
theorem HasNoCall.replaceConstructors (h : HasNoCall text) : replaceConstructors text = text := by
  obtain ⟨hobject, hdate⟩ := (findsNone_append [.objectId] [.isoDate, .date]).1 h
  rw [Argument.replaceConstructors, replaceCalls_of_findsNone hobject,
    replaceCalls_of_findsNone hdate]

/-- The text of a JSON value has no call, or it breaks. -/
theorem Tidy.hasNoCall_or_broken (h : Tidy text) :
    HasNoCall text ∨ Broken (replaceConstructors text) := by
  rw [Argument.replaceConstructors]
  rcases h.scanned [.objectId] none with hobject | hbroken
  · rw [replaceCalls_of_findsNone hobject]
    rcases h.scanned [.isoDate, .date] none with hdate | hbroken
    · exact .inl ((findsNone_append [.objectId] [.isoDate, .date]).2 ⟨hobject, hdate⟩)
    · exact .inr hbroken
  · exact .inr (hbroken.replaceCalls none)

/-- Keys and strings of plain items are in double quotes already. -/
theorem quoteKeys_plain (inner : Space) {items : Items} (h : items.Plain) :
    quoteKeys (inner.text ++ items.text) = inner.text ++ items.text := by
  have hnocall : ∀ a : Leaf, a.Plain → a.NoCall := by
    intro a ha
    cases a with
    | call c => exact ha
    | null => trivial
    | bool b => trivial
    | number n => trivial
    | string l => trivial
  have hleaf : ∀ a : Leaf, a.Plain → Tree.leaf (requoteLeaf a) = .leaf a := by
    intro a ha
    cases a with
    | string l => rw [requoteLeaf, requoteLiteral_of_quote_eq ha]
    | null => rfl
    | bool b => rfl
    | number n => rfl
    | call c => rfl
  have hkey : ∀ k : Key, k.Plain → requoteKey k = k := by
    intro k hk
    cases k with
    | bare n => exact hk.elim
    | quoted l => rw [requoteKey, requoteLiteral_of_quote_eq hk]
  have hself : items.bind (fun a => .leaf (requoteLeaf a)) requoteKey = items :=
    items.bind_eq_self hleaf hkey h
  have hrun : quoteKeys (inner.text ++ items.text)
      = inner.text ++ (items.bind (fun a => .leaf (requoteLeaf a)) requoteKey).text :=
    quotePass.run_text quoteKeysFrom_nil inner (h.imp hnocall fun _ _ => trivial) trivial
  rw [hrun, hself]

/-- The values of a JSON text in which no call is found. -/
theorem HasNoCall.normalize (h : HasNoCall text)
    (hjson : Json.parse ('[' :: text ++ [']']) = .ok (.array items))
    (hlength : text.length < Width.words64) :
    normalize text = .ok (restoreItems (protectDates text).2 items) := by
  obtain ⟨inner, tree, rfl, hp, hv, hd⟩ := exists_items_of_parse hjson
  cases hv
  have hcount := stringCount_items_le tree
  rw [List.length_append] at hlength
  refine normalize_of_plain ?_ hp hd (by omega)
  rw [h.replaceConstructors, quoteKeys_plain inner hp]

/-- JSON values come out as they are just when no constructor call is found in their text
and none of their strings is the placeholder of a date in it. -/
theorem normalize_json_iff (hjson : Json.parse ('[' :: text ++ [']']) = .ok (.array items))
    (hlength : text.length < Width.words64) :
    normalize text = .ok items
      ↔ HasNoCall text ∧ EachStringOfItems (IsFree (dateLiterals text).length) items := by
  have hdates := (protects_protectDates text).isDateText
  rw [← length_protectDates, ← restoreItems_eq_self_iff hdates]
  constructor
  · intro hok
    have htidy : Tidy text := by
      obtain ⟨inner, tree, rfl, hp, -, -⟩ := exists_items_of_parse hjson
      exact tidy_items inner hp
    rcases htidy.hasNoCall_or_broken with hcall | hbroken
    · refine ⟨hcall, ?_⟩
      rw [hcall.normalize hjson hlength] at hok
      exact Except.ok.inj hok
    · exact absurd hok (normalize_ne_ok_of_broken hbroken items)
  · rintro ⟨hcall, hself⟩
    rw [hcall.normalize hjson hlength, hself]

/-- A date is taken out and put back, so it comes out as it is. -/
theorem normalize_json_iff_date :
    Json.parse ('[' :: "\"2020/01/01\"".toList ++ [']']) = .ok (.array [.string "2020/01/01"])
      ∧ "\"2020/01/01\"".toList.length < Width.words64
      ∧ (normalize "\"2020/01/01\"".toList = .ok [.string "2020/01/01"]
        ↔ HasNoCall "\"2020/01/01\"".toList
          ∧ EachStringOfItems (IsFree (dateLiterals "\"2020/01/01\"".toList).length)
            [.string "2020/01/01"]) := by
  have hjson : Json.parse ('[' :: "\"2020/01/01\"".toList ++ [']'])
      = .ok (.array [.string "2020/01/01"]) := rfl
  have hlength : "\"2020/01/01\"".toList.length < Width.words64 := by decide
  exact ⟨hjson, hlength, normalize_json_iff hjson hlength⟩

/-- Two JSON texts that do not come out as they are: one quotes a constructor call, and the
other holds a placeholder in front of a date. -/
theorem normalize_json_changed :
    (Json.parse ('[' :: "\"ObjectId('x')\"".toList ++ [']'])
        = .ok (.array [.string "ObjectId('x')"])
      ∧ ∀ items, normalize "\"ObjectId('x')\"".toList ≠ .ok items)
    ∧ Json.parse ('[' :: "\"__DATE_PLACEHOLDER_0__\",\"2020/01/01\"".toList ++ [']'])
        = .ok (.array [.string "__DATE_PLACEHOLDER_0__", .string "2020/01/01"])
      ∧ normalize "\"__DATE_PLACEHOLDER_0__\",\"2020/01/01\"".toList
        ≠ .ok [.string "__DATE_PLACEHOLDER_0__", .string "2020/01/01"] := by
  refine ⟨⟨rfl, fun items h => ?_⟩, rfl, fun h => ?_⟩
  · have hfails : (normalize "\"ObjectId('x')\"".toList).isOk = false := by decide +kernel
    rw [h] at hfails
    cases hfails
  · have hfirst : ((normalize "\"__DATE_PLACEHOLDER_0__\",\"2020/01/01\"".toList).toOption.bind
        List.head?).map Json.compact = some "\"2020/01/01\"" := by
      decide +kernel
    rw [h] at hfirst
    exact absurd hfirst (by decide +kernel)

end ShellQuery.Argument

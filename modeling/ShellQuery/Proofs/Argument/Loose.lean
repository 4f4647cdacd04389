import ShellQuery.Proofs.Argument.Calls
import ShellQuery.Proofs.Argument.Keys
import ShellQuery.Proofs.Argument.Normal

/-!
# Arguments in shell syntax

What a spelled argument list is read as.  Three passes turn its items into plain ones:
two replace calls, and one puts keys and strings into double quotes.  None of them
changes a value, the depth or the number of strings, so the values that come out are
those that the items denote: `normalize_items`.

A text that names a call inside a string, and a string that starts like a placeholder,
are left out: the passes do not tell them from what they look for.
-/

namespace ShellQuery.Spelling

open ShellQuery.Text
open ShellQuery.Decimal (digitsValue)
open ShellQuery.Argument (Constructor normalize replaceCalls replaceConstructors quoteKeys
  quoteKeysFrom protectDates restoreItems placeholderNumber? IsFree EachString
  EachStringOfItems EachStringOfMembers)

/-! ## What is denoted -/

mutual

/-- The value that a tree denotes: an object has its members in order. -/
def Tree.denotation : Tree → Json
  | .leaf a => a.value
  | .array _ items => .array items.denotations
  | .object _ members => .object members.denotations

/-- The values that items denote. -/
def Items.denotations : Items → List Json
  | .nil => []
  | .cons _ value _ rest => value.denotation :: rest.denotations

/-- The keys of members and the values that they denote. -/
def Members.denotations : Members → JsonMembers
  | .nil => []
  | .cons _ key _ _ value _ rest => (String.ofList key.chars, value.denotation) :: rest.denotations

end

/-- The keys of members. -/
def Members.keys : Members → List (List Char)
  | .nil => []
  | .cons _ key _ _ _ _ rest => key.chars :: rest.keys

mutual

/-- No object in a tree repeats a key. -/
def Tree.Distinct : Tree → Prop
  | .leaf _ => True
  | .array _ items => items.Distinct
  | .object _ members => members.keys.Nodup ∧ members.Distinct

/-- No object in items repeats a key. -/
def Items.Distinct : Items → Prop
  | .nil => True
  | .cons _ value _ rest => value.Distinct ∧ rest.Distinct

/-- No object in the values of members repeats a key. -/
def Members.Distinct : Members → Prop
  | .nil => True
  | .cons _ _ _ _ value _ rest => value.Distinct ∧ rest.Distinct

end

theorem put_of_notMem {key : String} (value : Json) {members : JsonMembers}
    (h : key ∉ members.map Prod.fst) : Json.put key value members = members ++ [(key, value)] := by
  induction members with
  | nil => rfl
  | cons m rest ih =>
    rw [List.map_cons, List.mem_cons, not_or] at h
    simp [Json.put, Ne.symm h.1, ih h.2]

/-- Members without a repeated key are not merged. -/
theorem merge_of_nodup {members : JsonMembers} (h : (members.map Prod.fst).Nodup) :
    merge members = members := by
  have hfold : ∀ all : JsonMembers, ((all ++ members).map Prod.fst).Nodup →
      members.foldl (fun all m => Json.put m.1 m.2 all) all = all ++ members := by
    clear h
    induction members with
    | nil => simp
    | cons m rest ih =>
      intro all hall
      have hm : m.1 ∉ all.map Prod.fst := by
        rw [List.map_append, List.nodup_append] at hall
        exact fun hmem => hall.2.2 _ hmem _ (by simp) rfl
      rw [List.foldl_cons, put_of_notMem _ hm, ih]
      · simp
      · simpa using hall
  exact hfold [] h

theorem map_fst_denotations (members : Members) :
    members.denotations.map Prod.fst = members.keys.map String.ofList := by
  induction members using Members.keys.induct with
  | case1 => rfl
  | case2 _ key _ _ value _ rest ih =>
    rw [Members.denotations, Members.keys, List.map_cons, List.map_cons, ih]

theorem nodup_map_ofList {keys : List (List Char)} (h : keys.Nodup) :
    (keys.map String.ofList).Nodup :=
  List.Pairwise.map _ (fun _ _ hne he => hne (String.ofList_injective he)) h

mutual

/-- A tree without repeated keys has the value that it denotes. -/
theorem Tree.value_eq_denotation : ∀ t : Tree, t.Distinct → t.value = t.denotation
  | .leaf _, _ => rfl
  | .array _ items, h => congrArg Json.array (items.values_eq_denotations h)
  | .object _ members, h => by
      rw [Tree.value, Tree.denotation, members.values_eq_denotations h.2, merge_of_nodup]
      rw [map_fst_denotations]
      exact nodup_map_ofList h.1

theorem Items.values_eq_denotations :
    ∀ items : Items, items.Distinct → items.values = items.denotations
  | .nil, _ => rfl
  | .cons _ value _ rest, h => by
      rw [Items.values, Items.denotations, value.value_eq_denotation h.1,
        rest.values_eq_denotations h.2]

theorem Members.values_eq_denotations :
    ∀ members : Members, members.Distinct → members.values = members.denotations
  | .nil, _ => rfl
  | .cons _ _ _ _ value _ rest, h => by
      rw [Members.values, Members.denotations, value.value_eq_denotation h.1,
        rest.values_eq_denotations h.2]

end

/-! ## What is left out -/

/-- A leaf whose string names no call and does not start like a placeholder. -/
def Leaf.Clean (a : Leaf) : Prop :=
  ∀ s ∈ a.chars?, NamesNoCall s ∧ ¬ "__DATE_PLACEHOLDER_".toList <+: s

/-- Items that hold nothing but clean leaves and keys that name no call. -/
def Items.Clean (items : Items) : Prop := items.All Leaf.Clean Key.NamesNoCall

/-- A leaf that is no call, unless of the given constructors. -/
def Leaf.CallsOnly (ks : List Constructor) (a : Leaf) : Prop := ∀ c, a = .call c → c.kind ∈ ks

theorem namesNoCall_of_no_paren {s : List Char} (h : '(' ∉ s) : NamesNoCall s :=
  ⟨fun hi => h (hi.subset (by decide)), fun hi => h (hi.subset (by decide))⟩

/-- No key of an extended JSON object names a call. -/
theorem namesNoCall_key (k : Constructor) : NamesNoCall k.key.toList :=
  namesNoCall_of_no_paren (by cases k <;> decide)

/-- No clean string is a placeholder. -/
theorem isFree_of_not_placeholder {s : List Char} (h : ¬ "__DATE_PLACEHOLDER_".toList <+: s)
    (count : Nat) : IsFree count (String.ofList s) := by
  intro n hn
  rw [String.toList_ofList] at hn
  obtain ⟨start, hs, -⟩ := Option.bind_eq_some_iff.1 hn
  exact absurd ⟨start, (dropWord?_eq_some.1 hs).symm⟩ h

theorem Leaf.Clean.isFree {a : Leaf} (h : a.Clean) (count : Nat) :
    EachString (IsFree count) a.value := by
  cases a with
  | null => trivial
  | bool b => trivial
  | number n => trivial
  | string l => exact isFree_of_not_placeholder (h _ rfl).2 count
  | call c => exact ⟨isFree_of_not_placeholder (h _ rfl).2 count, trivial⟩

mutual

/-- The strings of a clean tree are free. -/
theorem Tree.isFree_denotation {q : Key → Prop} (count : Nat) :
    ∀ t : Tree, t.All Leaf.Clean q → EachString (IsFree count) t.denotation
  | .leaf _, h => h.isFree count
  | .array _ items, h => items.isFree_denotations count h
  | .object _ members, h => members.isFree_denotations count h

theorem Items.isFree_denotations {q : Key → Prop} (count : Nat) :
    ∀ items : Items, items.All Leaf.Clean q → EachStringOfItems (IsFree count) items.denotations
  | .nil, _ => trivial
  | .cons _ value _ rest, h =>
      ⟨value.isFree_denotation count h.1, rest.isFree_denotations count h.2⟩

theorem Members.isFree_denotations {q : Key → Prop} (count : Nat) :
    ∀ members : Members, members.All Leaf.Clean q →
      EachStringOfMembers (IsFree count) members.denotations
  | .nil, _ => trivial
  | .cons _ _ _ _ value _ rest, h =>
      ⟨value.isFree_denotation count h.2.1, rest.isFree_denotations count h.2.2⟩

end

/-! ## What the passes keep -/

theorem expandLeaf_value (ks : List Constructor) (a : Leaf) :
    (expandLeaf ks a).value = a.value := by
  cases a with
  | call c =>
    rw [expandLeaf]
    split
    · have hkey : String.ofList c.kind.key.toList = c.kind.key := String.ofList_toList
      simp only [ConstructorCall.object, Tree.value, Members.values, Key.chars, writtenLiteral,
        Leaf.value, hkey]
      rfl
    · rfl
  | null => rfl
  | bool b => rfl
  | number n => rfl
  | string l => rfl

theorem expandLeaf_depth (ks : List Constructor) (a : Leaf) :
    (expandLeaf ks a).depth = a.depth := by
  cases a with
  | call c =>
    rw [expandLeaf]
    split <;> rfl
  | null => rfl
  | bool b => rfl
  | number n => rfl
  | string l => rfl

theorem expandLeaf_stringCount (ks : List Constructor) (a : Leaf) :
    (expandLeaf ks a).stringCount = a.stringCount := by
  cases a with
  | call c =>
    rw [expandLeaf]
    split <;> rfl
  | null => rfl
  | bool b => rfl
  | number n => rfl
  | string l => rfl

/-- The leaves and keys that stand for a leaf are clean, and fewer calls are left. -/
theorem all_expandLeaf {ks left : List Constructor} {a : Leaf} (h : a.Clean)
    (hc : a.CallsOnly (ks ++ left)) :
    (expandLeaf ks a).All (fun a => a.Clean ∧ a.CallsOnly left) Key.NamesNoCall := by
  cases a with
  | call c =>
    rw [expandLeaf]
    split
    · refine ⟨namesNoCall_key c.kind, ⟨?_, nofun⟩, trivial⟩
      exact fun s hs => h s hs
    · rename_i hk
      refine ⟨h, fun c' hc' => ?_⟩
      rcases List.mem_append.1 (hc c' hc') with hmem | hmem
      · cases hc'
        exact absurd hmem hk
      · exact hmem
  | null => exact ⟨h, nofun⟩
  | bool b => exact ⟨h, nofun⟩
  | number n => exact ⟨h, nofun⟩
  | string l => exact ⟨h, nofun⟩

/-- Calls of other constructors are not mistaken for object ids. -/
theorem Leaf.Clean.settled_objectId {a : Leaf} (h : a.Clean) : a.Settled [.objectId] := by
  cases a with
  | call c =>
    by_cases hk : c.kind = .objectId
    · exact .inl (List.mem_singleton.2 hk)
    · exact .inr (quiet_call hk (h _ rfl).1)
  | string l => exact (h _ rfl).1
  | null => trivial
  | bool b => trivial
  | number n => trivial

/-- When the object ids are gone, all calls are of dates. -/
theorem Leaf.Clean.settled_of_callsOnly {ks : List Constructor} {a : Leaf} (h : a.Clean)
    (hc : a.CallsOnly ks) : a.Settled ks := by
  cases a with
  | call c => exact .inl (hc c rfl)
  | string l => exact (h _ rfl).1
  | null => trivial
  | bool b => trivial
  | number n => trivial

theorem Leaf.CallsOnly.noCall {a : Leaf} (h : a.CallsOnly []) : a.NoCall := by
  cases a with
  | call c => exact absurd (h c rfl) List.not_mem_nil
  | string l => trivial
  | null => trivial
  | bool b => trivial
  | number n => trivial

theorem requoteLeaf_value (a : Leaf) : (requoteLeaf a).value = a.value := by
  cases a with
  | string l => exact congrArg (fun s => Json.string (String.ofList s)) (requoteLiteral_chars l)
  | null => rfl
  | bool b => rfl
  | number n => rfl
  | call c => rfl

theorem requoteLeaf_depth (a : Leaf) : (requoteLeaf a).depth = a.depth := by
  cases a <;> rfl

theorem requoteLeaf_stringCount (a : Leaf) : (requoteLeaf a).stringCount = a.stringCount := by
  cases a <;> rfl

theorem requoteKey_chars (k : Key) : (requoteKey k).chars = k.chars := by
  cases k with
  | bare n => rfl
  | quoted l => exact requoteLiteral_chars l

theorem plain_requoteLeaf {a : Leaf} (h : a.NoCall) : (requoteLeaf a).Plain := by
  cases a with
  | string l => exact requoteLiteral_quote l
  | call c => exact h
  | null => trivial
  | bool b => trivial
  | number n => trivial

theorem plain_requoteKey (k : Key) : (requoteKey k).Plain := by
  cases k with
  | bare n => rfl
  | quoted l => exact requoteLiteral_quote l

/-! ## The three passes together -/

/-- Items whose calls are replaced by objects. -/
def Items.expanded (items : Items) : Items :=
  (items.bind (expandLeaf [.objectId]) id).bind (expandLeaf [.isoDate, .date]) id

/-- Items whose calls are replaced by objects, with keys and strings in double quotes. -/
def Items.rewritten (items : Items) : Items :=
  items.expanded.bind (fun a => .leaf (requoteLeaf a)) requoteKey

section

variable {items : Items}

/-- When the object ids are replaced, the calls that are left are of dates. -/
theorem Items.Clean.bind_objectId (h : items.Clean) :
    (items.bind (expandLeaf [.objectId]) id).All
      (fun a => a.Clean ∧ a.CallsOnly [.isoDate, .date]) Key.NamesNoCall := by
  refine items.all_bind (fun a ha => all_expandLeaf ha fun c _ => ?_) (fun _ hk => hk) h
  cases c.kind <;> decide

/-- When the dates are replaced too, no call is left. -/
theorem Items.Clean.expanded (h : items.Clean) :
    items.expanded.All (fun a => a.Clean ∧ a.CallsOnly []) Key.NamesNoCall :=
  Items.all_bind (fun _ ha => all_expandLeaf ha.1 ha.2) (fun _ hk => hk) _ h.bind_objectId

theorem Items.Clean.plain_rewritten (h : items.Clean) : items.rewritten.Plain := by
  show (items.expanded.bind (fun a => .leaf (requoteLeaf a)) requoteKey).All Leaf.Plain Key.Plain
  refine Items.all_bind (fun a ha => ?_) (fun k _ => plain_requoteKey k) _ h.expanded
  exact plain_requoteLeaf ha.2.noCall

theorem Items.Clean.values_rewritten (h : items.Clean) : items.rewritten.values = items.values :=
  calc items.rewritten.values
      = items.expanded.values :=
        Items.values_bind (f := fun a => .leaf (requoteLeaf a)) (fun a _ => requoteLeaf_value a)
          (fun k _ => requoteKey_chars k) _ h.expanded
    _ = (items.bind (expandLeaf [.objectId]) id).values :=
        Items.values_bind (fun a _ => expandLeaf_value _ a) (fun _ _ => rfl) _ h.bind_objectId
    _ = items.values := Items.values_bind (fun a _ => expandLeaf_value _ a) (fun _ _ => rfl) _ h

theorem Items.Clean.depth_rewritten (h : items.Clean) : items.rewritten.depth = items.depth :=
  calc items.rewritten.depth
      = items.expanded.depth :=
        Items.depth_bind (f := fun a => .leaf (requoteLeaf a)) (fun a _ => requoteLeaf_depth a) _
          h.expanded
    _ = (items.bind (expandLeaf [.objectId]) id).depth :=
        Items.depth_bind (fun a _ => expandLeaf_depth _ a) _ h.bind_objectId
    _ = items.depth := Items.depth_bind (fun a _ => expandLeaf_depth _ a) _ h

theorem Items.Clean.stringCount_rewritten (h : items.Clean) :
    items.rewritten.stringCount = items.stringCount :=
  calc items.rewritten.stringCount
      = items.expanded.stringCount :=
        Items.stringCount_bind (f := fun a => .leaf (requoteLeaf a))
          (fun a _ => requoteLeaf_stringCount a) _ h.expanded
    _ = (items.bind (expandLeaf [.objectId]) id).stringCount :=
        Items.stringCount_bind (fun a _ => expandLeaf_stringCount _ a) _ h.bind_objectId
    _ = items.stringCount := Items.stringCount_bind (fun a _ => expandLeaf_stringCount _ a) _ h

/-- Replacing calls expands the items of a text. -/
theorem Items.Clean.replaceConstructors_text (h : items.Clean) (inner : Space) :
    replaceConstructors (inner.text ++ items.text) = inner.text ++ items.expanded.text := by
  have hobject : replaceCalls [.objectId] none (inner.text ++ items.text)
      = inner.text ++ (items.bind (expandLeaf [.objectId]) id).text :=
    (callPass [.objectId]).run_text replaceCalls_nil inner
      (h.imp (fun _ ha => ha.settled_objectId) (fun _ hk => hk)) rfl
  have hdate : replaceCalls [.isoDate, .date] none
      (inner.text ++ (items.bind (expandLeaf [.objectId]) id).text)
      = inner.text ++ items.expanded.text :=
    (callPass [.isoDate, .date]).run_text replaceCalls_nil inner
      (h.bind_objectId.imp (fun _ ha => ha.1.settled_of_callsOnly ha.2) (fun _ hk => hk)) rfl
  rw [replaceConstructors, hobject, hdate]

/-- The three passes rewrite the items of a text. -/
theorem Items.Clean.quoteKeys_text (h : items.Clean) (inner : Space) :
    quoteKeys (replaceConstructors (inner.text ++ items.text))
      = inner.text ++ items.rewritten.text := by
  rw [h.replaceConstructors_text]
  exact quotePass.run_text quoteKeysFrom_nil inner
    (h.expanded.imp (fun _ ha => ha.2.noCall) (fun _ _ => trivial)) trivial

/-- The values of a spelled argument list are read back.  White space stands between the
tokens, a string in any of the quotes and a key with or without them; calls are read as
extended JSON objects.  A number that is an integer of 64 bits denotes what its digits and its
sign stand for. -/
theorem normalize_items (inner : Space) (hclean : items.Clean) (hdistinct : items.Distinct)
    (hdepth : items.depth ≤ 126) (hlength : (inner.text ++ items.text).length < Width.words64) :
    normalize (inner.text ++ items.text) = .ok items.denotations
    ∧ (∀ n : Number, Json.IsWhole n.text → digitsValue n.text < Width.words64 →
        n.value = .int (digitsValue n.text))
    ∧ ∀ (n : Number) (whole : List Char), n.text = '-' :: whole → Json.IsWhole whole →
        0 < digitsValue whole → Width.isInt64 (-(digitsValue whole : Int)) = true →
          n.value = .int (-(digitsValue whole : Int)) := by
  refine ⟨?_, fun n => n.value_of_isWhole, fun n _ => n.value_of_minus⟩
  have hcount : items.rewritten.stringCount ≤ Width.words64 := by
    have h := Argument.stringCount_items_le items
    rw [hclean.stringCount_rewritten]
    rw [List.length_append] at hlength
    omega
  have hdepth' : items.rewritten.depth < Json.maxLevels := by
    rw [hclean.depth_rewritten]
    exact Nat.lt_succ_of_le hdepth
  rw [Argument.normalize_of_plain (hclean.quoteKeys_text inner) hclean.plain_rewritten hdepth'
    hcount, hclean.values_rewritten, items.values_eq_denotations hdistinct]
  congr 1
  refine (Argument.restoreItems_eq_self_iff ?_ _).2 (items.isFree_denotations _ hclean)
  exact (Argument.protects_protectDates _).isDateText

end

/-- An object with a bare key, the call of a constructor and a string in single quotes. -/
theorem normalize_items_object :
    ∃ (inner : Space) (items : Items),
      inner.text ++ items.text = "\x7bid: ObjectId('ab'), 'at': new Date( )\x7d,'x'".toList
        ∧ items.Clean ∧ items.Distinct ∧ items.depth ≤ 126
        ∧ (inner.text ++ items.text).length < Width.words64
        ∧ normalize (inner.text ++ items.text) = .ok
          [.object [("id", .object [("$oid", .string "ab")]),
              ("at", .object [("$date", .string "now")])],
            .string "x"] := by
  let gap : Space := ⟨[' '], List.all_iff_forall_prop.1 (by decide)⟩
  let oid : ConstructorCall :=
    ⟨.objectId, none, noSpace, some ⟨'\'', ['a', 'b'], noSpace, .inr rfl, by decide⟩,
      nofun, nofun, fun _ => rfl⟩
  let now : ConstructorCall :=
    ⟨.date, some gap, gap, none, by rintro _ ⟨rfl⟩; exact nofun, fun _ => rfl, nofun⟩
  let bare : Key := .bare ⟨'i', ['d'], by decide, List.all_iff_forall_prop.1 (by decide)⟩
  let quoted : Key := .quoted ⟨'\'', ['a', 't'], ['a', 't'], by decide,
    Json.spells_self (List.all_iff_forall_prop.1 (by decide))⟩
  let string : Leaf := .string ⟨'\'', ['x'], ['x'], by decide,
    Json.spells_self (List.all_iff_forall_prop.1 (by decide))⟩
  let members : Members :=
    .cons noSpace bare noSpace gap (.leaf (.call oid)) noSpace
      (.cons gap quoted noSpace gap (.leaf (.call now)) noSpace .nil)
  let items : Items :=
    .cons noSpace (.object noSpace members) noSpace (.cons noSpace (.leaf string) noSpace .nil)
  have hclean : items.Clean := by
    refine ⟨⟨?_, ?_, ?_, ?_, trivial⟩, ?_, trivial⟩
    · exact namesNoCall_of_no_paren (by decide)
    · rintro _ ⟨rfl⟩
      exact ⟨namesNoCall_of_no_paren (by decide), by decide⟩
    · exact namesNoCall_of_no_paren (by decide)
    · rintro _ ⟨rfl⟩
      exact ⟨namesNoCall_of_no_paren (by decide), by decide⟩
    · rintro _ ⟨rfl⟩
      exact ⟨namesNoCall_of_no_paren (by decide), by decide⟩
  have hdistinct : items.Distinct :=
    ⟨⟨by decide, trivial, trivial, trivial⟩, trivial, trivial⟩
  have hdepth : items.depth ≤ 126 := by decide
  have hlength : (noSpace.text ++ items.text).length < Width.words64 := by decide
  have hdenotes : items.denotations
      = [.object [("id", .object [("$oid", .string "ab")]),
          ("at", .object [("$date", .string "now")])], .string "x"] := by
    simp [items, members, bare, quoted, string, oid, now, Items.denotations, Tree.denotation,
      Members.denotations, Leaf.value, ConstructorCall.value, ConstructorCall.chars, Key.chars,
      Name.text, Constructor.key, Constructor.noArgument?]
  exact ⟨noSpace, items, by decide, hclean, hdistinct, hdepth, hlength,
    hdenotes ▸ (normalize_items noSpace hclean hdistinct hdepth hlength).1⟩

end ShellQuery.Spelling

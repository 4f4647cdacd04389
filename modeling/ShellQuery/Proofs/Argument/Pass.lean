import ShellQuery.Proofs.Argument.Tree

/-!
# Passes over the text of a value

The steps that turn a shell argument into JSON are passes: each reads a text from left
to right, keeps a state about what is behind it, and writes as it goes.  A pass leaves
white space, brackets, commas and colons alone.  What it does to a tree then follows
from what it does to a leaf in front of what may follow a value, and to a key in front
of a colon: `Pass.run_tree`.
-/

namespace ShellQuery.Spelling

open ShellQuery.Text

/-- A character between the tokens of a value that is no white space. -/
def IsMark (c : Char) : Prop := c ∈ ['[', ']', '\x7b', '\x7d', ',', ':']

/-- What holds of every mark. -/
@[elab_as_elim] theorem IsMark.elim {p : Char → Prop} {c : Char} (h : IsMark c)
    (hp : p '[' ∧ p ']' ∧ p '\x7b' ∧ p '\x7d' ∧ p ',' ∧ p ':') : p c := by
  simp only [IsMark, List.mem_cons, List.not_mem_nil, or_false] at h
  rcases h with rfl | rfl | rfl | rfl | rfl | rfl
  · exact hp.1
  · exact hp.2.1
  · exact hp.2.2.1
  · exact hp.2.2.2.1
  · exact hp.2.2.2.2.1
  · exact hp.2.2.2.2.2

/-- A pass over texts whose leaves and keys have the properties `p` and `q`.  It puts
the text of the tree `f a` for a leaf `a`, and of `g k` for a key `k`. -/
structure Pass (p : Leaf → Prop) (q : Key → Prop) (f : Leaf → Tree) (g : Key → Key) where
  /-- The states. -/
  State : Type
  /-- What is written for a text. -/
  run : State → List Char → List Char
  /-- A value may start in this state. -/
  Ready : State → Prop
  /-- A key may start in this state. -/
  KeyReady : State → Prop
  run_space : ∀ s c rest, Json.isSpace c = true → ∃ s', run s (c :: rest) = c :: run s' rest
    ∧ (Ready s → Ready s') ∧ (KeyReady s → KeyReady s')
  run_mark : ∀ s c rest, IsMark c → ∃ s', run s (c :: rest) = c :: run s' rest
    ∧ Ready s' ∧ (c = '\x7b' ∨ c = ',' → KeyReady s')
  run_leaf : ∀ a, p a → ∀ s rest, Ready s → EndsValue rest →
    ∃ s', run s (a.text ++ rest) = (f a).text ++ run s' rest
  run_key : ∀ k, q k → ∀ s rest, KeyReady s → EndsKey rest →
    ∃ s', run s (k.text ++ rest) = (g k).text ++ run s' rest

namespace Pass

variable {p : Leaf → Prop} {q : Key → Prop} {f : Leaf → Tree} {g : Key → Key}

/-- White space is left alone, and what may start in front of it may start behind it. -/
theorem run_spaces (P : Pass p q f g) (space : Space) (s : P.State) (rest : List Char) :
    ∃ s', P.run s (space.text ++ rest) = space.text ++ P.run s' rest
      ∧ (P.Ready s → P.Ready s') ∧ (P.KeyReady s → P.KeyReady s') := by
  obtain ⟨text, h⟩ := space
  induction text generalizing s with
  | nil => exact ⟨s, rfl, id, id⟩
  | cons c text ih =>
    rw [List.forall_mem_cons] at h
    obtain ⟨s₁, h₁, hr₁, hk₁⟩ := P.run_space s c (text ++ rest) h.1
    obtain ⟨s₂, h₂, hr₂, hk₂⟩ := ih s₁ h.2
    refine ⟨s₂, ?_, hr₂ ∘ hr₁, hk₂ ∘ hk₁⟩
    rw [List.cons_append, h₁, h₂, List.cons_append]

/-- The comma in front of items. -/
theorem run_comma_items (P : Pass p q f g) (items : Items) (s : P.State) (rest : List Char) :
    ∃ s', P.run s (items.comma ++ rest) = items.comma ++ P.run s' rest
      ∧ (items ≠ .nil → P.Ready s') := by
  cases items with
  | nil => exact ⟨s, rfl, fun h => absurd rfl h⟩
  | cons =>
    obtain ⟨s', h, hr, -⟩ := P.run_mark s ',' rest (by simp [IsMark])
    exact ⟨s', h, fun _ => hr⟩

/-- The comma in front of members. -/
theorem run_comma_members (P : Pass p q f g) (members : Members) (s : P.State)
    (rest : List Char) :
    ∃ s', P.run s (members.comma ++ rest) = members.comma ++ P.run s' rest
      ∧ (members ≠ .nil → P.KeyReady s') := by
  cases members with
  | nil => exact ⟨s, rfl, fun h => absurd rfl h⟩
  | cons =>
    obtain ⟨s', h, -, hk⟩ := P.run_mark s ',' rest (by simp [IsMark])
    exact ⟨s', h, fun _ => hk (.inr rfl)⟩

mutual

/-- A pass over a tree. -/
theorem run_tree (P : Pass p q f g) : ∀ (t : Tree), t.All p q → ∀ (s : P.State)
    (rest : List Char), P.Ready s → EndsValue rest →
    ∃ s', P.run s (t.text ++ rest) = (t.bind f g).text ++ P.run s' rest
  | .leaf a, h, s, rest, hs, hr => P.run_leaf a h s rest hs hr
  | .array inner items, h, s, rest, _, _ => by
      have hend : EndsValue (']' :: rest) := endsValue_cons rest (.inr (.inl rfl))
      obtain ⟨s₁, h₁, hr₁, -⟩ :=
        P.run_mark s '[' (inner.text ++ (items.text ++ (']' :: rest))) (by simp [IsMark])
      obtain ⟨s₂, h₂, hr₂, -⟩ := P.run_spaces inner s₁ (items.text ++ (']' :: rest))
      obtain ⟨s₃, h₃⟩ := P.run_items items h s₂ (']' :: rest) (fun _ => hr₂ hr₁) hend
      obtain ⟨s₄, h₄, -, -⟩ := P.run_mark s₃ ']' rest (by simp [IsMark])
      refine ⟨s₄, ?_⟩
      simp only [Tree.text, Tree.bind, List.cons_append, List.append_assoc, List.nil_append]
      rw [h₁, h₂, h₃, h₄]
  | .object inner members, h, s, rest, _, _ => by
      have hend : EndsValue ('\x7d' :: rest) := endsValue_cons rest (.inr (.inr rfl))
      obtain ⟨s₁, h₁, -, hk₁⟩ :=
        P.run_mark s '\x7b' (inner.text ++ (members.text ++ ('\x7d' :: rest))) (by simp [IsMark])
      obtain ⟨s₂, h₂, -, hk₂⟩ := P.run_spaces inner s₁ (members.text ++ ('\x7d' :: rest))
      obtain ⟨s₃, h₃⟩ :=
        P.run_members members h s₂ ('\x7d' :: rest) (fun _ => hk₂ (hk₁ (.inl rfl))) hend
      obtain ⟨s₄, h₄, -, -⟩ := P.run_mark s₃ '\x7d' rest (by simp [IsMark])
      refine ⟨s₄, ?_⟩
      simp only [Tree.text, Tree.bind, List.cons_append, List.append_assoc, List.nil_append]
      rw [h₁, h₂, h₃, h₄]

/-- A pass over items. -/
theorem run_items (P : Pass p q f g) : ∀ (items : Items), items.All p q → ∀ (s : P.State)
    (rest : List Char), (items ≠ .nil → P.Ready s) → EndsValue rest →
    ∃ s', P.run s (items.text ++ rest) = (items.bind f g).text ++ P.run s' rest
  | .nil, _, s, _, _, _ => ⟨s, rfl⟩
  | .cons before value after more, h, s, rest, hs, hr => by
      have hend := endsValue_space after (endsValue_items more hr)
      obtain ⟨s₁, h₁, hr₁, -⟩ := P.run_spaces before s
        (value.text ++ (after.text ++ (more.comma ++ (more.text ++ rest))))
      obtain ⟨s₂, h₂⟩ := P.run_tree value h.1 s₁ _ (hr₁ (hs nofun)) hend
      obtain ⟨s₃, h₃, -, -⟩ := P.run_spaces after s₂ (more.comma ++ (more.text ++ rest))
      obtain ⟨s₄, h₄, hr₄⟩ := P.run_comma_items more s₃ (more.text ++ rest)
      obtain ⟨s₅, h₅⟩ := P.run_items more h.2 s₄ rest hr₄ hr
      refine ⟨s₅, ?_⟩
      simp only [Items.text, Items.bind, Items.comma_bind, List.append_assoc]
      rw [h₁, h₂, h₃, h₄, h₅]

/-- A pass over members. -/
theorem run_members (P : Pass p q f g) : ∀ (members : Members), members.All p q →
    ∀ (s : P.State) (rest : List Char), (members ≠ .nil → P.KeyReady s) → EndsValue rest →
    ∃ s', P.run s (members.text ++ rest) = (members.bind f g).text ++ P.run s' rest
  | .nil, _, s, _, _, _ => ⟨s, rfl⟩
  | .cons beforeKey key afterKey before value after more, h, s, rest, hs, hr => by
      have hend := endsValue_space after (endsValue_members more hr)
      obtain ⟨s₁, h₁, -, hk₁⟩ := P.run_spaces beforeKey s _
      obtain ⟨s₂, h₂⟩ := P.run_key key h.1 s₁ _ (hk₁ (hs nofun)) (endsKey_space afterKey
        (before.text ++ (value.text ++ (after.text ++ (more.comma ++ (more.text ++ rest))))))
      obtain ⟨s₃, h₃, -, -⟩ := P.run_spaces afterKey s₂ _
      obtain ⟨s₄, h₄, hr₄, -⟩ := P.run_mark s₃ ':'
        (before.text ++ (value.text ++ (after.text ++ (more.comma ++ (more.text ++ rest)))))
        (by simp [IsMark])
      obtain ⟨s₅, h₅, hr₅, -⟩ := P.run_spaces before s₄ _
      obtain ⟨s₆, h₆⟩ := P.run_tree value h.2.1 s₅ _ (hr₅ hr₄) hend
      obtain ⟨s₇, h₇, -, -⟩ := P.run_spaces after s₆ _
      obtain ⟨s₈, h₈, hk₈⟩ := P.run_comma_members more s₇ (more.text ++ rest)
      obtain ⟨s₉, h₉⟩ := P.run_members more h.2.2 s₈ rest hk₈ hr
      refine ⟨s₉, ?_⟩
      simp only [Members.text, Members.bind, Members.comma_bind, List.append_assoc,
        List.cons_append]
      rw [h₁, h₂, h₃, h₄, h₅, h₆, h₇, h₈, h₉]

end

/-- A pass over a whole text of items. -/
theorem run_text (P : Pass p q f g) (hnil : ∀ s, P.run s [] = []) (inner : Space) {items : Items}
    (h : items.All p q) {s : P.State} (hs : P.Ready s) :
    P.run s (inner.text ++ items.text) = inner.text ++ (items.bind f g).text := by
  obtain ⟨s₁, h₁, hr₁, -⟩ := P.run_spaces inner s items.text
  obtain ⟨s₂, h₂⟩ := P.run_items items h s₁ [] (fun _ => hr₁ hs) endsValue_nil
  rw [List.append_nil] at h₂
  rw [h₁, h₂, hnil, List.append_nil]

end Pass

end ShellQuery.Spelling

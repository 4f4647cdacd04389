import ShellQuery.Proofs.Statement.FunctionLiteral
import ShellQuery.Proofs.Statement.Spelling

/-!
# Spelled functions

A function of one parameter as it may be written: with the keyword, or with an arrow behind the
bare parameter or behind the parameter in parentheses.  Its body is a block or, behind an arrow,
an expression.

Each spelling is read as the parameter and the body it is made of, with one exception.  The
keyword is looked for without regard to where the word ends, so a text that starts with a bare
parameter such as `functions` is not taken for an arrow function.  It is never read right then
(`Callback.read?_text_iff`).
-/

namespace ShellQuery

open ShellQuery.Text

namespace Spelling

/-! ## Spellings -/

/-- The text between the braces of a body. -/
structure Block where
  /-- The text. -/
  text : List Char
  /-- With its braces it is a group. -/
  group : IsGroup '\x7b' '\x7d' ('\x7b' :: text ++ ['\x7d'])

/-- An expression, without the blanks around it. -/
structure Expression where
  /-- The text. -/
  text : List Char
  ne_nil : text ≠ []
  trim_text : trim text = text
  head?_ne : text.head? ≠ some '\x7b'

/-- What stands behind an arrow. -/
inductive Code where
  /-- A body in braces. -/
  | block (b : Block)
  /-- An expression. -/
  | expression (e : Expression)

/-- The text behind an arrow. -/
def Code.text : Code → List Char
  | block b => '\x7b' :: b.text ++ ['\x7d']
  | expression e => e.text

/-- The body that stands behind an arrow. -/
def Code.body : Code → List Char
  | block b => trim b.text
  | expression e => e.text

/-- A function of one parameter. -/
inductive Callback where
  /-- The keyword, the parameter in parentheses and a block. -/
  | keyword (param : Name) (b : Block)
  /-- The parameter and an arrow. -/
  | bare (param : Name) (code : Code)
  /-- The parameter in parentheses and an arrow. -/
  | parens (param : Name) (code : Code)

namespace Callback

/-- The text of a function. -/
def text : Callback → List Char
  | keyword p b => "function".toList ++ '(' :: p.text ++ ')' :: ' ' :: (Code.block b).text
  | bare p c => p.text ++ ' ' :: '=' :: '>' :: ' ' :: c.text
  | parens p c => '(' :: p.text ++ ')' :: ' ' :: '=' :: '>' :: ' ' :: c.text

@[simp] theorem text_keyword (p : Name) (b : Block) : (keyword p b).text
    = "function".toList ++ '(' :: p.text ++ ')' :: ' ' :: (Code.block b).text := rfl

@[simp] theorem text_bare (p : Name) (c : Code) :
    (bare p c).text = p.text ++ ' ' :: '=' :: '>' :: ' ' :: c.text := rfl

@[simp] theorem text_parens (p : Name) (c : Code) :
    (parens p c).text = '(' :: p.text ++ ')' :: ' ' :: '=' :: '>' :: ' ' :: c.text := rfl

/-- The parameter of a function. -/
def param : Callback → Name
  | keyword p _ => p
  | bare p _ => p
  | parens p _ => p

/-- The body of a function. -/
def body : Callback → List Char
  | keyword _ b => (Code.block b).body
  | bare _ c => c.body
  | parens _ c => c.body

/-- The function that is written. -/
def value (f : Callback) : FunctionLiteral :=
  ⟨String.ofList f.param.text, String.ofList f.body⟩

/-- A function whose text starts with the keyword without having it. -/
def StartsWithKeyword : Callback → Prop
  | bare p _ => "function".toList <+: p.text
  | _ => False

end Callback

/-! ## Names and bodies -/

theorem isNameChar_of_isIdentChar {c : Char} (h : isIdentChar c = true) :
    FunctionLiteral.isNameChar c = true := by
  have hword {low high : Nat} (hmem : (low, high) ∈ wordCharacters)
      (hle : low ≤ c.toNat ∧ c.toNat ≤ high) : FunctionLiteral.isNameChar c = true := by
    have hc : isWord c = true := List.any_eq_true.2 ⟨(low, high), hmem, by simpa using hle⟩
    rw [FunctionLiteral.isNameChar, hc, Bool.true_or]
  rcases isIdentChar_iff.1 h with h | h | h | rfl | rfl
  · exact hword (.tail _ (.head _)) h
  · exact hword (.tail _ (.tail _ (.tail _ (.head _)))) h
  · exact hword (.head _) h
  · have hmem : (0x5F, 0x5F) ∈ wordCharacters := .tail _ (.tail _ (.head _))
    exact hword hmem (by decide)
  · exact Bool.or_true _

theorem Name.isIdentChar (n : Name) : ∀ c ∈ n.text, isIdentChar c = true :=
  List.forall_mem_cons.2 ⟨isIdentChar_of_isIdentStart n.head_start, n.tail_char⟩

theorem Name.notMem {n : Name} {c : Char} (hc : Text.isIdentChar c = false) : c ∉ n.text :=
  FunctionLiteral.notMem_of_forall hc n.isIdentChar

theorem Name.exists_concat (n : Name) : ∃ front c, n.text = front ++ [c] ∧ isBlank c = false := by
  obtain h | ⟨front, c, h⟩ := List.eq_nil_or_concat n.text
  · cases h
  · rw [List.concat_eq_append] at h
    exact ⟨front, c, h, isBlank_of_isIdentChar (n.isIdentChar c (by simp [h]))⟩

/-- Code starts with no blank, and trimming its end changes nothing. -/
theorem Code.solid (code : Code) :
    ∃ c rest, code.text = c :: rest ∧ isBlank c = false ∧ trimEnd code.text = code.text := by
  cases code with
  | block b => exact ⟨_, _, rfl, by decide, trimEnd_concat (by decide) _⟩
  | expression e =>
    have hskip : skipBlank e.text = e.text := by
      rw [← e.trim_text]
      exact skipBlank_trimEnd_skipBlank e.text
    cases ht : e.text with
    | nil => exact absurd ht e.ne_nil
    | cons c rest =>
      refine ⟨c, rest, ht, isBlank_of_skipBlank_eq_cons (hskip.trans ht), ?_⟩
      have htrim := e.trim_text
      rwa [trim, hskip] at htrim

theorem blank_space : ∀ c ∈ [' '], isBlank c = true := List.forall_mem_singleton.2 (by decide)

theorem Code.skipBlank_text (code : Code) : skipBlank (' ' :: code.text) = code.text := by
  obtain ⟨c, rest, ht, hc, -⟩ := code.solid
  rw [ht]
  exact (skipBlank_append blank_space (c :: rest)).trans (skipBlank_cons hc rest)

/-- A text with code at its end needs no trimming. -/
theorem Code.trim_append (code : Code) {c : Char} (hc : isBlank c = false) (front : List Char) :
    trim (c :: front ++ code.text) = c :: front ++ code.text := by
  obtain ⟨d, rest, ht, hd, hend⟩ := code.solid
  rw [ht] at hend ⊢
  have hrest : trimEnd rest = rest := by
    rw [← List.nil_append (d :: rest), trimEnd_append_cons hd] at hend
    exact (List.cons.inj hend).2
  rw [trim, List.cons_append, skipBlank_cons hc, ← List.cons_append, trimEnd_append_cons hd, hrest]

/-- What stands behind the first brace of code has no more braces than the body. -/
theorem Code.exists_count_le (code : Code) : ∃ front back, code.text = front ++ back
    ∧ '(' ∉ front ∧ back.count '\x7b' ≤ code.body.count '\x7b' := by
  cases code with
  | block b =>
    refine ⟨['\x7b'], b.text ++ ['\x7d'], rfl, by decide, ?_⟩
    rw [Code.body, FunctionLiteral.count_trim (by decide), List.count_append]
    exact Nat.le_refl _
  | expression e => exact ⟨[], e.text, rfl, by decide, Nat.le_refl _⟩

end Spelling

/-! ## Reading -/

namespace FunctionLiteral

open ShellQuery.Spelling

/-- A word that does not reach over a character is at the start of what stands before it. -/
theorem eq_append_of_notMem {c : Char} {word rest front back : List Char} (hc : c ∉ word)
    (h : word ++ rest = front ++ c :: back) :
    ∃ more, front = word ++ more ∧ rest = more ++ c :: back := by
  obtain ⟨more, hfront, hrest⟩ | ⟨more, hword, hback⟩ := List.append_eq_append_iff.1 h
  · exact ⟨more, hfront, hrest⟩
  · cases more with
    | nil => exact ⟨[], by simp [hword], hback.symm⟩
    | cons d more =>
      obtain ⟨rfl, -⟩ := List.cons.inj hback
      exact absurd (by simp [hword]) hc

theorem dropWord?_function {p : Name} {rest : List Char} :
    (dropWord? "function".toList (p.text ++ ' ' :: rest)).isSome
      ↔ "function".toList <+: p.text := by
  constructor
  · intro h
    obtain ⟨behind, hdrop⟩ := Option.isSome_iff_exists.1 h
    obtain ⟨more, hp, -⟩ := eq_append_of_notMem (c := ' ') (by decide)
      (dropWord?_eq_some.1 hdrop).symm
    exact ⟨more, hp.symm⟩
  · rintro ⟨more, hp⟩
    rw [← hp, List.append_assoc, dropWord?_eq_some.2 rfl]
    rfl

theorem splitArrow?_append {front : List Char} (h : '=' ∉ front) (rest : List Char) :
    splitArrow? (front ++ '=' :: '>' :: rest) = some (front, rest) := by
  induction front with
  | nil => rfl
  | cons c front ih =>
    rw [List.mem_cons, not_or] at h
    rw [List.cons_append, splitArrow?, ih h.2]
    · rfl
    · rintro _ rfl
      exact absurd rfl h.1

/-- An arrow stands where a parameter list would open. -/
theorem whole?_bare (p : Name) (rest : List Char) :
    whole? (p.text ++ ' ' :: '=' :: rest) = none := by
  have hskip : skipBlank (p.text ++ ' ' :: '=' :: rest) = p.text ++ ' ' :: '=' :: rest :=
    skipBlank_cons p.isBlank_head _
  rw [whole?, hskip]
  cases hdrop : dropWord? "function".toList (p.text ++ ' ' :: '=' :: rest) with
  | none => rfl
  | some behind =>
    obtain ⟨more, hp, hbehind⟩ := eq_append_of_notMem (c := ' ') (by decide)
      (dropWord?_eq_some.1 hdrop).symm
    have hmore : ∀ c ∈ more, isIdentChar c = true := fun c hc =>
      p.isIdentChar c (by rw [hp]; exact List.mem_append_right _ hc)
    -- The rest of the name is passed over as the name of a literal would be.
    have hopen : skipBlank ((skipBlank behind).dropWhile isNameChar) = '=' :: rest := by
      have harrow : skipBlank (' ' :: '=' :: rest) = '=' :: rest := rfl
      rw [hbehind]
      cases more with
      | nil =>
        have hstop : isNameChar '=' = false := by decide +kernel
        rw [List.nil_append, harrow, List.dropWhile_cons_of_neg (by simp [hstop])]
        exact skipBlank_cons (by decide) rest
      | cons c more =>
        have hstop : isNameChar ' ' = false := by decide +kernel
        have hc := isBlank_of_isIdentChar (hmore c List.mem_cons_self)
        rw [List.cons_append, skipBlank_cons hc, ← List.cons_append,
          List.dropWhile_append_of_pos fun d hd => isNameChar_of_isIdentChar (hmore d hd),
          List.dropWhile_cons_of_neg (by simp [hstop]), harrow]
    simp only [Option.bind_eq_bind, Option.bind_some, hopen]
    rfl

theorem whole?_parens (rest : List Char) : whole? ('(' :: rest) = none := rfl

/-- A name in a parameter list is read as the parameter. -/
theorem readParam_text (p : Name) (rest : List Char) :
    readParam (p.text ++ ')' :: rest) = (p.text, ')' :: rest) := by
  have htail : ∀ c ∈ p.tail, isNameChar c = true := fun c hc =>
    isNameChar_of_isIdentChar (p.tail_char c hc)
  have hstop : isNameChar ')' = false := by decide +kernel
  rw [Name.text, List.cons_append, readParam, if_pos p.head_start,
    List.takeWhile_append_of_pos htail, List.dropWhile_append_of_pos htail,
    List.takeWhile_cons_of_neg (by simp [hstop]), List.dropWhile_cons_of_neg (by simp [hstop]),
    List.append_nil]

theorem whole?_keyword (p : Name) (b : Block) :
    whole? (Callback.keyword p b).text = some (ofChars p.text b.text) := by
  have htext : (Callback.keyword p b).text
      = "function".toList ++ '(' :: (p.text ++ ')' :: ' ' :: '\x7b' :: (b.text ++ ['\x7d'])) := by
    simp only [Callback.text_keyword, Code.text, List.append_assoc, List.cons_append]
  have hskip (rest : List Char) :
      skipBlank ("function".toList ++ rest) = "function".toList ++ rest := by
    have hword : "function".toList = 'f' :: "unction".toList := by decide
    rw [hword, List.cons_append, skipBlank_cons (by decide)]
  have hopen (rest : List Char) :
      skipBlank ((skipBlank ('(' :: rest)).dropWhile isNameChar) = '(' :: rest := by
    have hstop : isNameChar '(' = false := by decide +kernel
    rw [skipBlank_cons (by decide), List.dropWhile_cons_of_neg (by simp [hstop]),
      skipBlank_cons (by decide)]
  have hexpect (rest : List Char) : expectChar? '(' ('(' :: rest) = some rest := rfl
  have hparam (rest : List Char) : skipBlank (p.text ++ rest) = p.text ++ rest :=
    skipBlank_cons p.isBlank_head _
  have hclose (rest : List Char) : afterParams? (skipBlank (')' :: rest)) = some rest := rfl
  have hbrace (rest : List Char) :
      expectChar? '\x7b' (skipBlank (' ' :: '\x7b' :: rest)) = some rest := rfl
  rw [htext, whole?, hskip, dropWord?_eq_some.2 rfl]
  simp only [Option.bind_eq_bind, Option.bind_some, hopen, hexpect, hparam,
    readParam_text, hclose, hbrace]
  rw [trimEnd_concat (by decide), List.getLast?_concat, if_pos rfl, List.dropLast_concat]
  rfl

/-- A name is the first parameter of the list that has nothing else in it. -/
theorem firstParam_text (p : Name) : firstParam p.text = p.text := by
  have hread : readIdent? (p.text ++ []) = some (p.text, []) :=
    readIdent?_append_eq p.head_start p.tail_char nofun
  rw [List.append_nil, Name.text] at hread
  rw [firstParam, Name.text, skipBlank_cons p.isBlank_head, hread]
  rfl

theorem stripParens_text (p : Name) : stripParens p.text = p.text := by
  have hhead : p.head ≠ '(' := fun h => absurd p.head_start (by rw [h]; decide)
  rw [stripParens]
  intro rest hp
  exact hhead (List.cons.inj hp).1

/-- The parameter in front of an arrow. -/
theorem firstParam_bare (p : Name) :
    firstParam (stripParens (trim (p.text ++ [' ']))) = p.text := by
  obtain ⟨front, c, hp, hc⟩ := p.exists_concat
  have htrim : trim (p.text ++ [' ']) = p.text := by
    have hskip : skipBlank (p.text ++ [' ']) = p.text ++ [' '] := skipBlank_cons p.isBlank_head _
    rw [trim, hskip, trimEnd_append blank_space, hp, trimEnd_concat hc]
  rw [htrim, stripParens_text, firstParam_text]

/-- The parameter in parentheses in front of an arrow. -/
theorem firstParam_parens (p : Name) :
    firstParam (stripParens (trim ('(' :: p.text ++ [')', ' ']))) = p.text := by
  have htrim : trim ('(' :: p.text ++ [')', ' ']) = '(' :: (p.text ++ [')']) := by
    have hskip : skipBlank ('(' :: p.text ++ [')', ' ']) = '(' :: p.text ++ [')'] ++ [' '] := by
      rw [List.cons_append, skipBlank_cons (by decide)]
      simp
    rw [trim, hskip, trimEnd_append blank_space, trimEnd_concat (by decide), List.cons_append]
  have hstrip : stripParens ('(' :: (p.text ++ [')'])) = p.text := by
    simp [stripParens]
  rw [htrim, hstrip, firstParam_text]

/-- An arrow function is read from what stands before and behind its arrow. -/
theorem arrow?_code (params : List Char) (code : Code) :
    arrow? params (' ' :: code.text)
      = some ⟨String.ofList (firstParam (stripParens (trim params))), String.ofList code.body⟩ := by
  rw [arrow?, code.skipBlank_text]
  cases code with
  | block b =>
    have hread : readGroup? '\x7b' '\x7d' (Code.block b).text = some (b.text, []) :=
      readGroup?_isItems (by decide) (by decide) (by decide) (isItems_of_isGroup b.group) []
    rw [hread]
    exact if_pos rfl
  | expression e =>
    have hhead : (Code.expression e).text.head? ≠ some '\x7b' := e.head?_ne
    dsimp only
    rw [if_neg hhead, ofChars, Code.text, Code.body, e.trim_text]

/-- With the keyword in front of a bare parameter nothing behind the arrow is read as it is
written: a body that is found by its brackets has fewer braces. -/
theorem brackets?_bare_ne (p : Name) (code : Code) :
    brackets? (Callback.bare p code).text ≠ some (Callback.bare p code).value := by
  intro h
  obtain ⟨front, back, hcode, hfront, hcount⟩ := code.exists_count_le
  have htext : (Callback.bare p code).text
      = (p.text ++ ' ' :: '=' :: '>' :: ' ' :: front) ++ back := by
    simp [hcode]
  -- So the first parenthesis, if there is one, is in the body.
  have hopen : '(' ∉ p.text ++ ' ' :: '=' :: '>' :: ' ' :: front := by
    simp only [List.mem_append, List.mem_cons, not_or]
    exact ⟨Name.notMem (by decide), by decide, by decide, by decide, by decide, hfront⟩
  rw [htext] at h
  obtain ⟨param, body, hvalue, hlt⟩ := exists_body_of_brackets? h hopen
  have hbody : code.body = trim body := by
    rw [Callback.value, ofChars, mk.injEq, String.ofList_inj, String.ofList_inj] at hvalue
    exact hvalue.2
  rw [hbody, count_trim (by decide)] at hcount
  omega

/-- A function with an arrow is read from the two sides of its arrow if its text does not start
with the keyword. -/
theorem matched?_arrow {front : List Char} {code : Code} (harrow : '=' ∉ front)
    (hword : (dropWord? "function".toList
      (front ++ '=' :: '>' :: ' ' :: code.text)).isSome = false) :
    matched? (front ++ '=' :: '>' :: ' ' :: code.text)
      = some ⟨String.ofList (firstParam (stripParens (trim front))), String.ofList code.body⟩ := by
  rw [matched?, splitArrow?_append harrow]
  dsimp only
  rw [hword, if_neg Bool.false_ne_true, arrow?_code]

end FunctionLiteral

open FunctionLiteral

namespace Spelling

theorem Callback.trim_bare (p : Name) (code : Code) :
    trim (bare p code).text = (bare p code).text := by
  have htext : (bare p code).text
      = p.head :: (p.tail ++ ' ' :: '=' :: '>' :: [' ']) ++ code.text := by
    simp [Name.text]
  rw [htext, code.trim_append p.isBlank_head]

theorem Callback.trim_parens (p : Name) (code : Code) :
    trim (parens p code).text = (parens p code).text := by
  have htext : (parens p code).text
      = '(' :: (p.text ++ ')' :: ' ' :: '=' :: '>' :: [' ']) ++ code.text := by
    simp
  rw [htext, code.trim_append (by decide)]

theorem Callback.read?_keyword (p : Name) (b : Block) :
    FunctionLiteral.read? (keyword p b).text = some (keyword p b).value := by
  rw [FunctionLiteral.read?, whole?_keyword]
  rfl

theorem Callback.read?_parens (p : Name) (code : Code) :
    FunctionLiteral.read? (parens p code).text = some (parens p code).value := by
  have htext : (parens p code).text
      = ('(' :: p.text ++ [')', ' ']) ++ '=' :: '>' :: ' ' :: code.text := by
    simp
  have harrow : '=' ∉ '(' :: p.text ++ [')', ' '] := by
    simp only [List.mem_append, List.mem_cons, not_or]
    exact ⟨⟨by decide, Name.notMem (by decide)⟩, by decide, by decide, List.not_mem_nil⟩
  have hwhole : whole? (parens p code).text = none := whole?_parens _
  have hword : dropWord? "function".toList (parens p code).text = none := rfl
  have hread := matched?_arrow harrow (htext ▸ congrArg Option.isSome hword)
  rw [← htext, firstParam_parens] at hread
  rw [FunctionLiteral.read?, hwhole, Option.none_or, trim_parens]
  exact hread

/-- Behind a bare parameter the arrow counts exactly if the parameter does not start with the
keyword. -/
theorem Callback.read?_bare_iff (p : Name) (code : Code) :
    FunctionLiteral.read? (bare p code).text = some (bare p code).value
      ↔ ¬ "function".toList <+: p.text := by
  have hwhole : whole? (bare p code).text = none := whole?_bare p _
  have htext : (bare p code).text = (p.text ++ [' ']) ++ '=' :: '>' :: ' ' :: code.text := by
    simp
  rw [FunctionLiteral.read?, hwhole, Option.none_or, trim_bare]
  by_cases hp : "function".toList <+: p.text
  · refine iff_of_false ?_ (not_not_intro hp)
    have hkeyword : "function".toList <+: (bare p code).text := hp.trans (List.prefix_append _ _)
    rw [matched?_of_keyword hkeyword]
    exact brackets?_bare_ne p code
  · refine iff_of_true ?_ hp
    have harrow : '=' ∉ p.text ++ [' '] := by
      rw [List.mem_append, not_or]
      exact ⟨Name.notMem (by decide), by decide⟩
    have hword : (dropWord? "function".toList (bare p code).text).isSome = false := by
      rw [Bool.eq_false_iff]
      exact fun h => hp (dropWord?_function.1 h)
    have hread := matched?_arrow harrow (htext ▸ hword)
    rw [← htext, firstParam_bare] at hread
    exact hread

/-- Every spelling is read as the function that is written, except for a bare parameter that
starts with the keyword. -/
theorem Callback.read?_text_iff (f : Callback) :
    FunctionLiteral.read? f.text = some f.value ↔ ¬ f.StartsWithKeyword := by
  cases f with
  | keyword p b => exact iff_of_true (read?_keyword p b) not_false
  | bare p code => exact read?_bare_iff p code
  | parens p code => exact iff_of_true (read?_parens p code) not_false

/-- A text is a block if the reading of its group ends at its end. -/
theorem isGroup_of_readGroup? {text : List Char}
    (h : readGroup? '\x7b' '\x7d' ('\x7b' :: text ++ ['\x7d']) = some (text, [])) :
    IsGroup '\x7b' '\x7d' ('\x7b' :: text ++ ['\x7d']) :=
  .around (FunctionLiteral.readBraces?_eq_some_iff.1 h).2

/-- An arrow function with the parameter `functions` is not read at all. -/
theorem Callback.not_read?_functions :
    ∃ f : Callback, f.text = "functions => \x7b return functions \x7d".toList
      ∧ f.param.text ≠ "function".toList
      ∧ f.value = ⟨"functions", "return functions"⟩
      ∧ FunctionLiteral.read? f.text = none := by
  let functions : Name :=
    ⟨'f', "unctions".toList, by decide, List.all_iff_forall_prop.1 (by decide)⟩
  let body : Block := ⟨" return functions ".toList, isGroup_of_readGroup? (by decide)⟩
  refine ⟨.bare functions (.block body), ?_, ?_, ?_, ?_⟩
  all_goals decide +kernel

end Spelling

end ShellQuery

import ShellQuery.Execution.Format
import ShellQuery.Proofs.Number.Digits

/-!
# Reports on lines of their own

A report that is written on one line holds no control character, whatever texts and
values it tells about: in a string each of them is escaped, and nothing else that is
written is one.  So the line ends of an output are those between its reports, and
cutting the output at them gives the reports back (`reports_lines`).

`NoControl` goes through the printer from its leaves.  Every number has a text of digits
and a few marks, the value `null` included that stands for a float without one.
-/

namespace ShellQuery

/-- A text without control characters. -/
def NoControl (text : List Char) : Prop := ∀ c ∈ text, 0x20 ≤ c.toNat

@[simp] theorem noControl_nil : NoControl [] := nofun

@[simp] theorem noControl_cons {c : Char} {text : List Char} :
    NoControl (c :: text) ↔ 0x20 ≤ c.toNat ∧ NoControl text :=
  List.forall_mem_cons

@[simp] theorem noControl_append {a b : List Char} :
    NoControl (a ++ b) ↔ NoControl a ∧ NoControl b :=
  List.forall_mem_append

theorem NoControl.subset {a b : List Char} (h : NoControl b) (hs : a ⊆ b) : NoControl a :=
  fun c hc => h c (hs hc)

/-- A line end is a control character. -/
theorem NoControl.newline_notMem {text : List Char} (h : NoControl text) : '\n' ∉ text :=
  fun hm => absurd (h '\n' hm) (by decide)

/-! ## Numbers -/

theorem noControl_of_isDigit {text : List Char} (h : ∀ c ∈ text, c.isDigit = true) :
    NoControl text := by
  intro c hc
  have hd := h c hc
  rw [Char.isDigit_iff_toNat] at hd
  exact Nat.le_trans (by decide) hd.1

theorem noControl_natText (n : Nat) : NoControl (natText n) :=
  noControl_of_isDigit fun _ hc => isDigit_of_mem_natText hc

theorem noControl_replicate_zero (n : Nat) : NoControl (List.replicate n '0') := by
  intro c hc
  rw [List.eq_of_mem_replicate hc]
  decide

theorem noControl_intText (n : Int) : NoControl (intText n) := by
  unfold intText
  split
  · exact noControl_cons.2 ⟨by decide, noControl_natText _⟩
  · exact noControl_natText _

namespace FloatLayout

theorem noControl_positionalText {digits : List Char} (h : NoControl digits) (exponent : Int) :
    NoControl (positionalText digits exponent) := by
  have htake (n : Nat) : NoControl (digits.take n) := h.subset (List.take_subset n digits)
  have hdrop (n : Nat) : NoControl (digits.drop n) := h.subset (List.drop_subset n digits)
  unfold positionalText
  dsimp only
  split
  · simp [h, noControl_replicate_zero]
  · split
    · simp [htake, hdrop]
    · simp [h, noControl_replicate_zero]

theorem noControl_scientificText {digits : List Char} (h : NoControl digits) (exponent : Int) :
    NoControl (scientificText digits exponent) := by
  unfold scientificText
  dsimp only
  generalize exponent + (digits.length : Int) - 1 = top
  have hsign : NoControl ['e', if top < 0 then '-' else '+'] := by
    refine noControl_cons.2 ⟨by decide, noControl_cons.2 ⟨?_, noControl_nil⟩⟩
    split <;> decide
  refine noControl_append.2 ⟨noControl_append.2 ⟨?_, hsign⟩, noControl_natText _⟩
  split
  · exact noControl_nil
  · exact h
  · obtain ⟨hfirst, hmore⟩ := noControl_cons.1 h
    exact noControl_cons.2 ⟨hfirst, noControl_cons.2 ⟨by decide, hmore⟩⟩

theorem noControl_of_text? {layout : FloatLayout} {x : Float} {text : List Char}
    (h : layout.text? x = some text) : NoControl text := by
  obtain ⟨p, -, rfl⟩ := Option.map_eq_some_iff.1 h
  have hsign : NoControl (if p.negative then ['-'] else []) := by
    split <;> simp
  have hdigits := noControl_natText (Binary64.shortest p).digits
  have hnumber (positional : Bool) (exponent : Int) : NoControl
      (if positional then positionalText (natText (Binary64.shortest p).digits) exponent
        else scientificText (natText (Binary64.shortest p).digits) exponent) := by
    split
    · exact noControl_positionalText hdigits exponent
    · exact noControl_scientificText hdigits exponent
  dsimp only
  split
  · simp [hsign]
  · exact noControl_append.2 ⟨hsign, hnumber _ _⟩

end FloatLayout

namespace Json

theorem noControl_numberText (n : JsonNumber) : NoControl (numberText n) := by
  cases n with
  | int n => exact noControl_intText n
  | float x =>
    rw [numberText]
    cases h : FloatLayout.json.text? x with
    | none => simp
    | some text => exact FloatLayout.noControl_of_text? h

/-! ## Strings and values -/

theorem noControl_hexDigit (n : Nat) : 0x20 ≤ (Text.hexDigit n).toNat := by
  have h : ∀ d : Fin 16, 0x20 ≤ (Nat.digitChar d.val).toNat := by decide
  exact h ⟨n % 16, Nat.mod_lt n (by decide)⟩

/-- A control character is escaped. -/
theorem noControl_escapeChar (c : Char) : NoControl (escapeChar c) := by
  unfold escapeChar
  split
  case h_8 =>
    split
    · simp [noControl_hexDigit]
    · rename_i hc
      simpa using hc
  all_goals simp

theorem noControl_stringText (s : List Char) : NoControl (stringText s) := by
  have hbody : NoControl (s.flatMap escapeChar) := by
    intro d hd
    obtain ⟨c, -, hc⟩ := List.mem_flatMap.1 hd
    exact noControl_escapeChar c d hc
  simp [stringText, hbody]

mutual

/-- A value on one line has no control character. -/
theorem noControl_compactChars : ∀ v : Json, NoControl (compactChars v)
  | .null => by simp [compactChars]
  | .bool true => by simp [compactChars]
  | .bool false => by simp [compactChars]
  | .number n => noControl_numberText n
  | .string s => noControl_stringText s.toList
  | .array [] => by simp [compactChars]
  | .array (x :: rest) => by
      simp [compactChars, noControl_compactChars x, noControl_compactItems rest]
  | .object [] => by simp [compactChars]
  | .object ((k, v) :: rest) => by
      simp [compactChars, noControl_stringText, noControl_compactChars v,
        noControl_compactMembers rest]

theorem noControl_compactItems : ∀ items : List Json, NoControl (compactItems items)
  | [] => by simp [compactItems]
  | x :: rest => by
      simp [compactItems, noControl_compactChars x, noControl_compactItems rest]

theorem noControl_compactMembers :
    ∀ members : List (String × Json), NoControl (compactMembers members)
  | [] => by simp [compactMembers]
  | (k, v) :: rest => by
      simp [compactMembers, noControl_stringText, noControl_compactChars v,
        noControl_compactMembers rest]

end

end Json

/-! ## Reports -/

namespace Formatter

/-- Without a wish for several lines a report is written on one. -/
theorem report_eq_compact {f : Formatter} (hf : f.pretty = false) {r : StatementReport}
    (hr : ∀ d ∈ r.ending.descriptor?, d.options.pretty ≠ some true) :
    f.report r = Json.compact r.toJson := by
  have hasked : (r.ending.descriptor?.bind (·.options.pretty) == some true) = false := by
    cases hd : r.ending.descriptor? with
    | none => rfl
    | some d => simpa using hr d hd
  rw [report, hasked, hf]
  rfl

/-- The lines of a text, without their ends. -/
def lines (text : String) : List (List Char) := text.toList.splitOn '\n'

/-- One report a line: the lines of an output are the reports, each on one line, as long
as the formatter and the statements leave it at that.  What is written always has a text,
and no line holds a control character. -/
theorem reports_lines (f : Formatter) (hf : f.pretty = false) (rs : List StatementReport)
    (hne : rs ≠ [])
    (hrs : ∀ r ∈ rs, ∀ d ∈ r.ending.descriptor?, d.options.pretty ≠ some true) :
    lines (f.reports rs) = rs.map (fun r => (Json.compact r.toJson).toList)
      ∧ ∀ line ∈ lines (f.reports rs), NoControl line := by
  have hchars (r : StatementReport) : NoControl (Json.compact r.toJson).toList := by
    rw [Json.compact, String.toList_ofList]
    exact Json.noControl_compactChars r.toJson
  have htext : f.reports rs = String.intercalate "\n" (rs.map fun r => Json.compact r.toJson) :=
    congrArg _ (List.map_congr_left fun r hr => report_eq_compact hf (hrs r hr))
  have hlines : lines (f.reports rs) = rs.map fun r => (Json.compact r.toJson).toList := by
    rw [lines, htext, String.toList_intercalate, List.map_map]
    refine List.splitOn_intercalate '\n' ?_ (by simpa using hne)
    intro line hline
    obtain ⟨r, -, rfl⟩ := List.mem_map.1 hline
    exact (hchars r).newline_notMem
  refine ⟨hlines, ?_⟩
  rw [hlines]
  intro line hline
  obtain ⟨r, -, rfl⟩ := List.mem_map.1 hline
  exact hchars r

/-- A statement and a document with line ends, in colours and with no indent. -/
theorem reports_lines_broken :
    let f : Formatter := { pretty := false, colors := true, indent := 0 }
    let rs : List StatementReport :=
      [ ⟨"foo\nbar()", .rejected .invalidFormat, []⟩,
        ⟨"db.c.findOne()",
          .executed ⟨"c", .findOne, .null, {}, []⟩
            { data := .document [("a\r\nb", .array [.string "\n", .int32 (-7)])] }, []⟩ ]
    f.pretty = false ∧ rs ≠ []
      ∧ (∀ r ∈ rs, ∀ d ∈ r.ending.descriptor?, d.options.pretty ≠ some true)
      ∧ lines (f.reports rs)
        = [ ("\x7b\"statement\":\"foo\\nbar()\",\"success\":false,\"error\":"
              ++ "\"Invalid MongoDB query format. "
              ++ "Use: db.collection.operation(parameters)\"\x7d").toList,
            ("\x7b\"statement\":\"db.c.findOne()\",\"success\":true,\"result\":"
              ++ "\x7b\"a\\r\\nb\":[\"\\n\",-7]\x7d\x7d").toList ]
      ∧ ∀ line ∈ lines (f.reports rs), NoControl line := by
  intro f rs
  have hf : f.pretty = false := rfl
  have hne : rs ≠ [] := List.cons_ne_nil _ _
  have hrs : ∀ r ∈ rs, ∀ d ∈ r.ending.descriptor?, d.options.pretty ≠ some true := by
    simp [rs, StatementEnd.descriptor?]
  obtain ⟨hlines, hcontrol⟩ := reports_lines f hf rs hne hrs
  refine ⟨hf, hne, hrs, hlines.trans ?_, hcontrol⟩
  simp only [Json.compact, String.toList_ofList]
  decide +kernel

end Formatter

end ShellQuery

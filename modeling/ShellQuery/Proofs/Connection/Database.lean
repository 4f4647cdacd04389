import ShellQuery.Program.Run
import ShellQuery.Proofs.Connection.Agreement
import ShellQuery.Proofs.Json.Literal
import ShellQuery.Proofs.Text.Cut
import ShellQuery.Proofs.Text.Percent

/-!
# The database of a connection string

A connection string is read twice for its database: by the driver, and as text when a run is set
up.  What the text seems to name is used in place of what the driver has read.

The driver reads the path, which has no slash in it and may be percent encoded
(`defaultDatabase_eq_some_iff`).  The text names what is behind the first slash, whatever it is
part of, and takes it as it stands (`database?_eq_some_iff`).  So the two agree exactly if the
path stands for itself and a slash in the options counts for nothing where there is no path
(`database?_agrees_iff`).
-/

namespace ShellQuery

open ServerAddress ConnectionString

namespace ConnectionString

/-! ## The path of a connection string -/

/-- The text behind the scheme. -/
def afterScheme? (uri : List Char) : Option (List Char) :=
  (cutAtText UriText.schemeEnd uri).map Prod.snd

/-- The text behind the first slash of what is between the scheme and the first question mark. -/
def path? (uri : List Char) : Option (List Char) :=
  (afterScheme? uri).bind fun rest => (splitFirst '/' (splitFirst '?' rest).1).2

/-- The text behind the first question mark that is behind the scheme. -/
def options? (uri : List Char) : Option (List Char) :=
  (afterScheme? uri).bind fun rest => (splitFirst '?' rest).2

/-! ## What the driver reads -/

theorem notMem_of_readCredential {kind : String} {text : List Char} {s : String}
    (h : readCredential kind text = .ok s) : '/' ∉ text := by
  intro hmem
  rw [readCredential, if_pos (List.any_eq_true.2 ⟨'/', hmem, by decide⟩)] at h
  cases h

theorem notMem_of_readCredentials {text : List Char} {credentials : String × Option String}
    (h : readCredentials text = .ok credentials) : '/' ∉ text := by
  rw [readCredentials] at h
  cases hcut : cutAt ':' text with
  | none =>
    rw [splitFirst_of_notMem (cutAt_eq_none_iff.1 hcut)] at h
    dsimp only at h
    split at h
    · cases h
    · obtain ⟨user, huser, -⟩ := Json.bind_eq_ok.1 h
      exact notMem_of_readCredential huser
  | some cut =>
    obtain ⟨rfl, hfront⟩ := cutAt_eq_some_iff.1 hcut
    rw [splitFirst_append hfront] at h
    dsimp only at h
    split at h
    · cases h
    · obtain ⟨user, huser, h⟩ := Json.bind_eq_ok.1 h
      obtain ⟨password, hpassword, -⟩ := Json.bind_eq_ok.1 h
      have hfront := notMem_of_readCredential huser
      have hback := notMem_of_readCredential hpassword
      simp [hfront, hback]

/-- What comes behind a check that may be left out. -/
theorem eq_ok_of_checked {ε α : Type} {p : Prop} [Decidable p] {check : Except ε Unit}
    {x : Except ε α} {a : α} (h : (if p then check >>= fun _ => x else x) = .ok a) : x = .ok a := by
  split at h
  · obtain ⟨-, -, h⟩ := Json.bind_eq_ok.1 h
    exact h
  · exact h

/-- What is read behind the credentials leaves the database as it is. -/
theorem readDatabase_of_rest {hosts : List ServerAddress} {user : Option String × Option String}
    {path optionsText : List Char} {target : ConnectionString}
    (h : (do
      let database ← readDatabase path
      let options ← UriOption.parse optionsText
      let c : ConnectionString :=
        { hosts := hosts
          username := user.1
          password := user.2
          defaultDatabase := database
          options := options }
      checkMechanism c
      checkTogether c
      .ok c) = .ok target) : readDatabase path = .ok target.defaultDatabase := by
  obtain ⟨database, hdatabase, h⟩ := Json.bind_eq_ok.1 h
  obtain ⟨options, -, h⟩ := Json.bind_eq_ok.1 h
  obtain ⟨_, -, h⟩ := Json.bind_eq_ok.1 h
  obtain ⟨_, -, h⟩ := Json.bind_eq_ok.1 h
  cases h
  exact hdatabase

/-- The database of a connection string is read from its path. -/
theorem exists_afterScheme_of_parse {uri : String} {target : ConnectionString}
    (h : parse uri = .ok target) :
    ∃ rest, afterScheme? uri.toList = some rest
      ∧ readDatabase ((splitFirst '/' (splitFirst '?' rest).1).2.getD [])
          = .ok target.defaultDatabase := by
  rw [parse, Json.mapError_eq_ok, read] at h
  rw [afterScheme?, show UriText.schemeEnd = "://".toList from rfl]
  cases hscheme : cutAtText "://".toList uri.toList with
  | none =>
    rw [hscheme] at h
    cases h
  | some cut =>
    obtain ⟨scheme, rest⟩ := cut
    rw [hscheme] at h
    dsimp only at h
    refine ⟨rest, rfl, ?_⟩
    split at h
    · cases h
    cases hlast : cutAtLast '@' (splitFirst '?' rest).1 with
    | none =>
      simp only [hlast] at h
      obtain ⟨hosts, -, h⟩ := Json.bind_eq_ok.1 h
      obtain ⟨user, -, h⟩ := Json.bind_eq_ok.1 (eq_ok_of_checked h)
      exact readDatabase_of_rest h
    | some cut =>
      obtain ⟨credentials, rest'⟩ := cut
      obtain ⟨hrest, -⟩ := cutAtLast_eq_some_iff.1 hlast
      simp only [hlast] at h
      obtain ⟨hosts, -, h⟩ := Json.bind_eq_ok.1 h
      obtain ⟨_, hcredentials, h⟩ := Json.bind_eq_ok.1 (eq_ok_of_checked h)
      obtain ⟨user, -, h⟩ := Json.bind_eq_ok.1 h
      -- No slash is in the credentials, so the first one behind the scheme is behind them.
      have hslash : '/' ∉ credentials ++ ['@'] := by
        simp [notMem_of_readCredentials hcredentials]
      rw [hrest, List.append_cons, splitFirst_append_snd hslash]
      exact readDatabase_of_rest h

theorem readDatabase_of_parse {uri : String} {target : ConnectionString}
    (h : parse uri = .ok target) :
    readDatabase ((path? uri.toList).getD []) = .ok target.defaultDatabase := by
  obtain ⟨rest, hafter, hread⟩ := exists_afterScheme_of_parse h
  rw [path?, hafter]
  exact hread

/-- A path that is read has no slash in it.  It names no database if it is empty, and otherwise
the one that it stands for. -/
theorem readDatabase_cases {path : List Char} {database : Option String}
    (h : readDatabase path = .ok database) :
    (path = [] ∧ database = none)
      ∨ (path ≠ [] ∧ '/' ∉ path ∧ ∃ name, Text.percentDecode? (String.ofList path) = some name
          ∧ database = some name) := by
  rw [readDatabase] at h
  split at h
  next hempty =>
    cases h
    exact .inl ⟨List.isEmpty_iff.1 hempty, rfl⟩
  next hempty =>
    refine .inr ⟨fun hnil => hempty (by simp [hnil]), ?_⟩
    cases hname : Text.percentDecode? (String.ofList path) with
    | none =>
      rw [hname] at h
      cases h
    | some name =>
      rw [hname] at h
      dsimp only at h
      split at h
      next => cases h
      next hlegal =>
        cases h
        refine ⟨fun hslash => hlegal (List.any_eq_true.2 ⟨'/', ?_, by decide⟩), name, rfl, rfl⟩
        exact Text.mem_of_percentDecode? (by decide) (by decide) (by decide) hname hslash

/-- The database of a connection string is what its path stands for. -/
theorem defaultDatabase_eq_some_iff {uri : String} {target : ConnectionString}
    (h : parse uri = .ok target) {name : String} :
    target.defaultDatabase = some name ↔ ∃ path, path? uri.toList = some path ∧ path ≠ []
      ∧ Text.percentDecode? (String.ofList path) = some name := by
  have hread := readDatabase_cases (readDatabase_of_parse h)
  cases hpath : path? uri.toList with
  | none =>
    rw [hpath, Option.getD_none] at hread
    obtain ⟨-, hnone⟩ | ⟨hne, -⟩ := hread
    · simp [hnone]
    · exact absurd rfl hne
  | some path =>
    rw [hpath, Option.getD_some] at hread
    obtain ⟨rfl, hnone⟩ | ⟨hne, -, name', hname, hsome⟩ := hread
    · simp [hnone]
    · simp [hsome, hname, hne]

end ConnectionString

namespace UriText

/-! ## What is taken for the name of a database -/

/-- A text is empty, or it begins with a question mark. -/
def AtMark (text : List Char) : Prop := text = [] ∨ ∃ more, text = '?' :: more

/-- A part of a text is taken for the name of a database.  It begins behind the first slash, and
it ends at the first question mark, at the first end of a scheme or with the text. -/
structure IsTaken (text before name after : List Char) : Prop where
  eq : text = before ++ '/' :: name ++ after
  slash : '/' ∉ before
  ne_nil : name ≠ []
  mark : '?' ∉ name
  scheme : ∀ earlier rest, text = earlier ++ schemeEnd ++ rest →
    (before ++ '/' :: name).length ≤ earlier.length
  stop : AtMark after ∨ schemeEnd <+: after

/-- A name is taken from a text. -/
def Takes (text name : List Char) : Prop := ∃ before after, IsTaken text before name after

theorem IsTaken.cutAt_eq {text before name after : List Char}
    (h : IsTaken text before name after) : cutAt '/' text = some (before, name ++ after) :=
  cutAt_eq_some_iff.2 ⟨by rw [h.eq, List.append_assoc, List.cons_append], h.slash⟩

/-- The text in front of the first end of a scheme, or the whole of it. -/
def front (text : List Char) : List Char :=
  match ConnectionString.cutAtText schemeEnd text with
  | some (before, _) => before
  | none => text

theorem front_spec (text : List Char) :
    ∃ tail, text = front text ++ tail ∧ (tail = [] ∨ schemeEnd <+: tail)
      ∧ ∀ earlier rest, text = earlier ++ schemeEnd ++ rest →
          (front text).length ≤ earlier.length := by
  rw [front]
  cases hcut : cutAtText schemeEnd text with
  | none =>
    refine ⟨[], (List.append_nil _).symm, .inl rfl, fun earlier rest heq => ?_⟩
    exact absurd ⟨earlier, rest, heq.symm⟩ ((cutAtText_eq_none_iff schemeEnd_ne_nil).1 hcut)
  | some cut =>
    obtain ⟨heq, hfirst⟩ := cutAtText_isFirstCut schemeEnd_ne_nil hcut
    exact ⟨schemeEnd ++ cut.2, by rw [← List.append_assoc]; exact heq, .inr ⟨cut.2, rfl⟩, hfirst⟩

theorem takeWhile_ne_append {name rest : List Char} (hname : '?' ∉ name)
    (hrest : AtMark rest) :
    (name ++ rest).takeWhile (· != '?') = name := by
  rw [List.takeWhile_append_of_pos (bne_of_notMem hname)]
  obtain rfl | ⟨more, rfl⟩ := hrest
  · simp
  · simp

theorem exists_append_mark (text : List Char) :
    ∃ name rest, text = name ++ rest ∧ '?' ∉ name ∧ AtMark rest := by
  cases hcut : cutAt '?' text with
  | none => exact ⟨text, [], (List.append_nil _).symm, cutAt_eq_none_iff.1 hcut, .inl rfl⟩
  | some cut =>
    obtain ⟨htext, hname⟩ := cutAt_eq_some_iff.1 hcut
    exact ⟨cut.1, _, htext, hname, .inr ⟨cut.2, rfl⟩⟩

theorem takes_iff {text name : List Char} :
    Takes text name ↔ ∃ before path, cutAt '/' (front text) = some (before, path)
      ∧ path.takeWhile (· != '?') = name ∧ name ≠ [] := by
  obtain ⟨tail, htext, htail, hfirst⟩ := front_spec text
  generalize front text = front at htext hfirst
  constructor
  · rintro ⟨before, after, heq, hslash, hne, hmark, hscheme, hstop⟩
    -- The name is inside the text in front of the end of a scheme.
    obtain ⟨rest, rfl⟩ : before ++ '/' :: name <+: front := by
      obtain rfl | ⟨more, rfl⟩ := htail
      · rw [List.append_nil] at htext
        exact ⟨after, heq.symm.trans htext⟩
      · refine List.prefix_of_prefix_length_le ⟨after, heq.symm⟩ ⟨_, htext.symm⟩ ?_
        exact hscheme _ more (by rw [List.append_assoc]; exact htext)
    have hafter : after = rest ++ tail := by
      rw [heq, List.append_assoc (before ++ _) rest] at htext
      exact List.append_cancel_left htext
    have hrest : AtMark rest := by
      obtain (rfl | ⟨more, rfl⟩) | ⟨more, rfl⟩ := hstop
      · exact .inl (List.append_eq_nil_iff.1 hafter.symm).1
      · cases rest with
        | nil => exact .inl rfl
        | cons c rest =>
          obtain ⟨rfl, -⟩ := List.cons.inj hafter
          exact .inr ⟨rest, rfl⟩
      · have hle := hfirst _ more (by rw [heq, List.append_assoc _ schemeEnd])
        rw [List.length_append] at hle
        exact .inl (List.length_eq_zero_iff.1 (by omega))
    refine ⟨before, name ++ rest, cutAt_eq_some_iff.2 ⟨?_, hslash⟩,
      takeWhile_ne_append hmark hrest, hne⟩
    rw [List.append_assoc, List.cons_append]
  · rintro ⟨before, path, hcut, hname, hne⟩
    obtain ⟨rfl, hslash⟩ := cutAt_eq_some_iff.1 hcut
    obtain ⟨name', rest, rfl, hmark, hrest⟩ := exists_append_mark path
    obtain rfl : name' = name := (takeWhile_ne_append hmark hrest).symm.trans hname
    refine ⟨before, rest ++ tail, ?_, hslash, hne, hmark, fun earlier more heq => ?_, ?_⟩
    · rw [htext]
      simp
    · refine Nat.le_trans ?_ (hfirst earlier more heq)
      simp
    · obtain rfl | ⟨more, rfl⟩ := hrest
      · exact htail.imp_left .inl
      · exact .inl (.inr ⟨_, rfl⟩)

/-- The database that a text names is what is taken for a name behind the scheme. -/
theorem database?_eq_some_iff {uri text name : List Char} (h : afterScheme? uri = some text) :
    database? uri = some name ↔ Takes text name := by
  rw [afterScheme?] at h
  obtain ⟨cut, hcut, rfl⟩ := Option.map_eq_some_iff.1 h
  have hauthority : authority? uri = some (front cut.2) := by
    rw [authority?, hcut]
    rfl
  rw [database?, hauthority, takes_iff, Option.bind_some, Option.bind_eq_some_iff]
  constructor
  · rintro ⟨⟨before, path⟩, hpath, hname⟩
    dsimp only at hname
    split at hname
    next => cases hname
    next hne =>
      cases hname
      exact ⟨before, path, hpath, rfl, fun hnil => hne (by simp [hnil])⟩
  · rintro ⟨before, path, hpath, rfl, hne⟩
    refine ⟨(before, path), hpath, ?_⟩
    dsimp only
    rw [if_neg (by simpa using hne)]

theorem Takes.slash {text name : List Char} (h : Takes text name) : '/' ∈ text := by
  obtain ⟨before, after, htaken⟩ := h
  rw [htaken.eq]
  simp

theorem database?_eq_none {uri text : List Char} (h : afterScheme? uri = some text)
    (hnone : ∀ name, ¬Takes text name) : database? uri = none :=
  Option.eq_none_iff_forall_ne_some.2 fun name hname =>
    hnone name ((database?_eq_some_iff h).1 hname)

/-! ## Names in the parts of a connection string -/

/-- An end of a scheme is behind a text without slashes, or the last character of the text is
its first one. -/
theorem append_eq_append_schemeEnd {text rest earlier more : List Char} (htext : '/' ∉ text)
    (h : text ++ rest = earlier ++ schemeEnd ++ more) :
    (∃ between, earlier = text ++ between ∧ rest = between ++ schemeEnd ++ more)
      ∨ (text = earlier ++ [':'] ∧ rest = '/' :: '/' :: more) := by
  rw [List.append_assoc earlier] at h
  obtain ⟨between, rfl, hrest⟩ | ⟨between, rfl, hmore⟩ := List.append_eq_append_iff.1 h
  · exact .inl ⟨between, rfl, by rw [hrest, List.append_assoc]⟩
  · match between with
    | [] => exact .inl ⟨[], by simp, hmore.symm⟩
    | [c] =>
      obtain ⟨rfl, hrest⟩ := List.cons.inj hmore
      exact .inr ⟨rfl, hrest.symm⟩
    | c :: d :: between =>
      obtain ⟨-, hrest⟩ := List.cons.inj hmore
      obtain ⟨rfl, -⟩ := List.cons.inj hrest
      exact absurd (by simp) htext

/-- A path without slashes is taken for the name of a database. -/
theorem takes_path {addresses path tail : List Char} (haddresses : '/' ∉ addresses)
    (hpath : '/' ∉ path) (hne : path ≠ []) (hmark : '?' ∉ path)
    (htail : AtMark tail) :
    Takes (addresses ++ '/' :: path ++ tail) path := by
  refine ⟨addresses, tail, rfl, haddresses, hne, hmark, fun earlier rest heq => ?_, .inl htail⟩
  -- Of its two slashes an end of a scheme would have one in the path.
  rw [List.append_assoc] at heq
  obtain ⟨between, rfl, hrest⟩ | ⟨-, hrest⟩ := append_eq_append_schemeEnd haddresses heq
  · cases between with
    | nil => cases (List.cons.inj hrest).1
    | cons c between =>
      obtain ⟨rfl, hbehind⟩ := List.cons.inj hrest
      obtain ⟨between, rfl, -⟩ | ⟨-, htail'⟩ := append_eq_append_schemeEnd hpath hbehind
      · simp
      · obtain rfl | ⟨more, rfl⟩ := htail
        · cases htail'
        · cases (List.cons.inj htail').1
  · obtain ⟨c, path, rfl⟩ := List.exists_cons_of_ne_nil hne
    obtain ⟨rfl, -⟩ := List.cons.inj (List.cons.inj hrest).2
    exact absurd List.mem_cons_self hpath

/-- Nothing is taken for a name if the path is empty. -/
theorem not_takes_empty {addresses tail name : List Char} (haddresses : '/' ∉ addresses)
    (htail : AtMark tail) :
    ¬Takes (addresses ++ '/' :: [] ++ tail) name := by
  rintro ⟨before, after, htaken⟩
  have hcut := htaken.cutAt_eq
  rw [List.append_assoc, List.cons_append, List.nil_append, cutAt_append haddresses] at hcut
  obtain ⟨-, htail'⟩ := Prod.mk.inj (Option.some.inj hcut)
  obtain ⟨c, name, rfl⟩ := List.exists_cons_of_ne_nil htaken.ne_nil
  obtain rfl | ⟨more, rfl⟩ := htail
  · cases htail'
  · obtain ⟨rfl, -⟩ := List.cons.inj htail'
    exact htaken.mark List.mem_cons_self

/-- What is taken for the name of a database is in the options if no slash is in front. -/
theorem takes_options_iff {addresses options name : List Char} (haddresses : '/' ∉ addresses) :
    Takes (addresses ++ '?' :: options) name ↔ Takes options name := by
  have hslash : '/' ∉ addresses ++ ['?'] := by simp [haddresses]
  rw [List.append_cons]
  constructor
  · rintro ⟨before, after, htaken⟩
    have hcut := htaken.cutAt_eq
    obtain ⟨-, hbefore, hne, hmark, hscheme, hstop⟩ := htaken
    obtain ⟨front, rfl, hoptions⟩ : ∃ front, before = addresses ++ ['?'] ++ front
        ∧ options = front ++ '/' :: (name ++ after) := by
      cases hback : cutAt '/' options with
      | none =>
        rw [cutAt_of_notMem (by simp [haddresses, cutAt_eq_none_iff.1 hback])] at hcut
        cases hcut
      | some cut =>
        obtain ⟨rfl, hfront⟩ := cutAt_eq_some_iff.1 hback
        rw [← List.append_assoc, cutAt_append (by simp [haddresses, hfront])] at hcut
        obtain ⟨rfl, hpath⟩ := Prod.mk.inj (Option.some.inj hcut)
        exact ⟨cut.1, rfl, by rw [hpath]⟩
    refine ⟨front, after, by simpa using hoptions, ?_, hne, hmark, ?_, hstop⟩
    · exact fun hmem => hbefore (List.mem_append_right _ hmem)
    · intro earlier rest hrest
      have hle := hscheme (addresses ++ ['?'] ++ earlier) rest (by rw [hrest]; simp)
      simp only [List.length_append] at hle ⊢
      omega
  · rintro ⟨before, after, rfl, hbefore, hne, hmark, hscheme, hstop⟩
    refine ⟨addresses ++ ['?'] ++ before, after, by simp, ?_, hne, hmark, ?_, hstop⟩
    · simp [haddresses, hbefore]
    · intro earlier rest heq
      obtain ⟨between, rfl, hrest⟩ | ⟨hlast, -⟩ := append_eq_append_schemeEnd hslash heq
      · have hle := hscheme between rest hrest
        simp only [List.length_append] at hle ⊢
        omega
      · cases (List.append_inj' hlast rfl).2

/-! ## The two readings of a connection string -/

/-- A text behind a scheme has a path in front of its first question mark, or has none. -/
theorem parts_cases {uri text : List Char} (h : afterScheme? uri = some text) :
    (∃ addresses path tail, path? uri = some path ∧ text = addresses ++ '/' :: path ++ tail
        ∧ '/' ∉ addresses ∧ '?' ∉ path ∧ AtMark tail)
      ∨ (path? uri = none ∧ options? uri = none ∧ '/' ∉ text)
      ∨ ∃ addresses options, path? uri = none ∧ options? uri = some options
          ∧ text = addresses ++ '?' :: options ∧ '/' ∉ addresses := by
  rw [path?, options?, h, Option.bind_some, Option.bind_some]
  obtain ⟨front, tail, rfl, hfront, htail⟩ := exists_append_mark text
  have hsplit : (splitFirst '?' (front ++ tail)).1 = front := by
    obtain rfl | ⟨more, rfl⟩ := htail
    · rw [List.append_nil, splitFirst_of_notMem hfront]
    · rw [splitFirst_append hfront]
  rw [hsplit]
  cases hcut : cutAt '/' front with
  | some cut =>
    obtain ⟨rfl, haddresses⟩ := cutAt_eq_some_iff.1 hcut
    refine .inl ⟨cut.1, cut.2, tail, by rw [splitFirst, hcut], rfl, haddresses, ?_, htail⟩
    exact fun hmem => hfront (by simp [hmem])
  | none =>
    have haddresses := cutAt_eq_none_iff.1 hcut
    rw [splitFirst_of_notMem haddresses]
    obtain rfl | ⟨options, rfl⟩ := htail
    · rw [List.append_nil, splitFirst_of_notMem hfront]
      exact .inr (.inl ⟨rfl, rfl, haddresses⟩)
    · rw [splitFirst_append hfront]
      exact .inr (.inr ⟨front, options, rfl, rfl, rfl, haddresses⟩)

/-- A connection string names the database that it stands for, or none: its path stands for
itself, and if it has no path, what is taken for a name in its options is the name that is used
otherwise. -/
@[mk_iff]
structure NamesPlainly (uri : List Char) (otherwise : String) : Prop where
  path : ∀ path, path? uri = some path → ¬Text.HasEscape path
  options : path? uri = none → ∀ options, options? uri = some options →
    ∀ name, Takes options name → String.ofList name = otherwise

/-- What the text of a connection string names is what the driver reads exactly if the connection
string names it plainly. -/
theorem database?_agrees_iff {uri : String} {target : ConnectionString}
    (h : ConnectionString.parse uri = .ok target) (otherwise : String) :
    ((database? uri.toList).map String.ofList).getD otherwise
        = target.defaultDatabase.getD otherwise
      ↔ NamesPlainly uri.toList otherwise := by
  rw [namesPlainly_iff]
  have hread := readDatabase_cases (readDatabase_of_parse h)
  obtain ⟨text, hafter, -⟩ := exists_afterScheme_of_parse h
  obtain ⟨addresses, path, tail, hpath, rfl, haddresses, hmark, htail⟩
    | ⟨hpath, hoptions, hslash⟩
    | ⟨addresses, options, hpath, hoptions, rfl, haddresses⟩ := parts_cases hafter
  · simp only [hpath, Option.getD_some] at hread ⊢
    obtain ⟨rfl, hnone⟩ | ⟨hne, hslash, name, hname, hsome⟩ := hread
    · have hnothing : database? uri.toList = none := database?_eq_none hafter fun name htakes =>
        not_takes_empty haddresses htail htakes
      simp [hnothing, hnone, Text.not_hasEscape_nil]
    · have htaken := (database?_eq_some_iff hafter).2
        (takes_path haddresses hslash hne hmark htail)
      simp [htaken, hsome, ← Text.percentDecode?_eq_self_iff, hname, eq_comm]
  · have hnothing : database? uri.toList = none := database?_eq_none hafter fun name htakes =>
      hslash htakes.slash
    simp only [hpath, Option.getD_none] at hread ⊢
    obtain ⟨-, hnone⟩ | ⟨hne, -⟩ := hread
    · simp [hnothing, hnone, hoptions]
    · exact absurd rfl hne
  · have htakes (name : List Char) : database? uri.toList = some name ↔ Takes options name :=
      (database?_eq_some_iff hafter).trans (takes_options_iff haddresses)
    simp only [hpath, Option.getD_none] at hread ⊢
    obtain ⟨-, hnone⟩ | ⟨hne, -⟩ := hread
    · simp only [hnone, hoptions, Option.some.injEq, forall_eq', ← htakes]
      cases database? uri.toList with
      | none => simp
      | some name => simp
    · exact absurd rfl hne

end UriText

/-- Opening a connection chooses the database that the driver reads, whether it comes to an
open connection or not. -/
theorem Connection.database_openBy {State : Type}
    {attempt : ClientOptions → Attempt State ConnectionError Unit} {c : Connection}
    {server : State} {target : ConnectionString} (h : ConnectionString.parse c.uri = .ok target) :
    (openBy attempt c server).connection.database = target.defaultDatabase.getD c.database := by
  rw [openBy_of_target h, openTo]
  dsimp only
  cases (Retry.attempts (attempt (ClientOptions.of target c.config)) c.config.retryAttempts
    server).outcome with
  | ok u => rfl
  | error last => rfl
  | overflow => rfl

namespace Setup

variable {State : Type}

/-- The connection that the statements of a setup are run over. -/
def connectionBy (s : Setup) (attempt : ClientOptions → Attempt State ConnectionError Unit)
    (server : State) : Connection :=
  (Connection.openBy attempt (.of s.uri s.config.connection) server).connection.setDatabase
    s.database

/-- A script is run over this connection once opening it has succeeded. -/
theorem execute_eq_runScript (host : Host) {answers : Server State} {s : Setup} {server : State}
    (h : (Connection.openBy (Client.attempt answers) (.of s.uri s.config.connection)
      server).outcome = .ok ()) (script : String) :
    Program.execute host answers s server script
      = Prod.map id .ok (runScript
          (Executor.ofServer
            (Program.runSettings host (s.connectionBy (Client.attempt answers) server)) answers)
          (Connection.openBy (Client.attempt answers) (.of s.uri s.config.connection)
            server).server script) := by
  rw [Program.execute]
  simp only [Connection.connect, h]
  rfl

theorem database_eq {s : Setup} (h : s.arguments.database = none) :
    s.database = ((UriText.database? s.uri.toList).map String.ofList).getD
      s.config.connection.database := by
  rw [database, h]
  dsimp only
  cases UriText.database? s.uri.toList with
  | none => rfl
  | some name => rfl

theorem defaultDatabase_connectionBy {s : Setup}
    {attempt : ClientOptions → Attempt State ConnectionError Unit} {server : State}
    (h : (Connection.openBy attempt (.of s.uri s.config.connection) server).outcome = .ok ()) :
    (s.connectionBy attempt server).defaultDatabase = .ok s.database := by
  cases Connection.openBy_cases attempt (.of s.uri s.config.connection) server with
  | opened houtcome hstate hclient =>
    obtain ⟨o, ho⟩ := Option.isSome_iff_exists.1 hclient
    rw [Connection.defaultDatabase, Connection.getClient, connectionBy, Connection.setDatabase, ho]
    rfl
  | failed e houtcome =>
    rw [h] at houtcome
    cases houtcome
  | stopped houtcome =>
    rw [h] at houtcome
    cases houtcome

/-- The database of a run without a database on its command line.  The driver reads it from the
path of the connection string, and opening a connection chooses it, or the configured one if
there is none.  Executing a script runs its statements on the database of the connection that is
left behind, and this is the same database exactly if the connection string names it plainly. -/
theorem database_agrees_iff (host : Host) {s : Setup} {target : ConnectionString}
    {attempt : ClientOptions → Attempt State ConnectionError Unit} {server : State}
    (htarget : ConnectionString.parse s.uri = .ok target)
    (hdatabase : s.arguments.database = none)
    (hopen : (Connection.openBy attempt (.of s.uri s.config.connection) server).outcome = .ok ()) :
    (∀ name, target.defaultDatabase = some name ↔
      ∃ path, path? s.uri.toList = some path ∧ path ≠ []
        ∧ Text.percentDecode? (String.ofList path) = some name)
    ∧ (Connection.openBy attempt (.of s.uri s.config.connection) server).connection.database
        = target.defaultDatabase.getD s.config.connection.database
    ∧ ((Program.runSettings host (s.connectionBy attempt server)).database
          = some (target.defaultDatabase.getD s.config.connection.database)
        ↔ UriText.NamesPlainly s.uri.toList s.config.connection.database)
    ∧ ∀ answers : Server State, attempt = Client.attempt answers → ∀ script,
        Program.execute host answers s server script
          = Prod.map id .ok (runScript
              (Executor.ofServer (Program.runSettings host (s.connectionBy attempt server)) answers)
              (Connection.openBy attempt (.of s.uri s.config.connection) server).server
              script) := by
  have hused : (Program.runSettings host (s.connectionBy attempt server)).database
      = some s.database := by
    rw [Program.runSettings, defaultDatabase_connectionBy hopen]
    rfl
  refine ⟨fun name => defaultDatabase_eq_some_iff htarget, Connection.database_openBy htarget, ?_,
    ?_⟩
  · rw [hused, database_eq hdatabase, Option.some_inj]
    exact UriText.database?_agrees_iff htarget _
  · rintro answers rfl script
    exact execute_eq_runScript host hopen script

/-- A connection string with a path, and with a slash in its options that counts for nothing. -/
theorem database_agrees_iff_slash :
    let host : Host :=
      { home := "", files := fun _ => .error .notFound, input := .ok "", freshId := .ofNat }
    let s : Setup :=
      { arguments := { uri := some "mongodb://h:27017/shop?appName=a/b" }
        config := {}
        home := "" }
    let opening := (Connection.of s.uri s.config.connection).connect ScriptedServer.answer {}
    let c := s.connectionBy (Client.attempt ScriptedServer.answer) {}
    (∃ target, ConnectionString.parse s.uri = .ok target) ∧ s.arguments.database = none
      ∧ opening.outcome = .ok ()
      ∧ UriText.NamesPlainly s.uri.toList s.config.connection.database
      ∧ (Program.runSettings host c).database = some "shop" := by
  intro host s opening c
  let target : ConnectionString :=
    { hosts := [.host "h" (some 27017)]
      defaultDatabase := some "shop"
      options := [("appname", "a/b")] }
  have htarget : ConnectionString.parse s.uri = .ok target := by decide +kernel
  have hopen : opening.outcome = .ok () := by decide +kernel
  have hused : (Program.runSettings host c).database = some "shop" := by decide +kernel
  obtain ⟨-, -, hiff, -⟩ := database_agrees_iff host htarget rfl hopen
  exact ⟨⟨target, htarget⟩, rfl, hopen, hiff.1 hused, hused⟩

/-- The path stands for another name than its text, and the options have a slash that no path is
in front of.  A statement is sent to the database `a%62` in place of `ab`, and to `b` in place of
the configured one. -/
theorem not_database_agrees :
    let host : Host :=
      { home := "", files := fun _ => .error .notFound, input := .ok "", freshId := .ofNat }
    let named (uri : String) := (ConnectionString.parse uri).map (·.defaultDatabase)
    let sentTo (uri : String) :=
      (Program.run host ScriptedServer.answer ["--uri", uri, "-e", "db.a.find()"] {}).1.received.map
        (·.database)
    (named "mongodb://h/a%62" = .ok (some "ab") ∧ sentTo "mongodb://h/a%62" = ["a%62"])
      ∧ named "mongodb://h?appName=a/b" = .ok none ∧ ({} : ConnectionConfig).database = "test"
      ∧ sentTo "mongodb://h?appName=a/b" = ["b"] := by
  decide +kernel

end Setup

end ShellQuery

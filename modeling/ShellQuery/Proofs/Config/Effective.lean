import ShellQuery.CommandLine.Setup
import ShellQuery.Proofs.Json.Literal

/-!
# Settings in effect

Settings that are loaded are `Valid`: those of a file are validated, and so are the defaults
(`valid_of_load`).  What the command line says is put in their place afterwards, and nothing
looks at it again.  So the settings in effect are valid exactly if what the command line says
is sensible beside the rest, which `Arguments.Sensible` spells out for the four arguments that
a check is about (`Setup.validate_iff`).  The other checks pass at all times.
-/

namespace ShellQuery

namespace Config

/-- Settings that make sense. -/
structure Valid (c : Config) : Prop where
  uri : hasHost (Text.trimString c.connection.defaultUri) = true
  timeout : c.connection.timeout ≠ 0
  idleTimeout : c.connection.idleTimeout ≠ 0
  maxPoolSize : c.connection.maxPoolSize ≠ 0
  minPoolSize : c.connection.minPoolSize ≤ c.connection.maxPoolSize
  database : c.connection.database ≠ ""
  indent : c.display.format = .jsonPretty → c.display.indent ≠ 0

/-! ## Validation -/

theorem validate_eq_ok_iff_checks {c : Config} :
    c.validate = .ok () ↔ ∀ check ∈ c.checks, check.holds = true := by
  -- Not `rw`, since the equation of `validate` takes long to make.
  delta validate
  cases hfind : c.checks.find? (!·.holds) with
  | none =>
    refine iff_of_true rfl fun check hcheck => ?_
    simpa using List.find?_eq_none.1 hfind check hcheck
  | some check =>
    have hfails : check.holds = false := by simpa using List.find?_some hfind
    refine iff_of_false (fun h => by cases h) fun hall => ?_
    rw [hall check (List.mem_of_find?_eq_some hfind)] at hfails
    cases hfails

theorem indent_check_iff {d : DisplayConfig} :
    (d.format.isPretty && d.indent == 0) = false ↔ (d.format = .jsonPretty → d.indent ≠ 0) := by
  cases d.format with
  | json => simp [OutputFormat.isPretty]
  | jsonPretty => simp [OutputFormat.isPretty]

/-- Validation accepts the settings that make sense. -/
theorem validate_eq_ok_iff {c : Config} : c.validate = .ok () ↔ c.Valid := by
  rw [validate_eq_ok_iff_checks]
  simp only [checks, List.forall_mem_cons, List.not_mem_nil, false_imp_iff, implies_true, and_true,
    bne_iff_ne, decide_eq_true_eq, Bool.not_eq_true', String.isEmpty_eq_false_iff,
    indent_check_iff]
  constructor
  · rintro ⟨huri, htimeout, hidle, hmax, hmin, hdatabase, hindent⟩
    exact ⟨huri, htimeout, hidle, hmax, hmin, hdatabase, hindent⟩
  · intro h
    exact ⟨h.uri, h.timeout, h.idleTimeout, h.maxPoolSize, h.minPoolSize, h.database, h.indent⟩

/-! ## Loading -/

theorem valid_default : ({} : Config).Valid :=
  validate_eq_ok_iff.1 (validate_eq_ok_iff_checks.2 (by decide +kernel))

theorem valid_of_ofText {text : String} {c : Config} (h : ofText text = .ok c) : c.Valid := by
  unfold ofText at h
  split at h
  next => cases h
  next =>
    obtain ⟨u, hvalidate, rfl⟩ := Json.map_eq_ok.1 h
    exact validate_eq_ok_iff.1 hvalidate

theorem valid_of_ofFile {files : Files} {path : String} {c : Config}
    (h : ofFile files path = .ok c) : c.Valid := by
  unfold ofFile at h
  split at h
  next => exact valid_of_ofText (Json.mapError_eq_ok.1 h)
  next => cases h

/-- Settings that are loaded make sense, whether from the file that is named, from the default
file or without a file. -/
theorem valid_of_load {files : Files} {home : String} {path : Option String} {c : Config}
    (h : load files home path = .ok c) : c.Valid := by
  cases path with
  | some path => exact valid_of_ofFile h
  | none =>
    rw [load] at h
    split at h
    next => exact valid_of_ofFile h
    next =>
      cases h
      exact valid_default

end Config

/-! ## What the command line says -/

/-- What the arguments say makes sense beside other settings. -/
structure Arguments.Sensible (a : Arguments) (c : Config) : Prop where
  uri : ∀ uri ∈ a.uri, hasHost (Text.trimString uri) = true
  timeout : ∀ seconds ∈ a.timeout, seconds ≠ 0
  database : ∀ name ∈ a.database, name ≠ ""
  indent : ∀ text ∈ a.format, OutputFormat.ofArgument text = .ok .jsonPretty → c.display.indent ≠ 0

namespace Config

/-- What is true of a setting is true of what comes in its place if it is true of what is
given. -/
theorem getD_iff {α : Type} {p : α → Prop} {x : α} (hx : p x) (given : Option α) :
    p (given.getD x) ↔ ∀ y ∈ given, p y := by
  cases given with
  | none => exact iff_of_true hx fun y hy => by cases hy
  | some y =>
    constructor
    · rintro hy z hz
      cases hz
      exact hy
    · intro h
      exact h y rfl

theorem withDisplay_eq_ok {d d' : DisplayConfig} {a : Arguments} (h : withDisplay d a = .ok d') :
    d'.indent = d.indent
      ∧ ((a.format = none ∧ d'.format = d.format)
        ∨ ∃ text, a.format = some text ∧ OutputFormat.ofArgument text = .ok d'.format) := by
  unfold withDisplay at h
  cases hformat : a.format with
  | none =>
    rw [hformat] at h
    cases h
    exact ⟨rfl, .inl ⟨rfl, rfl⟩⟩
  | some text =>
    rw [hformat] at h
    obtain ⟨f, hf, heq⟩ := Json.bind_eq_ok.1 h
    cases heq
    exact ⟨rfl, .inr ⟨text, rfl, hf⟩⟩

theorem indent_withDisplay_iff {d d' : DisplayConfig} {a : Arguments}
    (hindent : d.format = .jsonPretty → d.indent ≠ 0) (h : withDisplay d a = .ok d') :
    (d'.format = .jsonPretty → d'.indent ≠ 0)
      ↔ ∀ text ∈ a.format, OutputFormat.ofArgument text = .ok .jsonPretty → d'.indent ≠ 0 := by
  obtain ⟨hsame, ⟨hnone, hformat⟩ | ⟨text, hsome, hformat⟩⟩ := withDisplay_eq_ok h
  · rw [hformat, hsame, hnone]
    exact iff_of_true hindent fun text htext => by cases htext
  · rw [hsome]
    constructor
    · intro h' text' htext' hpretty
      cases htext'
      rw [hformat] at hpretty
      exact h' (Except.ok.inj hpretty)
    · intro h' hpretty
      exact h' text rfl (hformat.trans (congrArg _ hpretty))

theorem withArguments_eq_ok {c c' : Config} {a : Arguments} (h : c.withArguments a = .ok c') :
    c'.connection = withConnection c.connection a ∧ withDisplay c.display a = .ok c'.display := by
  obtain ⟨display, hdisplay, heq⟩ := Json.bind_eq_ok.1 h
  cases heq
  exact ⟨rfl, hdisplay⟩

/-- Settings that make sense still do with arguments exactly if these are sensible. -/
theorem valid_withArguments_iff {c c' : Config} {a : Arguments} (hvalid : c.Valid)
    (h : c.withArguments a = .ok c') : c'.Valid ↔ a.Sensible c' := by
  obtain ⟨hconnection, hdisplay⟩ := withArguments_eq_ok h
  have huri := getD_iff (p := fun uri => hasHost (Text.trimString uri) = true) hvalid.uri a.uri
  have htimeout := getD_iff (p := (· ≠ 0)) hvalid.timeout a.timeout
  have hdatabase := getD_iff (p := (· ≠ "")) hvalid.database a.database
  have hindent := indent_withDisplay_iff hvalid.indent hdisplay
  constructor
  · rintro ⟨huri', htimeout', -, -, -, hdatabase', hindent'⟩
    rw [hconnection] at huri' htimeout' hdatabase'
    exact ⟨huri.1 huri', htimeout.1 htimeout', hdatabase.1 hdatabase', hindent.1 hindent'⟩
  · intro hsensible
    refine ⟨?_, ?_, ?_, ?_, ?_, ?_, hindent.2 hsensible.indent⟩
    all_goals rw [hconnection]
    · exact huri.2 hsensible.uri
    · exact htimeout.2 hsensible.timeout
    · exact hvalid.idleTimeout
    · exact hvalid.maxPoolSize
    · exact hvalid.minPoolSize
    · exact hdatabase.2 hsensible.database

end Config

/-! ## A run -/

namespace Setup

theorem of_eq_ok {files : Files} {home : String} {a : Arguments} {s : Setup}
    (h : of files home a = .ok s) :
    s.arguments = a ∧ ∃ c, Config.load files home a.configFile = .ok c
      ∧ c.withArguments a = .ok s.config := by
  obtain ⟨c, hload, h⟩ := Json.bind_eq_ok.1 h
  obtain ⟨c', hconfig, heq⟩ := Json.bind_eq_ok.1 h
  cases heq
  exact ⟨rfl, c, hload, Json.mapError_eq_ok.1 hconfig⟩

/-- The settings in effect are valid exactly if what the command line says is sensible beside
them.  The settings that it does not reach make sense in any case. -/
theorem validate_iff {files : Files} {home : String} {a : Arguments} {s : Setup}
    (h : of files home a = .ok s) :
    (s.config.validate = .ok () ↔ a.Sensible s.config)
      ∧ s.config.connection.idleTimeout ≠ 0
      ∧ s.config.connection.maxPoolSize ≠ 0
      ∧ s.config.connection.minPoolSize ≤ s.config.connection.maxPoolSize := by
  obtain ⟨-, c, hload, hconfig⟩ := of_eq_ok h
  have hvalid := Config.valid_of_load hload
  refine ⟨?_, ?_⟩
  · rw [Config.validate_eq_ok_iff]
    exact Config.valid_withArguments_iff hvalid hconfig
  · rw [(Config.withArguments_eq_ok hconfig).1]
    exact ⟨hvalid.idleTimeout, hvalid.maxPoolSize, hvalid.minPoolSize⟩

/-- A connection string and a time from the command line are sensible. -/
theorem validate_iff_uri :
    let a : Arguments := { uri := some "mongodb://db", timeout := some 5 }
    ∃ s, of (fun _ => .error .notFound) "/" a = .ok s ∧ s.config.validate = .ok () := by
  intro a
  have h : of (fun _ => .error .notFound) "/" a = .ok
      { arguments := a, home := "/"
        config := { connection := { defaultUri := "mongodb://db", timeout := 5 } } } := rfl
  refine ⟨_, h, (validate_iff h).1.2 ⟨?_, ?_, ?_, ?_⟩⟩
  · intro uri huri
    cases huri
    decide +kernel
  · intro seconds hseconds
    cases hseconds
    decide
  · intro name hname
    cases hname
  · intro text htext
    cases htext

/-- A time of zero is taken from the command line, though not from a file. -/
theorem not_validate_timeout :
    ∃ a s, Arguments.parse ["--timeout", "0"] = .ok a
      ∧ of (fun _ => .error .notFound) "/" a = .ok s
      ∧ s.config.validate = .error (.invalidValue "connection.timeout" "0") :=
  ⟨_, _, rfl, rfl, rfl⟩

end Setup

end ShellQuery

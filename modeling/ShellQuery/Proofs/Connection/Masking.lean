import ShellQuery.Program.Run
import ShellQuery.Proofs.Text.Cut

/-!
# Masked credentials

A connection string is shown with what stands between its scheme and its last at sign masked.

What is shown is put together from the text up to the first end of a scheme and the text behind
the last at sign (`masked_eq`), so two connection strings that differ in between are shown as
the same text, whatever characters the credentials have.  The mask leaves both places where
they are, so nothing changes when a text is masked again, and a text without credentials is
shown as it is (`sanitize_hides`).
-/

namespace ShellQuery

open ConnectionString

namespace UriText

/-! ## What is shown -/

variable {uri scheme rest : List Char}

/-- A text without an end of a scheme is shown as it is. -/
theorem masked_of_noScheme (h : ¬schemeEnd <:+: uri) : masked uri = uri := by
  rw [masked, (cutAtText_eq_none_iff schemeEnd_ne_nil).2 h]

/-- A text without an at sign behind its first end of a scheme is shown as it is. -/
theorem masked_of_notMem (hcut : IsFirstCut schemeEnd uri scheme rest) (h : '@' ∉ rest) :
    masked uri = uri := by
  rw [masked, (cutAtText_eq_some_iff schemeEnd_ne_nil).2 hcut]
  simp only [cutAtLast_eq_none_iff.2 h]

/-- Of any other text only the scheme and what follows the last at sign is shown. -/
theorem masked_eq {credentials host : List Char}
    (hcut : IsFirstCut schemeEnd uri scheme (credentials ++ '@' :: host)) (h : '@' ∉ host) :
    masked uri = scheme ++ schemeEnd ++ mask ++ '@' :: host := by
  rw [masked, (cutAtText_eq_some_iff schemeEnd_ne_nil).2 hcut]
  simp only [cutAtLast_eq_some_iff.2 ⟨rfl, h⟩]

/-- A text is shown as it is or has credentials. -/
theorem masked_cases (uri : List Char) : masked uri = uri ∨
    ∃ scheme credentials host, IsFirstCut schemeEnd uri scheme (credentials ++ '@' :: host)
      ∧ '@' ∉ host := by
  cases hcut : cutAtText schemeEnd uri with
  | none =>
    exact .inl (masked_of_noScheme ((cutAtText_eq_none_iff schemeEnd_ne_nil).1 hcut))
  | some parts =>
    obtain ⟨scheme, rest⟩ := parts
    have hcut := cutAtText_isFirstCut schemeEnd_ne_nil hcut
    cases hlast : cutAtLast '@' rest with
    | none => exact .inl (masked_of_notMem hcut (cutAtLast_eq_none_iff.1 hlast))
    | some parts =>
      obtain ⟨rfl, hhost⟩ := cutAtLast_eq_some_iff.1 hlast
      exact .inr ⟨scheme, parts.1, parts.2, hcut, hhost⟩

theorem masked_masked (uri : List Char) : masked (masked uri) = masked uri := by
  obtain hsame | ⟨scheme, credentials, host, hcut, hhost⟩ := masked_cases uri
  · rw [hsame, hsame]
  · have hagain : IsFirstCut schemeEnd (masked uri) scheme (mask ++ '@' :: host) := by
      rw [masked_eq hcut hhost, List.append_assoc]
      exact hcut.append _
    rw [masked_eq hagain hhost, masked_eq hcut hhost]

/-- What is shown does not depend on the credentials.  They end at the last at sign, which may
stand in the rest. -/
theorem masked_credentials (hscheme : ':' ∉ scheme) (rest : List Char) :
    ∃ shown, ∀ credentials,
      masked (scheme ++ schemeEnd ++ (credentials ++ '@' :: rest)) = shown := by
  cases hlast : cutAtLast '@' ('@' :: rest) with
  | none => exact absurd List.mem_cons_self (cutAtLast_eq_none_iff.1 hlast)
  | some parts =>
    obtain ⟨front, host⟩ := parts
    obtain ⟨hrest, hhost⟩ := cutAtLast_eq_some_iff.1 hlast
    refine ⟨scheme ++ schemeEnd ++ mask ++ '@' :: host, fun credentials => ?_⟩
    rw [hrest, ← List.append_assoc credentials]
    exact masked_eq (isFirstCut_of_notMem hscheme _) hhost

end UriText

namespace Setup

/-- A setup whose settings have another connection string. -/
def withDefaultUri (s : Setup) (uri : String) : Setup :=
  { s with
    config := { s.config with connection := { s.config.connection with defaultUri := uri } } }

/-- Settings are shown with what is shown of their connection string. -/
theorem settingsText_withDefaultUri (s : Setup) (uri : String) :
    Program.settingsText (s.withDefaultUri uri)
      = "# Configuration file: " ++ s.configPath ++ "\n"
        ++ (s.withDefaultUri (UriText.sanitize uri)).config.toText := by
  -- Not `rw`, since the equation of `settingsText` takes long to make.
  delta Program.settingsText
  simp only [withDefaultUri, configPath]

end Setup

namespace UriText

/-- A connection string is shown without its credentials: with any others it is shown as the
same text, and so are settings that have it.  What is shown stays as it is when it is masked
again, and so does a text that has no at sign behind its first end of a scheme. -/
theorem sanitize_hides :
    (∀ scheme credentials credentials' rest : String, ':' ∉ scheme.toList →
      sanitize (scheme ++ "://" ++ credentials ++ "@" ++ rest)
        = sanitize (scheme ++ "://" ++ credentials' ++ "@" ++ rest))
    ∧ (∀ (s : Setup) (uri uri' : String), sanitize uri = sanitize uri' →
        Program.settingsText (s.withDefaultUri uri) = Program.settingsText (s.withDefaultUri uri'))
    ∧ (∀ uri, sanitize (sanitize uri) = sanitize uri)
    ∧ ∀ uri : String, (∀ scheme rest, IsFirstCut schemeEnd uri.toList scheme rest → '@' ∉ rest) →
        sanitize uri = uri := by
  refine ⟨?credentials, ?settings, ?again, ?none⟩
  case credentials =>
    intro scheme credentials credentials' rest hscheme
    obtain ⟨shown, hshown⟩ := masked_credentials hscheme rest.toList
    have htext (c : String) : (scheme ++ "://" ++ c ++ "@" ++ rest).toList
        = scheme.toList ++ schemeEnd ++ (c.toList ++ '@' :: rest.toList) := by
      simp only [String.toList_append, List.append_assoc]
      rfl
    rw [sanitize, sanitize, htext, htext, hshown, hshown]
  case settings =>
    intro s uri uri' hsame
    rw [Setup.settingsText_withDefaultUri, Setup.settingsText_withDefaultUri, hsame]
  case again =>
    intro uri
    rw [sanitize, sanitize, String.toList_ofList, masked_masked]
  case none =>
    intro uri h
    obtain hsame | ⟨scheme, credentials, host, hcut, -⟩ := masked_cases uri.toList
    · rw [sanitize, hsame, String.ofList_toList]
    · exact absurd (by simp) (h _ _ hcut)

/-- Credentials with every separator in them, in front of an option with an at sign, and an at
sign in the scheme. -/
theorem sanitize_hides_separators :
    ':' ∉ "mongodb".toList
      ∧ sanitize ("mongodb" ++ "://" ++ "u:p@s://s/?" ++ "@" ++ "h/db?a=b@c")
          = sanitize ("mongodb" ++ "://" ++ "" ++ "@" ++ "h/db?a=b@c")
      ∧ (∀ scheme rest, IsFirstCut schemeEnd "a@b://c".toList scheme rest → '@' ∉ rest)
      ∧ sanitize "a@b://c" = "a@b://c" := by
  have hscheme : ':' ∉ "mongodb".toList := by decide
  have hcut : cutAtText schemeEnd "a@b://c".toList = some ("a@b".toList, "c".toList) := by
    decide +kernel
  have hrest : ∀ scheme rest, IsFirstCut schemeEnd "a@b://c".toList scheme rest → '@' ∉ rest := by
    intro scheme rest h
    obtain ⟨-, rfl⟩ := h.unique (cutAtText_isFirstCut schemeEnd_ne_nil hcut)
    decide
  exact ⟨hscheme, sanitize_hides.1 _ _ _ _ hscheme, hrest, sanitize_hides.2.2.2 _ hrest⟩

end UriText

end ShellQuery

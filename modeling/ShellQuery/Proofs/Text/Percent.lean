import ShellQuery.Proofs.Text.Utf8
import ShellQuery.Text.Percent

/-!
# Texts with percent signs

A text stands for itself exactly if no percent sign in it has two hexadecimal digits
(`percentDecode?_eq_self_iff`).  Any other text stands for a shorter one, whatever the bytes
are: three characters become one byte, and a byte starts one character at most.

A character below 128 that is no part of a percent encoding stands for itself in any text
(`mem_of_percentDecode?`).
-/

namespace ShellQuery.Text

/-- A text begins with a percent sign that stands for a byte. -/
def StartsEscape (text : List Char) : Prop :=
  ∃ a b rest, text = '%' :: a :: b :: rest
    ∧ (hexDigit? a).isSome = true ∧ (hexDigit? b).isSome = true

/-- A percent sign in a text stands for a byte. -/
def HasEscape (text : List Char) : Prop := ∃ tail, tail <:+ text ∧ StartsEscape tail

theorem hasEscape_cons_iff {c : Char} {rest : List Char} :
    HasEscape (c :: rest) ↔ StartsEscape (c :: rest) ∨ HasEscape rest := by
  simp only [HasEscape, List.suffix_cons_iff, or_and_right, exists_or, exists_eq_left]

theorem not_hasEscape_nil : ¬HasEscape [] := by
  rintro ⟨tail, htail, a, b, rest, rfl, -⟩
  cases List.suffix_nil.1 htail

/-! ## One byte for three characters -/

theorem percentBytes_escape {a b : Char} (ha : (hexDigit? a).isSome = true)
    (hb : (hexDigit? b).isSome = true) (rest : List Char) :
    ∃ byte, percentBytes ('%' :: a :: b :: rest) = byte :: percentBytes rest := by
  obtain ⟨x, hx⟩ := Option.isSome_iff_exists.1 ha
  obtain ⟨y, hy⟩ := Option.isSome_iff_exists.1 hb
  rw [percentBytes, hx, hy]
  exact ⟨_, rfl⟩

theorem percentBytes_cons {c : Char} {rest : List Char} (h : ¬StartsEscape (c :: rest)) :
    percentBytes (c :: rest) = String.utf8EncodeChar c ++ percentBytes rest := by
  rw [percentBytes.eq_def]
  split
  next heq => cases heq
  next a b after heq =>
    obtain ⟨rfl, rfl⟩ := List.cons.inj heq
    split
    next ha hb => exact absurd ⟨a, b, after, rfl, by rw [ha]; rfl, by rw [hb]; rfl⟩ h
    next => rfl
  next heq =>
    obtain ⟨rfl, rfl⟩ := List.cons.inj heq
    rfl

/-- What holds of a text because of what is behind its first character, or behind the percent
encoding that it begins with. -/
theorem percentInduction {motive : List Char → Prop} (nil : motive [])
    (escape : ∀ a b rest, (hexDigit? a).isSome = true → (hexDigit? b).isSome = true →
      motive rest → motive ('%' :: a :: b :: rest))
    (plain : ∀ c rest, ¬StartsEscape (c :: rest) → motive rest → motive (c :: rest))
    (text : List Char) : motive text := by
  induction hlength : text.length using Nat.strongRecOn generalizing text with
  | ind n ih =>
    subst hlength
    cases text with
    | nil => exact nil
    | cons c rest =>
      by_cases h : StartsEscape (c :: rest)
      · obtain ⟨a, b, after, heq, ha, hb⟩ := h
        rw [heq] at ih ⊢
        exact escape a b after ha hb (ih _ (by simp only [List.length_cons]; omega) after rfl)
      · exact plain c rest h (ih _ (Nat.lt_succ_self _) rest rfl)

/-! ## Texts that stand for themselves -/

theorem percentBytes_of_not_hasEscape {text : List Char} (h : ¬HasEscape text) :
    percentBytes text = utf8Bytes text := by
  induction text with
  | nil => rfl
  | cons c rest ih =>
    rw [hasEscape_cons_iff, not_or] at h
    rw [percentBytes_cons h.1, ih h.2, utf8Bytes, utf8Bytes, List.flatMap_cons]

theorem length_starts_utf8EncodeChar (c : Char) :
    (starts (String.utf8EncodeChar c)).length = 1 := by
  have h := decodeUtf8?_utf8Bytes [c]
  rw [utf8Bytes, List.flatMap_singleton] at h
  exact (length_of_decodeUtf8? h).symm

theorem length_starts_cons_le (b : UInt8) (bytes : List UInt8) :
    (starts (b :: bytes)).length ≤ (starts bytes).length + 1 := by
  rw [starts, List.filter_cons]
  split
  · exact Nat.le_refl _
  · exact Nat.le_succ _

/-- A text has no more bytes that start a character than it has characters, and it has fewer if
a percent sign stands for a byte. -/
theorem length_starts_percentBytes (text : List Char) :
    (starts (percentBytes text)).length ≤ text.length
      ∧ (HasEscape text → (starts (percentBytes text)).length < text.length) := by
  induction text using percentInduction with
  | nil => exact ⟨Nat.le_refl _, fun h => absurd h not_hasEscape_nil⟩
  | escape a b rest ha hb ih =>
    obtain ⟨byte, hbyte⟩ := percentBytes_escape ha hb rest
    have hone := length_starts_cons_le byte (percentBytes rest)
    simp only [hbyte, List.length_cons]
    omega
  | plain c rest h ih =>
    have hone := length_starts_utf8EncodeChar c
    rw [percentBytes_cons h, starts_append, List.length_append, List.length_cons,
      hasEscape_cons_iff, or_iff_right h, hone]
    refine ⟨by omega, fun hrest => ?_⟩
    have hlt := ih.2 hrest
    omega

theorem percentDecode?_eq_self_iff {text : List Char} :
    percentDecode? (String.ofList text) = some (String.ofList text) ↔ ¬HasEscape text := by
  rw [percentDecode?, String.toList_ofList]
  constructor
  · intro h hescape
    obtain ⟨decoded, hdecoded, heq⟩ := Option.map_eq_some_iff.1 h
    obtain rfl : decoded = text := String.ofList_injective heq
    have hlength := length_of_decodeUtf8? hdecoded
    have hlt := (length_starts_percentBytes decoded).2 hescape
    omega
  · intro h
    rw [percentBytes_of_not_hasEscape h, decodeUtf8?_utf8Bytes, Option.map_some]

/-! ## Characters that stand for themselves -/

section

variable {c : Char} (hlt : c.toNat < 0x80) (hhex : (hexDigit? c).isSome = false) (hc : c ≠ '%')

include hlt hhex hc

theorem mem_percentBytes {text : List Char} (h : c ∈ text) :
    UInt8.ofNat c.toNat ∈ percentBytes text := by
  induction text using percentInduction with
  | nil => cases h
  | escape a b rest ha hb ih =>
    obtain ⟨byte, hbyte⟩ := percentBytes_escape ha hb rest
    have hrest : c ∈ rest := by
      simp only [List.mem_cons] at h
      obtain rfl | rfl | rfl | h := h
      · exact absurd rfl hc
      · rw [hhex] at ha
        cases ha
      · rw [hhex] at hb
        cases hb
      · exact h
    rw [hbyte]
    exact List.mem_cons_of_mem _ (ih hrest)
  | plain d rest hstart ih =>
    rw [percentBytes_cons hstart, List.mem_append]
    obtain rfl | h := List.mem_cons.1 h
    · refine .inl ?_
      rw [String.utf8EncodeChar, if_pos (show c.val.toNat ≤ 127 from Nat.le_of_lt_succ hlt)]
      exact List.mem_singleton_self _
    · exact .inr (ih h)

theorem mem_of_percentDecode? {text : List Char} {s : String}
    (h : percentDecode? (String.ofList text) = some s) (hmem : c ∈ text) : c ∈ s.toList := by
  rw [percentDecode?, String.toList_ofList] at h
  obtain ⟨decoded, hdecoded, rfl⟩ := Option.map_eq_some_iff.1 h
  have hbyte : (UInt8.ofNat c.toNat).toNat = c.toNat := toNat_ofNat_of_lt (by omega)
  have hdec := mem_of_decodeUtf8? hdecoded (mem_percentBytes hlt hhex hc hmem) (by omega)
  rwa [hbyte, Char.ofNat_toNat, ← String.toList_ofList (l := decoded)] at hdec

end

end ShellQuery.Text

import Mathlib.Data.List.Forall2
import ShellQuery.Text.Utf8

/-!
# Bytes of characters

Every text is what its bytes are read as (`decodeUtf8?_utf8Bytes`).

Of bytes that are read as a text, those that continue no character stand for one character
each, in their order, and a byte below 128 stands for the character with its code
(`forall₂_of_decodeUtf8?`).  So the bytes tell how long the text is, and which of the first 128
characters it has.
-/

namespace ShellQuery.Text

/-! ## Reading byte by byte -/

theorem mapM_id_eq_some_iff {α : Type} {pieces : List (Option α)} {items : List α} :
    pieces.mapM id = some items ↔ pieces = items.map some := by
  induction pieces generalizing items with
  | nil => cases items <;> simp
  | cons piece rest ih =>
    cases piece with
    | none => cases items <;> simp
    | some item => cases items <;> simp [Option.bind_eq_some_iff, ih, and_comm]

theorem decodeUtf8?_eq_some_iff {bytes : List UInt8} {text : List Char} :
    decodeUtf8? bytes = some text ↔ utf8Pieces none bytes = text.map some :=
  mapM_id_eq_some_iff

/-- What has been read of a character that any bytes may continue. -/
def Utf8Head.continued (missing code : Nat) : Utf8Head := ⟨missing, code, 0x80, 0xBF⟩

section

variable {b : UInt8} {head : Utf8Head}

theorem utf8Pieces_complete {c : Char} (h : startUtf8 b.toNat = .complete c)
    (bytes : List UInt8) : utf8Pieces none (b :: bytes) = some c :: utf8Pieces none bytes := by
  rw [utf8Pieces, pieceOfStart, h]

theorem utf8Pieces_open (h : startUtf8 b.toNat = .open head) (bytes : List UInt8) :
    utf8Pieces none (b :: bytes) = utf8Pieces (some head) bytes := by
  rw [utf8Pieces, pieceOfStart, h]

variable {n : Nat} (hb : b.toNat = n + 0x80) (hlow : head.low ≤ n + 0x80)
  (hhigh : n + 0x80 ≤ head.high)

include hb hlow hhigh

theorem utf8Pieces_more {missing : Nat} (h : head.missing = missing + 2) (bytes : List UInt8) :
    utf8Pieces (some head) (b :: bytes)
      = utf8Pieces (some (.continued (missing + 1) (head.code * 64 + n))) bytes := by
  rw [utf8Pieces, hb]
  simp only [if_pos (And.intro hlow hhigh), h, Nat.add_sub_cancel]
  rw [if_neg (by omega)]
  rfl

theorem utf8Pieces_last (h : head.missing = 1) (bytes : List UInt8) :
    utf8Pieces (some head) (b :: bytes)
      = some (Char.ofNat (head.code * 64 + n)) :: utf8Pieces none bytes := by
  rw [utf8Pieces, hb]
  simp only [if_pos (And.intro hlow hhigh), h, if_true, Nat.add_sub_cancel]

end

/-! ## The bytes of a character -/

theorem toNat_ofNat_of_lt {n : Nat} (h : n < 256) : (UInt8.ofNat n).toNat = n := by
  rw [UInt8.toNat_ofNat', Nat.mod_eq_of_lt h]

theorem startUtf8_two {k : Nat} (h : 2 ≤ k) (h' : k < 32) :
    startUtf8 (UInt8.ofNat (k + 192)).toNat = .open (.continued 1 k) := by
  rw [toNat_ofNat_of_lt (by omega), startUtf8, if_neg (by omega), if_neg (by omega),
    if_pos (by omega), Nat.add_sub_cancel]
  rfl

theorem startUtf8_three {k : Nat} (h : k < 16) :
    startUtf8 (UInt8.ofNat (k + 224)).toNat = .open
      ⟨2, k, if k = 0 then 0xA0 else 0x80, if k = 13 then 0x9F else 0xBF⟩ := by
  by_cases hzero : k = 0
  · subst hzero
    rfl
  by_cases hthirteen : k = 13
  · subst hthirteen
    rfl
  rw [toNat_ofNat_of_lt (by omega), startUtf8, if_neg (by omega), if_neg (by omega),
    if_neg (by omega), if_neg (by omega), if_neg (by omega), if_pos (by omega), if_neg hzero,
    if_neg hthirteen, Nat.add_sub_cancel]

theorem startUtf8_four {k : Nat} (h : k < 5) :
    startUtf8 (UInt8.ofNat (k + 240)).toNat = .open
      ⟨3, k, if k = 0 then 0x90 else 0x80, if k = 4 then 0x8F else 0xBF⟩ := by
  match k with
  | 0 | 1 | 2 | 3 | 4 => rfl

theorem utf8Pieces_two {v : Nat} (h : 0x80 ≤ v) (h' : v < 0x800) (bytes : List UInt8) :
    utf8Pieces none (UInt8.ofNat (v / 64 % 32 + 192) :: UInt8.ofNat (v % 64 + 128) :: bytes)
      = some (Char.ofNat v) :: utf8Pieces none bytes := by
  have hlast : (UInt8.ofNat (v % 64 + 128)).toNat = v % 64 + 128 := toNat_ofNat_of_lt (by omega)
  have hcode : v / 64 % 32 * 64 + v % 64 = v := by omega
  rw [utf8Pieces_open (startUtf8_two (by omega) (by omega)),
    utf8Pieces_last hlast (Nat.le_add_left _ _) (show v % 64 + 128 ≤ 0xBF by omega) rfl]
  simp only [Utf8Head.continued, hcode]

theorem utf8Pieces_three {v : Nat} (h : 0x800 ≤ v) (h' : v < 0x10000)
    (hscalar : v < 0xD800 ∨ 0xDFFF < v) (bytes : List UInt8) :
    utf8Pieces none (UInt8.ofNat (v / 4096 % 16 + 224) :: UInt8.ofNat (v / 64 % 64 + 128)
        :: UInt8.ofNat (v % 64 + 128) :: bytes)
      = some (Char.ofNat v) :: utf8Pieces none bytes := by
  have hnext : (UInt8.ofNat (v / 64 % 64 + 128)).toNat = v / 64 % 64 + 128 :=
    toNat_ofNat_of_lt (by omega)
  have hlast : (UInt8.ofNat (v % 64 + 128)).toNat = v % 64 + 128 := toNat_ofNat_of_lt (by omega)
  have hcode : (v / 4096 % 16 * 64 + v / 64 % 64) * 64 + v % 64 = v := by omega
  rw [utf8Pieces_open (startUtf8_three (by omega)),
    utf8Pieces_more hnext (by dsimp only; split <;> omega) (by dsimp only; split <;> omega) rfl,
    utf8Pieces_last hlast (Nat.le_add_left _ _) (show v % 64 + 128 ≤ 0xBF by omega) rfl]
  simp only [Utf8Head.continued, hcode]

theorem utf8Pieces_four {v : Nat} (h : 0x10000 ≤ v) (h' : v < 0x110000) (bytes : List UInt8) :
    utf8Pieces none (UInt8.ofNat (v / 262144 % 8 + 240) :: UInt8.ofNat (v / 4096 % 64 + 128)
        :: UInt8.ofNat (v / 64 % 64 + 128) :: UInt8.ofNat (v % 64 + 128) :: bytes)
      = some (Char.ofNat v) :: utf8Pieces none bytes := by
  have hnext : (UInt8.ofNat (v / 4096 % 64 + 128)).toNat = v / 4096 % 64 + 128 :=
    toNat_ofNat_of_lt (by omega)
  have hnext' : (UInt8.ofNat (v / 64 % 64 + 128)).toNat = v / 64 % 64 + 128 :=
    toNat_ofNat_of_lt (by omega)
  have hlast : (UInt8.ofNat (v % 64 + 128)).toNat = v % 64 + 128 := toNat_ofNat_of_lt (by omega)
  have hcode : ((v / 262144 % 8 * 64 + v / 4096 % 64) * 64 + v / 64 % 64) * 64 + v % 64 = v := by
    omega
  rw [utf8Pieces_open (startUtf8_four (by omega)),
    utf8Pieces_more hnext (by dsimp only; split <;> omega) (by dsimp only; split <;> omega) rfl,
    utf8Pieces_more hnext' (Nat.le_add_left _ _) (show v / 64 % 64 + 128 ≤ 0xBF by omega) rfl,
    utf8Pieces_last hlast (Nat.le_add_left _ _) (show v % 64 + 128 ≤ 0xBF by omega) rfl]
  simp only [Utf8Head.continued, hcode]

/-- The bytes of a character are read as the character, whatever follows. -/
theorem utf8Pieces_utf8EncodeChar (c : Char) (bytes : List UInt8) :
    utf8Pieces none (String.utf8EncodeChar c ++ bytes) = some c :: utf8Pieces none bytes := by
  have hvalid : c.toNat < 0xD800 ∨ 0xDFFF < c.toNat ∧ c.toNat < 0x110000 := c.valid
  have hc : Char.ofNat c.toNat = c := Char.ofNat_toNat c
  rw [String.utf8EncodeChar]
  simp only [show c.val.toNat = c.toNat from rfl]
  generalize c.toNat = v at hvalid hc
  subst hc
  split
  next h =>
    refine utf8Pieces_complete ?_ bytes
    rw [toNat_ofNat_of_lt (by omega), startUtf8, if_pos (by omega)]
  next h =>
    split
    next h' => exact utf8Pieces_two (by omega) (by omega) bytes
    next h' =>
      split
      next => exact utf8Pieces_three (by omega) (by omega) (by omega) bytes
      next => exact utf8Pieces_four (by omega) (by omega) bytes

theorem utf8Pieces_utf8Bytes (text : List Char) :
    utf8Pieces none (utf8Bytes text) = text.map some := by
  induction text with
  | nil => rfl
  | cons c rest ih =>
    rw [utf8Bytes, List.flatMap_cons, utf8Pieces_utf8EncodeChar, ← utf8Bytes, ih, List.map_cons]

theorem decodeUtf8?_utf8Bytes (text : List Char) : decodeUtf8? (utf8Bytes text) = some text :=
  decodeUtf8?_eq_some_iff.2 (utf8Pieces_utf8Bytes text)

/-! ## The characters of bytes -/

/-- The bytes that do not continue a character. -/
def starts (bytes : List UInt8) : List UInt8 :=
  bytes.filter fun b => b.toNat < 0x80 ∨ 0xC0 ≤ b.toNat

theorem starts_append (a b : List UInt8) : starts (a ++ b) = starts a ++ starts b := by
  rw [starts, starts, starts, List.filter_append]

/-- A byte can be the first one of a character. -/
def IsStartOf (b : UInt8) (c : Char) : Prop := b.toNat < 0x80 → c = Char.ofNat b.toNat

theorem starts_cons_of_start {b : UInt8} (h : b.toNat < 0x80 ∨ 0xC0 ≤ b.toNat)
    (bytes : List UInt8) : starts (b :: bytes) = b :: starts bytes := by
  rw [starts, List.filter_cons_of_pos (by simpa using h), starts]

theorem starts_cons_of_inner {b : UInt8} (h : 0x80 ≤ b.toNat) (h' : b.toNat < 0xC0)
    (bytes : List UInt8) : starts (b :: bytes) = starts bytes := by
  have hnot : ¬(b.toNat < 0x80 ∨ 0xC0 ≤ b.toNat) := by omega
  rw [starts, List.filter_cons_of_neg (by simpa using hnot), starts]

/-- Only bytes that continue a character may follow. -/
structure Utf8Head.Inner (head : Utf8Head) : Prop where
  low : 0x80 ≤ head.low
  high : head.high < 0xC0

/-- A first byte may say something. -/
inductive Utf8Start.Fits (b : Nat) : Utf8Start → Prop
  | complete (h : b < 0x80) : Fits b (.complete (Char.ofNat b))
  | head {missing code low high : Nat} (h : 0xC0 ≤ b) (hlow : 0x80 ≤ low) (hhigh : high < 0xC0) :
      Fits b (.open ⟨missing, code, low, high⟩)
  | invalid : Fits b .invalid

theorem fits_startUtf8 (b : Nat) : (startUtf8 b).Fits b := by
  unfold startUtf8
  refine iteInduction .complete fun hascii => iteInduction (fun _ => .invalid) fun hlow => ?_
  have hopen : 0xC0 ≤ b := by omega
  -- Each range of first bytes that is left has bounds of its own for the next byte.
  iterate 7 refine iteInduction (fun _ => .head hopen (by decide) (by decide)) fun _ => ?_
  exact .invalid

theorem eq_cons_of_map_some {α : Type} {pieces : List (Option α)} {piece : Option α}
    {items : List α} (h : piece :: pieces = items.map some) :
    ∃ item rest, items = item :: rest ∧ piece = some item ∧ pieces = rest.map some := by
  obtain ⟨item, rest, rfl, hitem, hrest⟩ := List.map_eq_cons_iff.1 h.symm
  exact ⟨item, rest, rfl, hitem.symm, hrest.symm⟩

/-- Reading goes on from the start of a character or from inside of one, whose first byte has
been read then. -/
theorem forall₂_of_utf8Pieces (bytes : List UInt8) :
    (∀ text, utf8Pieces none bytes = text.map some → List.Forall₂ IsStartOf (starts bytes) text)
    ∧ ∀ head : Utf8Head, head.Inner → ∀ text, utf8Pieces (some head) bytes = text.map some →
        ∃ c rest, text = c :: rest ∧ List.Forall₂ IsStartOf (starts bytes) rest := by
  induction bytes with
  | nil =>
    constructor
    · intro text h
      rw [utf8Pieces] at h
      rw [List.map_eq_nil_iff.1 h.symm]
      exact .nil
    · intro head _ text h
      obtain ⟨_, _, _, hnone, _⟩ := eq_cons_of_map_some h
      cases hnone
  | cons b bytes ih =>
    obtain ⟨ihstart, ihinner⟩ := ih
    constructor
    · intro text h
      have hfits := fits_startUtf8 b.toNat
      generalize hb : startUtf8 b.toNat = start at hfits
      cases hfits with
      | complete hlt =>
        rw [utf8Pieces_complete hb] at h
        obtain ⟨c, rest, rfl, hc, hrest⟩ := eq_cons_of_map_some h
        cases hc
        rw [starts_cons_of_start (.inl hlt)]
        exact .cons (fun _ => rfl) (ihstart rest hrest)
      | head hge hlow hhigh =>
        rw [utf8Pieces_open hb] at h
        obtain ⟨c, rest, rfl, hrest⟩ := ihinner _ ⟨hlow, hhigh⟩ text h
        rw [starts_cons_of_start (.inr hge)]
        exact .cons (fun hlt => by omega) hrest
      | invalid =>
        rw [utf8Pieces, pieceOfStart, hb] at h
        obtain ⟨_, _, _, hnone, _⟩ := eq_cons_of_map_some h
        cases hnone
    · intro head hhead text h
      by_cases hb : head.low ≤ b.toNat ∧ b.toNat ≤ head.high
      · obtain ⟨hlow, hhigh⟩ := hhead
        rw [starts_cons_of_inner (by omega) (by omega)]
        rw [utf8Pieces] at h
        simp only [if_pos hb] at h
        split at h
        next =>
          obtain ⟨c, rest, rfl, -, hrest⟩ := eq_cons_of_map_some h
          exact ⟨c, rest, rfl, ihstart rest hrest⟩
        next => exact ihinner _ ⟨by simp, by simp⟩ text h
      · rw [utf8Pieces] at h
        simp only [if_neg hb] at h
        obtain ⟨_, _, _, hnone, _⟩ := eq_cons_of_map_some h
        cases hnone

theorem forall₂_of_decodeUtf8? {bytes : List UInt8} {text : List Char}
    (h : decodeUtf8? bytes = some text) : List.Forall₂ IsStartOf (starts bytes) text :=
  (forall₂_of_utf8Pieces bytes).1 text (decodeUtf8?_eq_some_iff.1 h)

/-- A text is as long as its bytes have starts of characters. -/
theorem length_of_decodeUtf8? {bytes : List UInt8} {text : List Char}
    (h : decodeUtf8? bytes = some text) : text.length = (starts bytes).length :=
  (forall₂_of_decodeUtf8? h).length_eq.symm

theorem mem_of_decodeUtf8? {bytes : List UInt8} {text : List Char}
    (h : decodeUtf8? bytes = some text) {b : UInt8} (hb : b ∈ bytes) (hlt : b.toNat < 0x80) :
    Char.ofNat b.toNat ∈ text := by
  have hstart : b ∈ starts bytes := List.mem_filter.2 ⟨hb, by simp [hlt]⟩
  obtain ⟨place, hplace, rfl⟩ := List.mem_iff_getElem.1 hstart
  have hpairs := forall₂_of_decodeUtf8? h
  have hplace' : place < text.length := hpairs.length_eq ▸ hplace
  have hc : text[place] = _ := hpairs.get hplace hplace' hlt
  exact hc ▸ List.getElem_mem hplace'

end ShellQuery.Text

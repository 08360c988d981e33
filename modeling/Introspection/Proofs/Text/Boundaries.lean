import Mathlib.Data.String.Basic

/-!
# Bytes and characters of a text

The bytes of a text are the encodings of its characters. A byte below 128 is a character by itself,
and no longer encoding begins with one. So whoever has passed only such characters stands between
two characters, and tells the marks apart by their bytes.
-/

open String (utf8Len)

namespace Introspection.Text

variable {text : String} {c mark : Char} {cs rest : List Char} {n : Nat}

/-! ## First bytes -/

def firstByte (c : Char) : UInt8 :=
  (String.utf8EncodeChar c).head String.utf8EncodeChar_ne_nil

theorem utf8Size_eq_one_iff_toNat : c.utf8Size = 1 ↔ c.toNat ≤ 127 :=
  Char.utf8Size_eq_one_iff.trans UInt32.le_iff_toNat_le

theorem firstByte_eq_toUInt8 (h : c.utf8Size = 1) : firstByte c = c.toUInt8 := by
  simp only [firstByte, String.utf8EncodeChar_eq_singleton h]
  rfl

/-- The first byte of a longer encoding has its highest bit set. -/
theorem firstByte_lt_iff : firstByte c < 128 ↔ c.utf8Size = 1 := by
  have hval : c.val.toNat = c.toNat := rfl
  rw [utf8Size_eq_one_iff_toNat, UInt8.lt_iff_toNat_lt, firstByte]
  delta String.utf8EncodeChar
  dsimp only
  split_ifs <;> simp <;> omega

theorem eq_of_toUInt8_eq (hc : c.utf8Size = 1) (hmark : mark.utf8Size = 1)
    (h : c.toUInt8 = mark.toUInt8) : c = mark := by
  rw [utf8Size_eq_one_iff_toNat] at hc hmark
  have hnat : c.toNat % 256 = mark.toNat % 256 := congrArg UInt8.toNat h
  exact Char.toNat_inj.1 (by omega)

/-- A mark is told by its byte, also among characters of several bytes. -/
theorem firstByte_eq_iff (h : mark.utf8Size = 1) : firstByte c = mark.toUInt8 ↔ c = mark := by
  constructor
  · intro hbyte
    have hc : c.utf8Size = 1 := by
      rwa [← firstByte_lt_iff, hbyte, ← firstByte_eq_toUInt8 h, firstByte_lt_iff]
    rw [firstByte_eq_toUInt8 hc] at hbyte
    exact eq_of_toUInt8_eq hc h hbyte
  · rintro rfl
    exact firstByte_eq_toUInt8 h

/-! ## All bytes -/

theorem getElem?_toByteArray (text : String) (n : Nat) :
    text.toByteArray[n]? = (text.toList.flatMap String.utf8EncodeChar)[n]? := by
  rw [← String.utf8Encode_toList, List.utf8Encode]
  generalize text.toList.flatMap _ = bytes
  rcases Nat.lt_or_ge n bytes.length with h | h
  · rw [getElem?_pos bytes n h, getElem?_pos bytes.toByteArray n (by simpa using h),
      List.getElem_toByteArray]
  · rw [getElem?_neg bytes n (by simpa using h),
      getElem?_neg bytes.toByteArray n (by simpa using h)]

theorem length_le_utf8Len (cs : List Char) : cs.length ≤ utf8Len cs := by
  induction cs with
  | nil => exact Nat.le_refl 0
  | cons c cs ih =>
    rw [List.length_cons, String.utf8Len_cons]
    exact Nat.add_le_add ih c.utf8Size_pos

theorem length_flatMap_utf8EncodeChar (cs : List Char) :
    (cs.flatMap String.utf8EncodeChar).length = utf8Len cs := by
  induction cs with
  | nil => rfl
  | cons c cs ih =>
    rw [List.flatMap_cons, List.length_append, ih, String.length_utf8EncodeChar,
      String.utf8Len_cons, Nat.add_comm]

theorem head?_flatMap_utf8EncodeChar (cs : List Char) :
    (cs.flatMap String.utf8EncodeChar)[0]? = cs.head?.map firstByte := by
  cases cs with
  | nil => rfl
  | cons c cs =>
    rw [List.flatMap_cons, List.getElem?_append_left
      (List.length_pos_iff.2 String.utf8EncodeChar_ne_nil), ← List.head?_eq_getElem?,
      List.head?_eq_some_head String.utf8EncodeChar_ne_nil]
    rfl

theorem lt_of_mem_flatMap_utf8EncodeChar {byte : UInt8} (hcs : ∀ c ∈ cs, c.utf8Size = 1)
    (h : byte ∈ cs.flatMap String.utf8EncodeChar) : byte < 128 := by
  obtain ⟨c, hc, hbyte⟩ := List.mem_flatMap.1 h
  have hsize := hcs c hc
  rw [String.utf8EncodeChar_eq_singleton hsize, List.mem_singleton] at hbyte
  rw [hbyte]
  have hfirst := firstByte_lt_iff.2 hsize
  rwa [firstByte_eq_toUInt8 hsize] at hfirst

/-! ## Boundaries -/

section Boundaries

variable {before : List Char}

/-- No character is split between the beginning and the rest of a text. -/
theorem isValid_utf8Len (h : text.toList = before ++ rest) :
    (⟨utf8Len before⟩ : String.Pos.Raw).IsValid text := by
  refine String.Pos.Raw.isValid_iff_exists_append.2 ⟨.ofList before, .ofList rest, ?_, ?_⟩
  · rw [← String.ofList_append, ← h, String.ofList_toList]
  · rw [String.rawEndPos_ofList]

theorem get?_pos_utf8Len (h : text.toList = before ++ c :: rest) :
    (text.pos ⟨utf8Len before⟩ (isValid_utf8Len h)).get? = some c := by
  have hsplits : (text.pos ⟨utf8Len before⟩ (isValid_utf8Len h)).Splits (.ofList before)
      (.singleton c ++ .ofList rest) := by
    constructor
    · rw [← String.toList_inj, h]
      simp
    · rw [String.offset_pos, String.rawEndPos_ofList]
  have hend := hsplits.ne_endPos_of_singleton
  obtain ⟨after, hafter⟩ := hsplits.exists_eq_singleton_append hend
  have hchars := congrArg String.toList hafter
  simp at hchars
  rw [String.Pos.get?_eq_some_get hend]
  exact congrArg some hchars.1.symm

end Boundaries

/-! ## What has been passed -/

/-- The first bytes of a text have been passed, all of them characters of one byte. -/
def Passed (text : String) (n : Nat) (rest : List Char) : Prop :=
  ∃ before, text.toList = before ++ rest ∧ (∀ c ∈ before, c.utf8Size = 1) ∧ utf8Len before = n

namespace Passed

theorem start (text : String) : Passed text 0 text.toList :=
  ⟨[], rfl, by simp, rfl⟩

theorem append (h : Passed text n (cs ++ rest)) (hcs : ∀ c ∈ cs, c.utf8Size = 1) :
    Passed text (n + utf8Len cs) rest := by
  obtain ⟨before, htext, hbefore, rfl⟩ := h
  refine ⟨before ++ cs, ?_, ?_, ?_⟩
  · rw [htext, List.append_assoc]
  · exact List.forall_mem_append.2 ⟨hbefore, hcs⟩
  · exact String.utf8Len_append ..

theorem next (h : Passed text n (c :: rest)) (hc : c.utf8Size = 1) : Passed text (n + 1) rest := by
  have hlen : utf8Len [c] = 1 := by simp [hc]
  have hpassed : Passed text n ([c] ++ rest) := h
  rw [← hlen]
  exact hpassed.append (by simpa using hc)

theorem isValid (h : Passed text n rest) : (⟨n⟩ : String.Pos.Raw).IsValid text := by
  obtain ⟨before, htext, -, rfl⟩ := h
  exact isValid_utf8Len htext

theorem lt_utf8ByteSize (h : Passed text n (c :: rest)) : n < text.utf8ByteSize := by
  obtain ⟨before, htext, -, rfl⟩ := h
  rw [← String.utf8Len_toList, htext, String.utf8Len_append, String.utf8Len_cons]
  have := c.utf8Size_pos
  omega

theorem lt_of_getElem? (h : Passed text n rest) {i : Nat} (hi : i < n) {byte : UInt8}
    (hbyte : text.toByteArray[i]? = some byte) : byte < 128 := by
  obtain ⟨before, htext, hbefore, rfl⟩ := h
  rw [← length_flatMap_utf8EncodeChar] at hi
  rw [getElem?_toByteArray, htext, List.flatMap_append, List.getElem?_append_left hi] at hbyte
  exact lt_of_mem_flatMap_utf8EncodeChar hbefore (List.mem_of_getElem? hbyte)

/-- The next byte begins the next character. -/
theorem getElem? (h : Passed text n rest) : text.toByteArray[n]? = rest.head?.map firstByte := by
  obtain ⟨before, htext, -, rfl⟩ := h
  rw [getElem?_toByteArray, htext, List.flatMap_append, ← length_flatMap_utf8EncodeChar,
    List.getElem?_append_right (Nat.le_refl _), Nat.sub_self, head?_flatMap_utf8EncodeChar]

/-- The text can be cut here, and the next character stands behind the cut. -/
theorem exists_pos? (h : Passed text n (c :: rest)) :
    ∃ p : text.Pos, text.pos? ⟨n⟩ = some p ∧ p.get? = some c := by
  obtain ⟨before, htext, -, rfl⟩ := h
  have hvalid := isValid_utf8Len htext
  have hslice : (⟨utf8Len before⟩ : String.Pos.Raw).isValidForSlice text.toSlice = true :=
    String.Pos.Raw.isValidForSlice_eq_true_iff.2 hvalid.toSlice
  have hpos : text.pos? ⟨utf8Len before⟩ = some (text.pos ⟨utf8Len before⟩ hvalid) :=
    congrArg (Option.map String.Pos.ofToSlice) (dif_pos hslice)
  exact ⟨_, hpos, get?_pos_utf8Len htext⟩

end Passed

end Introspection.Text

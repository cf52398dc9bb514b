import ChainArchive.Bytes

namespace ChainArchive.Bytes

/-! The bytes of a string, character by character. -/

theorem ofString_ofList (chars : List Char) :
    ofString (String.ofList chars) = chars.flatMap String.utf8EncodeChar := by
  induction chars with
  | nil => simp [ofString]
  | cons c rest ih =>
      have hcons : (c :: rest).utf8Encode = [c].utf8Encode ++ rest.utf8Encode :=
        List.utf8Encode_cons
      simp only [ofString, String.toByteArray_ofList] at ih ⊢
      rw [hcons, List.utf8Encode_singleton]
      simp [ih]

theorem ofString_eq_flatMap (s : String) :
    ofString s = s.toList.flatMap String.utf8EncodeChar := by
  rw [← ofString_ofList, String.ofList_toList]

theorem ofString_append (s t : String) : ofString (s ++ t) = ofString s ++ ofString t := by
  simp [ofString_eq_flatMap]

theorem utf8EncodeChar_ascii {c : Char} (h : c.toNat < 128) :
    String.utf8EncodeChar c = [byte c] := by
  have hsize : c.utf8Size = 1 := by
    rw [Char.utf8Size_eq_one_iff, UInt32.le_iff_toNat_le]
    exact Nat.le_of_lt_succ h
  rw [String.utf8EncodeChar_eq_singleton hsize]
  rfl

theorem le_or_of_le {low : UInt8} (b mark : UInt8) (h : low ≤ mark) : low ≤ b ||| mark := by
  rw [UInt8.le_iff_toNat_le, UInt8.toNat_or]
  exact Nat.le_trans (UInt8.le_iff_toNat_le.mp h) Nat.right_le_or

theorem utf8EncodeChar_beyond {c : Char} (h : ¬ c.toNat < 128) :
    ∀ b ∈ String.utf8EncodeChar c, 128 ≤ b := by
  have hsize : c.utf8Size ≠ 1 := by
    rw [Ne, Char.utf8Size_eq_one_iff, UInt32.le_iff_toNat_le]
    intro hle
    exact h (Nat.lt_succ_of_le hle)
  intro b hb
  rcases Char.utf8Size_eq c with h1 | h2 | h3 | h4
  · exact absurd h1 hsize
  · rw [String.utf8EncodeChar_eq_cons_cons h2] at hb
    simp only [List.mem_cons, List.not_mem_nil, or_false] at hb
    rcases hb with rfl | rfl <;> exact le_or_of_le _ _ (by decide)
  · rw [String.utf8EncodeChar_eq_cons_cons_cons h3] at hb
    simp only [List.mem_cons, List.not_mem_nil, or_false] at hb
    rcases hb with rfl | rfl | rfl <;> exact le_or_of_le _ _ (by decide)
  · rw [String.utf8EncodeChar_eq_cons_cons_cons_cons h4] at hb
    simp only [List.mem_cons, List.not_mem_nil, or_false] at hb
    rcases hb with rfl | rfl | rfl | rfl <;> exact le_or_of_le _ _ (by decide)

theorem ofString_ascii {chars : List Char} (h : ∀ c ∈ chars, c.toNat < 128) :
    ofString (String.ofList chars) = chars.map byte := by
  rw [ofString_ofList]
  induction chars with
  | nil => rfl
  | cons c rest ih =>
      rw [List.flatMap_cons, utf8EncodeChar_ascii (h c (by simp)),
        ih fun d hd => h d (by simp [hd])]
      rfl

/-! Bytes that spell a string. -/

theorem ofString_of_toString? {bytes : Bytes} {s : String} (h : bytes.toString? = some s) :
    ofString s = bytes := by
  unfold toString? String.fromUTF8? at h
  split at h
  · cases h
    rfl
  · cases h

def IsText (bytes : Bytes) : Prop := ∃ s, ofString s = bytes

theorem IsText.toString?_isSome {bytes : Bytes} (h : bytes.IsText) :
    ∃ s, bytes.toString? = some s := by
  obtain ⟨s, rfl⟩ := h
  exact ⟨s, toString?_ofString s⟩

theorem isText_ofString (s : String) : (ofString s).IsText := ⟨s, rfl⟩

theorem isText_nil : IsText [] := ⟨"", by simp [ofString]⟩

theorem IsText.append {bytes others : Bytes} (h : bytes.IsText) (hothers : others.IsText) :
    (bytes ++ others).IsText := by
  obtain ⟨s, rfl⟩ := h
  obtain ⟨t, rfl⟩ := hothers
  exact ⟨s ++ t, ofString_append s t⟩

theorem isText_ascii {bytes : Bytes} (h : ∀ b ∈ bytes, b < 128) : bytes.IsText := by
  refine ⟨String.ofList (bytes.map Char.ofUInt8), ?_⟩
  have hascii : ∀ c ∈ bytes.map Char.ofUInt8, c.toNat < 128 := by
    intro c hc
    obtain ⟨b, hb, rfl⟩ := List.mem_map.mp hc
    exact UInt8.lt_iff_toNat_lt.mp (h b hb)
  have hback : byte ∘ Char.ofUInt8 = id := by
    funext b
    exact UInt8.toUInt8_toUInt32 b
  rw [ofString_ascii hascii, List.map_map, hback, List.map_id]

/-! Texts that are cut. -/

/-- The place lies inside a character of the text. -/
def Splits (bytes : Bytes) (place : Nat) : Prop :=
  ∃ (front : String) (c : Char) (back : String), bytes = ofString (front.push c ++ back) ∧
    (ofString front).length < place ∧ place < (ofString (front.push c)).length

theorem length_ofString (s : String) : (ofString s).length = s.utf8ByteSize := by
  simp [ofString]

theorem isText_take_or_splits {bytes : Bytes} (h : bytes.IsText) (place : Nat) :
    IsText (bytes.take place) ∨ bytes.Splits place := by
  obtain ⟨s, rfl⟩ := h
  rw [← String.ofList_toList (s := s)]
  induction s.toList generalizing place with
  | nil => exact .inl ⟨"", by simp [ofString]⟩
  | cons c rest ih =>
      have hcons : String.ofList (c :: rest) = "".push c ++ String.ofList rest := by
        rw [String.push_empty, String.singleton_eq_ofList, ← String.ofList_append,
          List.singleton_append]
      rw [hcons]
      by_cases hinside : place < (ofString ("".push c)).length
      · cases place with
        | zero => exact .inl isText_nil
        | succ place => exact .inr ⟨"", c, String.ofList rest, rfl, Nat.succ_pos _, hinside⟩
      · obtain ⟨behind, rfl⟩ := Nat.exists_eq_add_of_le (Nat.le_of_not_lt hinside)
        rcases ih behind with htake | ⟨front, d, back, hbytes, hfront, hback⟩
        · rw [ofString_append, List.take_length_add_append]
          exact .inl ((isText_ofString _).append htake)
        · have hpush : ("".push c ++ front).push d = "".push c ++ front.push d := by
            rw [String.push_eq_append, String.append_assoc, ← String.push_eq_append]
          refine .inr ⟨"".push c ++ front, d, back, ?_, ?_, ?_⟩
          · rw [ofString_append, hbytes, hpush, String.append_assoc, ← ofString_append]
          · rw [ofString_append, List.length_append]
            omega
          · rw [hpush, ofString_append, List.length_append]
            omega

theorem Splits.not_isText {bytes : Bytes} {place : Nat} (h : bytes.Splits place) :
    ¬ IsText (bytes.take place) := by
  obtain ⟨front, c, back, rfl, hfront, hback⟩ := h
  rintro ⟨s, hs⟩
  rw [length_ofString] at hfront hback
  have hsize : (front.push c).utf8ByteSize = front.utf8ByteSize + c.utf8Size := by simp
  have hextract : ((front.push c ++ back).toByteArray.extract 0 place) = s.toByteArray := by
    apply ByteArray.ext
    apply Array.toList_inj.mp
    rw [ByteArray.data_extract, Array.toList_extract, List.extract_eq_take_drop]
    exact hs.symm
  have hvalid : String.Pos.Raw.IsValid (front.push c ++ back) ⟨place⟩ := by
    rw [String.Pos.Raw.isValid_iff_isValidUTF8_extract_zero]
    refine ⟨?_, ?_⟩
    · simp [String.Pos.Raw.le_iff]
      omega
    · rw [hextract]
      exact s.isValidUTF8
  rcases String.Pos.Raw.isValid_append.mp hvalid with hpush | ⟨hbehind, _⟩
  · rcases String.Pos.Raw.isValid_push.mp hpush with hinside | hend
    · have hle := String.Pos.Raw.le_iff.mp hinside.le_rawEndPos
      simp at hle
      omega
    · have hplace := congrArg String.Pos.Raw.byteIdx hend
      simp at hplace
      omega
  · have hle := String.Pos.Raw.le_iff.mp hbehind
    simp at hle
    omega

end ChainArchive.Bytes

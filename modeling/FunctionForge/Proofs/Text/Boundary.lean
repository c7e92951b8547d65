import FunctionForge.Text.Basic

/-!
# Characters and their bytes

A text is only cut between its characters. A byte offset between two of them, in front of the first
or behind the last is a boundary, and it is told by the characters in front of it.

The bytes of a text are the encodings of its characters, one behind the other. The first byte of an
encoding is never found inside another one, so the bytes of some characters stand in a text only where
the characters do.
-/

namespace FunctionForge.Text

/-! ### Boundaries of characters -/

/-- Whether a byte offset is one at which a character of a text starts or the text ends. -/
def IsBoundary (text : String) (offset : Nat) : Prop := String.Pos.Raw.IsValid text ⟨offset⟩

theorem isBoundary_iff {text : String} {offset : Nat} :
    IsBoundary text offset ↔
      ∃ before after, text.toList = before ++ after ∧ byteLength before = offset := by
  rw [IsBoundary, String.Pos.Raw.isValid_iff_exists_append]
  constructor
  · rintro ⟨before, after, rfl, hoffset⟩
    refine ⟨before.toList, after.toList, String.toList_append, ?_⟩
    have hsize : offset = before.utf8ByteSize := congrArg String.Pos.Raw.byteIdx hoffset
    rw [hsize, ← size_eq_utf8ByteSize, size]
  · rintro ⟨before, after, htext, rfl⟩
    refine ⟨String.ofList before, String.ofList after, ?_, ?_⟩
    · rw [← String.ofList_append, ← htext, String.ofList_toList]
    · rw [byteLength_eq_utf8ByteSize]
      rfl

theorem IsBoundary.le_size {text : String} {offset : Nat} (h : IsBoundary text offset) :
    offset ≤ size text := by
  obtain ⟨before, after, htext, rfl⟩ := isBoundary_iff.1 h
  rw [size, htext, byteLength_append]
  omega

/-- The number of bytes in front of a place tells the characters in front of it. -/
theorem append_inj_of_byteLength {left left' right right' : List Char}
    (h : left ++ right = left' ++ right') (hlength : byteLength left = byteLength left') :
    left = left' ∧ right = right' := by
  induction left generalizing left' with
  | nil =>
    cases left' with
    | nil => exact ⟨rfl, h⟩
    | cons c left' =>
      have hpos := c.utf8Size_pos
      rw [byteLength_nil, byteLength_cons] at hlength
      omega
  | cons c left ih =>
    cases left' with
    | nil =>
      have hpos := c.utf8Size_pos
      rw [byteLength_nil, byteLength_cons] at hlength
      omega
    | cons c' left' =>
      obtain ⟨rfl, htail⟩ := List.cons.inj h
      have htailLength : byteLength left = byteLength left' := by
        rw [byteLength_cons, byteLength_cons] at hlength
        omega
      obtain ⟨rfl, rfl⟩ := ih htail htailLength
      exact ⟨rfl, rfl⟩

/-- A boundary inside a part of a text cuts the part in two. -/
theorem exists_split_of_byteLength {front part after before text : List Char}
    (h : front ++ (part ++ after) = before ++ text) (hlow : byteLength front < byteLength before)
    (hhigh : byteLength before < byteLength front + byteLength part) :
    ∃ left right, part = left ++ right ∧ left ≠ [] ∧ right ≠ [] ∧ before = front ++ left ∧
      text = right ++ after := by
  rcases List.append_eq_append_iff.1 h with ⟨left, rfl, hrest⟩ | ⟨left, rfl, -⟩
  · rw [byteLength_append] at hlow hhigh
    rcases List.append_eq_append_iff.1 hrest with ⟨right, rfl, -⟩ | ⟨right, rfl, rfl⟩
    · rw [byteLength_append] at hhigh
      omega
    · refine ⟨left, right, rfl, ?_, ?_, rfl, rfl⟩
      · rintro rfl
        exact absurd hlow (Nat.lt_irrefl _)
      · rintro rfl
        rw [List.append_nil] at hhigh
        exact absurd hhigh (Nat.lt_irrefl _)
  · rw [byteLength_append] at hlow
    omega

/-- No boundary lies inside a character. -/
theorem not_isBoundary_inside {text : String} {before after : List Char} {c : Char} {offset : Nat}
    (htext : text.toList = before ++ c :: after) (hlow : byteLength before < offset)
    (hhigh : offset < byteLength before + c.utf8Size) : ¬IsBoundary text offset := by
  intro h
  obtain ⟨left, right, hsplit, rfl⟩ := isBoundary_iff.1 h
  rw [hsplit] at htext
  rcases List.append_eq_append_iff.1 htext with ⟨middle, rfl, -⟩ | ⟨middle, rfl, hmiddle⟩
  · rw [byteLength_append] at hlow
    omega
  · cases middle with
    | nil => simp at hlow
    | cons d middle =>
      obtain ⟨rfl, -⟩ := List.cons.inj hmiddle
      rw [byteLength_append, byteLength_cons] at hhigh
      omega

/-! ### Bytes of a text -/

/-- The bytes of a text from an offset on. -/
def slice (text : String) (offset length : Nat) : ByteArray :=
  text.toByteArray.extract offset (offset + length)

theorem size_utf8Encode (text : List Char) : text.utf8Encode.size = byteLength text := by
  induction text with
  | nil => rfl
  | cons c rest ih =>
    rw [List.utf8Encode_cons, ByteArray.size_append, ih, byteLength_cons, List.utf8Encode_singleton,
      List.size_toByteArray, String.length_utf8EncodeChar]

/-- The bytes at a boundary are those of the characters behind it. -/
theorem slice_eq_extract {text : String} {before after : List Char}
    (h : text.toList = before ++ after) (length : Nat) :
    slice text (byteLength before) length = after.utf8Encode.extract 0 length := by
  rw [slice, ← String.utf8Encode_toList, h, List.utf8Encode_append, ← size_utf8Encode before]
  exact ByteArray.extract_append_size_add (i := 0) (j := length)

theorem slice_of_append {text : String} {before part after : List Char}
    (h : text.toList = before ++ part ++ after) :
    slice text (byteLength before) (byteLength part) = part.utf8Encode := by
  rw [List.append_assoc] at h
  rw [slice_eq_extract h, List.utf8Encode_append, ← size_utf8Encode part,
    ByteArray.extract_append_size_left]
  exact ByteArray.extract_zero_size

/-- Characters are told from the bytes they start with. -/
theorem exists_append_of_utf8Encode {part text : List Char} {bytes : ByteArray}
    (h : text.utf8Encode = part.utf8Encode ++ bytes) : ∃ rest, text = part ++ rest := by
  induction part generalizing text with
  | nil => exact ⟨text, rfl⟩
  | cons c part ih =>
    rw [List.utf8Encode_cons (c := c), ByteArray.append_assoc] at h
    have hfirst : text.utf8Encode.utf8DecodeChar? 0 = some c := by
      rw [h]
      exact List.utf8DecodeChar?_utf8Encode_singleton_append
    cases text with
    | nil =>
      have hsize := ByteArray.lt_size_of_isSome_utf8DecodeChar? (Option.isSome_of_eq_some hfirst)
      exact absurd hsize (Nat.lt_irrefl 0)
    | cons d text =>
      obtain rfl : d = c := by
        rw [List.utf8DecodeChar?_utf8Encode_cons] at hfirst
        exact Option.some.inj hfirst
      rw [List.utf8Encode_cons] at h
      obtain ⟨rest, rfl⟩ := ih (ByteArray.append_right_inj _ |>.1 h)
      exact ⟨rest, rfl⟩

/-- Where the bytes of characters start, a character starts. -/
theorem isBoundary_of_slice {text : String} {offset length : Nat} {c : Char} {part : List Char}
    (h : slice text offset length = (c :: part).utf8Encode) : IsBoundary text offset := by
  have hdecoded : ((slice text offset length).utf8DecodeChar? 0).isSome := by
    rw [h, List.utf8DecodeChar?_utf8Encode_cons]
    rfl
  have hfirst := ByteArray.isUTF8FirstByte_of_isSome_utf8DecodeChar? hdecoded
  have hlength := ByteArray.lt_size_of_isSome_utf8DecodeChar? hdecoded
  have hoffset : offset < text.toByteArray.size := by
    rw [slice, ByteArray.size_extract] at hlength
    omega
  rw [IsBoundary, String.Pos.Raw.isValid_iff_isUTF8FirstByte]
  refine .inr ⟨hoffset, ?_⟩
  have hbyte : (slice text offset length)[0] = text.toByteArray[offset] :=
    ByteArray.getElem_extract hlength
  rwa [hbyte] at hfirst

/-- The bytes of characters stand in a text exactly where the characters do. -/
theorem slice_eq_iff {text : String} {offset : Nat} {part : List Char} (hpart : part ≠ []) :
    slice text offset (byteLength part) = part.utf8Encode ↔
      ∃ before after, text.toList = before ++ part ++ after ∧ byteLength before = offset := by
  constructor
  · intro h
    obtain ⟨c, rest, rfl⟩ := List.exists_cons_of_ne_nil hpart
    obtain ⟨before, after, htext, rfl⟩ := isBoundary_iff.1 (isBoundary_of_slice h)
    rw [slice_eq_extract htext] at h
    have hafter : after.utf8Encode = (c :: rest).utf8Encode ++
        after.utf8Encode.extract (byteLength (c :: rest)) after.utf8Encode.size := by
      rw [← h, ByteArray.extract_append_extract, Nat.zero_min, ByteArray.extract_zero_max_size]
    obtain ⟨after, rfl⟩ := exists_append_of_utf8Encode hafter
    exact ⟨before, after, by rw [htext, List.append_assoc], rfl⟩
  · rintro ⟨before, after, htext, rfl⟩
    exact slice_of_append htext

/-- A byte of a text is one of a character's. -/
theorem exists_character {text : List Char} {place : Nat} (h : place < byteLength text) :
    ∃ before c after, text = before ++ c :: after ∧ byteLength before ≤ place ∧
      place < byteLength before + c.utf8Size := by
  induction text generalizing place with
  | nil => exact absurd h (Nat.not_lt_zero place)
  | cons c rest ih =>
    rw [byteLength_cons] at h
    by_cases hc : place < c.utf8Size
    · refine ⟨[], c, rest, rfl, Nat.zero_le place, ?_⟩
      rw [byteLength_nil]
      omega
    · obtain ⟨before, d, after, rfl, hlow, hhigh⟩ := ih (show place - c.utf8Size < byteLength rest by omega)
      refine ⟨c :: before, d, after, rfl, ?_, ?_⟩ <;>
        rw [byteLength_cons] <;> omega

end FunctionForge.Text

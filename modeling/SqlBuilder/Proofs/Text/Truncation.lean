import SqlBuilder.Text.Bytes

/-!
Cutting a text to a number of bytes.  What is kept is the longest of the beginnings, in
whole characters, that fit.  The walk from the limit back over the bytes stops at its end,
because it meets no other place between characters before.
-/

namespace SqlBuilder.Text

theorem utf8Prefix_isPrefix (limit : Nat) (text : Text) : utf8Prefix limit text <+: text := by
  induction text generalizing limit with
  | nil => exact List.prefix_rfl
  | cons c rest ih =>
      rw [utf8Prefix]
      split
      · exact List.cons_prefix_cons.2 ⟨rfl, ih _⟩
      · exact List.nil_prefix

theorem utf8Length_utf8Prefix_le (limit : Nat) (text : Text) :
    utf8Length (utf8Prefix limit text) ≤ limit := by
  induction text generalizing limit with
  | nil => exact Nat.zero_le limit
  | cons c rest ih =>
      rw [utf8Prefix]
      split
      · next hfits =>
          have hrest := ih (limit - c.utf8Size)
          rw [utf8Length_cons]
          omega
      · exact Nat.zero_le limit

/-- Every beginning of the text that fits is part of what is kept. -/
theorem isPrefix_utf8Prefix {limit : Nat} {start text : Text} (hstart : start <+: text)
    (hfits : utf8Length start ≤ limit) : start <+: utf8Prefix limit text := by
  induction text generalizing limit start with
  | nil => rwa [utf8Prefix]
  | cons c rest ih =>
      cases start with
      | nil => exact List.nil_prefix
      | cons d others =>
          obtain ⟨rfl, hothers⟩ := List.cons_prefix_cons.1 hstart
          rw [utf8Length_cons] at hfits
          rw [utf8Prefix, if_pos (by omega)]
          exact List.cons_prefix_cons.2 ⟨rfl, ih hothers (by omega)⟩

/-- What is left out begins with a character that takes more bytes than are left. -/
theorem lt_utf8Length_utf8Prefix_add_four {limit : Nat} {text : Text}
    (hlong : limit < utf8Length text) : limit < utf8Length (utf8Prefix limit text) + 4 := by
  induction text generalizing limit with
  | nil => exact absurd hlong (Nat.not_lt_zero limit)
  | cons c rest ih =>
      rw [utf8Length_cons] at hlong
      rw [utf8Prefix]
      split
      · next hfits =>
          have hlater : limit - c.utf8Size < utf8Length rest := by omega
          have hrest := ih hlater
          rw [utf8Length_cons]
          omega
      · next hlarge =>
          have hsize := c.utf8Size_le_four
          rw [utf8Length_nil]
          omega

/-- Among the bytes of a character only the first one begins a character. -/
theorem isBoundary_encode_append {c : Char} {index : Nat} (hinside : index < c.utf8Size)
    (later : List UInt8) :
    isBoundary (String.utf8EncodeChar c ++ later) index = true ↔ index = 0 := by
  have hlength : index < (String.utf8EncodeChar c).length := by
    rwa [String.length_utf8EncodeChar]
  rw [isBoundary, List.getElem?_append_left hlength, List.getElem?_eq_getElem hlength]
  exact decide_eq_true_iff.trans UInt8.isUTF8FirstByte_getElem_utf8EncodeChar

theorem isBoundary_append_of_le {earlier later : List UInt8} {index : Nat}
    (hle : earlier.length ≤ index) :
    isBoundary (earlier ++ later) index = isBoundary later (index - earlier.length) := by
  rw [isBoundary, isBoundary, List.getElem?_append_right hle]
  split
  · rfl
  · rw [List.length_append, Bool.eq_iff_iff, beq_iff_eq, beq_iff_eq]
    omega

/-- The boundaries among the bytes of a text are the ends of its beginnings. -/
theorem isBoundary_bytes_iff {text : Text} {index : Nat} :
    isBoundary (bytes text) index = true ↔
      ∃ start, start <+: text ∧ utf8Length start = index := by
  induction text generalizing index with
  | nil =>
      simp only [isBoundary, bytes_nil, List.getElem?_nil, List.length_nil, beq_iff_eq,
        List.prefix_nil, exists_eq_left, utf8Length_nil]
      exact eq_comm
  | cons c rest ih =>
      rw [bytes_cons]
      simp only [List.prefix_cons_iff]
      by_cases hinside : index < c.utf8Size
      · rw [isBoundary_encode_append hinside]
        constructor
        · rintro rfl
          exact ⟨[], .inl rfl, rfl⟩
        · rintro ⟨start, rfl | ⟨others, rfl, -⟩, rfl⟩
          · rfl
          · rw [utf8Length_cons] at hinside
            omega
      · have hle : (String.utf8EncodeChar c).length ≤ index := by
          rw [String.length_utf8EncodeChar]
          omega
        rw [isBoundary_append_of_le hle, ih, String.length_utf8EncodeChar]
        constructor
        · rintro ⟨others, hothers, hlength⟩
          refine ⟨c :: others, .inr ⟨others, rfl, hothers⟩, ?_⟩
          rw [utf8Length_cons]
          omega
        · rintro ⟨start, rfl | ⟨others, rfl, hothers⟩, rfl⟩
          · exact absurd c.utf8Size_pos hinside
          · refine ⟨others, hothers, ?_⟩
            rw [utf8Length_cons]
            omega

section Walk

variable {bytes : List UInt8}

theorem boundaryBefore_le (limit : Nat) : boundaryBefore bytes limit ≤ limit := by
  induction limit with
  | zero => exact Nat.le_refl 0
  | succ limit ih =>
      rw [boundaryBefore]
      split
      · exact Nat.le_refl _
      · exact Nat.le_succ_of_le ih

/-- Walking back ends between two characters, at the latest at the beginning. -/
theorem isBoundary_boundaryBefore (hstart : isBoundary bytes 0 = true) (limit : Nat) :
    isBoundary bytes (boundaryBefore bytes limit) = true := by
  induction limit with
  | zero => exact hstart
  | succ limit ih =>
      rw [boundaryBefore]
      split
      · next hhere => exact hhere
      · exact ih

/-- The walk passes over no boundary. -/
theorem le_boundaryBefore {index limit : Nat} (hboundary : isBoundary bytes index = true)
    (hle : index ≤ limit) : index ≤ boundaryBefore bytes limit := by
  induction limit with
  | zero => exact hle
  | succ limit ih =>
      rw [boundaryBefore]
      split
      · exact hle
      · next hhere =>
          have hne : index ≠ limit + 1 := by
            rintro rfl
            exact hhere hboundary
          exact ih (by omega)

end Walk

/-- The walk ends where the kept characters do. -/
theorem utf8Length_utf8Prefix (limit : Nat) (text : Text) :
    utf8Length (utf8Prefix limit text) = boundaryBefore (bytes text) limit := by
  apply Nat.le_antisymm
  · exact le_boundaryBefore
      (isBoundary_bytes_iff.2 ⟨_, utf8Prefix_isPrefix limit text, rfl⟩)
      (utf8Length_utf8Prefix_le limit text)
  · have hstart : isBoundary (bytes text) 0 = true :=
      isBoundary_bytes_iff.2 ⟨[], List.nil_prefix, rfl⟩
    obtain ⟨start, hprefix, hlength⟩ :=
      isBoundary_bytes_iff.1 (isBoundary_boundaryBefore hstart limit)
    have hfits : utf8Length start ≤ limit := hlength ▸ boundaryBefore_le limit
    obtain ⟨later, hkept⟩ := isPrefix_utf8Prefix hprefix hfits
    rw [← hlength, ← hkept, utf8Length_append]
    exact Nat.le_add_right _ _

/-- The bytes before the end of a beginning are its bytes. -/
theorem bytes_of_isPrefix {start text : Text} (hstart : start <+: text) :
    bytes start = (bytes text).take (utf8Length start) := by
  obtain ⟨later, rfl⟩ := hstart
  rw [bytes_append, List.take_left' (length_bytes start)]

end SqlBuilder.Text

import GoAssist.Completion.Placeholder

/-!
# Tab stops by characters

A template has tab stops if the characters of a marker stand in it one after another. The scan for
them runs over bytes, and it finds the same markers since all characters of a marker are ASCII: such
a character is one byte, and all bytes of another one lie above ASCII (`exists_utf8EncodeChar_eq`).
So a test for a marker's character answers for the first byte as it would for the character, the
scan passes over the other bytes (`hasMarker_append_of_le`), and one induction over the characters
follows it (`hasMarker_flatMap_iff`).
-/

namespace GoAssist

/-- The characters of a marker: a dollar sign with a digit, or with an opening brace and a digit. -/
inductive IsMarker : List Char → Prop where
  | digit {d : Char} : d.isDigit = true → IsMarker ['$', d]
  | braceDigit {d : Char} : d.isDigit = true → IsMarker ['$', '\x7b', d]

theorem IsMarker.exists_tail {marker : List Char} (h : IsMarker marker) :
    ∃ tail, marker = '$' :: tail := by
  cases h with
  | digit _ => exact ⟨_, rfl⟩
  | braceDigit _ => exact ⟨_, rfl⟩

/-- A marker stands in a text. -/
def HasTabStop (text : List Char) : Prop :=
  ∃ marker, IsMarker marker ∧ marker <:+: text

/-! ## The bytes of a character -/

theorem toList_toUTF8 (text : String) :
    text.toUTF8.data.toList = text.toList.flatMap String.utf8EncodeChar := by
  have hbytes : (String.ofList text.toList).toByteArray = text.toList.utf8Encode :=
    String.toByteArray_ofList
  rw [String.ofList_toList] at hbytes
  rw [String.toUTF8_eq_toByteArray, hbytes, List.utf8Encode, List.toList_data_toByteArray]

/-- No byte of a character beyond ASCII is an ASCII code. -/
theorem le_of_mem_utf8EncodeChar {c : Char} (h : 0x80 ≤ c.toNat) {byte : UInt8}
    (hbyte : byte ∈ String.utf8EncodeChar c) : 0x80 ≤ byte.toNat := by
  have hval : ¬c.val.toNat ≤ 0x7F := Nat.not_le.mpr h
  rw [String.utf8EncodeChar, if_neg hval] at hbyte
  -- Two, three or four bytes, each a remainder and a mark of at least 0x80.
  have hmarked : ∃ n, byte = UInt8.ofNat n ∧ 0x80 ≤ n ∧ n < 0x100 := by
    split at hbyte
    · simp only [List.mem_cons, List.not_mem_nil, or_false] at hbyte
      rcases hbyte with rfl | rfl <;> exact ⟨_, rfl, by omega, by omega⟩
    · split at hbyte
      · simp only [List.mem_cons, List.not_mem_nil, or_false] at hbyte
        rcases hbyte with rfl | rfl | rfl <;> exact ⟨_, rfl, by omega, by omega⟩
      · simp only [List.mem_cons, List.not_mem_nil, or_false] at hbyte
        rcases hbyte with rfl | rfl | rfl | rfl <;> exact ⟨_, rfl, by omega, by omega⟩
  obtain ⟨n, rfl, hle, hlt⟩ := hmarked
  rwa [UInt8.toNat_ofNat_of_lt' hlt]

/-- A byte is a character's code, or neither of them is ASCII. -/
def ReadsAs (byte : UInt8) (c : Char) : Prop :=
  byte.toNat = c.toNat ∨ 0x80 ≤ byte.toNat ∧ 0x80 ≤ c.toNat

theorem exists_utf8EncodeChar_eq (c : Char) :
    ∃ first more, String.utf8EncodeChar c = first :: more ∧ ReadsAs first c
      ∧ (∀ byte ∈ more, 0x80 ≤ byte.toNat) ∧ (c.toNat < 0x80 → more = []) := by
  rcases Nat.lt_or_ge c.toNat 0x80 with hlt | hge
  · have hsize : c.utf8Size = 1 :=
      Char.utf8Size_eq_one_iff.mpr (UInt32.le_iff_toNat_le.mpr (Nat.le_of_lt_succ hlt))
    have hcode : c.val.toUInt8.toNat = c.toNat := by
      rw [UInt32.toNat_toUInt8]
      exact Nat.mod_eq_of_lt (Nat.lt_trans hlt (by decide))
    exact ⟨c.val.toUInt8, [], String.utf8EncodeChar_eq_singleton hsize, Or.inl hcode, by simp,
      fun _ => rfl⟩
  · obtain ⟨first, more, hbytes⟩ := List.exists_cons_of_ne_nil String.utf8EncodeChar_ne_nil
    have hmarked : ∀ byte ∈ first :: more, 0x80 ≤ byte.toNat := fun byte hbyte =>
      le_of_mem_utf8EncodeChar hge (hbytes ▸ hbyte)
    exact ⟨first, more, hbytes, Or.inr ⟨hmarked first List.mem_cons_self, hge⟩,
      fun byte hbyte => hmarked byte (List.mem_cons_of_mem _ hbyte), by omega⟩

/-! ## One test of a byte and of a character -/

theorem isDigitByte_iff {byte : UInt8} :
    isDigitByte byte = true ↔ 0x30 ≤ byte.toNat ∧ byte.toNat ≤ 0x39 := by
  rw [isDigitByte, Bool.and_eq_true, decide_eq_true_eq, decide_eq_true_eq, UInt8.le_iff_toNat_le,
    UInt8.le_iff_toNat_le]
  rfl

theorem isDigitByte_eq_isDigit {byte : UInt8} {c : Char} (h : ReadsAs byte c) :
    isDigitByte byte = c.isDigit := by
  have hzero : '0'.toNat = 0x30 := rfl
  have hnine : '9'.toNat = 0x39 := rfl
  rw [Bool.eq_iff_iff, isDigitByte_iff, Char.isDigit_iff_toNat, hzero, hnine]
  rcases h with heq | ⟨hbyte, hc⟩ <;> omega

theorem beq_eq_beq_of_readsAs {byte code : UInt8} {c : Char} (sign : Char) (h : ReadsAs byte c)
    (hcode : code.toNat = sign.toNat) (hsign : sign.toNat < 0x80) :
    (byte == code) = (c == sign) := by
  rw [Bool.eq_iff_iff, beq_iff_eq, beq_iff_eq, ← UInt8.toNat_inj, ← Char.toNat_inj, hcode]
  rcases h with heq | ⟨hbyte, hc⟩ <;> omega

/-- The bytes of a text begin with a digit where its characters do. -/
theorem head?_any_flatMap (text : List Char) :
    (text.flatMap String.utf8EncodeChar).head?.any isDigitByte = text.head?.any Char.isDigit := by
  cases text with
  | nil => rfl
  | cons c rest =>
      obtain ⟨first, more, hbytes, hfirst, -, -⟩ := exists_utf8EncodeChar_eq c
      rw [List.flatMap_cons, hbytes]
      exact isDigitByte_eq_isDigit hfirst

/-! ## The scan over a text -/

theorem completesMarker_cons {first : UInt8} {rest : List UInt8} :
    completesMarker (first :: rest)
      = (isDigitByte first || first == 0x7B && rest.head?.any isDigitByte) := by
  cases rest with
  | nil => simp [completesMarker]
  | cons second _ => rfl

theorem completesMarker_flatMap_cons (c : Char) (rest : List Char) :
    completesMarker ((c :: rest).flatMap String.utf8EncodeChar)
      = (c.isDigit || c == '\x7b' && rest.head?.any Char.isDigit) := by
  obtain ⟨first, more, hbytes, hfirst, -, hmore⟩ := exists_utf8EncodeChar_eq c
  rw [List.flatMap_cons, hbytes, List.cons_append, completesMarker_cons,
    isDigitByte_eq_isDigit hfirst, beq_eq_beq_of_readsAs '\x7b' hfirst rfl (by decide)]
  by_cases hbrace : c = '\x7b'
  · -- The opening brace is one byte, so the bytes after it are those of the text after it.
    rw [hmore (by rw [hbrace]; decide), List.nil_append, head?_any_flatMap]
  · rw [beq_false_of_ne hbrace, Bool.false_and, Bool.false_and]

theorem hasMarker_append_of_le {bytes rest : List UInt8}
    (h : ∀ byte ∈ bytes, 0x80 ≤ byte.toNat) : hasMarker (bytes ++ rest) = hasMarker rest := by
  induction bytes with
  | nil => rfl
  | cons byte bytes ih =>
      have hbyte : (byte == 0x24) = false := by
        have hle : 0x80 ≤ byte.toNat := h byte List.mem_cons_self
        refine beq_false_of_ne fun heq => ?_
        rw [heq] at hle
        exact absurd hle (by decide)
      rw [List.cons_append, hasMarker, hbyte, Bool.false_and, Bool.false_or]
      exact ih fun byte hmem => h byte (List.mem_cons_of_mem _ hmem)

theorem hasMarker_flatMap_cons (c : Char) (rest : List Char) :
    hasMarker ((c :: rest).flatMap String.utf8EncodeChar)
      = (c == '$' && completesMarker (rest.flatMap String.utf8EncodeChar)
        || hasMarker (rest.flatMap String.utf8EncodeChar)) := by
  obtain ⟨first, more, hbytes, hfirst, hmarked, hmore⟩ := exists_utf8EncodeChar_eq c
  rw [List.flatMap_cons, hbytes, List.cons_append, hasMarker, hasMarker_append_of_le hmarked,
    beq_eq_beq_of_readsAs '$' hfirst rfl (by decide)]
  by_cases hdollar : c = '$'
  · rw [hmore (by rw [hdollar]; decide), List.nil_append]
  · rw [beq_false_of_ne hdollar, Bool.false_and, Bool.false_and]

theorem completesMarker_flatMap_iff (text : List Char) :
    completesMarker (text.flatMap String.utf8EncodeChar) = true
      ↔ ∃ tail, IsMarker ('$' :: tail) ∧ tail <+: text := by
  cases text with
  | nil =>
      constructor
      · exact fun h => absurd h Bool.false_ne_true
      · rintro ⟨tail, hmarker, hprefix⟩
        rw [List.prefix_nil.mp hprefix] at hmarker
        cases hmarker
  | cons c rest =>
      rw [completesMarker_flatMap_cons, Bool.or_eq_true, Bool.and_eq_true, beq_iff_eq,
        Option.any_eq_true]
      constructor
      · rintro (hdigit | ⟨rfl, d, hd, hdigit⟩)
        · exact ⟨[c], .digit hdigit, List.cons_prefix_cons.mpr ⟨rfl, List.nil_prefix⟩⟩
        · obtain ⟨more, rfl⟩ := List.head?_eq_some_iff.mp hd
          exact ⟨['\x7b', d], .braceDigit hdigit, more, rfl⟩
      · rintro ⟨tail, hmarker, hprefix⟩
        cases hmarker with
        | digit hdigit =>
            obtain ⟨rfl, -⟩ := List.cons_prefix_cons.mp hprefix
            exact Or.inl hdigit
        | braceDigit hdigit =>
            obtain ⟨rfl, more, rfl⟩ := List.cons_prefix_cons.mp hprefix
            exact Or.inr ⟨rfl, _, rfl, hdigit⟩

theorem hasTabStop_cons_iff {c : Char} {rest : List Char} :
    HasTabStop (c :: rest)
      ↔ (c = '$' ∧ ∃ tail, IsMarker ('$' :: tail) ∧ tail <+: rest) ∨ HasTabStop rest := by
  constructor
  · rintro ⟨marker, hmarker, hinfix⟩
    rcases List.infix_cons_iff.mp hinfix with hprefix | hrest
    · obtain ⟨tail, rfl⟩ := hmarker.exists_tail
      obtain ⟨rfl, htail⟩ := List.cons_prefix_cons.mp hprefix
      exact Or.inl ⟨rfl, tail, hmarker, htail⟩
    · exact Or.inr ⟨marker, hmarker, hrest⟩
  · rintro (⟨rfl, tail, hmarker, hprefix⟩ | ⟨marker, hmarker, hinfix⟩)
    · exact ⟨_, hmarker, (List.cons_prefix_cons.mpr ⟨rfl, hprefix⟩).isInfix⟩
    · exact ⟨marker, hmarker, List.infix_cons_iff.mpr (Or.inr hinfix)⟩

theorem hasMarker_flatMap_iff (text : List Char) :
    hasMarker (text.flatMap String.utf8EncodeChar) = true ↔ HasTabStop text := by
  induction text with
  | nil =>
      constructor
      · exact fun h => absurd h Bool.false_ne_true
      · rintro ⟨marker, hmarker, hinfix⟩
        obtain ⟨tail, rfl⟩ := hmarker.exists_tail
        cases List.infix_nil.mp hinfix
  | cons c rest ih =>
      rw [hasMarker_flatMap_cons, Bool.or_eq_true, Bool.and_eq_true, beq_iff_eq,
        completesMarker_flatMap_iff, ih, hasTabStop_cons_iff]

/-! ## Templates -/

theorem hasPlaceholders_iff_hasTabStop (template : String) :
    hasPlaceholders template = true ↔ HasTabStop template.toList := by
  rw [hasPlaceholders, toList_toUTF8, hasMarker_flatMap_iff]

theorem hasPlaceholders_append {left right : String}
    (h : HasTabStop left.toList ∨ HasTabStop right.toList) :
    hasPlaceholders (left ++ right) = true := by
  rw [hasPlaceholders_iff_hasTabStop, String.toList_append]
  rcases h with ⟨marker, hmarker, hinfix⟩ | ⟨marker, hmarker, hinfix⟩
  · exact ⟨marker, hmarker, hinfix.trans (List.prefix_append _ _).isInfix⟩
  · exact ⟨marker, hmarker, hinfix.trans (List.suffix_append _ _).isInfix⟩

/-- The scan of the bytes finds the markers that stand in the characters, and no others: a marker at
the end of a text too, one after a dollar sign, and one in either half of a longer text. -/
theorem hasPlaceholders_by_characters :
    (∀ template : String, hasPlaceholders template = true ↔ HasTabStop template.toList)
    ∧ (∀ template marker : String, IsMarker marker.toList →
        hasPlaceholders (template ++ marker) = true
        ∧ hasPlaceholders (template ++ "$" ++ marker) = true)
    ∧ ∀ left right : String, hasPlaceholders left = true ∨ hasPlaceholders right = true →
        hasPlaceholders (left ++ right) = true := by
  refine ⟨hasPlaceholders_iff_hasTabStop, fun template marker hmarker => ?_,
    fun left right h => ?_⟩
  · have htab : HasTabStop marker.toList := ⟨marker.toList, hmarker, List.infix_rfl⟩
    exact ⟨hasPlaceholders_append (Or.inr htab), hasPlaceholders_append (Or.inr htab)⟩
  · rw [hasPlaceholders_iff_hasTabStop, hasPlaceholders_iff_hasTabStop] at h
    exact hasPlaceholders_append h

/-- The euro sign and the full-width digit are no dollar sign and no digit. -/
example : hasPlaceholders "a$$1" = true ∧ hasPlaceholders "€1$１$\x7b" = false := by
  decide

end GoAssist

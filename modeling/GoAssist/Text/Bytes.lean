/-!
# Bytes as characters

Bytes that need not be text, each written as the character of its code. Bytes are got back from their
characters (`ofByteArray_toByteArray`).
-/

namespace GoAssist.Bytes

/-- Bytes as characters. -/
def ofByteArray (bytes : ByteArray) : List Char :=
  bytes.data.toList.map fun byte => Char.ofNat byte.toNat

/-- The bytes that characters stand for. -/
def toByteArray (chars : List Char) : ByteArray :=
  ⟨(chars.map fun c => c.toNat.toUInt8).toArray⟩

/-- The bytes of a text. -/
def ofString (text : String) : List Char :=
  ofByteArray text.toUTF8

/-- The text that bytes spell, if they spell one. -/
def toString? (chars : List Char) : Option String :=
  String.fromUTF8? (toByteArray chars)

theorem toUInt8_toNat_ofNat (byte : UInt8) :
    (Char.ofNat byte.toNat).toNat.toUInt8 = byte := by
  have hlt : byte.toNat < 256 := byte.toNat_lt
  have hvalid : byte.toNat.isValidChar := Or.inl (by omega)
  have hnat : (Char.ofNat byte.toNat).toNat = byte.toNat := by
    unfold Char.ofNat
    rw [dif_pos hvalid]
    rfl
  rw [hnat]
  simp

/-- Bytes are got back from their characters. -/
theorem ofByteArray_toByteArray (bytes : ByteArray) :
    toByteArray (ofByteArray bytes) = bytes := by
  have h : (ofByteArray bytes).map (fun c => c.toNat.toUInt8) = bytes.data.toList := by
    simp only [ofByteArray, List.map_map]
    conv => rhs; rw [← List.map_id bytes.data.toList]
    exact List.map_congr_left fun byte _ => toUInt8_toNat_ofNat byte
  simp [toByteArray, h]

end GoAssist.Bytes

import CloudMonitoring.Http.Message
import Mathlib.Data.List.Basic

/-!
Texts that can be the values of headers. A header is bytes, and of these a value has no control
characters but tabs; it can be told from the characters of the text alone.
-/

namespace CloudMonitoring

namespace Http

def HeaderByte (byte : UInt8) : Prop := byte = 9 ∨ 32 ≤ byte ∧ byte ≠ 127

def HeaderText (value : String) : Prop := ∀ byte ∈ value.toUTF8.data, HeaderByte byte

theorem headerByte_ofNat {code : Nat} (small : code < 256) :
    HeaderByte (UInt8.ofNat code) ↔ code = 9 ∨ 32 ≤ code ∧ code ≠ 127 := by
  simp [HeaderByte, ← UInt8.toNat_inj, UInt8.le_iff_toNat_le, Nat.mod_eq_of_lt small]

theorem headerByte_utf8EncodeChar (c : Char) :
    (∀ byte ∈ String.utf8EncodeChar c, HeaderByte byte) ↔
      c = '\t' ∨ 32 ≤ c.toNat ∧ c.toNat ≠ 127 := by
  have code : c.val.toNat = c.toNat := rfl
  have isTab : c = '\t' ↔ c.toNat = 9 := Char.toNat_inj.symm
  -- the bytes of a character outside ASCII are all of this kind
  have high {byte : Nat} (lower : 128 ≤ byte) (upper : byte < 256) :
      HeaderByte (UInt8.ofNat byte) := (headerByte_ofNat upper).mpr (by omega)
  rw [isTab]
  unfold String.utf8EncodeChar
  simp only [code]
  by_cases ascii : c.toNat ≤ 127
  · simp [ascii, headerByte_ofNat (show c.toNat < 256 by omega)]
  · simp only [ascii, if_false]
    refine iff_of_true ?_ (by omega)
    split
    · simp only [List.forall_mem_cons]
      exact ⟨high (by omega) (by omega), high (by omega) (by omega), by simp⟩
    · split
      · simp only [List.forall_mem_cons]
        exact ⟨high (by omega) (by omega), high (by omega) (by omega),
          high (by omega) (by omega), by simp⟩
      · simp only [List.forall_mem_cons]
        exact ⟨high (by omega) (by omega), high (by omega) (by omega),
          high (by omega) (by omega), high (by omega) (by omega), by simp⟩

theorem isHeaderText_iff (value : String) : isHeaderText value ↔ HeaderText value := by
  have bytes : value.toUTF8.data = (value.toList.flatMap String.utf8EncodeChar).toArray := by
    rw [String.toUTF8, ← String.utf8Encode_toList, List.utf8Encode, List.data_toByteArray]
  rw [HeaderText, bytes]
  simp only [isHeaderText, List.all_eq_true, decide_eq_true_eq, List.mem_toArray, List.mem_flatMap,
    forall_exists_index, and_imp, ← headerByte_utf8EncodeChar]
  exact ⟨fun each byte c member listed => each c member byte listed,
    fun each c member byte listed => each byte c member listed⟩

instance (value : String) : Decidable (HeaderText value) :=
  decidable_of_iff _ (isHeaderText_iff value)

theorem HeaderText.append {first second : String} (legal : HeaderText first)
    (rest : HeaderText second) : HeaderText (first ++ second) := by
  simp only [← isHeaderText_iff, isHeaderText, String.toList_append, List.all_append,
    Bool.and_eq_true] at legal rest ⊢
  exact ⟨legal, rest⟩

theorem HeaderText.of_mem {value : String} (legal : HeaderText value) {c : Char}
    (member : c ∈ value.toList) : c = '\t' ∨ 32 ≤ c.toNat ∧ c.toNat ≠ 127 := by
  rw [← isHeaderText_iff, isHeaderText, List.all_eq_true] at legal
  exact of_decide_eq_true (legal c member)

theorem HeaderText.no_break {value : String} (legal : HeaderText value) :
    '\n' ∉ value.toList ∧ '\r' ∉ value.toList :=
  ⟨fun feed => absurd (legal.of_mem feed) (by decide),
    fun feed => absurd (legal.of_mem feed) (by decide)⟩

end Http

end CloudMonitoring

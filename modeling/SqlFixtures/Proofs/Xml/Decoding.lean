import SqlFixtures.Xml.Declaration
import Mathlib.Tactic

/-!
# Documents in UTF-8

A text that opens an element, written in UTF-8 without a byte order mark, is decoded as it is: its
first two bytes are those of two characters, so that the code units are bytes, and there is no
declaration that could say otherwise.  Line ends are rewritten later, and a text without carriage
returns has none to rewrite.
-/

namespace SqlFixtures.Xml

/-! ## Bytes of a text -/

theorem toList_loop_eq (bytes : ByteArray) (i : Nat) (read : List UInt8) :
    ByteArray.toList.loop bytes i read = read.reverse ++ bytes.data.toList.drop i := by
  have hsize : bytes.size = bytes.data.toList.length := rfl
  fun_induction ByteArray.toList.loop bytes i read with
  | case1 i read hlt ih =>
      have hget : bytes.get! i = bytes.data.toList[i] := by
        change bytes.data[i]! = _
        rw [getElem!_pos bytes.data i hlt, Array.getElem_toList]
      rw [ih, hget, List.reverse_cons, List.append_assoc, List.singleton_append,
        List.getElem_cons_drop]
  | case2 i read hge =>
      rw [List.drop_eq_nil_of_le (by omega), List.append_nil]

theorem toList_eq_toList_data (bytes : ByteArray) : bytes.toList = bytes.data.toList := by
  rw [ByteArray.toList, toList_loop_eq]
  rfl

def utf8Bytes (text : List Char) : List UInt8 := (String.ofList text).toUTF8.toList

theorem utf8Bytes_eq_flatMap (text : List Char) :
    utf8Bytes text = text.flatMap String.utf8EncodeChar := by
  rw [utf8Bytes, toList_eq_toList_data, String.toUTF8_eq_toByteArray, String.toByteArray_ofList,
    List.utf8Encode, List.data_toByteArray]

theorem fromUTF8?_utf8Bytes (text : List Char) :
    String.fromUTF8? ⟨(utf8Bytes text).toArray⟩ = some (String.ofList text) := by
  have hbytes : (⟨(utf8Bytes text).toArray⟩ : ByteArray) = (String.ofList text).toUTF8 := by
    rw [utf8Bytes, toList_eq_toList_data]
  rw [hbytes, String.toUTF8_eq_toByteArray, String.fromUTF8?,
    dif_pos (String.ofList text).isValidUTF8]
  rfl

theorem decode_utf8Bytes (text : List Char) :
    Encoding.utf8.decode (utf8Bytes text) = some text := by
  rw [Encoding.decode, fromUTF8?_utf8Bytes, Option.map_some, String.toList_ofList]

/-! ## The script of a text -/

theorem utf8Bytes_cons_ascii {c : Char} (hsize : c.utf8Size = 1) (rest : List Char) :
    utf8Bytes (c :: rest) = c.val.toUInt8 :: utf8Bytes rest := by
  simp only [utf8Bytes_eq_flatMap, List.flatMap_cons, String.utf8EncodeChar_eq_singleton hsize]
  rfl

theorem ofNat_toUInt8_of_utf8Size {c : Char} (hsize : c.utf8Size = 1) :
    Char.ofNat c.val.toUInt8.toNat = c := by
  have hle : c.toNat ≤ 127 := UInt32.le_iff_toNat_le.mp (Char.utf8Size_eq_one_iff.mp hsize)
  have hnat : c.val.toUInt8.toNat = c.toNat := by
    rw [UInt32.toNat_toUInt8]
    exact Nat.mod_eq_of_lt (Nat.lt_of_le_of_lt hle (by decide))
  rw [hnat, Char.ofNat_toNat]

theorem detect_of_opening {b : UInt8} (hb : b ≠ 0) (rest : List UInt8) :
    Width.detect (0x3C :: b :: rest) = (.byte, 0x3C :: b :: rest) := by
  simp [Width.detect, hb]

theorem read_of_opening {c : Char} (hc : c ≠ '?') (rest : List Char) :
    Declaration.read ('<' :: c :: rest) = some (.absent, 0) := by
  unfold Declaration.read
  split
  next heq => exact absurd (List.cons.inj (List.cons.inj heq).2).1 hc
  next => rfl

theorem unifyLines_eq_self {text : List Char} (hreturns : '\r' ∉ text) :
    unifyLines text = text := by
  induction text with
  | nil => rfl
  | cons c rest ih =>
      have hc : c ≠ '\r' := (List.ne_of_not_mem_cons hreturns).symm
      have hrest : '\r' ∉ rest := List.not_mem_of_not_mem_cons hreturns
      rw [unifyLines, ih hrest]
      · intro _ heq
        exact absurd heq hc
      · intro heq
        exact absurd heq hc

/-- A text of legal characters that opens an element is the script of its own bytes. -/
theorem ofBytes_utf8Bytes {c : Char} {rest : List Char} (hsize : c.utf8Size = 1) (hc : c ≠ '?')
    (hlegal : ('<' :: c :: rest).all isLegal) :
    Script.ofBytes false (utf8Bytes ('<' :: c :: rest)) =
      .ok ⟨false, .utf8, '<' :: c :: rest⟩ := by
  have hbytes : utf8Bytes ('<' :: c :: rest) = 0x3C :: c.val.toUInt8 :: utf8Bytes rest := by
    rw [utf8Bytes_cons_ascii (by decide), utf8Bytes_cons_ascii hsize]
    rfl
  have hnonzero : c.val.toUInt8 ≠ 0 := by
    intro hzero
    have hnul : c = Char.ofNat 0 := by
      rw [← ofNat_toUInt8_of_utf8Size hsize, hzero]
      rfl
    have hlegal : isLegal c := List.all_eq_true.mp hlegal c (by simp)
    rw [hnul] at hlegal
    exact absurd hlegal (by decide)
  have hdetect : Width.detect (utf8Bytes ('<' :: c :: rest)) =
      (.byte, utf8Bytes ('<' :: c :: rest)) := by
    rw [hbytes, detect_of_opening hnonzero]
  have hread : Declaration.read (Width.byte.view (utf8Bytes ('<' :: c :: rest))) =
      some (.absent, 0) := by
    rw [hbytes, Width.view, List.map_cons, List.map_cons, ofNat_toUInt8_of_utf8Size hsize]
    exact read_of_opening hc _
  simp only [Script.ofBytes, hdetect, hread, Bool.false_eq_true, if_false, Declaration.absent,
    Encoding.choose, Encoding.ofWidth, Nat.zero_mul, List.drop_zero]
  simp only [bind, Except.bind, decode_utf8Bytes, hlegal, if_true]

end SqlFixtures.Xml

import ReleaseGate.Text.Utf8

/-! The bytes of a text. Texts compare by their bytes as they do by their characters, and the bytes
of one begin with those of another when its characters do. A text is read back from its bytes. -/

namespace ReleaseGate.Text

open Std (LawfulEqOrd OrientedOrd)

/-- The bytes of a text. -/
def bytes (cs : List Char) : List UInt8 := cs.flatMap String.utf8EncodeChar

theorem bytes_append (first rest : List Char) : bytes (first ++ rest) = bytes first ++ bytes rest :=
  List.flatMap_append

theorem bytes_cons (c : Char) (cs : List Char) :
    bytes (c :: cs) = String.utf8EncodeChar c ++ bytes cs :=
  List.flatMap_cons

theorem toList_toUTF8 (text : String) : text.toUTF8.data.toList = bytes text.toList := by
  rw [String.toUTF8_eq_toByteArray, ← String.utf8Encode_toList, List.utf8Encode,
    List.data_toByteArray]
  rfl

theorem exists_utf8EncodeChar (c : Char) :
    ∃ byte rest, String.utf8EncodeChar c = byte :: rest :=
  List.exists_cons_of_ne_nil String.utf8EncodeChar_ne_nil

/-- The bytes of a text are those of its first characters and then some only if the text is these
characters and then some. -/
theorem bytes_prefix_iff {front cs : List Char} : bytes front <+: bytes cs ↔ front <+: cs := by
  constructor
  · rintro ⟨rest, same⟩
    have encoded : front.utf8Encode ++ rest.toByteArray = cs.utf8Encode := by
      unfold List.utf8Encode
      rw [← List.toByteArray_append]
      exact congrArg List.toByteArray same
    exact List.isPrefix_of_utf8Encode_append_eq_utf8Encode _ encoded
  · rintro ⟨rest, rfl⟩
    exact ⟨bytes rest, (bytes_append front rest).symm⟩

theorem compare_append_left (front as bs : List UInt8) :
    compare (front ++ as) (front ++ bs) = compare as bs := by
  induction front with
  | nil => rfl
  | cons byte front ih =>
    have self : compare byte byte = .eq := LawfulEqOrd.compare_eq_iff_eq.mpr rfl
    rw [List.cons_append, List.cons_append, List.compare_cons_cons, ih, self]
    rfl

/-- The smaller character has the smaller byte where its bytes first differ from the other's. -/
theorem compare_utf8EncodeChar_of_lt {c d : Char} (h : c < d) (as bs : List UInt8) :
    compare (String.utf8EncodeChar c ++ as) (String.utf8EncodeChar d ++ bs) = .lt := by
  have smaller : c.val.toNat < d.val.toNat := h
  have valid : d.val.toNat < 0x110000 := by
    have range := d.valid
    rw [UInt32.isValidChar, Nat.isValidChar] at range
    omega
  -- The bytes are digits to the base 64.
  have third (n : Nat) : n / 4096 = n / 64 / 64 := by omega
  have fourth (n : Nat) : n / 262144 = n / 64 / 64 / 64 := by omega
  fun_cases String.utf8EncodeChar c <;> fun_cases String.utf8EncodeChar d <;>
    simp only [List.cons_append, List.nil_append, List.compare_cons_cons, Ordering.then_eq_lt,
      Std.compare_eq_lt, LawfulEqOrd.compare_eq_iff_eq, UInt8.lt_iff_toNat_lt, ← UInt8.toNat_inj,
      UInt8.toNat_ofNat', third, fourth] <;>
    omega

theorem compare_char_of_lt {c d : Char} (h : c < d) : compare c d = .lt := if_pos h

theorem compare_bytes (as bs : List Char) : compare (bytes as) (bytes bs) = compare as bs := by
  induction as generalizing bs with
  | nil =>
    cases bs with
    | nil => rfl
    | cons d bs =>
      obtain ⟨byte, rest, encoded⟩ := exists_utf8EncodeChar d
      rw [bytes_cons, encoded]
      rfl
  | cons c as ih =>
    cases bs with
    | nil =>
      obtain ⟨byte, rest, encoded⟩ := exists_utf8EncodeChar c
      rw [bytes_cons, encoded]
      rfl
    | cons d bs =>
      rw [bytes_cons, bytes_cons, List.compare_cons_cons]
      obtain less | same | more := Nat.lt_trichotomy c.toNat d.toNat
      · rw [compare_utf8EncodeChar_of_lt less, compare_char_of_lt less]
        rfl
      · obtain rfl := Char.toNat_inj.mp same
        have self : compare c c = .eq := LawfulEqOrd.compare_eq_iff_eq.mpr rfl
        rw [compare_append_left, ih, self]
        rfl
      · rw [OrientedOrd.eq_swap (a := c), OrientedOrd.eq_swap (b := String.utf8EncodeChar d ++ _),
          compare_utf8EncodeChar_of_lt more, compare_char_of_lt more]
        rfl

/-- Two texts by their bytes. -/
def byteOrder (a b : String) : Ordering := compare (bytes a.toList) (bytes b.toList)

theorem byteOrder_eq (a b : String) : byteOrder a b = compare a.toList b.toList :=
  compare_bytes a.toList b.toList

theorem byteOrder_self (text : String) : byteOrder text text = .eq := by
  rw [byteOrder_eq, LawfulEqOrd.compare_eq_iff_eq.mpr rfl]

theorem compare_of_lex {cs ds : List Char} (h : cs.Lex (· < ·) ds) : compare cs ds = .lt := by
  induction h with
  | nil => rfl
  | rel less =>
    rw [List.compare_cons_cons, compare_char_of_lt less]
    rfl
  | cons _ ih =>
    rw [List.compare_cons_cons, LawfulEqOrd.compare_eq_iff_eq.mpr rfl]
    exact ih

/-- The order of texts is that of their bytes. -/
theorem byteOrder_of_lt {a b : String} (h : a < b) : byteOrder a b = .lt := by
  rw [byteOrder_eq]
  exact compare_of_lex h

theorem byteOrder_isLE_of_le {a b : String} (h : a ≤ b) : (byteOrder a b).isLE = true := by
  by_cases same : a = b
  · subst same
    rw [byteOrder_self]
    rfl
  · have less : a < b := String.not_le.mp fun above => same (String.le_antisymm h above)
    rw [byteOrder_of_lt less]
    rfl

namespace Utf8

theorem toNat_ofNat_of_lt {n : Nat} (h : n < 256) : (UInt8.ofNat n).toNat = n := by
  rw [UInt8.toNat_ofNat', Nat.mod_eq_of_lt h]

theorem readFrom_first {n : Nat} {read : List (Option Char)} {begun : Option Begun} (byte : n < 256)
    (h : first n = (read, begun)) (bytes : List UInt8) :
    readFrom none (UInt8.ofNat n :: bytes) = read ++ readFrom begun bytes := by
  rw [readFrom, toNat_ofNat_of_lt byte, h]

section Next

variable {bits least most : Nat} (n : Nat) (above : least ≤ n % 64 + 128)
  (under : n % 64 + 128 ≤ most) (bytes : List UInt8)

include above under

theorem readFrom_more (later : Nat) :
    readFrom (some ⟨bits, least, most, later + 1⟩) (UInt8.ofNat (n % 64 + 128) :: bytes) =
      readFrom (some { bits := 64 * bits + n % 64, later }) bytes := by
  rw [readFrom, toNat_ofNat_of_lt (by omega), next, if_pos ⟨above, under⟩, Nat.add_sub_cancel]
  rfl

theorem readFrom_last :
    readFrom (some ⟨bits, least, most, 0⟩) (UInt8.ofNat (n % 64 + 128) :: bytes) =
      some (Char.ofNat (64 * bits + n % 64)) :: readFrom none bytes := by
  rw [readFrom, toNat_ofNat_of_lt (by omega), next, if_pos ⟨above, under⟩, Nat.add_sub_cancel]
  rfl

end Next

theorem readFrom_utf8EncodeChar (c : Char) (bytes : List UInt8) :
    readFrom none (String.utf8EncodeChar c ++ bytes) = some c :: readFrom none bytes := by
  have valid : c.val.toNat < 0xD800 ∨ 0xDFFF < c.val.toNat ∧ c.val.toNat < 0x110000 := c.valid
  have same : Char.ofNat c.val.toNat = c := Char.ofNat_toNat c
  -- The bytes behind the first are the later digits of the character to the base 64.
  fun_cases String.utf8EncodeChar c with
  | case1 v small =>
    have lead : first v = ([some c], none) := by
      rw [first, if_pos (by omega), same]
    exact readFrom_first (by omega) lead bytes
  | case2 v large small =>
    have lead : first (v / 64 % 32 + 192) = ([], some { bits := v / 64, later := 0 }) := by
      have bits : v / 64 % 32 + 192 - 192 = v / 64 := by omega
      rw [first, if_neg (by omega), if_neg (by omega), if_pos (by omega), bits]
    have whole : 64 * (v / 64) + v % 64 = v := by omega
    simp only [List.cons_append, List.nil_append]
    rw [readFrom_first (by omega) lead, List.nil_append, readFrom_last v (by omega) (by omega),
      whole, same]
  | case3 v _ large small =>
    let least := if v / 4096 = 0 then 0xA0 else 0x80
    let most := if v / 4096 = 13 then 0x9F else 0xBF
    have lead : first (v / 4096 % 16 + 224) = ([], some ⟨v / 4096, least, most, 1⟩) := by
      grind [first]
    have whole : 64 * (64 * (v / 4096) + v / 64 % 64) + v % 64 = v := by omega
    simp only [List.cons_append, List.nil_append]
    rw [readFrom_first (by omega) lead, List.nil_append,
      readFrom_more (v / 64) (by grind) (by grind), readFrom_last v (by omega) (by omega), whole,
      same]
  | case4 v _ _ large =>
    let least := if v / 262144 = 0 then 0x90 else 0x80
    let most := if v / 262144 = 4 then 0x8F else 0xBF
    have lead : first (v / 262144 % 8 + 240) = ([], some ⟨v / 262144, least, most, 2⟩) := by
      grind [first]
    have whole : 64 * (64 * (64 * (v / 262144) + v / 4096 % 64) + v / 64 % 64) + v % 64 = v := by
      omega
    simp only [List.cons_append, List.nil_append]
    rw [readFrom_first (by omega) lead, List.nil_append,
      readFrom_more (v / 4096) (by grind) (by grind), readFrom_more (v / 64) (by omega) (by omega),
      readFrom_last v (by omega) (by omega), whole, same]

/-- A text is read back from its bytes. -/
theorem read_bytes (cs : List Char) : read (bytes cs) = cs.map some := by
  unfold read
  induction cs with
  | nil => rfl
  | cons c cs ih => rw [bytes_cons, readFrom_utf8EncodeChar, ih, List.map_cons]

end Utf8

end ReleaseGate.Text

import ReleaseGate.Text.Percent

/-! Percent-encoded text is read back, and holds none of the characters that part a url. -/

namespace ReleaseGate.Text.Percent

theorem hexValue?_hexDigit : ∀ n < 16, hexValue? (hexDigit n) = some n := by decide

theorem plain_ne_percent : ∀ n < 256, isPlain (UInt8.ofNat n) = true → Char.ofNat n ≠ '%' := by
  decide +kernel

theorem utf8EncodeChar_plain : ∀ n < 256, isPlain (UInt8.ofNat n) = true →
    String.utf8EncodeChar (Char.ofNat n) = [UInt8.ofNat n] := by
  decide +kernel

/-- A character that parts the pieces of a url. -/
def separators : List Char := ['/', '?', '#', '&', '=']

theorem encodeByte_plain : ∀ n < 256,
    (encodeByte (UInt8.ofNat n)).all (fun c => !separators.contains c) = true := by
  decide +kernel

theorem decodeBytes_plain {c : Char} (rest : List Char) (h : c ≠ '%') :
    decodeBytes (c :: rest) = String.utf8EncodeChar c ++ decodeBytes rest := by
  rw [decodeBytes.eq_def]
  split
  · contradiction
  · rename_i same
    cases same
    exact absurd rfl h
  · rename_i same
    cases same
    rfl

theorem decodeBytes_encodeByte (b : UInt8) (rest : List Char) :
    decodeBytes (encodeByte b ++ rest) = b :: decodeBytes rest := by
  have small : b.toNat < 256 := b.toNat_lt
  have itself : UInt8.ofNat b.toNat = b := UInt8.ofNat_toNat
  unfold encodeByte
  split
  · rename_i plain
    rw [← itself] at plain
    rw [List.singleton_append, decodeBytes_plain rest (plain_ne_percent _ small plain),
      utf8EncodeChar_plain _ small plain, itself]
    rfl
  · have high : b.toNat / 16 < 16 := by omega
    have low : b.toNat % 16 < 16 := by omega
    simp only [escaped, List.cons_append, List.nil_append, decodeBytes, hexValue?_hexDigit _ high,
      hexValue?_hexDigit _ low, Nat.div_add_mod, itself]

theorem decodeBytes_encodeBytes (bytes : List UInt8) (rest : List Char) :
    decodeBytes (bytes.flatMap encodeByte ++ rest) = bytes ++ decodeBytes rest := by
  induction bytes with
  | nil => rfl
  | cons b bytes ih =>
    rw [List.flatMap_cons, List.append_assoc, decodeBytes_encodeByte, ih, List.cons_append]

theorem toList_encode (s : String) :
    (encode s).toList = (s.toList.flatMap String.utf8EncodeChar).flatMap encodeByte := by
  rw [encode, String.toList_ofList, List.flatMap_assoc]

/-- What was encoded is read back. -/
theorem decode?_encode (s : String) : decode? (encode s) = some s := by
  have bytes : decodeBytes (encode s).toList = s.toList.flatMap String.utf8EncodeChar := by
    have read := decodeBytes_encodeBytes (s.toList.flatMap String.utf8EncodeChar) []
    rw [List.append_nil] at read
    rw [toList_encode, read, decodeBytes, List.append_nil]
  have form : (⟨(s.toList.flatMap String.utf8EncodeChar).toArray⟩ : ByteArray) = s.toByteArray := by
    rw [← String.utf8Encode_toList, List.utf8Encode, ← List.data_toByteArray]
  rw [decode?, bytes, form, String.fromUTF8?, dif_pos s.isValidUTF8]
  rfl

theorem encode_injective {s t : String} (h : encode s = encode t) : s = t := by
  have read := decode?_encode s
  rw [h, decode?_encode] at read
  exact (Option.some.inj read).symm

theorem not_separator_of_mem_encode {s : String} {c : Char} (h : c ∈ (encode s).toList) :
    c ∉ separators := by
  rw [toList_encode] at h
  obtain ⟨b, _, hc⟩ := List.mem_flatMap.mp h
  have itself : UInt8.ofNat b.toNat = b := UInt8.ofNat_toNat
  rw [← itself] at hc
  have plain := List.all_eq_true.mp (encodeByte_plain _ b.toNat_lt) c hc
  simpa using plain

theorem encode_append (s t : String) : encode (s ++ t) = encode s ++ encode t := by
  rw [← String.toList_inj, String.toList_append, toList_encode, toList_encode, toList_encode,
    String.toList_append, List.flatMap_append, List.flatMap_append]

/-- The digits and letters of ASCII and four marks stand for themselves. -/
def Unreserved (c : Char) : Prop :=
  ('0' ≤ c ∧ c ≤ '9') ∨ ('A' ≤ c ∧ c ≤ 'Z') ∨ ('a' ≤ c ∧ c ≤ 'z') ∨
    c = '-' ∨ c = '.' ∨ c = '_' ∨ c = '~'

instance (c : Char) : Decidable (Unreserved c) := inferInstanceAs (Decidable (_ ∨ _))

/-- What a character becomes. -/
def encodeChar (c : Char) : List Char := (String.utf8EncodeChar c).flatMap encodeByte

theorem encodeChar_ascii : ∀ n < 128,
    if Unreserved (Char.ofNat n) then encodeChar (Char.ofNat n) = [Char.ofNat n]
    else 1 < (encodeChar (Char.ofNat n)).length := by
  decide +kernel

theorem toNat_lt_of_unreserved {c : Char} (h : Unreserved c) : c.toNat < 128 := by
  have below {last : Char} (ascii : last.toNat < 128) (le : c ≤ last) : c.toNat < 128 := by
    rw [Char.le_def, UInt32.le_iff_toNat_le] at le
    exact Nat.lt_of_le_of_lt le ascii
  rcases h with ⟨-, digit⟩ | ⟨-, capital⟩ | ⟨-, small⟩ | rfl | rfl | rfl | rfl
  · exact below (by decide) digit
  · exact below (by decide) capital
  · exact below (by decide) small
  all_goals decide

theorem encodeChar_unreserved {c : Char} (h : Unreserved c) : encodeChar c = [c] := by
  have ascii := encodeChar_ascii _ (toNat_lt_of_unreserved h)
  rwa [Char.ofNat_toNat, if_pos h] at ascii

theorem length_le_encodeBytes (bytes : List UInt8) :
    bytes.length ≤ (bytes.flatMap encodeByte).length := by
  induction bytes with
  | nil => simp
  | cons b bytes ih =>
    have spelled : 0 < (encodeByte b).length := by
      unfold encodeByte escaped
      split <;> simp
    rw [List.flatMap_cons, List.length_append, List.length_cons]
    omega

theorem one_lt_length_encodeChar {c : Char} (h : ¬ Unreserved c) : 1 < (encodeChar c).length := by
  by_cases small : c.toNat < 128
  · have ascii := encodeChar_ascii _ small
    rwa [Char.ofNat_toNat, if_neg h] at ascii
  · have bytes := length_le_encodeBytes (String.utf8EncodeChar c)
    have wide : 1 < c.utf8Size := by
      unfold Char.utf8Size
      simp only [UInt32.le_iff_toNat_le]
      split
      · rename_i narrow
        exact absurd (Nat.lt_succ_of_le narrow) small
      · split
        · decide
        · split <;> decide
    rw [String.length_utf8EncodeChar] at bytes
    exact Nat.lt_of_lt_of_le wide bytes

theorem length_le_encodeChars (cs : List Char) : cs.length ≤ (cs.flatMap encodeChar).length := by
  induction cs with
  | nil => simp
  | cons c cs ih =>
    have spelled : 0 < (encodeChar c).length := by
      by_cases h : Unreserved c
      · simp [encodeChar_unreserved h]
      · exact Nat.lt_trans Nat.zero_lt_one (one_lt_length_encodeChar h)
    rw [List.flatMap_cons, List.length_append, List.length_cons]
    omega

/-- Only what is made of unreserved characters is left as it is. -/
theorem encode_eq_self_iff {s : String} : encode s = s ↔ ∀ c ∈ s.toList, Unreserved c := by
  rw [← String.toList_inj, encode, String.toList_ofList]
  change s.toList.flatMap encodeChar = s.toList ↔ _
  induction s.toList with
  | nil => simp
  | cons c cs ih =>
    rw [List.flatMap_cons, List.forall_mem_cons]
    by_cases h : Unreserved c
    · simp [encodeChar_unreserved h, h, ih]
    · have longer := one_lt_length_encodeChar h
      have later := length_le_encodeChars cs
      simp only [h, false_and, iff_false]
      intro same
      have lengths := congrArg List.length same
      rw [List.length_append, List.length_cons] at lengths
      omega

end ReleaseGate.Text.Percent

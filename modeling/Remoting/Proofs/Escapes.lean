import Remoting.Target.Percent
import Remoting.Proofs.Addresses

/-!
# Percent encoding that is undone

`Percent.decode` yields the bytes that a text stands for, whether it has percent encoding or not.
What is encoded stands for the same bytes as before, and contains no character that the text did not
contain, escapes apart. A `%` is never encoded, so the texts themselves need not be told apart by
their encoded forms.
-/

namespace Remoting.Percent

/-! ## Bytes -/

theorem toList_loop (bytes : ByteArray) (i : Nat) (done : List UInt8) :
    ByteArray.toList.loop bytes i done = done.reverse ++ bytes.data.toList.drop i := by
  induction hleft : bytes.size - i generalizing i done with
  | zero =>
      have hle : bytes.data.toList.length ≤ i := Nat.sub_eq_zero_iff_le.1 hleft
      rw [ByteArray.toList.loop, if_neg (by omega), List.drop_eq_nil_of_le hle, List.append_nil]
  | succ left ih =>
      have hlt : i < bytes.data.toList.length := by
        have : bytes.size = bytes.data.toList.length := rfl
        omega
      have hget : bytes.get! i = bytes.data.toList[i] := getElem!_pos bytes.data i hlt
      rw [ByteArray.toList.loop, if_pos (by omega), ih _ _ (by omega),
        List.drop_eq_getElem_cons hlt, hget, List.reverse_cons, List.append_assoc]
      rfl

theorem toList_toUTF8 (c : Char) :
    (String.ofList [c]).toUTF8.toList = String.utf8EncodeChar c := by
  have hbytes : (String.ofList [c]).toUTF8 = (String.utf8EncodeChar c).toByteArray := by
    simp [List.utf8Encode_singleton]
  rw [hbytes, ByteArray.toList, toList_loop]
  simp

/-! ## Decoding -/

/-- The bytes that a text stands for. A `%` that is not followed by two hexadecimal digits stands
for itself. -/
def decode : List Char → List UInt8
  | [] => []
  | '%' :: high :: low :: text =>
    match Ipv6.hexValue? high, Ipv6.hexValue? low with
    | some x, some y => UInt8.ofNat (x * 16 + y) :: decode text
    | _, _ => String.utf8EncodeChar '%' ++ decode (high :: low :: text)
  | c :: text => String.utf8EncodeChar c ++ decode text

theorem decode_cons {c : Char} (hc : c ≠ '%') (text : List Char) :
    decode (c :: text) = String.utf8EncodeChar c ++ decode text := by
  rw [decode]
  rintro _ _ _ rfl
  exact absurd rfl hc

theorem decode_escape {high low : Char} {x y : Nat} (hhigh : Ipv6.hexValue? high = some x)
    (hlow : Ipv6.hexValue? low = some y) (text : List Char) :
    decode ('%' :: high :: low :: text) = UInt8.ofNat (x * 16 + y) :: decode text := by
  rw [decode, hhigh, hlow]

/-- Whether a text starts with two hexadecimal digits. -/
def startsWithByte : List Char → Bool
  | high :: low :: _ => (Ipv6.hexValue? high).isSome && (Ipv6.hexValue? low).isSome
  | _ => false

/-- A `%` that starts no escape. -/
theorem decode_percent {text : List Char} (h : startsWithByte text = false) :
    decode ('%' :: text) = String.utf8EncodeChar '%' ++ decode text := by
  match text with
  | [] => simp [decode]
  | [c] =>
      rw [decode]
      simp
  | high :: low :: rest =>
      rw [decode]
      split
      next hhigh hlow => simp [startsWithByte, hhigh, hlow] at h
      next => rfl

/-! ## Encoding -/

theorem hexValue?_hexDigit {n : Nat} (h : n < 16) : Ipv6.hexValue? (hexDigit n) = some n := by
  revert n
  decide

theorem decode_encodeByte (b : UInt8) (text : List Char) :
    decode (encodeByte b ++ text) = b :: decode text := by
  have hlt : b.toNat < 256 := b.toNat_lt
  rw [encodeByte, List.cons_append, List.cons_append, List.cons_append, List.nil_append,
    decode_escape (hexValue?_hexDigit (by omega)) (hexValue?_hexDigit (by omega)),
    show b.toNat / 16 * 16 + b.toNat % 16 = b.toNat by omega, UInt8.ofNat_toNat]

theorem decode_encodeBytes (bytes : List UInt8) (text : List Char) :
    decode (bytes.flatMap encodeByte ++ text) = bytes ++ decode text := by
  induction bytes with
  | nil => rfl
  | cons b bytes ih =>
      rw [List.flatMap_cons, List.append_assoc, decode_encodeByte, ih, List.cons_append]

/-- A character is kept or escaped. No hexadecimal digit is escaped, and no `%`. -/
theorem encodeChar_cases (c : Char) : encodeChar [] c = [c] ∨
    encodeChar [] c = (String.utf8EncodeChar c).flatMap encodeByte ∧
      Ipv6.hexValue? c = none ∧ c ≠ '%' := by
  unfold encodeChar
  rw [toList_toUTF8]
  cases hcontrol : isControl c with
  | false => exact .inl (by simp)
  | true =>
      refine .inr ⟨by simp, ?_, ?_⟩
      · cases hvalue : Ipv6.hexValue? c with
        | none => rfl
        | some digit =>
            have hbounds := Ipv6.hexValue?_bounds hvalue
            simp only [isControl, Bool.or_eq_true, decide_eq_true_eq] at hcontrol
            omega
      · rintro rfl
        cases hcontrol

theorem encode_cons (c : Char) (text : List Char) :
    encode [] (c :: text) = encodeChar [] c ++ encode [] text :=
  List.flatMap_cons

/-- An escape starts with a `%`. -/
theorem escape_eq (c : Char) :
    ∃ rest, (String.utf8EncodeChar c).flatMap encodeByte = '%' :: rest := by
  obtain ⟨b, bytes, hbytes⟩ := List.exists_cons_of_ne_nil (String.utf8EncodeChar_ne_nil (c := c))
  rw [hbytes]
  exact ⟨_, rfl⟩

theorem encode_ne_nil {text : List Char} (h : text ≠ []) : encode [] text ≠ [] := by
  obtain ⟨c, text, rfl⟩ := List.exists_cons_of_ne_nil h
  rw [encode_cons]
  rcases encodeChar_cases c with hkept | ⟨hescaped, -⟩
  · simp [hkept]
  · obtain ⟨rest, hrest⟩ := escape_eq c
    simp [hescaped, hrest]

/-- No escape comes about or is lost where characters are escaped. -/
theorem startsWithByte_encode (text : List Char) :
    startsWithByte (encode [] text) = startsWithByte text := by
  have hpercent : Ipv6.hexValue? '%' = none := by decide
  match text with
  | [] => rfl
  | high :: rest =>
      rw [encode_cons]
      rcases encodeChar_cases high with hhigh | ⟨hhigh, hnone, -⟩
      · rw [hhigh, List.singleton_append]
        match rest with
        | [] => rfl
        | low :: rest =>
            rw [encode_cons]
            rcases encodeChar_cases low with hlow | ⟨hlow, hnone, -⟩
            · rw [hlow, List.singleton_append]
              rfl
            · obtain ⟨tail, htail⟩ := escape_eq low
              rw [hlow, htail, List.cons_append]
              simp [startsWithByte, hpercent, hnone]
      · obtain ⟨tail, htail⟩ := escape_eq high
        rw [hhigh, htail, List.cons_append]
        have hleft : ∀ text, startsWithByte ('%' :: text) = false := fun text => by
          cases text <;> simp [startsWithByte, hpercent]
        have hright : startsWithByte (high :: rest) = false := by
          cases rest <;> simp [startsWithByte, hnone]
        rw [hleft, hright]

/-- An encoded text stands for the bytes that the text stands for. -/
theorem decode_encode (text : List Char) : decode (encode [] text) = decode text := by
  induction hlength : text.length using Nat.strongRecOn generalizing text with
  | ind length ih =>
      subst hlength
      match text with
      | [] => rfl
      | c :: rest =>
          have hrest := ih rest.length (by simp) rest rfl
          rw [encode_cons]
          rcases encodeChar_cases c with hkept | ⟨hescaped, -, hc⟩
          · rw [hkept, List.singleton_append]
            by_cases hc : c = '%'
            · subst hc
              cases hbyte : startsWithByte rest with
              | false =>
                  rw [decode_percent hbyte,
                    decode_percent ((startsWithByte_encode rest).trans hbyte), hrest]
              | true =>
                  -- an escape of the text itself
                  match rest with
                  | high :: low :: rest =>
                      simp only [startsWithByte, Bool.and_eq_true,
                        Option.isSome_iff_exists] at hbyte
                      obtain ⟨⟨x, hhigh⟩, y, hlow⟩ := hbyte
                      have hkeep : ∀ {c : Char} {digit : Nat}, Ipv6.hexValue? c = some digit →
                          encodeChar [] c = [c] := fun {c} {digit} hvalue =>
                        (encodeChar_cases c).resolve_right fun ⟨_, hnone, _⟩ => by
                          rw [hnone] at hvalue
                          cases hvalue
                      rw [encode_cons, encode_cons, hkeep hhigh, hkeep hlow, List.singleton_append,
                        List.singleton_append, decode_escape hhigh hlow, decode_escape hhigh hlow,
                        ih rest.length (by simp; omega) rest rfl]
            · rw [decode_cons hc, decode_cons hc, hrest]
          · rw [hescaped, decode_encodeBytes, decode_cons hc, hrest]

/-- What an encoded text contains. -/
theorem mem_encode {text : List Char} {c : Char} (h : c ∈ encode [] text) :
    c ∈ text ∨ c = '%' ∨ ∃ n < 16, c = hexDigit n := by
  obtain ⟨source, hsource, hc⟩ := List.mem_flatMap.1 h
  rcases encodeChar_cases source with hkept | ⟨hescaped, -⟩
  · rw [hkept, List.mem_singleton] at hc
    exact .inl (hc ▸ hsource)
  · rw [hescaped] at hc
    obtain ⟨b, -, hb⟩ := List.mem_flatMap.1 hc
    have hlt : b.toNat < 256 := b.toNat_lt
    simp only [encodeByte, List.mem_cons, List.not_mem_nil, or_false] at hb
    rcases hb with rfl | rfl | rfl
    · exact .inr (.inl rfl)
    · exact .inr (.inr ⟨b.toNat / 16, by omega, rfl⟩)
    · exact .inr (.inr ⟨b.toNat % 16, by omega, rfl⟩)

end Remoting.Percent

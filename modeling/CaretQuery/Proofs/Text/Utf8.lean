import CaretQuery.Text.Utf8
import Mathlib

/-! # UTF-8 that decodes

The bytes of a text are decoded to the text, and no other bytes are decoded to
it. The first byte of a character says how many there are, and their payload is
the code of the character. A text is refused for a lone surrogate only.
-/
namespace CaretQuery.Text.Utf8

theorem encodeFault?_eq_none_iff {s : String} : encodeFault? s = none ↔ isEncodable s = true := by
  rw [encodeFault?, isEncodable, List.all_eq_true, ← List.dropWhile_eq_nil_iff]
  cases hrest : s.toList.dropWhile fun c => !isLone c with
  | nil => simp
  | cons c rest =>
    have hne : (s.toList.dropWhile fun c => !isLone c) ≠ [] := by simp [hrest]
    have hlone : isLone c = true := by
      simpa [hrest] using List.head_dropWhile_not (fun c => !isLone c) hne
    simp [hlone]

theorem isTail_iff {b : UInt8} : isTail b = true ↔ 0x80 ≤ b.toNat ∧ b.toNat < 0xC0 := by
  simp [isTail]

theorem isTail_of_toNat {b : UInt8} {y : Nat} (hb : b.toNat = 0x80 + y) (hy : y < 0x40) :
    isTail b = true := by
  rw [isTail_iff]
  omega

/-! ## Characters of one to four bytes -/

section Lengths

variable {a b c d : UInt8} {w x y z : Nat} (position : Nat) (rest : List UInt8)

theorem decodeFrom_one (ha : a.toNat = w) (hw : w < 0x80) :
    decodeFrom position (a :: rest) = consChar w (decodeFrom (position + 1) rest) := by
  rw [decodeFrom.eq_def]
  simp [ha, hw]

theorem decodeFrom_two (ha : a.toNat = 0xC0 + x) (hb : b.toNat = 0x80 + y) (hlow : 2 ≤ x)
    (hx : x < 0x20) (hy : y < 0x40) :
    decodeFrom position (a :: b :: rest) =
      consChar (x * 0x40 + y) (decodeFrom (position + 2) rest) := by
  have hpayload : payload (a.toNat % 0x20) [b] = x * 0x40 + y := by
    simp only [payload, List.foldl_cons, List.foldl_nil, ha, hb]
    omega
  rw [decodeFrom.eq_def]
  simp only [isTail_of_toNat hb hy, hpayload]
  simp [ha, show ¬ 0xC0 + x < 0x80 by omega, show ¬ (0xC0 + x < 0xC2 ∨ 0xF5 ≤ 0xC0 + x) by omega,
    show 0xC0 + x < 0xE0 by omega]

/-- The second byte of three is restricted after the first byte `0xE0` and after `0xED`. -/
theorem decodeFrom_three (ha : a.toNat = 0xE0 + x) (hb : b.toNat = 0x80 + y)
    (hc : c.toNat = 0x80 + z) (hx : x < 0x10) (hy : y < 0x40) (hz : z < 0x40)
    (hlong : x = 0 → 0x20 ≤ y) (hsurrogate : x = 0xD → y < 0x20) :
    decodeFrom position (a :: b :: c :: rest) =
      consChar ((x * 0x40 + y) * 0x40 + z) (decodeFrom (position + 3) rest) := by
  have hpayload : payload (a.toNat % 0x10) [b, c] = (x * 0x40 + y) * 0x40 + z := by
    simp only [payload, List.foldl_cons, List.foldl_nil, ha, hb, hc]
    omega
  have hsecond : isSecond a b = true := by
    simp only [isSecond, isTail_of_toNat hb hy, ha, hb, Bool.true_and]
    split_ifs <;> first | rfl | exact decide_eq_true (by omega)
  rw [decodeFrom.eq_def]
  simp only [isTail_of_toNat hc hz, hpayload, hsecond]
  simp [ha, show ¬ 0xE0 + x < 0x80 by omega, show ¬ (0xE0 + x < 0xC2 ∨ 0xF5 ≤ 0xE0 + x) by omega,
    show ¬ 0xE0 + x < 0xE0 by omega, show 0xE0 + x < 0xF0 by omega]

/-- The second byte of four is restricted after the first byte `0xF0` and after `0xF4`. -/
theorem decodeFrom_four (ha : a.toNat = 0xF0 + w) (hb : b.toNat = 0x80 + x)
    (hc : c.toNat = 0x80 + y) (hd : d.toNat = 0x80 + z) (hw : w < 5) (hx : x < 0x40)
    (hy : y < 0x40) (hz : z < 0x40) (hlong : w = 0 → 0x10 ≤ x) (hlast : w = 4 → x < 0x10) :
    decodeFrom position (a :: b :: c :: d :: rest) =
      consChar (((w * 0x40 + x) * 0x40 + y) * 0x40 + z) (decodeFrom (position + 4) rest) := by
  have hpayload : payload (a.toNat % 8) [b, c, d] = ((w * 0x40 + x) * 0x40 + y) * 0x40 + z := by
    simp only [payload, List.foldl_cons, List.foldl_nil, ha, hb, hc, hd]
    omega
  have hsecond : isSecond a b = true := by
    simp only [isSecond, isTail_of_toNat hb hx, ha, hb, Bool.true_and]
    split_ifs <;> first | rfl | exact decide_eq_true (by omega)
  rw [decodeFrom.eq_def]
  simp only [isTail_of_toNat hc hy, isTail_of_toNat hd hz, hpayload, hsecond]
  simp [ha, show ¬ 0xF0 + w < 0x80 by omega, show ¬ (0xF0 + w < 0xC2 ∨ 0xF5 ≤ 0xF0 + w) by omega,
    show ¬ 0xF0 + w < 0xE0 by omega, show ¬ 0xF0 + w < 0xF0 by omega]

end Lengths

/-- A character is taken off its bytes. -/
theorem decodeFrom_encodeChar (position : Nat) (c : Char) (rest : List UInt8) :
    decodeFrom position (encodeChar c ++ rest) =
      consChar c.toNat (decodeFrom (position + (encodeChar c).length) rest) := by
  have hvalid : c.toNat < 0xD800 ∨ 0xDFFF < c.toNat ∧ c.toNat < 0x110000 := c.valid
  have hbyte (n : Nat) (hn : n < 256) : n.toUInt8.toNat = n := UInt8.toNat_ofNat_of_lt' hn
  rw [encodeChar]
  split
  next hone => exact decodeFrom_one _ _ (hbyte _ (by omega)) hone
  split
  next htwo =>
    have h := decodeFrom_two position rest (hbyte (0xC0 + c.toNat / 0x40) (by omega))
      (hbyte (0x80 + c.toNat % 0x40) (by omega)) (by omega) (by omega) (by omega)
    rwa [show c.toNat / 0x40 * 0x40 + c.toNat % 0x40 = c.toNat by omega] at h
  split
  next hthree =>
    have h := decodeFrom_three position rest (hbyte (0xE0 + c.toNat / 0x1000) (by omega))
      (hbyte (0x80 + c.toNat / 0x40 % 0x40) (by omega)) (hbyte (0x80 + c.toNat % 0x40) (by omega))
      (by omega) (by omega) (by omega) (by omega) (by omega)
    rwa [show (c.toNat / 0x1000 * 0x40 + c.toNat / 0x40 % 0x40) * 0x40 + c.toNat % 0x40 = c.toNat by
      omega] at h
  next hfour =>
    have h := decodeFrom_four position rest (hbyte (0xF0 + c.toNat / 0x40000) (by omega))
      (hbyte (0x80 + c.toNat / 0x1000 % 0x40) (by omega))
      (hbyte (0x80 + c.toNat / 0x40 % 0x40) (by omega)) (hbyte (0x80 + c.toNat % 0x40) (by omega))
      (by omega) (by omega) (by omega) (by omega) (by omega) (by omega)
    rwa [show ((c.toNat / 0x40000 * 0x40 + c.toNat / 0x1000 % 0x40) * 0x40 +
      c.toNat / 0x40 % 0x40) * 0x40 + c.toNat % 0x40 = c.toNat by omega] at h

theorem decodeFrom_encode (position : Nat) (cs : List Char) :
    decodeFrom position (cs.flatMap encodeChar) = .ok cs := by
  induction cs generalizing position with
  | nil => rfl
  | cons c cs ih =>
    rw [List.flatMap_cons, decodeFrom_encodeChar, ih, consChar, Char.ofNat_toNat]
    rfl

/-- The bytes of a text are decoded to the text. -/
theorem decode_encode (s : String) : decode (encode s) = .ok s.toList :=
  decodeFrom_encode 0 s.toList

/-! ## Bytes that decode -/

theorem isSecond_iff {a b : UInt8} :
    isSecond a b = true ↔ (0x80 ≤ b.toNat ∧ b.toNat < 0xC0) ∧
      (a.toNat = 0xE0 → 0xA0 ≤ b.toNat) ∧ (a.toNat = 0xED → b.toNat < 0xA0) ∧
      (a.toNat = 0xF0 → 0x90 ≤ b.toNat) ∧ (a.toNat = 0xF4 → b.toNat < 0x90) := by
  rw [isSecond, Bool.and_eq_true, isTail_iff]
  refine and_congr_right fun _ => ?_
  split_ifs <;> simp <;> omega

theorem toNat_ofNat_of_valid {n : Nat} (h : n.isValidChar) : (Char.ofNat n).toNat = n := by
  rw [Char.toNat_ofNat, if_pos h]

theorem toUInt8_eq {n : Nat} {b : UInt8} (h : n = b.toNat) : n.toUInt8 = b := by
  subst h
  exact UInt8.ofNat_toNat

section Payloads

variable {a b c d : UInt8}

theorem encodeChar_one (ha : a.toNat < 0x80) : encodeChar (Char.ofNat a.toNat) = [a] := by
  have hvalid : a.toNat.isValidChar := .inl (by omega)
  rw [encodeChar]
  simp only [toNat_ofNat_of_valid hvalid]
  rw [if_pos ha, toUInt8_eq rfl]

theorem encodeChar_two (hlow : 0xC2 ≤ a.toNat) (hhigh : a.toNat < 0xE0)
    (hb : isTail b = true) :
    encodeChar (Char.ofNat (payload (a.toNat % 0x20) [b])) = [a, b] := by
  rw [isTail_iff] at hb
  have hpayload : payload (a.toNat % 0x20) [b] =
      (a.toNat - 0xC0) * 0x40 + (b.toNat - 0x80) := by
    simp only [payload, List.foldl_cons, List.foldl_nil]
    omega
  have hvalid : ((a.toNat - 0xC0) * 0x40 + (b.toNat - 0x80)).isValidChar := .inl (by omega)
  rw [hpayload, encodeChar]
  simp only [toNat_ofNat_of_valid hvalid]
  rw [if_neg (by omega), if_pos (by omega), toUInt8_eq (b := a) (by omega),
    toUInt8_eq (b := b) (by omega)]

theorem encodeChar_three (hlow : 0xE0 ≤ a.toNat) (hhigh : a.toNat < 0xF0)
    (hb : isSecond a b = true) (hc : isTail c = true) :
    encodeChar (Char.ofNat (payload (a.toNat % 0x10) [b, c])) = [a, b, c] := by
  rw [isTail_iff] at hc
  rw [isSecond_iff] at hb
  have hpayload : payload (a.toNat % 0x10) [b, c] =
      ((a.toNat - 0xE0) * 0x40 + (b.toNat - 0x80)) * 0x40 + (c.toNat - 0x80) := by
    simp only [payload, List.foldl_cons, List.foldl_nil]
    omega
  have hvalid : (((a.toNat - 0xE0) * 0x40 + (b.toNat - 0x80)) * 0x40 +
      (c.toNat - 0x80)).isValidChar := by
    rw [Nat.isValidChar]
    omega
  rw [hpayload, encodeChar]
  simp only [toNat_ofNat_of_valid hvalid]
  rw [if_neg (by omega), if_neg (by omega), if_pos (by omega), toUInt8_eq (b := a) (by omega),
    toUInt8_eq (b := b) (by omega), toUInt8_eq (b := c) (by omega)]

theorem encodeChar_four (hlow : 0xF0 ≤ a.toNat) (hhigh : a.toNat < 0xF5)
    (hb : isSecond a b = true) (hc : isTail c = true) (hd : isTail d = true) :
    encodeChar (Char.ofNat (payload (a.toNat % 8) [b, c, d])) = [a, b, c, d] := by
  rw [isTail_iff] at hc hd
  rw [isSecond_iff] at hb
  have hpayload : payload (a.toNat % 8) [b, c, d] =
      (((a.toNat - 0xF0) * 0x40 + (b.toNat - 0x80)) * 0x40 + (c.toNat - 0x80)) * 0x40 +
        (d.toNat - 0x80) := by
    simp only [payload, List.foldl_cons, List.foldl_nil]
    omega
  have hvalid : ((((a.toNat - 0xF0) * 0x40 + (b.toNat - 0x80)) * 0x40 + (c.toNat - 0x80)) * 0x40 +
      (d.toNat - 0x80)).isValidChar := by
    rw [Nat.isValidChar]
    omega
  rw [hpayload, encodeChar]
  simp only [toNat_ofNat_of_valid hvalid]
  rw [if_neg (by omega), if_neg (by omega), if_neg (by omega), toUInt8_eq (b := a) (by omega),
    toUInt8_eq (b := b) (by omega), toUInt8_eq (b := c) (by omega), toUInt8_eq (b := d) (by omega)]

end Payloads

theorem consChar_eq_ok {n : Nat} {result : Except Fault (List Char)} {cs : List Char} :
    consChar n result = .ok cs ↔ ∃ rest, result = .ok rest ∧ Char.ofNat n :: rest = cs := by
  cases result <;> simp [consChar, Except.map]

theorem eq_flatMap_of_consChar {bytes rest : List UInt8} {n : Nat} {cs : List Char}
    {result : Except Fault (List Char)} (hchar : encodeChar (Char.ofNat n) = bytes)
    (hrest : ∀ tail, result = .ok tail → rest = tail.flatMap encodeChar)
    (h : consChar n result = .ok cs) : bytes ++ rest = cs.flatMap encodeChar := by
  obtain ⟨tail, htail, rfl⟩ := consChar_eq_ok.1 h
  rw [List.flatMap_cons, hchar, ← hrest tail htail]

/-- Each character takes up just the bytes that it is encoded to. -/
theorem eq_flatMap_of_decodeFrom {position : Nat} {bytes : List UInt8} {cs : List Char}
    (h : decodeFrom position bytes = .ok cs) : bytes = cs.flatMap encodeChar := by
  fun_induction decodeFrom position bytes generalizing cs with
  | case1 =>
    cases h
    rfl
  | case2 position a rest ha ih => exact eq_flatMap_of_consChar (encodeChar_one ha) (fun _ => ih) h
  | case6 position a _ ha hb b rest htail ih =>
    have hchar := encodeChar_two (by omega) hb (by simpa using htail)
    exact eq_flatMap_of_consChar hchar (fun _ => ih) h
  | case11 position a _ ha hb hc b hsecond c rest htail ih =>
    have hchar := encodeChar_three (by omega) hc (by simpa using hsecond) (by simpa using htail)
    exact eq_flatMap_of_consChar hchar (fun _ => ih) h
  | case18 position a _ ha hb hc b hsecond c hthird d rest htail ih =>
    have hchar := @encodeChar_four a b c d (by omega) (by omega) (by simpa using hsecond)
      (by simpa using hthird) (by simpa using htail)
    exact eq_flatMap_of_consChar hchar (fun _ => ih) h
  | _ => cases h

/-- Bytes are decoded to a text exactly when they are its encoding. -/
theorem decode_eq_ok_iff {bytes : List UInt8} {cs : List Char} :
    decode bytes = .ok cs ↔ bytes = encode (String.ofList cs) := by
  constructor
  · intro h
    rw [encode, String.toList_ofList]
    exact eq_flatMap_of_decodeFrom h
  · rintro rfl
    rw [decode_encode, String.toList_ofList]

end CaretQuery.Text.Utf8

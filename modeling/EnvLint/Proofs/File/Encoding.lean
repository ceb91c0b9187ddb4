import EnvLint.File.Utf8

/-! # Encoded texts are read back

    Decoding undoes encoding on every text (`decode_encode`).  A character has
    one, two, three or four octets; the first one names their number and the
    range of the second, and the ranges leave out what is too small for that
    number of octets and the surrogates, neither of which a character is. -/

namespace EnvLint.Utf8

variable {more bits low high n count : Nat} {b : Nat} {rest : List UInt8}

/-- An octet of a small number. -/
theorem toNat_octet (h : b < 256) : (UInt8.ofNat b).toNat = b := by
  rw [UInt8.toNat_ofNat']
  exact Nat.mod_eq_of_lt h

/-- An octet in its range adds six bits. -/
theorem follow_octet (hb : b < 256) (hlow : low ≤ b) (hhigh : b ≤ high)
    (h : follow more (bits * 64 + (b - 0x80)) 0x80 0xBF rest = .ok (n, count)) :
    follow (more + 1) bits low high (UInt8.ofNat b :: rest) = .ok (n, count + 1) := by
  rw [follow, toNat_octet hb, if_pos ⟨hlow, hhigh⟩, h]

/-- With no octets to follow the bits are complete. -/
theorem follow_done : follow 0 bits low high rest = .ok (bits, 0) := by
  rw [follow]

/-- A first octet and the octets that it promises are a character. -/
theorem first_octet {l : Lead} (hb : b < 256) (hlead : lead? b = some l)
    (h : follow l.more l.bits l.low l.high rest = .ok (n, count)) :
    first (UInt8.ofNat b) rest = .ok (n, count + 1) := by
  rw [first, toNat_octet hb, hlead]
  dsimp only
  rw [h]

/-! ## First octets -/

/-- An octet below 128 is a character by itself. -/
theorem lead?_one (h : b < 0x80) : lead? b = some ⟨0, b, 0, 0⟩ := by
  rw [lead?, if_pos h]

theorem lead?_two (hlow : 0xC2 ≤ b) (hhigh : b < 0xE0) :
    lead? b = some ⟨1, b - 0xC0, 0x80, 0xBF⟩ := by
  rw [lead?, if_neg (by omega), if_neg (by omega), if_pos hhigh]

/-- The second octet of three starts later after the least first octet, and ends
    earlier where surrogates would follow. -/
theorem lead?_three (hlow : 0xE0 ≤ b) (hhigh : b < 0xF0) :
    lead? b = some ⟨2, b - 0xE0, if b = 0xE0 then 0xA0 else 0x80,
      if b = 0xED then 0x9F else 0xBF⟩ := by
  rw [lead?, if_neg (by omega), if_neg (by omega), if_neg (by omega)]
  by_cases hleast : b = 0xE0
  · rw [if_pos hleast, if_pos hleast, if_neg (by omega)]
  · rw [if_neg hleast, if_neg hleast]
    by_cases hsurrogate : b = 0xED
    · rw [if_pos hsurrogate, if_pos hsurrogate]
    · rw [if_neg hsurrogate, if_neg hsurrogate, if_pos hhigh]

/-- The second octet of four starts later after the least first octet, and ends
    earlier after the greatest. -/
theorem lead?_four (hlow : 0xF0 ≤ b) (hhigh : b ≤ 0xF4) :
    lead? b = some ⟨3, b - 0xF0, if b = 0xF0 then 0x90 else 0x80,
      if b = 0xF4 then 0x8F else 0xBF⟩ := by
  rw [lead?, if_neg (by omega), if_neg (by omega), if_neg (by omega), if_neg (by omega),
    if_neg (by omega), if_neg (by omega)]
  by_cases hleast : b = 0xF0
  · rw [if_pos hleast, if_pos hleast, if_neg (by omega)]
  · rw [if_neg hleast, if_neg hleast]
    by_cases hgreatest : b = 0xF4
    · rw [if_neg (by omega), if_pos hgreatest, if_pos hgreatest]
    · rw [if_pos (by omega), if_neg hgreatest]

/-! ## Characters -/

variable {v : Nat}

/-- Two octets are read back as the eleven bits that they were written for. -/
theorem first_two (hlow : 127 < v) (hhigh : v ≤ 2047) (rest : List UInt8) :
    first (UInt8.ofNat (v / 64 % 32 + 192)) (UInt8.ofNat (v % 64 + 128) :: rest) = .ok (v, 2) := by
  refine first_octet (by omega) (lead?_two (by omega) (by omega)) ?_
  show follow 1 (v / 64 % 32 + 192 - 192) 0x80 0xBF _ = _
  refine follow_octet (by omega) (by omega) (by omega) ?_
  have hbits : (v / 64 % 32 + 192 - 192) * 64 + (v % 64 + 128 - 128) = v := by omega
  rw [hbits]
  exact follow_done

/-- Three octets are read back as the sixteen bits that they were written for, unless these
    are a surrogate. -/
theorem first_three (hlow : 2047 < v) (hhigh : v ≤ 65535) (hvalid : v < 0xD800 ∨ 0xDFFF < v)
    (rest : List UInt8) :
    first (UInt8.ofNat (v / 4096 % 16 + 224))
      (UInt8.ofNat (v / 64 % 64 + 128) :: UInt8.ofNat (v % 64 + 128) :: rest) = .ok (v, 3) := by
  refine first_octet (by omega) (lead?_three (by omega) (by omega)) ?_
  -- the range of the second octet depends on the first one
  have hleast : (if v / 4096 % 16 + 224 = 0xE0 then 0xA0 else 0x80) ≤ v / 64 % 64 + 128 := by
    split
    · omega
    · omega
  have hgreatest : v / 64 % 64 + 128 ≤ (if v / 4096 % 16 + 224 = 0xED then 0x9F else 0xBF) := by
    split
    · omega
    · omega
  refine follow_octet (by omega) hleast hgreatest ?_
  refine follow_octet (by omega) (by omega) (by omega) ?_
  have hbits : ((v / 4096 % 16 + 224 - 224) * 64 + (v / 64 % 64 + 128 - 128)) * 64
      + (v % 64 + 128 - 128) = v := by omega
  rw [hbits]
  exact follow_done

/-- Four octets are read back as the bits that they were written for. -/
theorem first_four (hlow : 65535 < v) (hhigh : v < 0x110000) (rest : List UInt8) :
    first (UInt8.ofNat (v / 262144 % 8 + 240))
      (UInt8.ofNat (v / 4096 % 64 + 128) :: UInt8.ofNat (v / 64 % 64 + 128)
        :: UInt8.ofNat (v % 64 + 128) :: rest) = .ok (v, 4) := by
  refine first_octet (by omega) (lead?_four (by omega) (by omega)) ?_
  have hleast : (if v / 262144 % 8 + 240 = 0xF0 then 0x90 else 0x80) ≤ v / 4096 % 64 + 128 := by
    split
    · omega
    · omega
  have hgreatest : v / 4096 % 64 + 128 ≤ (if v / 262144 % 8 + 240 = 0xF4 then 0x8F else 0xBF) := by
    split
    · omega
    · omega
  refine follow_octet (by omega) hleast hgreatest ?_
  refine follow_octet (by omega) (by omega) (by omega) ?_
  refine follow_octet (by omega) (by omega) (by omega) ?_
  have hbits : (((v / 262144 % 8 + 240 - 240) * 64 + (v / 4096 % 64 + 128 - 128)) * 64
      + (v / 64 % 64 + 128 - 128)) * 64 + (v % 64 + 128 - 128) = v := by omega
  rw [hbits]
  exact follow_done

/-- The octets of a character are read as that character, whatever follows. -/
theorem first_encodeChar (c : Char) (rest : List UInt8) :
    ∃ b others, String.utf8EncodeChar c = b :: others ∧
      first b (others ++ rest) = .ok (c.toNat, others.length + 1) := by
  have hvalid : c.toNat < 0xD800 ∨ 0xDFFF < c.toNat ∧ c.toNat < 0x110000 := c.valid
  rw [String.utf8EncodeChar, show c.val.toNat = c.toNat from rfl]
  generalize c.toNat = v at hvalid
  by_cases hone : v ≤ 127
  · rw [if_pos hone]
    exact ⟨_, _, rfl, first_octet (by omega) (lead?_one (by omega)) follow_done⟩
  rw [if_neg hone]
  by_cases htwo : v ≤ 2047
  · rw [if_pos htwo]
    exact ⟨_, _, rfl, first_two (by omega) htwo rest⟩
  rw [if_neg htwo]
  by_cases hthree : v ≤ 65535
  · rw [if_pos hthree]
    exact ⟨_, _, rfl, first_three (by omega) hthree (by omega) rest⟩
  rw [if_neg hthree]
  exact ⟨_, _, rfl, first_four (by omega) (by omega) rest⟩

/-! ## Texts -/

/-- Every character takes an octet at least. -/
theorem length_le_length_encode (cs : List Char) : cs.length ≤ (encode cs).length := by
  induction cs with
  | nil => exact Nat.le_refl 0
  | cons c cs ih =>
      obtain ⟨b, others, hoctets, -⟩ := first_encodeChar c []
      have hencode : encode (c :: cs) = (b :: others) ++ encode cs := by
        rw [← hoctets]
        rfl
      rw [hencode, List.length_append, List.length_cons, List.length_cons]
      omega

/-- What is encoded is decoded again, wherever it starts. -/
theorem decodeFrom_encode (cs : List Char) {fuel : Nat} (hfuel : cs.length ≤ fuel)
    (position : Nat) : decodeFrom fuel position (encode cs) = .ok cs := by
  induction cs generalizing fuel position with
  | nil =>
      show decodeFrom fuel position [] = .ok []
      cases fuel with
      | zero => rfl
      | succ fuel => rfl
  | cons c cs ih =>
      rw [List.length_cons] at hfuel
      obtain ⟨fuel, rfl⟩ : ∃ k, fuel = k + 1 := ⟨fuel - 1, by omega⟩
      obtain ⟨b, others, hoctets, hfirst⟩ := first_encodeChar c (encode cs)
      have hencode : encode (c :: cs) = b :: (others ++ encode cs) := by
        show String.utf8EncodeChar c ++ encode cs = _
        rw [hoctets]
        rfl
      have hdrop : (b :: (others ++ encode cs)).drop (others.length + 1) = encode cs := by
        rw [List.drop_succ_cons, List.drop_left]
      rw [hencode, decodeFrom, hfirst]
      show (decodeFrom fuel (position + (others.length + 1))
        ((b :: (others ++ encode cs)).drop (others.length + 1)) >>= _) = _
      rw [hdrop, ih (Nat.le_of_succ_le_succ hfuel)]
      show Except.ok (Char.ofNat c.toNat :: cs) = _
      rw [Char.ofNat_toNat]

/-- Decoding undoes encoding. -/
theorem decode_encode (cs : List Char) : decode (encode cs) = .ok cs :=
  decodeFrom_encode cs (length_le_length_encode cs) 0

end EnvLint.Utf8

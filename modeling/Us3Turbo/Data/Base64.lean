import Us3Turbo.Data.BitString

/-! # Base64 of RFC 4648

A text is its bytes.  `encode` pads; the digits before the padding carry the bits of
the data, and after them up to four zero bits.
-/

namespace Us3Turbo.Data.Base64

/-- `count` characters from `first` on. -/
def characters (first : Char) (count : Nat) : List UInt8 :=
  (List.range count).map fun n => UInt8.ofNat (first.toNat + n)

def alphabet : List UInt8 :=
  characters 'A' 26 ++ characters 'a' 26 ++ characters '0' 10 ++ ['+'.toUInt8, '/'.toUInt8]

def padding : UInt8 := '='.toUInt8

def digit (value : Nat) : UInt8 := alphabet.getD value padding

/-- The value of a digit, 64 for a byte that is none. -/
def value (c : UInt8) : Nat := alphabet.idxOf c

/-- The digits of the data, without padding. -/
def digits : List UInt8 → List UInt8
  | a :: b :: c :: rest =>
      digit (a.toNat / 4) :: digit (a.toNat % 4 * 16 + b.toNat / 16) ::
        digit (b.toNat % 16 * 4 + c.toNat / 64) :: digit (c.toNat % 64) :: digits rest
  | [a, b] =>
      [digit (a.toNat / 4), digit (a.toNat % 4 * 16 + b.toNat / 16), digit (b.toNat % 16 * 4)]
  | [a] => [digit (a.toNat / 4), digit (a.toNat % 4 * 16)]
  | [] => []

def encode (data : List UInt8) : List UInt8 :=
  digits data ++ List.replicate ((3 - data.length % 3) % 3) padding

/-- The concatenated groups of six bits. -/
def groupBits (text : List UInt8) : List Bool := text.flatMap fun c => bitString 6 (value c)

variable {text data : List UInt8} {c : UInt8} {n : Nat}

theorem value_lt_iff : value c < 64 ↔ c ∈ alphabet := List.idxOf_lt_length_iff

theorem digit_value (member : c ∈ alphabet) : digit (value c) = c := by
  have inside := List.idxOf_lt_length_iff.mpr member
  rw [digit, value, List.getD_eq_getElem _ _ inside, List.getElem_idxOf inside]

theorem digit_spec (small : n < 64) : digit n ∈ alphabet ∧ value (digit n) = n := by
  have all : ∀ n : Fin 64, digit n ∈ alphabet ∧ value (digit n) = n := by decide +kernel
  exact all ⟨n, small⟩

theorem padding_not_mem : padding ∉ alphabet := by decide

@[simp] theorem groupBits_nil : groupBits [] = [] := rfl

@[simp] theorem groupBits_cons :
    groupBits (c :: text) = bitString 6 (value c) ++ groupBits text := List.flatMap_cons

@[simp] theorem length_groupBits : (groupBits text).length = 6 * text.length := by
  induction text with
  | nil => rfl
  | cons c text ih =>
      rw [groupBits_cons, List.length_append, ih, length_bitString, List.length_cons]
      omega

theorem digits_subset : ∀ c ∈ digits data, c ∈ alphabet := by
  fun_induction digits data with
  | case1 a b c rest ih =>
      have third := c.toNat_lt
      have second := b.toNat_lt
      have first := a.toNat_lt
      simp only [List.mem_cons, forall_eq_or_imp]
      exact ⟨(digit_spec (by omega)).1, (digit_spec (by omega)).1, (digit_spec (by omega)).1,
        (digit_spec (by omega)).1, ih⟩
  | case2 a b =>
      have second := b.toNat_lt
      have first := a.toNat_lt
      simp only [List.mem_cons, forall_eq_or_imp, List.not_mem_nil, false_implies, implies_true,
        and_true]
      exact ⟨(digit_spec (by omega)).1, (digit_spec (by omega)).1, (digit_spec (by omega)).1⟩
  | case3 a =>
      have first := a.toNat_lt
      simp only [List.mem_cons, forall_eq_or_imp, List.not_mem_nil, false_implies, implies_true,
        and_true]
      exact ⟨(digit_spec (by omega)).1, (digit_spec (by omega)).1⟩
  | case4 => simp

theorem groupBits_digit (small : n < 64) : groupBits (digit n :: text) =
    bitString 6 n ++ groupBits text := by
  rw [groupBits_cons, (digit_spec small).2]

/-- A group that takes its last bits from the next octet. -/
theorem bitString_joined (high low more taken kept : Nat)
    (below : low / 2 ^ kept < 2 ^ taken) :
    bitString (more + taken) (high % 2 ^ more * 2 ^ taken + low / 2 ^ kept) =
      bitString more high ++ bitString taken (low / 2 ^ kept) := by
  rw [← bitString_div_append_mod, Nat.mul_comm, Nat.mul_add_div (Nat.two_pow_pos taken),
    Nat.div_eq_of_lt below, Nat.add_zero, bitString_mod, Nat.mul_add_mod, Nat.mod_eq_of_lt below]

/-- A group that ends the data, with zero bits for what is missing. -/
theorem bitString_filled (high more taken : Nat) :
    bitString (more + taken) (high % 2 ^ more * 2 ^ taken) =
      bitString more high ++ List.replicate taken false := by
  rw [← bitString_div_append_mod, Nat.mul_div_cancel _ (Nat.two_pow_pos taken), bitString_mod,
    Nat.mul_mod_left, bitString_zero]

theorem bitString_octet (byte : UInt8) (taken kept : Nat) (whole : taken + kept = 8) :
    bitString taken (byte.toNat / 2 ^ kept) ++ bitString kept byte.toNat =
      bitString 8 byte.toNat := by
  rw [← whole, ← bitString_div_append_mod, bitString_mod]

theorem groupBits_digits : groupBits (digits data) =
    octetBits data ++ List.replicate (2 * ((3 - data.length % 3) % 3)) false := by
  fun_induction digits data with
  | case1 a b c rest ih =>
      have first := a.toNat_lt
      have second := b.toNat_lt
      have third := c.toNat_lt
      have ab : bitString 6 (a.toNat % 4 * 16 + b.toNat / 16) =
          bitString 2 a.toNat ++ bitString 4 (b.toNat / 16) :=
        bitString_joined a.toNat b.toNat 2 4 4 (by omega)
      have bc : bitString 6 (b.toNat % 16 * 4 + c.toNat / 64) =
          bitString 4 b.toNat ++ bitString 2 (c.toNat / 64) :=
        bitString_joined b.toNat c.toNat 4 2 6 (by omega)
      have last : bitString 6 (c.toNat % 64) = bitString 6 c.toNat := bitString_mod
      have same : (a :: b :: c :: rest).length % 3 = rest.length % 3 := by
        simp only [List.length_cons]
        omega
      rw [groupBits_digit (by omega), groupBits_digit (by omega), groupBits_digit (by omega),
        groupBits_digit (by omega), ih, ab, bc, last, same]
      have whole_a := bitString_octet a 6 2 rfl
      have whole_b := bitString_octet b 4 4 rfl
      have whole_c := bitString_octet c 2 6 rfl
      simp only [octetBits, List.flatMap_cons, ← whole_a, ← whole_b, ← whole_c, List.append_assoc]
      rfl
  | case2 a b =>
      have first := a.toNat_lt
      have second := b.toNat_lt
      have ab : bitString 6 (a.toNat % 4 * 16 + b.toNat / 16) =
          bitString 2 a.toNat ++ bitString 4 (b.toNat / 16) :=
        bitString_joined a.toNat b.toNat 2 4 4 (by omega)
      have last : bitString 6 (b.toNat % 16 * 4) = bitString 4 b.toNat ++ List.replicate 2 false :=
        bitString_filled b.toNat 4 2
      have whole_a := bitString_octet a 6 2 rfl
      have whole_b := bitString_octet b 4 4 rfl
      rw [groupBits_digit (by omega), groupBits_digit (by omega), groupBits_digit (by omega), ab, last]
      simp only [octetBits, List.flatMap_cons, ← whole_a, ← whole_b, List.append_assoc]
      rfl
  | case3 a =>
      have first := a.toNat_lt
      have last : bitString 6 (a.toNat % 4 * 16) = bitString 2 a.toNat ++ List.replicate 4 false :=
        bitString_filled a.toNat 2 4
      have whole_a := bitString_octet a 6 2 rfl
      rw [groupBits_digit (by omega), groupBits_digit (by omega), last]
      simp only [octetBits, List.flatMap_cons, ← whole_a, List.append_assoc]
      rfl
  | case4 => rfl

/-- Six groups are read back from the four octets they fill, if nothing is left over. -/
theorem digits_filled {v0 v1 v2 v3 v4 v5 : Nat} (first : v0 < 64) (second : v1 < 64)
    (third : v2 < 64) (fourth : v3 < 64) (fifth : v4 < 64) (sixth : v5 < 64) (whole : v5 % 16 = 0) :
    digits [UInt8.ofNat (v0 * 4 + v1 / 16), UInt8.ofNat (v1 % 16 * 16 + v2 / 4),
      UInt8.ofNat (v2 % 4 * 64 + v3), UInt8.ofNat (v4 * 4 + v5 / 16)] =
      [digit v0, digit v1, digit v2, digit v3, digit v4, digit v5] := by
  have octet {n : Nat} (fits : n < 256) : (UInt8.ofNat n).toNat = n := UInt8.toNat_ofNat_of_lt' fits
  have group0 : (v0 * 4 + v1 / 16) / 4 = v0 := by omega
  have group1 : (v0 * 4 + v1 / 16) % 4 * 16 + (v1 % 16 * 16 + v2 / 4) / 16 = v1 := by omega
  have group2 : (v1 % 16 * 16 + v2 / 4) % 16 * 4 + (v2 % 4 * 64 + v3) / 64 = v2 := by omega
  have group3 : (v2 % 4 * 64 + v3) % 64 = v3 := by omega
  have group4 : (v4 * 4 + v5 / 16) / 4 = v4 := by omega
  have group5 : (v4 * 4 + v5 / 16) % 4 * 16 = v5 := by omega
  rw [digits, digits, octet (by omega), octet (by omega), octet (by omega), octet (by omega),
    group0, group1, group2, group3, group4, group5]

end Us3Turbo.Data.Base64

import Us3Turbo.Data.Base64

/-! # `ParseBase64Crc32c` of `backend/src/common/crc32c.cpp`

A `std::string_view` is its bytes.
-/

namespace Us3Turbo.Backend

open Us3Turbo.Data

namespace ParseBase64Crc32c

/-- `none` is the `-1` of the source. -/
def idx (c : UInt8) : Option UInt32 :=
  if 'A'.toUInt8 ≤ c ∧ c ≤ 'Z'.toUInt8 then some (c - 'A'.toUInt8).toUInt32
  else if 'a'.toUInt8 ≤ c ∧ c ≤ 'z'.toUInt8 then some ((c - 'a'.toUInt8).toUInt32 + 26)
  else if '0'.toUInt8 ≤ c ∧ c ≤ '9'.toUInt8 then some ((c - '0'.toUInt8).toUInt32 + 52)
  else if c = '+'.toUInt8 then some 62
  else if c = '/'.toUInt8 then some 63
  else none

/-- The variables of the loop. -/
structure Loop where
  out : List UInt8 := []
  buf : UInt32 := 0
  bits : Nat := 0

def Loop.push (loop : Loop) (v : UInt32) : Loop :=
  let buf := (loop.buf <<< 6) ||| v
  let bits := loop.bits + 6
  if bits ≥ 8 then
    { out := loop.out ++ [((buf >>> UInt32.ofNat (bits - 8)) &&& 0xFF).toUInt8], buf, bits := bits - 8 }
  else { out := loop.out, buf, bits }

/-- The loop over the characters; `none` is the return from inside it. -/
def Loop.run : Loop → List UInt8 → Option Loop
  | loop, [] => some loop
  | loop, c :: rest =>
      if c = '='.toUInt8 then some loop
      else
        match idx c with
        | none => none
        | some v => (loop.push v).run rest

/-- The value that is returned. -/
def join (o0 o1 o2 o3 : UInt8) : UInt32 :=
  (o0.toUInt32 <<< 24) ||| (o1.toUInt32 <<< 16) ||| (o2.toUInt32 <<< 8) ||| o3.toUInt32

end ParseBase64Crc32c

open ParseBase64Crc32c in
def parseBase64Crc32c (s : List UInt8) : Option UInt32 :=
  if s = [] then none
  else
    match Loop.run {} s with
    | none => none
    | some loop =>
        match loop.out with
        | o0 :: o1 :: o2 :: o3 :: _ => some (join o0 o1 o2 o3)
        | _ => none

/-- The four octets that the value stands for on the wire. -/
def wireOctets (value : UInt32) : List UInt8 :=
  [(value >>> 24).toUInt8, (value >>> 16).toUInt8, (value >>> 8).toUInt8, value.toUInt8]

namespace ParseBase64Crc32c

variable {c : UInt8} {v : UInt32} {text s : List UInt8} {loop : Loop} {read : List Bool}

theorem idx_eq (c : UInt8) :
    idx c = if Base64.value c < 64 then some (UInt32.ofNat (Base64.value c)) else none := by
  have all : ∀ n : Fin 256, idx (UInt8.ofNat n) = if Base64.value (UInt8.ofNat n) < 64 then
      some (UInt32.ofNat (Base64.value (UInt8.ofNat n))) else none := by decide +kernel
  have here := all ⟨c.toNat, c.toNat_lt⟩
  rwa [UInt8.ofNat_toNat] at here

/-! ## The bit loop -/

/-- The loop has read the bits `read`: the octets that are out, then `bits` bits of `buf`.
Above these `buf` may hold anything. -/
structure Holds (loop : Loop) (read : List Bool) : Prop where
  stream : octetBits loop.out ++ bitString loop.bits loop.buf.toNat = read
  few : loop.bits < 8

theorem holds_start : Holds {} [] := ⟨rfl, by decide⟩

theorem testBit_shifted {buf : UInt32} {index : Nat} (inside : index < 32) :
    ((buf <<< 6) ||| v).toNat.testBit index =
      (decide (6 ≤ index) && buf.toNat.testBit (index - 6) || v.toNat.testBit index) := by
  have shifted : (buf <<< 6).toNat = buf.toNat <<< 6 % 2 ^ 32 := UInt32.toNat_shiftLeft buf 6
  rw [UInt32.toNat_or, shifted, Nat.testBit_or, Nat.testBit_mod_two_pow, Nat.testBit_shiftLeft,
    decide_eq_true inside, Bool.true_and]

/-- What the shift pushes out of the 32 bits is never looked at again. -/
theorem bitString_shifted (buf : UInt32) {bits : Nat} (few : bits < 8) (small : v.toNat < 64) :
    bitString (bits + 6) ((buf <<< 6) ||| v).toNat =
      bitString bits buf.toNat ++ bitString 6 v.toNat := by
  have high (index : Nat) : v.toNat.testBit (6 + index) = false := by
    have bound : 2 ^ 6 ≤ 2 ^ (6 + index) := Nat.pow_le_pow_right (by decide) (by omega)
    exact Nat.testBit_lt_two_pow (lt_of_lt_of_le small bound)
  rw [bitString_append]
  congr 1
  · refine bitString_congr fun index below => ?_
    rw [Nat.testBit_shiftRight, testBit_shifted (by omega), high, Bool.or_false,
      decide_eq_true (by omega), Bool.true_and, Nat.add_sub_cancel_left]
  · refine bitString_congr fun index below => ?_
    rw [testBit_shifted (by omega), decide_eq_false (by omega), Bool.false_and, Bool.false_or]

theorem toNat_octet (buf : UInt32) {bits : Nat} (few : bits < 8) :
    ((buf >>> UInt32.ofNat bits) &&& 0xFF).toUInt8.toNat = buf.toNat >>> bits % 2 ^ 8 := by
  have amount : (UInt32.ofNat bits).toNat % 32 = bits := by
    rw [UInt32.toNat_ofNat_of_lt' (Nat.lt_trans few (by decide))]
    omega
  have masked : (buf.toNat >>> bits) &&& 255 = buf.toNat >>> bits % 2 ^ 8 :=
    Nat.and_two_pow_sub_one_eq_mod _ 8
  rw [UInt32.toNat_toUInt8, UInt32.toNat_and, UInt32.toNat_shiftRight, amount]
  exact (congrArg (· % 2 ^ 8) masked).trans (Nat.mod_mod _ _)

theorem Holds.push (holds : Holds loop read) (small : v.toNat < 64) :
    Holds (loop.push v) (read ++ bitString 6 v.toNat) := by
  obtain ⟨stream, few⟩ := holds
  have joined := bitString_shifted loop.buf few small
  rw [← stream, List.append_assoc, ← joined, Loop.push]
  generalize (loop.buf <<< 6) ||| v = buf
  split
  · rename_i full
    have split_off : 8 + (loop.bits + 6 - 8) = loop.bits + 6 := by omega
    have octet := toNat_octet buf (show loop.bits + 6 - 8 < 8 by omega)
    refine ⟨?_, by dsimp only; omega⟩
    dsimp only
    rw [octetBits_append, octetBits_singleton, octet, bitString_mod, List.append_assoc,
      ← bitString_append, split_off]
  · rename_i partly
    exact ⟨rfl, Nat.lt_of_not_le partly⟩

/-- The part before the first padding character. -/
def body (s : List UInt8) : List UInt8 := s.takeWhile (· ≠ Base64.padding)

theorem run_spec (text : List UInt8) (holds : Holds loop read) :
    (loop.run text = none ∧ ∃ c ∈ body text, c ∉ Base64.alphabet) ∨
    ∃ last, loop.run text = some last ∧ (∀ c ∈ body text, c ∈ Base64.alphabet) ∧
      Holds last (read ++ Base64.groupBits (body text)) := by
  induction text generalizing loop read with
  | nil => exact .inr ⟨loop, rfl, by simp [body], by simpa [body] using holds⟩
  | cons c rest ih =>
      by_cases ended : c = Base64.padding
      · have nothing : body (c :: rest) = [] := by simp [body, ended]
        have stopped : c = '='.toUInt8 := ended
        rw [nothing]
        exact .inr ⟨loop, by rw [Loop.run, if_pos stopped], by simp, by simpa using holds⟩
      · have onward : body (c :: rest) = c :: body rest := by simp [body, ended]
        have running : ¬ c = '='.toUInt8 := ended
        rw [onward, Loop.run, if_neg running, idx_eq]
        by_cases small : Base64.value c < 64
        · have member := Base64.value_lt_iff.mp small
          have same : (UInt32.ofNat (Base64.value c)).toNat = Base64.value c :=
            UInt32.toNat_ofNat_of_lt' (Nat.lt_trans small (by decide))
          have pushed := holds.push (v := UInt32.ofNat (Base64.value c)) (by rw [same]; exact small)
          rw [same] at pushed
          rw [if_pos small]
          rcases ih pushed with ⟨failed, other, found, foreign⟩ | ⟨last, ran, all, reads⟩
          · exact .inl ⟨failed, other, List.mem_cons_of_mem _ found, foreign⟩
          · refine .inr ⟨last, ran, ?_, ?_⟩
            · simpa using ⟨member, all⟩
            · rwa [Base64.groupBits_cons, ← List.append_assoc]
        · rw [if_neg small]
          exact .inl ⟨rfl, c, List.mem_cons_self, mt Base64.value_lt_iff.mpr small⟩

/-! ## The value -/

variable {o0 o1 o2 o3 : UInt8}

theorem toNat_shiftLeft_octet (octet : UInt8) {amount : Nat} (within : amount ≤ 24) :
    (octet.toUInt32 <<< UInt32.ofNat amount).toNat = octet.toNat <<< amount := by
  have exact_amount : (UInt32.ofNat amount).toNat % 32 = amount := by
    rw [UInt32.toNat_ofNat_of_lt' (Nat.lt_of_le_of_lt within (by decide))]
    omega
  have fits : octet.toNat <<< amount < 2 ^ 32 := by
    calc octet.toNat <<< amount = octet.toNat * 2 ^ amount := Nat.shiftLeft_eq ..
      _ < 2 ^ 8 * 2 ^ amount := Nat.mul_lt_mul_of_pos_right octet.toNat_lt (Nat.two_pow_pos amount)
      _ = 2 ^ (8 + amount) := (Nat.pow_add ..).symm
      _ ≤ 2 ^ 32 := Nat.pow_le_pow_right (by decide) (by omega)
  rw [UInt32.toNat_shiftLeft, UInt8.toNat_toUInt32, exact_amount, Nat.mod_eq_of_lt fits]

theorem bitString_join : bitString 32 (join o0 o1 o2 o3).toNat = octetBits [o0, o1, o2, o3] := by
  have shifts : (join o0 o1 o2 o3).toNat =
      ((o0.toNat <<< 8 ||| o1.toNat) <<< 8 ||| o2.toNat) <<< 8 ||| o3.toNat := by
    have first : (o0.toUInt32 <<< 24).toNat = o0.toNat <<< 24 := toNat_shiftLeft_octet o0 (by decide)
    have second : (o1.toUInt32 <<< 16).toNat = o1.toNat <<< 16 := toNat_shiftLeft_octet o1 (by decide)
    have third : (o2.toUInt32 <<< 8).toNat = o2.toNat <<< 8 := toNat_shiftLeft_octet o2 (by decide)
    rw [join, UInt32.toNat_or, UInt32.toNat_or, UInt32.toNat_or, first, second, third,
      UInt8.toNat_toUInt32, Nat.shiftLeft_or_distrib, Nat.shiftLeft_or_distrib,
      Nat.shiftLeft_or_distrib, ← Nat.shiftLeft_add, ← Nat.shiftLeft_add, ← Nat.shiftLeft_add]
  have bits (high : Nat) (octet : UInt8) (width : Nat) :
      bitString (width + 8) (high <<< 8 ||| octet.toNat) =
        bitString width high ++ bitString 8 octet.toNat := bitString_concat high octet.toNat_lt
  rw [shifts, bits _ o3 24, bits _ o2 16, bits _ o1 8]
  simp only [octetBits, List.flatMap_cons, List.flatMap_nil, List.append_nil, List.append_assoc]

theorem toNat_join : (join o0 o1 o2 o3).toNat = bigEndian [o0, o1, o2, o3] := by
  rw [bigEndian_eq_readBits, ← bitString_join, readBits_bitString, Nat.mod_eq_of_lt (UInt32.toNat_lt _)]

theorem length_wireOctets (v : UInt32) : (wireOctets v).length = 4 := rfl

theorem encode_wireOctets (v : UInt32) : Base64.encode (wireOctets v) =
    Base64.digits (wireOctets v) ++ List.replicate 2 Base64.padding := by
  rw [Base64.encode, length_wireOctets]

theorem octetBits_wireOctets (v : UInt32) : octetBits (wireOctets v) = bitString 32 v.toNat := by
  have octet (amount : UInt32) : bitString 8 (v >>> amount).toUInt8.toNat =
      bitString 8 (v.toNat >>> (amount.toNat % 32)) := by
    rw [UInt32.toNat_toUInt8, UInt32.toNat_shiftRight, bitString_mod]
  have last : bitString 8 v.toUInt8.toNat = bitString 8 v.toNat := bitString_mod
  have cut (width : Nat) (value : Nat) : bitString (width + 8) value =
      bitString width (value >>> 8) ++ bitString 8 value := bitString_append
  rw [cut 24, cut 16, cut 8]
  simp only [wireOctets, octetBits, List.flatMap_cons, List.flatMap_nil, List.append_nil,
    List.append_assoc, octet, last, ← Nat.shiftRight_add]
  rfl

theorem wireOctets_join : wireOctets (join o0 o1 o2 o3) = [o0, o1, o2, o3] := by
  have bits := octetBits_wireOctets (join o0 o1 o2 o3)
  rw [bitString_join] at bits
  rw [← octets_octetBits (wireOctets _), bits, octets_octetBits]

theorem bigEndian_wireOctets (v : UInt32) : bigEndian (wireOctets v) = v.toNat := by
  rw [bigEndian_eq_readBits, octetBits_wireOctets, readBits_bitString, Nat.mod_eq_of_lt v.toNat_lt]

/-! ## What is accepted -/

theorem Holds.out_eq (holds : Holds loop read) : loop.out = octets read := by
  rw [← holds.stream, octets_octetBits_append]
  rw [length_bitString]
  exact holds.few

/-- The out of the loop has four octets as soon as six digits were read. -/
theorem Holds.enough (holds : Holds loop (Base64.groupBits text)) :
    4 ≤ loop.out.length ↔ 6 ≤ text.length := by
  have lengths := congrArg List.length holds.stream
  rw [List.length_append, length_octetBits, length_bitString, Base64.length_groupBits] at lengths
  have few := holds.few
  omega

def Clean (s : List UInt8) : Prop := ∀ c ∈ body s, c ∈ Base64.alphabet

theorem parse_eq (s : List UInt8) :
    (¬ (Clean s ∧ 6 ≤ (body s).length) ∧ parseBase64Crc32c s = none) ∨
    (Clean s ∧ 6 ≤ (body s).length) ∧ ∃ o0 o1 o2 o3,
      (octets (Base64.groupBits (body s))).take 4 = [o0, o1, o2, o3] ∧
      parseBase64Crc32c s = some (join o0 o1 o2 o3) := by
  rw [parseBase64Crc32c]
  split
  · rename_i empty
    subst empty
    exact .inl ⟨by simp [body], rfl⟩
  · rcases run_spec s holds_start with ⟨failed, c, member, foreign⟩ | ⟨last, ran, clean, holds⟩
    · rw [failed]
      exact .inl ⟨fun accepted => foreign (accepted.1 c member), rfl⟩
    · rw [List.nil_append] at holds
      have enough := holds.enough
      rw [ran, ← holds.out_eq]
      dsimp only
      split
      · rename_i o0 o1 o2 o3 more out
        rw [out] at enough
        exact .inr ⟨⟨clean, enough.mp (by simp)⟩, o0, o1, o2, o3, by rw [out]; rfl, rfl⟩
      · rename_i short
        refine .inl ⟨fun accepted => ?_, rfl⟩
        match out : last.out, enough.mpr accepted.2 with
        | o0 :: o1 :: o2 :: o3 :: more, _ => exact short o0 o1 o2 o3 more out

theorem parse_none_iff :
    parseBase64Crc32c s = none ↔ (∃ c ∈ body s, c ∉ Base64.alphabet) ∨ (body s).length < 6 := by
  have refused : (∃ c ∈ body s, c ∉ Base64.alphabet) ∨ (body s).length < 6 ↔
      ¬ (Clean s ∧ 6 ≤ (body s).length) := by
    rw [not_and_or, Nat.not_le, Clean]
    push Not
    rfl
  rw [refused]
  rcases parse_eq s with ⟨bad, failed⟩ | ⟨good, _, _, _, _, _, parsed⟩
  · exact iff_of_true failed bad
  · rw [parsed]
    exact iff_of_false (by simp) (not_not_intro good)

theorem parse_some_iff {v : UInt32} :
    parseBase64Crc32c s = some v ↔ (∀ c ∈ body s, c ∈ Base64.alphabet) ∧ 6 ≤ (body s).length ∧
      v.toNat = bigEndian ((octets (Base64.groupBits (body s))).take 4) := by
  rcases parse_eq s with ⟨bad, failed⟩ | ⟨good, o0, o1, o2, o3, out, parsed⟩
  · rw [failed]
    exact iff_of_false (by simp) fun accepted => bad ⟨accepted.1, accepted.2.1⟩
  · rw [parsed, out, ← toNat_join, Option.some.injEq, UInt32.toNat_inj, eq_comm]
    exact ⟨fun same => ⟨good.1, good.2, same⟩, fun accepted => accepted.2.2⟩

theorem body_padded {data : List UInt8} (count : Nat) :
    body (Base64.digits data ++ List.replicate count Base64.padding) = Base64.digits data := by
  have running : ∀ c ∈ Base64.digits data, decide (c ≠ Base64.padding) = true := by
    intro c member
    rw [decide_eq_true_iff]
    rintro rfl
    exact Base64.padding_not_mem (Base64.digits_subset _ member)
  rw [body, List.takeWhile_append_of_pos running, List.takeWhile_replicate]
  simp

/-- The digits of four octets, however many padding characters follow, give them back. -/
theorem parse_padded (v : UInt32) (count : Nat) :
    parseBase64Crc32c (Base64.digits (wireOctets v) ++ List.replicate count Base64.padding) =
      some v := by
  rw [parse_some_iff, body_padded]
  refine ⟨Base64.digits_subset, by simp [wireOctets, Base64.digits], ?_⟩
  have bits : Base64.groupBits (Base64.digits (wireOctets v)) =
      octetBits (wireOctets v) ++ List.replicate 4 false := by
    rw [Base64.groupBits_digits, length_wireOctets]
  have few : (List.replicate 4 false).length < 8 := by decide
  rw [bits, octets_octetBits_append few]
  exact (bigEndian_wireOctets v).symm

/-- The loop decodes exactly: what is refused, what value the rest has, that its octets are
those of the whole bit string, and that it reads back the encoding of every value. -/
theorem parse_decodes (s : List UInt8) :
    (parseBase64Crc32c s = none ↔
      (∃ c ∈ body s, c ∉ Base64.alphabet) ∨ (body s).length < 6) ∧
    (∀ v, parseBase64Crc32c s = some v ↔
      (∀ c ∈ body s, c ∈ Base64.alphabet) ∧ 6 ≤ (body s).length ∧
        v.toNat = bigEndian ((octets (Base64.groupBits (body s))).take 4)) ∧
    (∀ loop, Loop.run {} s = some loop → loop.out = octets (Base64.groupBits (body s))) ∧
    ∀ v, parseBase64Crc32c (Base64.encode (wireOctets v)) = some v ∧
      parseBase64Crc32c (Base64.digits (wireOctets v)) = some v := by
  refine ⟨parse_none_iff, fun v => parse_some_iff, ?_, fun v => ⟨?_, ?_⟩⟩
  · intro loop ran
    rcases run_spec s holds_start with ⟨failed, _⟩ | ⟨last, ran', _, holds⟩
    · rw [failed] at ran
      cases ran
    · rw [ran', Option.some.injEq] at ran
      rw [← ran, holds.out_eq, List.nil_append]
  · rw [encode_wireOctets, parse_padded]
  · simpa using parse_padded v 0

/-! ## What more is accepted than encodings -/

/-- Six digits, the last of them without low bits, then the padding and nothing else. -/
structure Canonical (s : List UInt8) : Prop where
  six : (body s).length = 6
  last : ∀ c ∈ (body s).getLast?, Base64.value c % 16 = 0
  padded : s = body s ++ List.replicate 2 Base64.padding

theorem canonical_encode (v : UInt32) : Canonical (Base64.encode (wireOctets v)) := by
  rw [encode_wireOctets]
  refine ⟨?_, ?_, ?_⟩
  · rw [body_padded]
    rfl
  · have small : v.toUInt8.toNat % 4 * 16 < 64 := by omega
    intro c member
    rw [body_padded] at member
    have same : c = Base64.digit (v.toUInt8.toNat % 4 * 16) := by
      simpa [wireOctets, Base64.digits, eq_comm] using member
    rw [same, (Base64.digit_spec small).2, Nat.mul_mod_left]
  · rw [body_padded]

theorem Canonical.encodes (canonical : Canonical s) (clean : Clean s) :
    ∃ v, s = Base64.encode (wireOctets v) := by
  obtain ⟨six, last, padded⟩ := canonical
  rw [Clean] at clean
  rw [padded]
  generalize body s = digits at six last clean
  match digits, six with
  | [c0, c1, c2, c3, c4, c5], _ =>
      simp only [List.mem_cons, List.not_mem_nil, or_false, forall_eq_or_imp, forall_eq] at clean
      obtain ⟨m0, m1, m2, m3, m4, m5⟩ := clean
      have whole : Base64.value c5 % 16 = 0 := last c5 rfl
      have filled := Base64.digits_filled (Base64.value_lt_iff.mpr m0) (Base64.value_lt_iff.mpr m1)
        (Base64.value_lt_iff.mpr m2) (Base64.value_lt_iff.mpr m3) (Base64.value_lt_iff.mpr m4)
        (Base64.value_lt_iff.mpr m5) whole
      rw [Base64.digit_value m0, Base64.digit_value m1, Base64.digit_value m2,
        Base64.digit_value m3, Base64.digit_value m4, Base64.digit_value m5] at filled
      exact ⟨join _ _ _ _, by rw [encode_wireOctets, wireOctets_join, filled]⟩

/-- The parser answers exactly the encodings exactly when what it is given has a foreign
character or too few digits before the padding, or is an encoding to the last bit. -/
theorem parse_exact_iff (s : List UInt8) :
    (∀ v, parseBase64Crc32c s = some v ↔ s = Base64.encode (wireOctets v)) ↔
      (∃ c ∈ body s, c ∉ Base64.alphabet) ∨ (body s).length < 6 ∨ Canonical s := by
  have reads (v : UInt32) : parseBase64Crc32c (Base64.encode (wireOctets v)) = some v := by
    rw [encode_wireOctets, parse_padded]
  rw [← or_assoc, ← parse_none_iff]
  constructor
  · intro agrees
    cases parsed : parseBase64Crc32c s with
    | none => exact .inl rfl
    | some v =>
        right
        rw [(agrees v).mp parsed]
        exact canonical_encode v
  · intro condition v
    constructor
    · intro parsed
      rcases condition with refused | canonical
      · rw [refused] at parsed
        cases parsed
      · obtain ⟨w, encoded⟩ := canonical.encodes (parse_some_iff.mp parsed).1
        rw [encoded, reads, Option.some.injEq] at parsed
        rw [encoded, parsed]
    · rintro rfl
      exact reads v

/-- Eight digits with no padding, two octets more than the value has. -/
def longText : List UInt8 := List.replicate 8 'A'.toUInt8

theorem longText_accepted :
    ¬ ∀ v, parseBase64Crc32c longText = some v ↔ longText = Base64.encode (wireOctets v) := by
  intro agrees
  have parsed : parseBase64Crc32c longText = some 0 := by decide
  have encoded := (agrees 0).mp parsed
  exact absurd encoded (by decide)

end ParseBase64Crc32c

end Us3Turbo.Backend

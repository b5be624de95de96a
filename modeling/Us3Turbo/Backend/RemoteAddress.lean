import Mathlib.Data.List.Basic
import Mathlib.Data.List.TakeWhile
import Us3Turbo.Backend.GdsSink
import Us3Turbo.Data.Hex

/-! # The remote address of a token

`ParseRemoteBufferAddress` on the tokens whose text in front of the first colon is an
address in base 16, and where `ReceiveAndDiscard` then reads.
-/

namespace Us3Turbo.Backend

open Us3Turbo.Data

variable {digit : Char} {text digits rest : List Char} {value : Nat} {address : UInt64}
  {token : String}

/-! ## What `strtoull` makes of a spelling -/

theorem code_of_lower (lower : digit.toLower ∈ hexAlphabet) : digit.toNat < 128 := by
  have small : hexAlphabet.all (fun letter => decide (letter.toNat < 128)) = true := rfl
  have lowered : digit.toLower.toNat < 128 := of_decide_eq_true (List.all_eq_true.mp small _ lower)
  unfold Char.toLower at lowered
  split at lowered
  · rename_i upper
    exact Nat.lt_of_le_of_lt (UInt32.le_iff_toNat_le.mp upper.2) (by decide)
  · exact lowered

theorem hexValue_ascii : ∀ code : Fin 128, (Char.ofNat code).toLower ∈ hexAlphabet →
    hexValue (Char.ofNat code) = some (hexAlphabet.idxOf (Char.ofNat code).toLower) := by
  decide

theorem hexValue_spec (lower : digit.toLower ∈ hexAlphabet) :
    hexValue digit = some (hexAlphabet.idxOf digit.toLower) := by
  have spec := hexValue_ascii ⟨digit.toNat, code_of_lower lower⟩
  simp only [Char.ofNat_toNat] at spec
  exact spec lower

/-- The accumulation of `strtoull` reads the lowercase digits. -/
theorem fold_hexValue (lower : ∀ digit ∈ digits, digit.toLower ∈ hexAlphabet) :
    digits.foldl (fun total digit => 16 * total + (hexValue digit).getD 0) 0 =
      readHex (digits.map Char.toLower) := by
  rw [readHex, List.foldl_map]
  refine List.foldl_ext _ _ 0 fun total digit member => ?_
  rw [hexValue_spec (lower digit member), Option.getD_some]

theorem valued_of_spelled (spelled : SpellsHex value digits) :
    ∀ digit ∈ digits, (hexValue digit).isSome := by
  intro digit member
  rw [hexValue_spec (spelled.digits_subset digit member)]
  rfl

theorem zero_le_digit (valued : (hexValue digit).isSome) : '0'.toNat ≤ digit.toNat := by
  have bound {lowest : Char} (at_least : lowest ≤ digit) (high : '0'.toNat ≤ lowest.toNat) :
      '0'.toNat ≤ digit.toNat := Nat.le_trans high (UInt32.le_iff_toNat_le.mp at_least)
  unfold hexValue at valued
  split at valued
  · rename_i decimal
    exact bound decimal.1 (Nat.le_refl _)
  · split at valued
    · rename_i lowercase
      exact bound lowercase.1 (by decide)
    · split at valued
      · rename_i uppercase
        exact bound uppercase.1 (by decide)
      · cases valued

/-- A digit is neither blank, nor a sign, nor the colon. -/
theorem isSpace_digit (valued : (hexValue digit).isSome) : isSpace digit = false := by
  have at_least := zero_le_digit valued
  rw [isSpace, decide_eq_false_iff_not]
  intro blank
  rcases blank with rfl | control
  · revert at_least
    decide
  · have at_most : digit.toNat ≤ '\r'.toNat := UInt32.le_iff_toNat_le.mp control.2
    have apart : '\r'.toNat < '0'.toNat := by decide
    omega

theorem ne_of_valued {other : Char} (valued : (hexValue digit).isSome)
    (none : hexValue other = none) : digit ≠ other := by
  intro same
  rw [same, none] at valued
  cases valued

theorem dropRadix_digits (valued : ∀ digit ∈ digits, (hexValue digit).isSome) :
    dropRadix digits = digits := by
  unfold dropRadix
  split
  · rename_i marker digit rest
    have marker_valued := valued marker (List.mem_cons_of_mem _ List.mem_cons_self)
    have lower : marker ≠ 'x' := ne_of_valued marker_valued (by decide)
    have upper : marker ≠ 'X' := ne_of_valued marker_valued (by decide)
    simp [lower, upper]
  · rfl

theorem dropRadix_marked {marker : Char} (known : marker = 'x' ∨ marker = 'X')
    (valued : ∀ digit ∈ digits, (hexValue digit).isSome) (nonempty : digits ≠ []) :
    dropRadix ('0' :: marker :: digits) = digits := by
  cases digits with
  | nil => exact absurd rfl nonempty
  | cons first rest => exact if_pos ⟨known, valued first List.mem_cons_self⟩

/-- `strtoull` where the text starts with a digit, which leaves out blanks and signs. -/
theorem strtoull16_spelled {first : Char} (valued : (hexValue first).isSome)
    (radix : dropRadix (first :: rest) = digits) (spelled : SpellsHex address.toNat digits) :
    strtoull16 (first :: rest) = address := by
  have trimmed : (first :: rest).dropWhile isSpace = first :: rest :=
    List.dropWhile_cons_of_neg (by rw [isSpace_digit valued]; exact Bool.false_ne_true)
  have minus : first ≠ '-' := ne_of_valued valued (by decide)
  have plus : first ≠ '+' := ne_of_valued valued (by decide)
  have all := valued_of_spelled spelled
  have scanned : digits.takeWhile (fun digit => (hexValue digit).isSome) = digits :=
    List.takeWhile_eq_self_iff.mpr all
  have magnitude := (fold_hexValue spelled.digits_subset).trans spelled.reads
  have fits : ¬ address.toNat ≥ 2 ^ 64 := Nat.not_le.mpr address.toNat_lt
  have unsigned : (first :: rest).head? ≠ some '-' := fun signed => minus (Option.some.inj signed)
  rw [strtoull16]
  simp only [trimmed]
  split
  · rename_i signed
    exact absurd (List.cons.inj signed).1 minus
  · rename_i signed
    exact absurd (List.cons.inj signed).1 plus
  · rw [radix, scanned, magnitude, if_neg fits, if_neg unsigned, UInt64.ofNat_toNat]

/-! ## Tokens that start with an address -/

def radixMarkers : List (List Char) := [[], ['0', 'x'], ['0', 'X']]

/-- `token` is a spelling of `address`, alone or in front of a colon and any further text. -/
inductive AddressToken (address : UInt64) (token : String) : Prop where
  | intro (marker digits suffix : List Char) (known : marker ∈ radixMarkers)
      (spelled : SpellsHex address.toNat digits) (cut : suffix = [] ∨ suffix.head? = some ':')
      (spelt : token.toList = marker ++ digits ++ suffix)

/-- A marker and digits: the text starts with a digit and `dropRadix` leaves the digits. -/
theorem marked_text {marker : List Char} (known : marker ∈ radixMarkers)
    (valued : ∀ digit ∈ digits, (hexValue digit).isSome) (nonempty : digits ≠ []) :
    ∃ first rest, marker ++ digits = first :: rest ∧ (hexValue first).isSome ∧
      dropRadix (first :: rest) = digits := by
  simp only [radixMarkers, List.mem_cons, List.not_mem_nil, or_false] at known
  rcases known with rfl | rfl | rfl
  · cases digits with
    | nil => exact absurd rfl nonempty
    | cons first rest =>
        exact ⟨first, rest, rfl, valued first List.mem_cons_self, dropRadix_digits valued⟩
  · exact ⟨'0', 'x' :: digits, rfl, rfl, dropRadix_marked (.inl rfl) valued nonempty⟩
  · exact ⟨'0', 'X' :: digits, rfl, rfl, dropRadix_marked (.inr rfl) valued nonempty⟩

theorem takeWhile_cut {suffix : List Char} (plain : ∀ letter ∈ text, letter ≠ ':')
    (cut : suffix = [] ∨ suffix.head? = some ':') :
    (text ++ suffix).takeWhile (· ≠ ':') = text := by
  have before : ∀ letter ∈ text, decide (letter ≠ ':') = true := by simpa using plain
  rw [List.takeWhile_append_of_pos before]
  cases suffix with
  | nil => simp
  | cons first rest =>
      have colon : first = ':' := by simpa using cut
      simp [colon]

theorem marker_plain {marker : List Char} (known : marker ∈ radixMarkers) :
    ∀ letter ∈ marker, letter ≠ ':' := by
  simp only [radixMarkers, List.mem_cons, List.not_mem_nil, or_false] at known
  rcases known with rfl | rfl | rfl <;> simp

/-- The address of a token is read back exactly. -/
theorem AddressToken.parsed (addressed : AddressToken address token) :
    parseRemoteBufferAddress token = address := by
  obtain ⟨marker, digits, suffix, known, spelled, cut, spelt⟩ := addressed
  have valued := valued_of_spelled spelled
  obtain ⟨first, rest, marked, first_valued, radix⟩ := marked_text known valued spelled.nonempty
  have plain : ∀ letter ∈ marker ++ digits, letter ≠ ':' := by
    intro letter member
    rcases List.mem_append.mp member with marking | digit
    · exact marker_plain known letter marking
    · exact ne_of_valued (valued letter digit) (by decide)
  rw [parseRemoteBufferAddress, spelt, takeWhile_cut plain cut, marked,
    if_neg (List.cons_ne_nil first rest)]
  exact strtoull16_spelled first_valued radix spelled

/-! ## Where the backend reads -/

section Reads

variable {computeCrc32c : Bool} {server : Server} {objectId rdmaToken : String}
  {length start : UInt64}

/-- The outcome depends on what `handlePutObject` does with the remote buffer at `start`. -/
def ReadsAt (computeCrc32c : Bool) (server : Server) (objectId rdmaToken : String)
    (length start : UInt64) : Prop :=
  ∃ other : PutArguments → PutReply,
    (∀ arguments, arguments.remoteBufStart ≠ start →
      other arguments = server.handlePutObject arguments) ∧
    receiveAndDiscard computeCrc32c { server with handlePutObject := other } objectId rdmaToken
      length ≠ receiveAndDiscard computeCrc32c server objectId rdmaToken length

/-- `handlePutObject` is asked with one remote address only. -/
theorem receiveAndDiscard_congr {other : PutArguments → PutReply}
    (same : ∀ arguments, arguments.remoteBufStart = parseRemoteBufferAddress rdmaToken →
      other arguments = server.handlePutObject arguments) :
    receiveAndDiscard computeCrc32c { server with handlePutObject := other } objectId rdmaToken
      length = receiveAndDiscard computeCrc32c server objectId rdmaToken length := by
  have asked := same ⟨objectId, parseRemoteBufferAddress rdmaToken, length, rdmaToken⟩ rfl
  simp only [receiveAndDiscard, asked]

theorem ReadsAt.start_eq (reads : ReadsAt computeCrc32c server objectId rdmaToken length start) :
    start = parseRemoteBufferAddress rdmaToken := by
  obtain ⟨other, same, differs⟩ := reads
  by_contra apart
  refine differs (receiveAndDiscard_congr fun arguments parsed => same arguments ?_)
  intro at_start
  exact apart (at_start.symm.trans parsed)

theorem ReadsAt.reaches (reads : ReadsAt computeCrc32c server objectId rdmaToken length start) :
    Reaches server length := by
  obtain ⟨other, _, differs⟩ := reads
  refine ⟨?_, ?_, ?_, ?_⟩
  · by_contra long
    have long : length > kMaxChunkBytes := by simpa using long
    exact differs (by simp only [receiveAndDiscard, if_pos long])
  · intro empty
    exact differs (by rw [receiveAndDiscard_empty empty, receiveAndDiscard_empty empty])
  · by_contra refused
    have lease : server.lease = false := Bool.eq_false_iff.mpr refused
    exact differs (by simp only [receiveAndDiscard, lease, Bool.not_false, if_true])
  · by_contra refused
    have channel : server.channel = false := Bool.eq_false_iff.mpr refused
    exact differs (by simp only [receiveAndDiscard, channel, Bool.not_false, if_true])

/-- An answer with the other sign. -/
def contrary (reply : PutReply) : PutReply where
  transferred := if reply.transferred < 0 then 0 else -1
  memory := []
  status := ""

theorem contrary_sign (reply : PutReply) :
    (contrary reply).transferred < 0 ↔ ¬ reply.transferred < 0 := by
  rw [contrary]
  split
  · rename_i negative
    exact iff_of_false (by decide) (not_not_intro negative)
  · rename_i nonnegative
    exact iff_of_true (by decide) nonnegative

def contraryAt (server : Server) (start : UInt64) (arguments : PutArguments) : PutReply :=
  if arguments.remoteBufStart = start then contrary (server.handlePutObject arguments)
  else server.handlePutObject arguments

theorem Reaches.ok_iff (reaches : Reaches server length) :
    (receiveAndDiscard computeCrc32c server objectId rdmaToken length).ok = true ↔
      ¬ (server.handlePutObject
        ⟨objectId, parseRemoteBufferAddress rdmaToken, length, rdmaToken⟩).transferred < 0 := by
  rw [reaches.outcome]
  simp only
  split
  · rename_i negative
    exact iff_of_false Bool.false_ne_true (not_not_intro negative)
  · rename_i nonnegative
    exact iff_of_true rfl nonnegative

/-- A call that gets as far as `handlePutObject` reads at the address of its token, and no
other call reads. -/
theorem readsAt_iff : ReadsAt computeCrc32c server objectId rdmaToken length start ↔
    start = parseRemoteBufferAddress rdmaToken ∧ Reaches server length := by
  constructor
  · intro reads
    exact ⟨reads.start_eq, reads.reaches⟩
  · intro both
    obtain ⟨at_start, reaches⟩ := both
    refine ⟨contraryAt server start, fun arguments apart => if_neg apart, ?_⟩
    intro same
    have changed : Reaches { server with handlePutObject := contraryAt server start } length :=
      ⟨reaches.bounded, reaches.nonempty, reaches.lease, reaches.channel⟩
    have asked : contraryAt server start
        ⟨objectId, parseRemoteBufferAddress rdmaToken, length, rdmaToken⟩ =
      contrary (server.handlePutObject
        ⟨objectId, parseRemoteBufferAddress rdmaToken, length, rdmaToken⟩) := if_pos at_start.symm
    have flipped : (receiveAndDiscard computeCrc32c
        { server with handlePutObject := contraryAt server start } objectId rdmaToken
        length).ok = true ↔
      ¬ (receiveAndDiscard computeCrc32c server objectId rdmaToken length).ok = true := by
      rw [changed.ok_iff, reaches.ok_iff]
      simp only [asked, contrary_sign]
    rw [same] at flipped
    exact iff_not_self flipped

end Reads

/-- Every spelling of an address is read back as that address, a backend given the token
reads nowhere else, and so never where it reads for the token of another address. -/
theorem remote_addresses_survive (addressed : AddressToken address token) :
    parseRemoteBufferAddress token = address ∧
    (∀ computeCrc32c server objectId length start,
      ReadsAt computeCrc32c server objectId token length start → start = address) ∧
    ∀ otherAddress otherToken, AddressToken otherAddress otherToken → otherAddress ≠ address →
      ∀ computeCrc32c server objectId length start,
        ReadsAt computeCrc32c server objectId token length start →
        ∀ otherCrc32c otherServer otherId otherLength,
          ¬ ReadsAt otherCrc32c otherServer otherId otherToken otherLength start := by
  have parsed := addressed.parsed
  refine ⟨parsed, ?_, ?_⟩
  · intro computeCrc32c server objectId length start reads
    exact reads.start_eq.trans parsed
  · intro otherAddress otherToken other apart computeCrc32c server objectId length start reads
      otherCrc32c otherServer otherId otherLength otherReads
    have there : start = otherAddress := otherReads.start_eq.trans other.parsed
    exact apart (there.symm.trans (reads.start_eq.trans parsed))

def readyServer : Server where
  available := true
  lease := true
  channel := true
  handlePutObject arguments := ⟨arguments.length.toInt64, [], ""⟩

def highestToken : String := "0X000fFfFFFfFFfFffFFf:42:7"

theorem highestToken_address : AddressToken 0xFFFFFFFFFFFFFFFF highestToken :=
  .intro ['0', 'X'] "000fFfFFFfFFfFffFFf".toList ":42:7".toList (by decide) ⟨3, by decide⟩
    (.inr rfl) rfl

theorem lowToken_address : AddressToken 0x1000 "1000:42" :=
  .intro [] "1000".toList ":42".toList (by decide) ⟨0, by decide⟩ (.inr rfl) rfl

theorem highestToken_survives : parseRemoteBufferAddress highestToken = 0xFFFFFFFFFFFFFFFF ∧
    ReadsAt true readyServer "b/k" highestToken 4 0xFFFFFFFFFFFFFFFF ∧
    ¬ ReadsAt true readyServer "b/k" "1000:42" 4 0xFFFFFFFFFFFFFFFF := by
  obtain ⟨parsed, _, apart⟩ := remote_addresses_survive highestToken_address
  have reads : ReadsAt true readyServer "b/k" highestToken 4 0xFFFFFFFFFFFFFFFF :=
    readsAt_iff.mpr ⟨parsed.symm, by decide, by decide, rfl, rfl⟩
  exact ⟨parsed, reads, apart 0x1000 "1000:42" lowToken_address (by decide) _ _ _ _ _ reads _ _ _ _⟩

end Us3Turbo.Backend

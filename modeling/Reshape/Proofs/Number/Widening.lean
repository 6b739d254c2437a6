import Mathlib
import Reshape.Number.Binary

/-!
# Widening numbers

A number of the 32-bit format and an integer of up to 53 bits have a word of the 64-bit format whose sign,
exponent field and fraction can be written down (`Binary.Regular.encode?`), and a word that is not of a NaN
is what the number that it stands for is stored as (`Binary.toBits_word64`).  The fields give the number
back, so that different numbers stay different when they are widened (`widen_injective`,
`float64OfInt?_inj`).  There is one NaN in each format.
-/

namespace Reshape
namespace Number

open Float.Model.UnpackedFloat

/-! ## Words and their fields -/

theorem twoTo_eq (n : Nat) : twoTo n = 2 ^ n := rfl

theorem toBitVec_ofBitVec (v : BitVec 1) : (Sign.ofBitVec v).toBitVec = v := by
  rcases BitVec.eq_zero_or_eq_one v with rfl | rfl <;> rfl

theorem toNat_leadingBit {n : Nat} (v : BitVec n) : (1#1 ++ v).toNat = 2 ^ n + v.toNat := by
  rw [BitVec.toNat_append, ← Nat.shiftLeft_add_eq_or_of_lt v.isLt]
  simp [Nat.shiftLeft_eq]

theorem log2_leadingBit {n : Nat} (v : BitVec n) : (1#1 ++ v).toNat.log2 = n := by
  have hlt := v.isLt
  have hpos := Nat.two_pow_pos n
  rw [toNat_leadingBit]
  refine (Nat.log2_eq_iff (by omega)).2 ⟨by omega, ?_⟩
  rw [Nat.pow_succ]
  omega

section Words

variable {f : Float.Model.Format} {b : BitVec f.numBits}

theorem toNat_unpackMantissa (b : BitVec f.numBits) :
    (unpackMantissa b).toNat = b.toNat % 2 ^ f.mantissaBitsWithoutImplicit := by
  have hm := f.hm
  simp [unpackMantissa, Nat.sub_add_cancel hm]

theorem toNat_unpackExponent (b : BitVec f.numBits) :
    (unpackExponent b).toNat = b.toNat / 2 ^ f.mantissaBitsWithoutImplicit % 2 ^ f.exponentBits := by
  have he := f.he
  have hwidth : f.mantissaBitsWithoutImplicit + f.exponentBits - 1 -
      f.mantissaBitsWithoutImplicit + 1 = f.exponentBits := by omega
  simp [unpackExponent, hwidth, Nat.shiftRight_eq_div_pow]

/-- A word is put together again from its sign, exponent and mantissa. -/
theorem packComponents_unpack (b : BitVec f.numBits) :
    packComponents f (Sign.ofBitVec (unpackSign b)) (unpackExponent b) (unpackMantissa b) = b := by
  have hm := f.hm
  have he := f.he
  rw [packComponents, toBitVec_ofBitVec]
  ext i hi
  simp only [BitVec.getElem_append, unpackSign, unpackExponent, unpackMantissa, BitVec.getElem_cast]
  grind

/-- A valid word is packed again from what it is unpacked to. -/
theorem pack_unpack (hf : 2 ≤ f.exponentBits) (hb : f.Valid b) : pack f (unpack f b) = b := by
  have hwhole := packComponents_unpack b
  have hexponent := (unpackExponent b).isLt
  have hmantissa := (unpackMantissa b).isLt
  have hfour : 2 ^ 2 ≤ 2 ^ f.exponentBits := Nat.pow_le_pow_right (by decide) hf
  rw [unpack]
  split
  · rename_i htop
    split
    · rename_i hzero
      rw [htop, hzero] at hwhole
      exact hwhole
    · rename_i hne
      exact (hb.eq_packedNaN htop hne).symm
  · rename_i htop
    split
    · rename_i hbottom
      split
      · rename_i hzero
        rw [hbottom, hzero] at hwhole
        exact hwhole
      · rename_i hne
        -- a subnormal word: its exponent is the least one, and its mantissa has no leading bit
        have hbiased : ((unpackExponent b).toNat - ((f.exponentBias : Int) +
            f.mantissaBitsWithoutImplicit) + 1 + f.exponentBias +
            f.mantissaBitsWithoutImplicit).toNat = 1 := by
          simp only [hbottom, BitVec.toNat_zero]
          omega
        have hpos : (unpackMantissa b).toNat ≠ 0 :=
          fun h => hne (BitVec.eq_of_toNat_eq (by simpa using h))
        have hlog := (Nat.log2_lt hpos).2 hmantissa
        rw [pack]
        simp only [hbiased]
        rw [if_neg (by omega), if_neg (by simp only [Float.Model.Format.mantissaBits]; omega),
          BitVec.ofNat_toNat, BitVec.setWidth_eq, ← hbottom]
        exact hwhole
    · -- a normal word: its mantissa has the leading bit, which is cleared again
      have hbiased : ((unpackExponent b).toNat - ((f.exponentBias : Int) +
          f.mantissaBitsWithoutImplicit) + f.exponentBias +
          f.mantissaBitsWithoutImplicit).toNat = (unpackExponent b).toNat := by
        omega
      have hbelow : (unpackExponent b).toNat + 1 < 2 ^ f.exponentBits := by
        have hne : (unpackExponent b).toNat ≠ 2 ^ f.exponentBits - 1 := by
          intro h
          refine htop (BitVec.eq_of_toNat_eq ?_)
          rw [h, BitVec.neg_one_eq_allOnes, BitVec.toNat_allOnes]
        omega
      have hcleared : BitVec.ofNat f.mantissaBitsWithoutImplicit
          (2 ^ f.mantissaBitsWithoutImplicit) = 0 :=
        BitVec.eq_of_toNat_eq ((BitVec.toNat_ofNat ..).trans (Nat.mod_self _))
      rw [pack]
      simp only [hbiased, log2_leadingBit]
      rw [if_neg (by omega), if_pos (by simp only [Float.Model.Format.mantissaBits]; omega),
        BitVec.ofNat_toNat, BitVec.setWidth_eq, toNat_leadingBit, BitVec.ofNat_add]
      simpa [hcleared] using hwhole

theorem Binary.decode_eq_nan_iff {g : Format} {bits : Nat} : decode g bits = .nan ↔
    bits / twoTo g.fraction % twoTo g.exponent = g.top ∧ bits % twoTo g.fraction ≠ 0 := by
  simp only [decode]
  split <;> split <;> simp_all

/-- A word is valid if it is the one NaN of its format or no NaN at all. -/
theorem valid_iff {g : Format} (hfraction : g.fraction = f.mantissaBitsWithoutImplicit)
    (hexponent : g.exponent = f.exponentBits) :
    f.Valid b ↔ (Binary.decode g b.toNat = .nan → b = packedNaN f) := by
  rw [Binary.decode_eq_nan_iff, Format.top, hfraction, hexponent, twoTo_eq, twoTo_eq]
  constructor
  · rintro ⟨h⟩ ⟨htop, hne⟩
    refine h (BitVec.eq_of_toNat_eq ?_) fun heq => hne ?_
    · rw [toNat_unpackExponent, htop, BitVec.neg_one_eq_allOnes, BitVec.toNat_allOnes]
    · rw [← toNat_unpackMantissa, heq, BitVec.toNat_zero]
  · refine fun h => ⟨fun htop hne => h ⟨?_, fun heq => hne (BitVec.eq_of_toNat_eq ?_)⟩⟩
    · rw [← toNat_unpackExponent, htop, BitVec.neg_one_eq_allOnes, BitVec.toNat_allOnes]
    · rw [toNat_unpackMantissa, heq, BitVec.toNat_zero]

end Words

theorem toBits_ofBits {b : UInt64} (h : Float.Model.Format.binary64.Valid b.toBitVec) :
    (Float.ofBits b).toBits = b :=
  congrArg UInt64.ofBitVec (pack_unpack (by decide) h)

namespace Binary

/-! ## Words of the 32-bit format -/

/-- What the bits of the 32-bit format can say. -/
def Short : Binary → Prop
  | .finite _ m e => (m < 2 ^ 23 ∧ e = -149) ∨ (2 ^ 23 ≤ m ∧ m < 2 ^ 24 ∧ -149 ≤ e ∧ e ≤ 104)
  | _ => True

theorem decode_binary32 (bits : Nat) : decode binary32 bits =
    if bits / 2 ^ 23 % 2 ^ 8 = 255 then
      if bits % 2 ^ 23 = 0 then .infinite (bits / 2 ^ 31 % 2 == 1) else .nan
    else if bits / 2 ^ 23 % 2 ^ 8 = 0 then .finite (bits / 2 ^ 31 % 2 == 1) (bits % 2 ^ 23) (-149)
    else .finite (bits / 2 ^ 31 % 2 == 1) (2 ^ 23 + bits % 2 ^ 23)
      (-149 + (bits / 2 ^ 23 % 2 ^ 8 : Nat) - 1) := rfl

theorem short_decode (bits : Nat) : (decode binary32 bits).Short := by
  have hfraction : bits % 2 ^ 23 < 2 ^ 23 := Nat.mod_lt _ (Nat.two_pow_pos 23)
  have hfield : bits / 2 ^ 23 % 2 ^ 8 < 2 ^ 8 := Nat.mod_lt _ (Nat.two_pow_pos 8)
  rw [decode_binary32]
  by_cases htop : bits / 2 ^ 23 % 2 ^ 8 = 255
  · rw [if_pos htop]
    split <;> trivial
  · rw [if_neg htop]
    split
    · exact .inl ⟨hfraction, rfl⟩
    · exact .inr (by omega)

/-- Words that say the same and are no NaN are the same. -/
theorem decode_inj {bits bits' : Nat} (hlt : bits < 2 ^ 32) (hlt' : bits' < 2 ^ 32)
    (h : decode binary32 bits = decode binary32 bits') (hnan : decode binary32 bits ≠ .nan) :
    bits = bits' := by
  have hparts : (bits / 2 ^ 31 % 2 == 1) = (bits' / 2 ^ 31 % 2 == 1) ∧
      bits / 2 ^ 23 % 2 ^ 8 = bits' / 2 ^ 23 % 2 ^ 8 ∧ bits % 2 ^ 23 = bits' % 2 ^ 23 := by
    have hfraction : bits % 2 ^ 23 < 2 ^ 23 := Nat.mod_lt _ (Nat.two_pow_pos 23)
    have hfraction' : bits' % 2 ^ 23 < 2 ^ 23 := Nat.mod_lt _ (Nat.two_pow_pos 23)
    rw [decode_binary32] at hnan
    rw [decode_binary32, decode_binary32] at h
    generalize (bits / 2 ^ 31 % 2 == 1) = s, (bits' / 2 ^ 31 % 2 == 1) = s',
      bits / 2 ^ 23 % 2 ^ 8 = e, bits' / 2 ^ 23 % 2 ^ 8 = e', bits % 2 ^ 23 = f,
      bits' % 2 ^ 23 = f' at h hnan hfraction hfraction' ⊢
    grind
  obtain ⟨hsign, hfield, hfraction⟩ := hparts
  rw [Bool.eq_iff_iff, beq_iff_eq, beq_iff_eq] at hsign
  omega

/-! ## Words of the 64-bit format -/

/-- The word of the 64-bit format with a sign, a field and a fraction. -/
def word64 (negative : Bool) (field fraction : Nat) : Nat :=
  signBit binary64 negative + field * 2 ^ 52 + fraction

theorem word64_eq (negative : Bool) (field fraction : Nat) : word64 negative field fraction =
    (if negative then 2 ^ 63 else 0) + field * 2 ^ 52 + fraction := rfl

theorem word64_inj {n n' : Bool} {e e' m m' : Nat} (he : e < 2 ^ 11) (he' : e' < 2 ^ 11)
    (hm : m < 2 ^ 52) (hm' : m' < 2 ^ 52) (h : word64 n e m = word64 n' e' m') :
    n = n' ∧ e = e' ∧ m = m' := by
  rw [word64_eq, word64_eq] at h
  cases n <;> cases n' <;> simp at h ⊢ <;> omega

/-- A word of no NaN but the one there is is what the number that it stands for is stored as. -/
theorem toBits_word64 {negative : Bool} {field fraction : Nat} (hfield : field < 2 ^ 11)
    (hfraction : fraction < 2 ^ 52) (hnan : field = 2047 → fraction = 0 ∨
      negative = false ∧ fraction = 2 ^ 51) :
    (Float.ofBits (word64 negative field fraction).toUInt64).toBits.toNat =
      word64 negative field fraction := by
  have hlt : word64 negative field fraction < 2 ^ 64 := by
    rw [word64_eq]
    split <;> omega
  have hbits : (word64 negative field fraction).toUInt64.toNat = word64 negative field fraction := by
    simpa using hlt
  have hnat : (word64 negative field fraction).toUInt64.toBitVec.toNat =
      word64 negative field fraction := hbits
  rw [toBits_ofBits, hbits]
  refine (valid_iff (g := binary64) rfl rfl).2 fun h => ?_
  rw [hnat, decode_eq_nan_iff] at h
  change word64 negative field fraction / 2 ^ 52 % 2 ^ 11 = 2047 ∧
    word64 negative field fraction % 2 ^ 52 ≠ 0 at h
  have hfields : field = 2047 ∧ fraction ≠ 0 := by
    rw [word64_eq] at h
    split at h <;> omega
  obtain hzero | ⟨rfl, rfl⟩ := hnan hfields.1
  · exact absurd hzero hfields.2
  · obtain rfl := hfields.1
    decide +kernel

/-- What is not finite, zero, and the numbers that the 64-bit format has with a leading bit. -/
def Regular : Binary → Prop
  | .finite _ m e => m = 0 ∨ m.log2 ≤ 52 ∧ -1022 ≤ e + m.log2 ∧ e + m.log2 ≤ 1023
  | _ => True

/-- The exponent field of a number in the 64-bit format. -/
def field64 : Binary → Nat
  | .nan | .infinite _ => 2047
  | .finite _ m e => if m = 0 then 0 else (e + m.log2 + 1023).toNat

/-- The fraction of a number in the 64-bit format. -/
def fraction64 : Binary → Nat
  | .nan => 2 ^ 51
  | .infinite _ => 0
  | .finite _ m _ => if m = 0 then 0 else m * 2 ^ (52 - m.log2) - 2 ^ 52

/-- The sign of a number. -/
def isNegative : Binary → Bool
  | .nan => false
  | .infinite negative | .finite negative _ _ => negative

/-- A significand of at most 53 bits, moved until its leading bit is the highest of them. -/
theorem scaled_bounds {m : Nat} (hm : m ≠ 0) (hlog : m.log2 ≤ 52) :
    2 ^ 52 ≤ m * 2 ^ (52 - m.log2) ∧ m * 2 ^ (52 - m.log2) < 2 ^ 53 := by
  obtain ⟨hlow, hhigh⟩ := (Nat.log2_eq_iff hm).1 rfl
  have hlow := Nat.mul_le_mul_right (2 ^ (52 - m.log2)) hlow
  have hhigh := Nat.mul_lt_mul_of_pos_right hhigh (Nat.two_pow_pos (52 - m.log2))
  rw [← Nat.pow_add] at hlow hhigh
  rw [show m.log2 + (52 - m.log2) = 52 by omega] at hlow
  rw [show m.log2 + 1 + (52 - m.log2) = 53 by omega] at hhigh
  exact ⟨hlow, hhigh⟩

/-- The word of a regular number. -/
theorem Regular.encode? {b : Binary} (h : b.Regular) :
    b.encode? binary64 = some (word64 b.isNegative b.field64 b.fraction64) := by
  cases b with
  | nan => rfl
  | infinite negative => cases negative <;> rfl
  | finite negative m e =>
    by_cases hm : m = 0
    · simp [Binary.encode?, field64, fraction64, isNegative, word64, hm]
    · obtain ⟨hlog, hlow, hhigh⟩ := h.resolve_left hm
      obtain ⟨hleft, hright⟩ := scaled_bounds hm hlog
      have hleast : binary64.least = -1074 := by decide
      have htop : binary64.top = 2047 := by decide
      have hplace : max binary64.least (e + (m.log2 : Int) - binary64.fraction) =
          e + m.log2 - 52 := by
        rw [hleast]
        simp only [binary64]
        omega
      have hup : twoTo (e - (e + m.log2 - 52)).toNat = 2 ^ (52 - m.log2) := by
        rw [twoTo_eq]
        congr 1
        omega
      have hdown : twoTo ((e + m.log2 - 52) - e).toNat = 1 := by
        rw [show (e + m.log2 - 52 - e).toNat = 0 by omega]
        rfl
      have hfull : ¬ m * 2 ^ (52 - m.log2) < twoTo binary64.fraction := Nat.not_lt.2 hleft
      have hfield : (e + m.log2 - 52 - binary64.least + 1).toNat = (e + m.log2 + 1023).toNat := by
        rw [hleast]
        congr 1
        omega
      have hclear : m * 2 ^ (52 - m.log2) % twoTo binary64.fraction =
          m * 2 ^ (52 - m.log2) - 2 ^ 52 := by
        change m * 2 ^ (52 - m.log2) % 2 ^ 52 = _
        omega
      -- nothing is dropped, because the significand is moved up only
      simp only [Binary.encode?, if_neg hm, hplace, hup, hdown, Nat.div_one, if_neg hfull, hfield,
        Nat.mod_one, htop, true_and]
      rw [if_pos (by omega)]
      simp only [hclear, isNegative, field64, fraction64, if_neg hm]
      rfl

theorem Regular.fields {b : Binary} (h : b.Regular) : b.field64 < 2 ^ 11 ∧ b.fraction64 < 2 ^ 52 ∧
    (b.field64 = 2047 → b.fraction64 = 0 ∨ b.isNegative = false ∧ b.fraction64 = 2 ^ 51) := by
  cases b with
  | nan => decide
  | infinite negative => simp [field64, fraction64]
  | finite negative m e =>
    by_cases hm : m = 0
    · simp [field64, fraction64, hm]
    · obtain ⟨hlog, hlow, hhigh⟩ := h.resolve_left hm
      obtain ⟨hleft, hright⟩ := scaled_bounds hm hlog
      simp only [field64, fraction64, if_neg hm]
      omega

theorem Regular.finite_field_lt {negative : Bool} {m : Nat} {e : Int}
    (h : (finite negative m e).Regular) : (finite negative m e).field64 < 2047 := by
  by_cases hm : m = 0
  · simp [field64, hm]
  · obtain ⟨-, -, hhigh⟩ := h.resolve_left hm
    simp only [field64, if_neg hm]
    omega

/-- Finite numbers with one field and one fraction are both zero, or have their leading bits at one place
and the same significand when it is moved up. -/
theorem Regular.scaled_eq {n n' : Bool} {m m' : Nat} {e e' : Int} (h : (finite n m e).Regular)
    (h' : (finite n' m' e').Regular)
    (hfield : (finite n m e).field64 = (finite n' m' e').field64)
    (hfraction : (finite n m e).fraction64 = (finite n' m' e').fraction64) :
    (m = 0 ∧ m' = 0) ∨ m ≠ 0 ∧ m' ≠ 0 ∧ e + m.log2 = e' + m'.log2 ∧
      m * 2 ^ (52 - m.log2) = m' * 2 ^ (52 - m'.log2) := by
  simp only [field64, fraction64] at hfield hfraction
  by_cases hm : m = 0 <;> by_cases hm' : m' = 0
  · exact .inl ⟨hm, hm'⟩
  · obtain ⟨-, hlow', -⟩ := h'.resolve_left hm'
    rw [if_pos hm, if_neg hm'] at hfield
    omega
  · obtain ⟨-, hlow, -⟩ := h.resolve_left hm
    rw [if_neg hm, if_pos hm'] at hfield
    omega
  · obtain ⟨hlog, hlow, -⟩ := h.resolve_left hm
    obtain ⟨hlog', hlow', -⟩ := h'.resolve_left hm'
    rw [if_neg hm, if_neg hm'] at hfield hfraction
    have hfull := (scaled_bounds hm hlog).1
    have hfull' := (scaled_bounds hm' hlog').1
    exact .inr ⟨hm, hm', by omega, by omega⟩

/-- A significand is found again from its length and its moved form. -/
theorem eq_of_scaled {m n : Nat} (h : m.log2 = n.log2)
    (hscaled : m * 2 ^ (52 - m.log2) = n * 2 ^ (52 - n.log2)) : m = n := by
  rw [h] at hscaled
  exact Nat.eq_of_mul_eq_mul_right (Nat.two_pow_pos _) hscaled

/-! ## Numbers of the 32-bit format in the 64-bit format -/

/-- The significand of a number of the 32-bit format has 24 bits, or fewer at the least exponent. -/
theorem Short.log2_cases {negative : Bool} {m : Nat} {e : Int} (h : (finite negative m e).Short)
    (hm : m ≠ 0) : (m.log2 < 23 ∧ e = -149) ∨ (m.log2 = 23 ∧ -149 ≤ e ∧ e ≤ 104) := by
  rcases h with ⟨hm', he⟩ | ⟨hlow, hhigh, he⟩
  · exact .inl ⟨(Nat.log2_lt hm).2 hm', he⟩
  · exact .inr ⟨(Nat.log2_eq_iff hm).2 ⟨hlow, hhigh⟩, he⟩

theorem Short.regular {b : Binary} (h : b.Short) : b.Regular := by
  cases b with
  | nan | infinite => trivial
  | finite negative m e =>
    by_cases hm : m = 0
    · exact .inl hm
    · have := h.log2_cases hm
      exact .inr (by omega)

/-- Numbers of the 32-bit format are told apart by their sign, field and fraction in the 64-bit format. -/
theorem Short.eq_of_fields {b c : Binary} (hb : b.Short) (hc : c.Short)
    (hsign : b.isNegative = c.isNegative) (hfield : b.field64 = c.field64)
    (hfraction : b.fraction64 = c.fraction64) : b = c := by
  have hregular := hb.regular
  have hregular' := hc.regular
  cases b <;> cases c
  case nan.nan => rfl
  case infinite.infinite => exact congrArg infinite hsign
  case nan.infinite | infinite.nan => cases hfraction
  case nan.finite | infinite.finite =>
    exact absurd hfield.symm (Nat.ne_of_lt hregular'.finite_field_lt)
  case finite.nan | finite.infinite => exact absurd hfield (Nat.ne_of_lt hregular.finite_field_lt)
  case finite.finite n m e n' m' e' =>
    obtain rfl : n = n' := hsign
    obtain ⟨rfl, rfl⟩ | ⟨hm, hm', hplace, hscaled⟩ := hregular.scaled_eq hregular' hfield hfraction
    · have he : e = -149 := by rcases hb with hb | hb <;> omega
      have he' : e' = -149 := by rcases hc with hc | hc <;> omega
      rw [he, he']
    · -- fewer than 24 bits at the least exponent are below every number with 24 bits
      have hlog := hb.log2_cases hm
      have hlog' := hc.log2_cases hm'
      obtain rfl : m = m' := eq_of_scaled (by omega) hscaled
      obtain rfl : e = e' := by omega
      rfl

end Binary

/-! ## Conversions to the 64-bit format -/

/-- The 64-bit number with the bits of a number. -/
def float64Of (b : Binary) : Float :=
  Float.ofBits ((b.encode? binary64).getD 0).toUInt64

/-- Regular numbers that are the same in 64 bits have the same fields there. -/
theorem fields_of_float64Of_eq {b c : Binary} (hb : b.Regular) (hc : c.Regular)
    (h : float64Of b = float64Of c) :
    b.isNegative = c.isNegative ∧ b.field64 = c.field64 ∧ b.fraction64 = c.fraction64 := by
  obtain ⟨hfield, hfraction, hnan⟩ := hb.fields
  obtain ⟨hfield', hfraction', hnan'⟩ := hc.fields
  have hbits := congrArg (fun x : Float => x.toBits.toNat) h
  simp only [float64Of, hb.encode?, hc.encode?, Option.getD_some] at hbits
  rw [Binary.toBits_word64 hfield hfraction hnan, Binary.toBits_word64 hfield' hfraction' hnan'] at hbits
  exact Binary.word64_inj hfield hfield' hfraction hfraction' hbits

/-- What the bits of a 32-bit number say tells it from all others. -/
theorem decode_toBits_injective :
    Function.Injective fun x : Float32 => Binary.decode binary32 x.toBits.toNat := by
  intro x y h
  suffices hbits : x.toBits = y.toBits by
    obtain ⟨⟨bits, valid⟩⟩ := x
    obtain ⟨⟨bits', valid'⟩⟩ := y
    obtain rfl : bits = bits' := hbits
    rfl
  by_cases hnan : Binary.decode binary32 x.toBits.toNat = .nan
  · have hx := (valid_iff (g := binary32) rfl rfl).1 x.toModel.valid hnan
    have hy := (valid_iff (g := binary32) rfl rfl).1 y.toModel.valid (h.symm.trans hnan)
    exact UInt32.toBitVec_inj.1 (hx.trans hy.symm)
  · exact UInt32.toNat_inj.1 (Binary.decode_inj x.toBits.toNat_lt y.toBits.toNat_lt h hnan)

/-- **Widening keeps numbers apart.** -/
theorem widen_injective : Function.Injective widen := by
  intro x y h
  have hx : (Binary.decode binary32 x.toBits.toNat).Short := Binary.short_decode _
  have hy : (Binary.decode binary32 y.toBits.toNat).Short := Binary.short_decode _
  obtain ⟨hsign, hfield, hfraction⟩ := fields_of_float64Of_eq hx.regular hy.regular h
  exact decode_toBits_injective (hx.eq_of_fields hy hsign hfield hfraction)

/-- Integers of up to 53 bits are kept apart. -/
theorem float64OfInt?_inj {n n' : Int} {x : Float} (hn : n.natAbs < 2 ^ 53)
    (hn' : n'.natAbs < 2 ^ 53) (h : float64OfInt? n = some x) (h' : float64OfInt? n' = some x) :
    n = n' := by
  have hregular : ∀ {k : Int}, k.natAbs < 2 ^ 53 → (Binary.finite (k < 0) k.natAbs 0).Regular := by
    intro k hk
    by_cases hz : k.natAbs = 0
    · exact .inl hz
    · have := (Nat.log2_lt hz).2 hk
      exact .inr (by omega)
  have hvalue : ∀ {k : Int}, k.natAbs < 2 ^ 53 → float64OfInt? k = some x →
      float64Of (.finite (k < 0) k.natAbs 0) = x := by
    intro k hk hx
    rw [float64OfInt?, (hregular hk).encode?, Option.map_some] at hx
    rw [float64Of, (hregular hk).encode?]
    exact Option.some.inj hx
  obtain ⟨hsign, hfield, hfraction⟩ := fields_of_float64Of_eq (hregular hn) (hregular hn')
    ((hvalue hn h).trans (hvalue hn' h').symm)
  have habs : n.natAbs = n'.natAbs := by
    obtain ⟨hz, hz'⟩ | ⟨-, -, hplace, hscaled⟩ :=
      (hregular hn).scaled_eq (hregular hn') hfield hfraction
    · rw [hz, hz']
    · exact Binary.eq_of_scaled (by omega) hscaled
  have hsign : decide (n < 0) = decide (n' < 0) := hsign
  rw [decide_eq_decide] at hsign
  omega

end Number
end Reshape

import Markbook.Store.Number
import Mathlib

namespace Markbook.Store

open Float.Model (Format UnpackedFloat totalExponent)
open Float.Model.UnpackedFloat

theorem log2_mul_two_pow {m : Nat} (hm : m ≠ 0) (k : Nat) : (m * 2 ^ k).log2 = m.log2 + k := by
  have hpow : 0 < 2 ^ k := Nat.two_pow_pos k
  rw [Nat.log2_eq_iff (Nat.mul_ne_zero hm hpow.ne')]
  obtain ⟨hle, hlt⟩ := (Nat.log2_eq_iff hm).mp rfl
  constructor
  · rw [pow_add]
    exact Nat.mul_le_mul_right _ hle
  · rw [add_right_comm, pow_add]
    exact Nat.mul_lt_mul_of_pos_right hlt hpow

/-- A significand of 53 bits at most, at the place `k`; it has all 53 bits unless it is at the
lowest place. -/
structure Canonical (m k : Nat) : Prop where
  pos : 0 < m
  lt : m < 2 ^ 53
  lead : k = 0 ∨ 2 ^ 52 ≤ m

/-- The unpacked float is finite and stands for `n` units, in the one form that it can have. -/
inductive Stands : UnpackedFloat → Int → Prop
  | zero (sign : Sign) : Stands (.zero sign) 0
  | finite {sign : Sign} {m k : Nat} {e : Int} (h : Canonical m k) (hk : k ≤ 2045)
      (he : e = k - 1074) : Stands (.finite sign m e h.pos) (sign.apply (m * 2 ^ k : Nat))

section

variable {m k : Nat}

theorem targetExponent_eq (h : Canonical m k) {n j : Nat} (hn : n * 2 ^ j = m * 2 ^ k) :
    Format.binary64.targetExponent (totalExponent n (j - 1074)) = k - 1074 := by
  have hm : m ≠ 0 := h.pos.ne'
  have hn0 : n ≠ 0 := by
    rintro rfl
    simp [hm] at hn
  have hlog : n.log2 + j = m.log2 + k := by
    rw [← log2_mul_two_pow hn0, hn, log2_mul_two_pow hm]
  have hlt : m.log2 < 53 := (Nat.log2_lt hm).mpr h.lt
  change max ((n.log2 : Int) + 1 + (j - 1074) - 53) (-1074) = (k : Int) - 1074
  rcases h.lead with rfl | hle
  · omega
  · have hge : 52 ≤ m.log2 := (Nat.le_log2 hm).mpr hle
    omega

theorem repeat_shiftRightOne (m s : Nat) :
    s.repeat ExtendedMantissa.shiftRightOne ⟨m * 2 ^ s, false, false⟩ = ⟨m, false, false⟩ := by
  induction s generalizing m with
  | zero => simp [Nat.repeat]
  | succ s ih =>
      have hm : m * 2 ^ (s + 1) = m * 2 * 2 ^ s := by ring
      rw [Nat.repeat, hm, ih]
      simp [ExtendedMantissa.shiftRightOne]

theorem shiftToTargetExponent_eq (h : Canonical m k) {j : Nat} (hj : j ≤ k) :
    shiftToTargetExponent .binary64 (m * 2 ^ (k - j)) (j - 1074) .exact =
      (ExtendedMantissa.mk m false false, (k : Int) - 1074) := by
  have hn : m * 2 ^ (k - j) * 2 ^ j = m * 2 ^ k := by
    rw [mul_assoc, ← pow_add, Nat.sub_add_cancel hj]
  have hshift : ((k : Int) - 1074 - (j - 1074)).toNat = k - j := by omega
  rw [shiftToTargetExponent, targetExponent_eq h hn, shiftToExponent, hshift]
  refine Prod.ext ?_ ?_
  · exact repeat_shiftRightOne m (k - j)
  · dsimp only
    omega

theorem roundWithAccuracy_eq (h : Canonical m k) {j : Nat} (hj : j ≤ k) (sign : Sign) :
    roundWithAccuracy .binary64 sign (m * 2 ^ (k - j)) (j - 1074) .exact =
      .finite sign m (k - 1074) h.pos := by
  have hfirst := shiftToTargetExponent_eq h hj
  have hagain := shiftToTargetExponent_eq h le_rfl
  rw [Nat.sub_self, pow_zero, mul_one] at hagain
  rw [roundWithAccuracy, hfirst]
  change (if h : (shiftToTargetExponent .binary64 m (k - 1074) .exact).1.mantissa = 0 then _
    else UnpackedFloat.finite sign (shiftToTargetExponent .binary64 m (k - 1074) .exact).1.mantissa
      (shiftToTargetExponent .binary64 m (k - 1074) .exact).2 (Nat.pos_of_ne_zero h)) = _
  simp only [hagain]
  exact dif_neg h.pos.ne'

theorem round_eq (h : Canonical m k) {n j : Nat} (hn : n * 2 ^ j = m * 2 ^ k) (sign : Sign) :
    UnpackedFloat.round .binary64 sign n (j - 1074) = .finite sign m (k - 1074) h.pos := by
  have hshift : ((j : Int) - 1074 - (k - 1074)).toNat = j - k := by omega
  rw [UnpackedFloat.round, targetExponent_eq h hn]
  change roundWithAccuracy .binary64 sign (n <<< ((j : Int) - 1074 - (k - 1074)).toNat)
    ((j : Int) - 1074 - (((j : Int) - 1074 - (k - 1074)).toNat : Nat)) .exact = _
  rw [hshift, Nat.shiftLeft_eq]
  rcases le_total j k with hjk | hkj
  · have hn' : n = m * 2 ^ (k - j) := by
      apply Nat.eq_of_mul_eq_mul_right (Nat.two_pow_pos j)
      rw [hn, mul_assoc, ← pow_add, Nat.sub_add_cancel hjk]
    have hexp : (j : Int) - 1074 - ((j - k : Nat) : Int) = j - 1074 := by omega
    rw [hexp, Nat.sub_eq_zero_of_le hjk, pow_zero, mul_one, hn']
    exact roundWithAccuracy_eq h hjk sign
  · have hn' : n * 2 ^ (j - k) = m * 2 ^ (k - k) := by
      apply Nat.eq_of_mul_eq_mul_right (Nat.two_pow_pos k)
      rw [mul_assoc, ← pow_add, Nat.sub_add_cancel hkj, hn, Nat.sub_self, pow_zero, mul_one]
    have hexp : (j : Int) - 1074 - ((j - k : Nat) : Int) = k - 1074 := by omega
    rw [hexp, hn']
    exact roundWithAccuracy_eq h le_rfl sign

end

theorem unpacked_sub (f g : UnpackedFloat) : sub .binary64 f g = add .binary64 f g.neg := by
  cases f with
  | finite s m e hm =>
      cases g with
      | finite s' m' e' hm' =>
          cases s' with
          | positive => rfl
          | negative =>
              simp only [sub, add, neg, Sign.apply, Int.sub_neg]
      | _ => rfl
  | _ => cases g <;> rfl

namespace Stands

variable {f g : UnpackedFloat} {n n' : Int}

theorem exists_canonical (h : Stands f n) (hn : n ≠ 0) :
    ∃ m k, Canonical m k ∧ k ≤ 2045 ∧ n.natAbs = m * 2 ^ k := by
  cases h with
  | zero => exact absurd rfl hn
  | @finite sign m k _ h hk =>
      refine ⟨m, k, h, hk, ?_⟩
      cases sign <;> simp only [Sign.apply, Int.natAbs_neg, Int.natAbs_natCast]

theorem unique (h : Stands f n) (h' : Stands f n') : n = n' := by
  cases h with
  | zero => cases h'; rfl
  | @finite _ m k _ _ _ he =>
      cases h' with
      | @finite _ _ k' _ _ _ he' =>
          obtain rfl : k = k' := by omega
          rfl

theorem neg (h : Stands f n) : Stands f.neg (-n) := by
  cases h with
  | zero sign => exact .zero _
  | @finite sign m k _ h hk he =>
      have hneg : -sign.apply (m * 2 ^ k : Nat) = (-sign).apply (m * 2 ^ k : Nat) := by
        cases sign
        · exact Int.neg_neg _
        · rfl
      rw [hneg]
      exact .finite h hk he

/-- Rounding leaves what a float can hold, and brings it into canonical form. -/
theorem normalize {j : Nat} (h : Stands f (n * 2 ^ j)) (sign : Sign) :
    Stands (normalize .binary64 n (j - 1074) sign) (n * 2 ^ j) := by
  rcases eq_or_ne n 0 with rfl | hn
  · rw [zero_mul]
    exact .zero sign
  have hpow : (2 : Int) ^ j ≠ 0 := by positivity
  obtain ⟨m, k, hc, hk, habs⟩ := h.exists_canonical (mul_ne_zero hn hpow)
  replace habs : n.natAbs * 2 ^ j = m * 2 ^ k := by
    rwa [Int.natAbs_mul, Int.natAbs_pow] at habs
  rcases lt_or_gt_of_ne hn with hlt | hgt
  · have hround : UnpackedFloat.normalize .binary64 n (j - 1074) sign =
        round .binary64 .negative n.natAbs (j - 1074) := by
      have hnat : n.natAbs = (-n).toNat := by omega
      rw [UnpackedFloat.normalize, compare_lt_iff_lt.mpr hlt, hnat]
    have hvalue : n * 2 ^ j = Sign.negative.apply (m * 2 ^ k : Nat) := by
      rw [← habs, Sign.apply, Int.natCast_mul, Int.natCast_natAbs, abs_of_neg hlt]
      push_cast
      ring
    rw [hround, round_eq hc habs, hvalue]
    exact .finite hc hk rfl
  · have hround : UnpackedFloat.normalize .binary64 n (j - 1074) sign =
        round .binary64 .positive n.natAbs (j - 1074) := by
      have hnat : n.natAbs = n.toNat := by omega
      rw [UnpackedFloat.normalize, compare_gt_iff_gt.mpr hgt, hnat]
    have hvalue : n * 2 ^ j = Sign.positive.apply (m * 2 ^ k : Nat) := by
      rw [← habs, Sign.apply, Int.natCast_mul, Int.natCast_natAbs, abs_of_pos hgt]
      push_cast
      ring
    rw [hround, round_eq hc habs, hvalue]
    exact .finite hc hk rfl

theorem aligned (sign : Sign) {m k : Nat} {e : Int} (he : e = k - 1074) {j : Nat} (hj : j ≤ k) :
    sign.apply ((decreaseExponent m e (j - 1074)).1 : Int) * 2 ^ j =
      sign.apply (m * 2 ^ k : Nat) := by
  have hshift : (e - (j - 1074)).toNat = k - j := by omega
  obtain ⟨i, rfl⟩ := Nat.exists_eq_add_of_le hj
  change sign.apply ((m <<< (e - (j - 1074)).toNat : Nat) : Int) * 2 ^ j = _
  rw [hshift, Nat.shiftLeft_eq, Nat.add_sub_cancel_left]
  cases sign <;> simp only [Sign.apply] <;> push_cast <;> ring

theorem add (hf : Stands f n) (hg : Stands g n') {r : UnpackedFloat} (hr : Stands r (n + n')) :
    Stands (add .binary64 f g) (n + n') := by
  cases hf with
  | zero sign =>
      rw [zero_add]
      cases hg with
      | zero sign' =>
          rw [UnpackedFloat.add]
          split <;> exact .zero _
      | finite h hk he => exact .finite h hk he
  | @finite sign m k e h hk he =>
      cases hg with
      | zero sign' =>
          rw [add_zero]
          exact .finite h hk he
      | @finite sign' m' k' e' h' hk' he' =>
          have hmin : min e e' = (min k k' : Nat) - 1074 := by omega
          have hsum := aligned sign (m := m) he (min_le_left k k')
          have hsum' := aligned sign' (m := m') he' (min_le_right k k')
          rw [← hsum, ← hsum', ← add_mul] at hr ⊢
          rw [UnpackedFloat.add]
          simp only [hmin]
          exact hr.normalize .positive

theorem sub (hf : Stands f n) (hg : Stands g n') {r : UnpackedFloat} (hr : Stands r (n - n')) :
    Stands (sub .binary64 f g) (n - n') := by
  rw [Int.sub_eq_add_neg] at hr ⊢
  rw [unpacked_sub]
  exact hf.add hg.neg hr

end Stands

def sizeAt (exponent fraction : Nat) : Nat :=
  if exponent = 0 then fraction else (fraction + 2 ^ 52) * 2 ^ (exponent - 1)

def packedUnits (b : BitVec 64) : Int :=
  (Sign.ofBitVec (@unpackSign .binary64 b)).apply
    (sizeAt (@unpackExponent .binary64 b).toNat (@unpackMantissa .binary64 b).toNat)

theorem unitsOf_eq (x : Float) : unitsOf x = packedUnits x.toModel.toBits.toBitVec := by
  set b := x.toModel.toBits.toBitVec with hb
  have hexponent : (@unpackExponent .binary64 b).toNat = b.toNat / 2 ^ 52 % 2 ^ 11 := by
    simp [unpackExponent, BitVec.extractLsb_toNat, Nat.shiftRight_eq_div_pow]
  have hfraction : (@unpackMantissa .binary64 b).toNat = b.toNat % 2 ^ 52 := by
    simp [unpackMantissa, BitVec.extractLsb_toNat]
  have hsign : @unpackSign .binary64 b = 0#1 ↔ b.toNat < 2 ^ 63 := by
    have hlt := b.isLt
    have hnat : (@unpackSign .binary64 b).toNat = b.toNat / 2 ^ 63 := by
      simp [unpackSign, BitVec.extractLsb_toNat, Nat.shiftRight_eq_div_pow]
      omega
    rw [← BitVec.toNat_inj, hnat]
    simp
  have hsize : unitsOf x = if b.toNat < 2 ^ 63 then
      (sizeAt (b.toNat / 2 ^ 52 % 2 ^ 11) (b.toNat % 2 ^ 52) : Int)
      else -(sizeAt (b.toNat / 2 ^ 52 % 2 ^ 11) (b.toNat % 2 ^ 52) : Int) := rfl
  rw [hsize, packedUnits, hexponent, hfraction, Sign.ofBitVec]
  simp only [hsign]
  split <;> rfl

theorem isFinite_unpack (b : BitVec 64) :
    (unpack .binary64 b).isFinite = true ↔ @unpackExponent .binary64 b ≠ -1#11 := by
  rw [unpack]
  split
  next h =>
    split <;> simp [UnpackedFloat.isFinite, h]
  next h =>
    refine iff_of_true ?_ h
    split
    · split <;> rfl
    · rfl

theorem toNat_lead_append (m : BitVec 52) : (1#1 ++ m).toNat = m.toNat + 2 ^ 52 := by
  have hm := m.isLt
  rw [BitVec.toNat_append, ← Nat.shiftLeft_add_eq_or_of_lt hm, Nat.shiftLeft_eq]
  simp
  omega

theorem stands_unpack {b : BitVec 64} (hb : @unpackExponent .binary64 b ≠ -1#11) :
    Stands (unpack .binary64 b) (packedUnits b) := by
  rw [unpack, packedUnits, if_neg hb]
  set e : BitVec 11 := @unpackExponent .binary64 b
  set m : BitVec 52 := @unpackMantissa .binary64 b
  have he : e.toNat < 2047 := by
    have hlt := e.isLt
    have hne : e.toNat ≠ 2047 := fun h => hb (BitVec.eq_of_toNat_eq h)
    omega
  have hm := m.isLt
  split
  next he0 =>
    have he0 : e.toNat = 0 := congrArg BitVec.toNat he0
    have hsize : sizeAt e.toNat m.toNat = m.toNat * 2 ^ 0 := by
      rw [he0, pow_zero, mul_one]
      rfl
    rw [hsize]
    split
    next hm0 =>
      rw [show m.toNat = 0 from congrArg BitVec.toNat hm0]
      generalize Sign.ofBitVec _ = sign
      cases sign <;> exact .zero _
    next hm0 =>
      have hpos : 0 < m.toNat := Nat.pos_of_ne_zero fun h => hm0 (BitVec.eq_of_toNat_eq h)
      have hc : Canonical m.toNat 0 := ⟨hpos, by omega, .inl rfl⟩
      refine .finite hc (by omega) ?_
      rw [he0]
      rfl
  next he0 =>
    have hpos : 0 < e.toNat := Nat.pos_of_ne_zero fun h => he0 (BitVec.eq_of_toNat_eq h)
    have hc : Canonical (1#1 ++ m).toNat (e.toNat - 1) := by
      rw [toNat_lead_append]
      exact ⟨by omega, by omega, .inr (by omega)⟩
    have hsize : sizeAt e.toNat m.toNat = (1#1 ++ m).toNat * 2 ^ (e.toNat - 1) := by
      rw [sizeAt, if_neg hpos.ne', toNat_lead_append]
    rw [hsize]
    refine .finite hc (by omega) ?_
    change (e.toNat : Int) - ((1023 : Nat) + (52 : Nat)) = _
    omega

theorem packedUnits_packComponents (sign : Sign) (e : BitVec 11) (m : BitVec 52) :
    packedUnits (packComponents .binary64 sign e m) = sign.apply (sizeAt e.toNat m.toNat) := by
  rw [packedUnits, unpackExponent_packComponents, unpackMantissa_packComponents,
    unpackSign_packComponents, Sign.ofBitVec_toBitVec]

theorem packedUnits_pack {f : UnpackedFloat} {n : Int} (h : Stands f n) :
    @unpackExponent .binary64 (pack .binary64 f) ≠ -1#11 ∧ packedUnits (pack .binary64 f) = n := by
  cases h with
  | zero sign => cases sign <;> exact ⟨by decide, by decide⟩
  | @finite sign m k e h hk he =>
      have hlt := h.lt
      have hbiased : (e + (1023 : Nat) + (52 : Nat)).toNat = k + 1 := by omega
      have hpack : pack .binary64 (.finite sign m e h.pos) =
          if 2 ^ 11 ≤ (e + (1023 : Nat) + (52 : Nat)).toNat + 1 then packedInfinity .binary64 sign
          else if m.log2 + 1 = 53 then
            packComponents .binary64 sign
              (BitVec.ofNat 11 (e + (1023 : Nat) + (52 : Nat)).toNat) (BitVec.ofNat 52 m)
          else packComponents .binary64 sign 0#11 (BitVec.ofNat 52 m) := rfl
      rw [hpack, hbiased, if_neg (by omega)]
      split
      next h53 =>
        have hle : 2 ^ 52 ≤ m := (Nat.le_log2 h.pos.ne').mp (by omega)
        have hexponent : (BitVec.ofNat 11 (k + 1)).toNat = k + 1 :=
          Nat.mod_eq_of_lt (by omega)
        have hfraction : (BitVec.ofNat 52 m).toNat + 2 ^ 52 = m := by
          rw [BitVec.toNat_ofNat]
          omega
        refine ⟨?_, ?_⟩
        · rw [unpackExponent_packComponents]
          intro hall
          have hnat := hexponent.symm.trans (congrArg BitVec.toNat hall)
          change k + 1 = 2047 at hnat
          omega
        · rw [packedUnits_packComponents, hexponent, sizeAt, if_neg (by omega), hfraction]
          rfl
      next h53 =>
        have hlog : m.log2 < 53 := (Nat.log2_lt h.pos.ne').mpr h.lt
        have hlt : m < 2 ^ 52 := (Nat.log2_lt h.pos.ne').mp (by omega)
        have hfraction : (BitVec.ofNat 52 m).toNat = m := Nat.mod_eq_of_lt hlt
        obtain rfl : k = 0 := by
          rcases h.lead with hk | hle
          · exact hk
          · omega
        refine ⟨?_, ?_⟩
        · rw [unpackExponent_packComponents]
          decide
        · rw [packedUnits_packComponents, hfraction, pow_zero, mul_one]
          rfl

theorem Canonical.lt_of_lt {m k m' k' : Nat} (h : Canonical m k) (h' : Canonical m' k')
    (hk : k < k') : m * 2 ^ k < m' * 2 ^ k' := by
  have hle : 2 ^ 52 ≤ m' := h'.lead.resolve_left (by omega)
  calc
    m * 2 ^ k < 2 ^ 53 * 2 ^ k := Nat.mul_lt_mul_of_pos_right h.lt (Nat.two_pow_pos k)
    _ = 2 ^ 52 * 2 ^ (k + 1) := by ring
    _ ≤ m' * 2 ^ k' := Nat.mul_le_mul hle (Nat.pow_le_pow_right (by decide) hk)

theorem Canonical.compare_eq {m k m' k' : Nat} (h : Canonical m k) (h' : Canonical m' k')
    {e e' : Int} (he : e = k - 1074) (he' : e' = k' - 1074) :
    (compare e e').then (compare m m') = compare (m * 2 ^ k) (m' * 2 ^ k') := by
  rcases lt_trichotomy k k' with hk | rfl | hk
  · have hlt : e < e' := by omega
    rw [compare_lt_iff_lt.mpr hlt, compare_lt_iff_lt.mpr (h.lt_of_lt h' hk)]
    rfl
  · obtain rfl : e = e' := by omega
    have hpow : 0 < 2 ^ k := Nat.two_pow_pos k
    rw [compare_eq_iff_eq.mpr rfl]
    change compare m m' = _
    rw [← cmp_eq_compare, ← cmp_eq_compare, cmp_mul_pos_right hpow]
  · have hgt : e > e' := by omega
    rw [compare_gt_iff_gt.mpr hgt, compare_gt_iff_gt.mpr (h'.lt_of_lt h hk)]
    rfl

theorem Stands.lt_iff {f g : UnpackedFloat} {n n' : Int} (hf : Stands f n) (hg : Stands g n') :
    f.lt g = true ↔ n < n' := by
  have hlt (o : Ordering) : (some o == some Ordering.lt) = true ↔ o = .lt := by cases o <;> decide
  rw [UnpackedFloat.lt]
  cases hf with
  | zero sign =>
      cases hg with
      | zero sign' => simp [UnpackedFloat.compare]
      | @finite sign' m' k' e' h' hk' he' =>
          have hpos' : 0 < m' * 2 ^ k' := Nat.mul_pos h'.pos (Nat.two_pow_pos k')
          generalize m' * 2 ^ k' = size' at hpos' ⊢
          cases sign' <;> simp only [UnpackedFloat.compare, Sign.apply, hlt, reduceCtorEq,
            true_iff, false_iff] <;> omega
  | @finite sign m k e h hk he =>
      have hpos : 0 < m * 2 ^ k := Nat.mul_pos h.pos (Nat.two_pow_pos k)
      cases hg with
      | zero sign' =>
          generalize m * 2 ^ k = size at hpos ⊢
          cases sign <;> simp only [UnpackedFloat.compare, Sign.apply, hlt, reduceCtorEq,
            true_iff, false_iff] <;> omega
      | @finite sign' m' k' e' h' hk' he' =>
          have hpos' : 0 < m' * 2 ^ k' := Nat.mul_pos h'.pos (Nat.two_pow_pos k')
          have hcompare := h.compare_eq h' he he'
          generalize m * 2 ^ k = size at hpos hcompare ⊢
          generalize m' * 2 ^ k' = size' at hpos' hcompare ⊢
          cases sign <;> cases sign' <;>
            simp only [UnpackedFloat.compare, Sign.apply, hlt, reduceCtorEq, hcompare,
              Ordering.swap_eq_lt, compare_lt_iff_lt, compare_gt_iff_gt, true_iff, false_iff] <;>
            omega

section

variable {x y : Float} {n : Int}

def IsFloat (n : Int) : Prop :=
  ∃ x : Float, x.isFinite ∧ unitsOf x = n

theorem stands_of_isFinite (hx : x.isFinite) : Stands x.toModel.unpack (unitsOf x) := by
  rw [unitsOf_eq]
  exact stands_unpack ((isFinite_unpack _).mp hx)

theorem units_ofModel_pack {f : UnpackedFloat} (h : Stands f n) :
    (Float.ofModel (.pack f)).isFinite ∧ unitsOf (.ofModel (.pack f)) = n := by
  obtain ⟨hexponent, hunits⟩ := packedUnits_pack h
  refine ⟨(isFinite_unpack _).mpr hexponent, ?_⟩
  rw [unitsOf_eq]
  exact hunits

theorem units_add (hx : x.isFinite) (hy : y.isFinite) (h : IsFloat (unitsOf x + unitsOf y)) :
    (x + y).isFinite ∧ unitsOf (x + y) = unitsOf x + unitsOf y := by
  obtain ⟨z, hz, hunits⟩ := h
  have hz := stands_of_isFinite hz
  rw [hunits] at hz
  exact units_ofModel_pack ((stands_of_isFinite hx).add (stands_of_isFinite hy) hz)

theorem units_sub (hx : x.isFinite) (hy : y.isFinite) (h : IsFloat (unitsOf x - unitsOf y)) :
    (x - y).isFinite ∧ unitsOf (x - y) = unitsOf x - unitsOf y := by
  obtain ⟨z, hz, hunits⟩ := h
  have hz := stands_of_isFinite hz
  rw [hunits] at hz
  exact units_ofModel_pack ((stands_of_isFinite hx).sub (stands_of_isFinite hy) hz)

theorem IsFloat.neg (h : IsFloat n) : IsFloat (-n) := by
  obtain ⟨x, hx, rfl⟩ := h
  exact ⟨-x, units_ofModel_pack (stands_of_isFinite hx).neg⟩

theorem lt_iff_units (hx : x.isFinite) (hy : y.isFinite) : x < y ↔ unitsOf x < unitsOf y := by
  rw [← (stands_of_isFinite hx).lt_iff (stands_of_isFinite hy)]
  exact decide_eq_true_iff

theorem isFinite_of_not (hnan : x.isNaN = false) (hinf : x.isInf = false) : x.isFinite := by
  change x.toModel.unpack.isFinite = true
  change x.toModel.unpack.isNaN = false at hnan
  change x.toModel.unpack.isInf = false at hinf
  cases hf : x.toModel.unpack with
  | notANumber =>
      rw [hf] at hnan
      cases hnan
  | infinity sign =>
      rw [hf] at hinf
      cases hinf
  | _ => rfl

theorem isNaN_of_isFinite (hx : x.isFinite) : x.isNaN = false := by
  change x.toModel.unpack.isFinite = true at hx
  change x.toModel.unpack.isNaN = false
  cases hf : x.toModel.unpack <;> rw [hf] at hx <;> first | rfl | cases hx

theorem exists_canonical_whole {n : Nat} (hpos : 0 < n) (hn : n ≤ 2 ^ 53) {j : Nat} (hj : 52 ≤ j) :
    ∃ m k, Canonical m k ∧ k ≤ j + 1 ∧ m * 2 ^ k = n * 2 ^ j := by
  rcases hn.eq_or_lt with rfl | hlt
  · refine ⟨2 ^ 52, j + 1, ⟨by decide, by decide, .inr le_rfl⟩, le_rfl, ?_⟩
    ring
  obtain ⟨hle, hlt'⟩ := (Nat.log2_eq_iff hpos.ne').mp rfl
  have hlog : n.log2 < 53 := (Nat.log2_lt hpos.ne').mpr hlt
  obtain ⟨i, hi⟩ := Nat.exists_eq_add_of_le (Nat.le_of_lt_succ hlog)
  have hlow : 2 ^ 52 = 2 ^ n.log2 * 2 ^ i := by rw [hi, pow_add]
  have hhigh : 2 ^ 53 = 2 ^ (n.log2 + 1) * 2 ^ i := by
    rw [← pow_add]
    congr 1
    omega
  refine ⟨n * 2 ^ i, j - i, ⟨?_, ?_, .inr ?_⟩, by omega, ?_⟩
  · positivity
  · rw [hhigh]
    exact Nat.mul_lt_mul_of_pos_right hlt' (Nat.two_pow_pos i)
  · rw [hlow]
    exact Nat.mul_le_mul_right _ hle
  · rw [mul_assoc, ← pow_add]
    congr 2
    omega

theorem isFloat_whole (h : n.natAbs ≤ 2 ^ 53) : IsFloat (n * unitsPerOne) := by
  rcases eq_or_ne n 0 with rfl | hn
  · rw [zero_mul]
    exact ⟨0, by decide, by decide⟩
  -- The power of two is too large to be looked at.
  obtain ⟨j, hj⟩ : ∃ j, j = 1074 := ⟨1074, rfl⟩
  have hone : unitsPerOne = (Nat.pow 2 j : Nat) := by rw [hj, unitsPerOne]
  obtain ⟨m, k, hc, hk, hsize⟩ :=
    exists_canonical_whole (Int.natAbs_pos.mpr hn) h (j := j) (by omega)
  have hsigned : ∃ sign : Sign, n * unitsPerOne = sign.apply (m * 2 ^ k : Nat) := by
    rw [hsize, hone]
    rcases n.natAbs_eq with hpos | hneg
    · refine ⟨.positive, ?_⟩
      rw [Sign.apply, Nat.cast_mul, ← hpos]
      rfl
    · refine ⟨.negative, ?_⟩
      rw [Sign.apply, Nat.cast_mul, ← neg_mul, ← hneg]
      rfl
  obtain ⟨sign, heq⟩ := hsigned
  rw [heq]
  exact ⟨_, units_ofModel_pack (.finite hc (by omega) rfl)⟩

end

end Markbook.Store

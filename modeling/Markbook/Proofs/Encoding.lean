import Markbook.Text.Percent
import Mathlib.Data.List.TakeWhile

namespace Markbook.Text

namespace Utf8

def tailByte (k : Nat) : UInt8 :=
  UInt8.ofNat (0x80 + k % 64)

theorem toNat_tailByte (k : Nat) : (tailByte k).toNat = 0x80 + k % 64 :=
  UInt8.toNat_ofNat_of_lt' (show 0x80 + k % 64 < 0x100 by omega)

theorem isTail_tailByte (k : Nat) : isTail (tailByte k) := by
  have hlow : (0x80 : UInt8) ≤ tailByte k := by
    rw [UInt8.le_iff_toNat_le, toNat_tailByte]
    exact Nat.le_add_right 0x80 _
  have hhigh : tailByte k ≤ 0xBF := by
    rw [UInt8.le_iff_toNat_le, toNat_tailByte]
    change 0x80 + k % 64 ≤ 0xBF
    omega
  rw [isTail, decide_eq_true hlow, decide_eq_true hhigh, Bool.and_self]

theorem shape_pair : ∀ k < 32, 2 ≤ k → shape (UInt8.ofNat (0xC0 + k)) = some (0x80, 0xBF, 0) := by
  decide

theorem shape_triple : ∀ k < 16, shape (UInt8.ofNat (0xE0 + k)) =
    some (if k = 0 then 0xA0 else 0x80, if k = 13 then 0x9F else 0xBF, 1) := by
  decide

theorem shape_quadruple : ∀ k < 5, shape (UInt8.ofNat (0xF0 + k)) =
    some (if k = 0 then 0x90 else 0x80, if k = 4 then 0x8F else 0xBF, 2) := by
  decide

theorem takeWhile_tailByte (ks : List Nat) :
    (ks.map tailByte).takeWhile isTail = ks.map tailByte := by
  rw [List.takeWhile_eq_self_iff, List.forall_mem_map]
  intro k _
  exact isTail_tailByte k

def leadSize (more : Nat) : Nat :=
  if more = 0 then 32 else if more = 1 then 16 else 8

/-- A sequence of several bytes is read as the number whose digits to the base 64 it holds. -/
theorem next_map_tailByte {n lead k : Nat} {ks : List Nat} {low high : UInt8}
    (hlead : 0x80 ≤ lead) (hlead' : lead < 0x100)
    (hshape : shape (UInt8.ofNat lead) = some (low, high, ks.length))
    (hlow : low.toNat ≤ 0x80 + k % 64) (hhigh : 0x80 + k % 64 ≤ high.toNat)
    (hcode : (k :: ks).foldl (fun n k => 64 * n + k % 64) (lead % leadSize ks.length) = n)
    (rest : List UInt8) :
    next (UInt8.ofNat lead) ((k :: ks).map tailByte ++ rest) =
      .ok (Char.ofNat n, ks.length + 2) := by
  have htoNat := UInt8.toNat_ofNat_of_lt' hlead'
  have hmany : ¬ UInt8.ofNat lead < 0x80 := by
    rw [UInt8.lt_iff_toNat_lt, htoNat]
    exact Nat.not_lt.mpr hlead
  have hsecond : (tailByte k < low || high < tailByte k) = false := by
    simp only [UInt8.lt_iff_toNat_lt, toNat_tailByte, Bool.or_eq_false_iff, decide_eq_false_iff_not]
    omega
  have htake : (ks.map tailByte ++ rest).take ks.length = ks.map tailByte :=
    List.take_left' (List.length_map _)
  have hdigits : (fun n k => 64 * n + (tailByte k).toNat % 64) = fun n k => 64 * n + k % 64 := by
    funext n k
    rw [toNat_tailByte]
    omega
  rw [next, if_neg hmany, hshape]
  simp only [List.map_cons, List.cons_append, hsecond, Bool.false_eq_true, if_false, htake,
    takeWhile_tailByte, Nat.lt_irrefl, List.length_map]
  rw [htoNat, ← List.map_cons, List.foldl_map, hdigits, Nat.add_comm 2, ← hcode]
  rfl

section

variable {n : Nat}

theorem next_single (h : n < 0x80) (rest : List UInt8) :
    next (UInt8.ofNat n) rest = .ok (Char.ofNat n, 1) := by
  have htoNat := UInt8.toNat_ofNat_of_lt' (show n < 0x100 by omega)
  have hlt : UInt8.ofNat n < 0x80 := by
    rw [UInt8.lt_iff_toNat_lt, htoNat]
    exact h
  rw [next, if_pos hlt, htoNat]

theorem next_pair (h : 0x80 ≤ n) (h' : n < 0x800) (rest : List UInt8) :
    next (UInt8.ofNat (0xC0 + n / 64)) ([n].map tailByte ++ rest) = .ok (Char.ofNat n, 2) := by
  have hshape := shape_pair (n / 64) (by omega) (by omega)
  have hlow : (0x80 : UInt8).toNat ≤ 0x80 + n % 64 := Nat.le_add_right 0x80 _
  have hhigh : 0x80 + n % 64 ≤ (0xBF : UInt8).toNat := by
    change _ ≤ 0xBF
    omega
  have hcode : 64 * ((0xC0 + n / 64) % 32) + n % 64 = n := by omega
  refine next_map_tailByte (by omega) (by omega) hshape hlow hhigh ?_ rest
  exact hcode

theorem next_triple (h : 0x800 ≤ n) (h' : n < 0x10000) (hvalid : n < 0xD800 ∨ 0xDFFF < n)
    (rest : List UInt8) :
    next (UInt8.ofNat (0xE0 + n / 4096)) ([n / 64, n].map tailByte ++ rest) =
      .ok (Char.ofNat n, 3) := by
  have hshape := shape_triple (n / 4096) (by omega)
  -- A lower second byte after 0xE0 would say what two bytes say, and a higher one after 0xED would
  -- be half of a surrogate pair, which is no character.
  have hlow : (if n / 4096 = 0 then 0xA0 else 0x80 : UInt8).toNat ≤ 0x80 + n / 64 % 64 := by
    split
    · change 0xA0 ≤ _
      omega
    · exact Nat.le_add_right 0x80 _
  have hhigh : 0x80 + n / 64 % 64 ≤ (if n / 4096 = 13 then 0x9F else 0xBF : UInt8).toNat := by
    split
    · change _ ≤ 0x9F
      omega
    · change _ ≤ 0xBF
      omega
  have hcode : 64 * (64 * ((0xE0 + n / 4096) % 16) + n / 64 % 64) + n % 64 = n := by omega
  refine next_map_tailByte (by omega) (by omega) hshape hlow hhigh ?_ rest
  exact hcode

theorem next_quadruple (h : 0x10000 ≤ n) (h' : n < 0x110000) (rest : List UInt8) :
    next (UInt8.ofNat (0xF0 + n / 262144)) ([n / 4096, n / 64, n].map tailByte ++ rest) =
      .ok (Char.ofNat n, 4) := by
  have hshape := shape_quadruple (n / 262144) (by omega)
  -- Here the bounds stand for the least code of four bytes and for the greatest of all.
  have hlow : (if n / 262144 = 0 then 0x90 else 0x80 : UInt8).toNat ≤ 0x80 + n / 4096 % 64 := by
    split
    · change 0x90 ≤ _
      omega
    · exact Nat.le_add_right 0x80 _
  have hhigh : 0x80 + n / 4096 % 64 ≤ (if n / 262144 = 4 then 0x8F else 0xBF : UInt8).toNat := by
    split
    · change _ ≤ 0x8F
      omega
    · change _ ≤ 0xBF
      omega
  have hcode : 64 * (64 * (64 * ((0xF0 + n / 262144) % 8) + n / 4096 % 64) + n / 64 % 64) +
      n % 64 = n := by omega
  refine next_map_tailByte (by omega) (by omega) hshape hlow hhigh ?_ rest
  exact hcode

end

theorem encodeChar_eq (c : Char) : encodeChar c =
    if c.toNat < 0x80 then [UInt8.ofNat c.toNat]
    else if c.toNat < 0x800 then UInt8.ofNat (0xC0 + c.toNat / 64) :: [c.toNat].map tailByte
    else if c.toNat < 0x10000 then
      UInt8.ofNat (0xE0 + c.toNat / 4096) :: [c.toNat / 64, c.toNat].map tailByte
    else
      UInt8.ofNat (0xF0 + c.toNat / 262144) ::
        [c.toNat / 4096, c.toNat / 64, c.toNat].map tailByte :=
  rfl

theorem next_encodeChar (c : Char) : ∃ b bs, encodeChar c = b :: bs ∧
    ∀ rest, next b (bs ++ rest) = .ok (c, bs.length + 1) := by
  have hvalid : c.toNat < 0xD800 ∨ 0xDFFF < c.toNat ∧ c.toNat < 0x110000 := c.valid
  have hchar : Char.ofNat c.toNat = c := Char.ofNat_toNat c
  rw [encodeChar_eq]
  generalize c.toNat = n at hvalid hchar
  by_cases hsingle : n < 0x80
  · refine ⟨_, [], if_pos hsingle, fun rest => ?_⟩
    rw [next_single hsingle, hchar, List.length_nil]
  by_cases hpair : n < 0x800
  · refine ⟨_, _, by rw [if_neg hsingle, if_pos hpair], fun rest => ?_⟩
    rw [next_pair (by omega) hpair, hchar, List.length_map]
    rfl
  by_cases htriple : n < 0x10000
  · refine ⟨_, _, by rw [if_neg hsingle, if_neg hpair, if_pos htriple], fun rest => ?_⟩
    rw [next_triple (by omega) htriple (by omega), hchar, List.length_map]
    rfl
  · refine ⟨_, _, by rw [if_neg hsingle, if_neg hpair, if_neg htriple], fun rest => ?_⟩
    rw [next_quadruple (by omega) (by omega), hchar, List.length_map]
    rfl

theorem encode_cons (c : Char) (cs : List Char) : encode (c :: cs) = encodeChar c ++ encode cs :=
  List.flatMap_cons

theorem decodeFrom_encode {cs : List Char} {fuel : Nat} (h : (encode cs).length ≤ fuel)
    (pos : Nat) : decodeFrom fuel pos (encode cs) = .ok cs := by
  induction cs generalizing fuel pos with
  | nil => cases fuel <;> rfl
  | cons c cs ih =>
      obtain ⟨b, bs, hbytes, hnext⟩ := next_encodeChar c
      rw [encode_cons, hbytes, List.cons_append] at h ⊢
      rw [List.length_cons, List.length_append] at h
      obtain ⟨fuel, rfl⟩ := Nat.exists_eq_add_of_le' (show 1 ≤ fuel by omega)
      rw [decodeFrom, hnext]
      simp only [Nat.add_sub_cancel, List.drop_left]
      rw [ih (by omega)]

theorem decode_encode (cs : List Char) : decode (encode cs) = .ok cs :=
  decodeFrom_encode (Nat.le_refl _) 0

theorem toNat_of_mem_encodeChar {c : Char} {b : UInt8} (h : b ∈ encodeChar c) :
    b.toNat = c.toNat ∨ 0x80 ≤ b.toNat := by
  have hvalid : c.toNat < 0xD800 ∨ 0xDFFF < c.toNat ∧ c.toNat < 0x110000 := c.valid
  have htail {ks : List Nat} (hb : b ∈ ks.map tailByte) : 0x80 ≤ b.toNat := by
    obtain ⟨k, -, rfl⟩ := List.mem_map.mp hb
    rw [toNat_tailByte]
    exact Nat.le_add_right 0x80 _
  have hlead {lead : Nat} {ks : List Nat} (hle : 0x80 ≤ lead) (hlt : lead < 0x100)
      (hb : b ∈ UInt8.ofNat lead :: ks.map tailByte) : 0x80 ≤ b.toNat := by
    rcases List.mem_cons.mp hb with rfl | hb
    · rwa [UInt8.toNat_ofNat_of_lt' hlt]
    · exact htail hb
  rw [encodeChar_eq] at h
  split at h
  · rw [List.mem_singleton.mp h]
    exact .inl (UInt8.toNat_ofNat_of_lt' (show c.toNat < 0x100 by omega))
  split at h
  · exact .inr (hlead (by omega) (by omega) h)
  split at h
  · exact .inr (hlead (by omega) (by omega) h)
  · exact .inr (hlead (by omega) (by omega) h)

theorem mem_of_mem_encode {cs : List Char} {c : Char} (hc : c.toNat < 0x80)
    (h : UInt8.ofNat c.toNat ∈ encode cs) : c ∈ cs := by
  obtain ⟨d, hd, hmem⟩ := List.mem_flatMap.mp h
  have htoNat := UInt8.toNat_ofNat_of_lt' (show c.toNat < 0x100 by omega)
  have hcd : c.toNat = d.toNat := by
    rcases toNat_of_mem_encodeChar hmem with hmem | hmem
    · rwa [htoNat] at hmem
    · omega
  rwa [Char.toNat_inj.mp hcd]

end Utf8

namespace Percent

theorem decode_cons_of_ne {b : UInt8} (h : b ≠ 0x25) (bs : List UInt8) :
    decode (b :: bs) = b :: decode bs := by
  match bs with
  | [] => rfl
  | [_] => rfl
  | _ :: _ :: _ => rw [decode, if_neg h]

theorem decode_of_not_mem {bs : List UInt8} (h : 0x25 ∉ bs) : decode bs = bs := by
  induction bs with
  | nil => rfl
  | cons b bs ih =>
      rw [List.mem_cons, not_or] at h
      rw [decode_cons_of_ne (Ne.symm h.1), ih h.2]

theorem decode_encode_of_not_mem {cs : List Char} (h : '%' ∉ cs) :
    decode (Utf8.encode cs) = Utf8.encode cs :=
  decode_of_not_mem fun hmem => h (Utf8.mem_of_mem_encode (by decide) hmem)

end Percent

end Markbook.Text

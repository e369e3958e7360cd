import Keyring.Text.Basic

/-!
# Sextets

Octets regrouped by six bits, most significant first. Three octets make four sextets; one or two
octets at the end are filled up with zero bits to two or three sextets. Reading drops the bits that
fill up, whatever they are, so that `octets` takes back what `sextets` does.

Base64 and the text form of password hashes write the same sextets with different alphabets.
-/

namespace Keyring.Radix64

/-- Six bits. -/
abbrev Sextet := Fin 64

/-- There are sextets. Which instance says so is settled here, as for code points. -/
instance sextets_neZero : @NeZero Nat Zero.ofOfNat0 64 := ⟨Nat.succ_ne_zero 63⟩

/-- The last six bits of a number. -/
def Sextet.ofNat (value : Nat) : Sextet :=
  Fin.ofNat 64 value

/-- The sextets of some octets. -/
def sextets : Bytes → List Sextet
  | [] => []
  | [a] =>
    [Sextet.ofNat (a.toNat / 4), Sextet.ofNat (a.toNat % 4 * 16)]
  | [a, b] =>
    [Sextet.ofNat (a.toNat / 4), Sextet.ofNat (a.toNat % 4 * 16 + b.toNat / 16),
      Sextet.ofNat (b.toNat % 16 * 4)]
  | a :: b :: c :: rest =>
    Sextet.ofNat (a.toNat / 4) :: Sextet.ofNat (a.toNat % 4 * 16 + b.toNat / 16) ::
      Sextet.ofNat (b.toNat % 16 * 4 + c.toNat / 64) :: Sextet.ofNat (c.toNat % 64) ::
      sextets rest

/-- The octets that some sextets hold in full. -/
def octets : List Sextet → Bytes
  | a :: b :: c :: d :: rest =>
    UInt8.ofNat (a.val * 4 + b.val / 16) :: UInt8.ofNat (b.val % 16 * 16 + c.val / 4) ::
      UInt8.ofNat (c.val % 4 * 64 + d.val) :: octets rest
  | [a, b, c] =>
    [UInt8.ofNat (a.val * 4 + b.val / 16), UInt8.ofNat (b.val % 16 * 16 + c.val / 4)]
  | [a, b] => [UInt8.ofNat (a.val * 4 + b.val / 16)]
  | [_] => []
  | [] => []

/-- Octets come back from their sextets. -/
@[simp]
theorem octets_sextets (bytes : Bytes) : octets (sextets bytes) = bytes := by
  induction bytes using sextets.induct with
  | case1 => rfl
  | case2 a =>
    have bound := a.toNat_lt
    simp only [sextets, octets, Sextet.ofNat, Fin.ofNat, List.cons.injEq, and_true]
    rw [← UInt8.toNat_inj, UInt8.toNat_ofNat']
    omega
  | case3 a b =>
    have first := a.toNat_lt
    have second := b.toNat_lt
    simp only [sextets, octets, Sextet.ofNat, Fin.ofNat, List.cons.injEq, and_true]
    simp only [← UInt8.toNat_inj, UInt8.toNat_ofNat']
    omega
  | case4 a b c rest ih =>
    have first := a.toNat_lt
    have second := b.toNat_lt
    have third := c.toNat_lt
    simp only [sextets, octets, Sextet.ofNat, Fin.ofNat, List.cons.injEq, ih, and_true]
    simp only [← UInt8.toNat_inj, UInt8.toNat_ofNat']
    omega

end Keyring.Radix64

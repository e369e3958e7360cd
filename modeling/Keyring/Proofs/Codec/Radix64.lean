import Mathlib.Data.List.Basic
import Keyring.Codec.Radix64

/-!
# Octets that come back

How many sextets there are for some octets (`length_sextets`), and which sextets come back from the
octets that they hold: those of which the last is filled up with zeros (`sextets_octets`).
-/

namespace Keyring.Radix64

/-- Four sextets for three octets, and as few as there may be for the rest. -/
theorem length_sextets (bytes : Bytes) : (sextets bytes).length = (4 * bytes.length + 2) / 3 := by
  induction bytes using sextets.induct with
  | case1 => rfl
  | case2 a => simp [sextets]
  | case3 a b => simp [sextets]
  | case4 a b c rest ih =>
    simp only [sextets, List.length_cons, ih]
    omega

/-- Of one octet behind groups of three, the second sextet is filled up with zeros. -/
theorem filled_sextets {bytes : Bytes} {count : Nat} (length : bytes.length = 3 * count + 1) :
    ((sextets bytes).getD (4 * count + 1) 0).val % 16 = 0 := by
  induction bytes using sextets.induct generalizing count with
  | case1 => simp at length
  | case2 a =>
    simp only [List.length_cons, List.length_nil] at length
    obtain rfl : count = 0 := by omega
    simp [sextets, Sextet.ofNat]
  | case3 a b =>
    simp only [List.length_cons, List.length_nil] at length
    omega
  | case4 a b c rest ih =>
    simp only [List.length_cons] at length
    obtain ⟨fewer, rfl⟩ : ∃ fewer, count = fewer + 1 := ⟨count - 1, by omega⟩
    have later : 4 * (fewer + 1) + 1 = 4 * fewer + 1 + 1 + 1 + 1 + 1 := by omega
    simp only [sextets, later, List.getD_cons_succ]
    exact ih (by omega)

/-- Sextets come back from their octets, if the bits that fill up the last of them are zero. -/
theorem sextets_octets {groups : List Sextet} {count : Nat} (length : groups.length = 4 * count + 2)
    (filled : (groups.getD (4 * count + 1) 0).val % 16 = 0) : sextets (octets groups) = groups := by
  induction count generalizing groups with
  | zero =>
    obtain ⟨a, b, rfl⟩ := List.length_eq_two.mp length
    have first := a.isLt
    have second := b.isLt
    replace filled : b.val % 16 = 0 := filled
    simp only [octets, sextets, Sextet.ofNat, List.cons.injEq, and_true, Fin.ext_iff, Fin.val_ofNat,
      UInt8.toNat_ofNat']
    omega
  | succ count ih =>
    obtain ⟨a, b, c, d, rest, rfl⟩ : ∃ a b c d rest, groups = a :: b :: c :: d :: rest := by
      rcases groups with _ | ⟨a, _ | ⟨b, _ | ⟨c, _ | ⟨d, rest⟩⟩⟩⟩
      case cons.cons.cons.cons => exact ⟨a, b, c, d, rest, rfl⟩
      all_goals
        simp only [List.length_cons, List.length_nil] at length
        omega
    have first := a.isLt
    have second := b.isLt
    have third := c.isLt
    have fourth := d.isLt
    have later : 4 * (count + 1) + 1 = 4 * count + 1 + 1 + 1 + 1 + 1 := by omega
    simp only [later, List.getD_cons_succ] at filled
    simp only [List.length_cons] at length
    have rest := ih (by omega) filled
    simp only [octets, sextets, Sextet.ofNat, rest, List.cons.injEq, and_true, Fin.ext_iff,
      Fin.val_ofNat, UInt8.toNat_ofNat']
    omega

end Keyring.Radix64

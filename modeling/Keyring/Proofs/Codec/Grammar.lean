import Keyring.Proofs.Codec.Base64

/-!
# What counts as Base64

The texts that are read as octets, told by their groups and not by how they are read (`Spells`). Four
letters write a number in base 64, and the three octets that they stand for write the same number in
base 256. After the whole groups there is nothing, or a shorter group that is filled up with equals
signs; and after one whole group or more there may be any number of equals signs instead. The bits of a
shorter group that are left over may be anything.

The reader accepts these texts and no others (`decode?_eq_some_iff`).
-/

namespace Keyring

namespace Radix64

/-- What whole groups hold comes before what the rest holds. -/
theorem octets_append {groups : List Sextet} (rest : List Sextet) (whole : groups.length % 4 = 0) :
    octets (groups ++ rest) = octets groups ++ octets rest := by
  induction groups using octets.induct with
  | case1 a b c d others ih =>
    simp only [List.length_cons] at whole
    simp [octets, ih (by omega)]
  | case5 => rfl
  | _ => simp at whole

end Radix64

namespace Base64

open Radix64 (Sextet)

/-- The letters, in the order of the numbers that they stand for. -/
def alphabet : Text :=
  Text.lit "ABCDEFGHIJKLMNOPQRSTUVWXYZabcdefghijklmnopqrstuvwxyz0123456789+/"

/-- A letter stands for a number. -/
def Stands (point : CodePoint) (value : Nat) : Prop :=
  alphabet[value]? = some point

/-- Whole groups of letters and the octets that they stand for. -/
inductive Groups : Text → Bytes → Prop
  | none : Groups [] []
  | more {a b c d : CodePoint} {i j k l : Nat} {x y z : UInt8} {letters : Text} {octets : Bytes}
      (first : Stands a i) (second : Stands b j) (third : Stands c k) (fourth : Stands d l)
      (same : ((i * 64 + j) * 64 + k) * 64 + l = (x.toNat * 256 + y.toNat) * 256 + z.toNat)
      (others : Groups letters octets) :
      Groups (a :: b :: c :: d :: letters) (x :: y :: z :: octets)

/-- A text stands for octets. -/
inductive Spells : Text → Bytes → Prop
  | whole {letters : Text} {octets : Bytes} (groups : Groups letters octets) : Spells letters octets
  /-- Two letters for one octet, with four bits left over. -/
  | two {letters : Text} {octets : Bytes} {a b : CodePoint} {i j spare : Nat} {x : UInt8}
      (groups : Groups letters octets) (first : Stands a i) (second : Stands b j)
      (same : i * 64 + j = x.toNat * 16 + spare) (small : spare < 16) :
      Spells (letters ++ [a, b, filler, filler]) (octets ++ [x])
  /-- Three letters for two octets, with two bits left over. -/
  | three {letters : Text} {octets : Bytes} {a b c : CodePoint} {i j k spare : Nat} {x y : UInt8}
      (groups : Groups letters octets) (first : Stands a i) (second : Stands b j)
      (third : Stands c k) (same : (i * 64 + j) * 64 + k = (x.toNat * 256 + y.toNat) * 4 + spare)
      (small : spare < 4) :
      Spells (letters ++ [a, b, c, filler]) (octets ++ [x, y])
  /-- Any number of equals signs after a whole group. -/
  | filled {letters : Text} {octets : Bytes} (groups : Groups letters octets)
      (some : letters ≠ []) (count : Nat) : Spells (letters ++ List.replicate count filler) octets

variable {text letters : Text} {bytes : Bytes} {sextets : List Sextet} {point : CodePoint}

/-! ## Letters -/

/-- A letter stands for the number of its sextet. -/
theorem stands_iff {value : Nat} :
    Stands point value ↔ ∃ sextet : Sextet, sextet.val = value ∧ letter sextet = point := by
  have listed : alphabet = (List.finRange 64).map letter := by decide +kernel
  rw [Stands, listed, List.getElem?_map, Option.map_eq_some_iff]
  constructor
  · rintro ⟨sextet, found, same⟩
    obtain ⟨bound, rfl⟩ := List.getElem?_eq_some_iff.mp found
    exact ⟨_, by simp, same⟩
  · rintro ⟨sextet, rfl, same⟩
    exact ⟨sextet, by simp, same⟩

/-- The letter of a sextet stands for its number. -/
theorem stands_letter (sextet : Sextet) : Stands (letter sextet) sextet.val :=
  stands_iff.mpr ⟨sextet, rfl, rfl⟩

/-- A letter is that of the sextet for which it stands. -/
theorem letter_of_sextet? {sextet : Sextet} (found : sextet? point = some sextet) :
    letter sextet = point := by
  have bound := point.isLt
  unfold sextet? at found
  simp only [Bool.and_eq_true, decide_eq_true_eq] at found
  rw [Fin.ext_iff]
  grind [letter, Radix64.Sextet.ofNat, CodePoint.ofNat, Fin.val_ofNat]

/-- Only the letters of sextets are read as sextets. -/
theorem mapM_sextet?_eq_some_iff :
    letters.mapM sextet? = some sextets ↔ letters = sextets.map letter := by
  constructor
  · intro read
    induction letters generalizing sextets with
    | nil =>
      cases read
      rfl
    | cons first others ih =>
      rw [List.mapM_cons] at read
      obtain ⟨sextet, found, rest⟩ := Option.bind_eq_some_iff.mp read
      obtain ⟨more, mapped, same⟩ := Option.bind_eq_some_iff.mp rest
      cases same
      rw [List.map_cons, letter_of_sextet? found, ih mapped]
  · rintro rfl
    exact mapM_sextet?_letters sextets

/-! ## Groups -/

/-- Whole groups are letters whose number is divided by four. -/
theorem groups_iff :
    Groups letters bytes ↔ ∃ sextets : List Sextet, sextets.length % 4 = 0 ∧
      letters = sextets.map letter ∧ bytes = Radix64.octets sextets := by
  constructor
  · intro groups
    induction groups with
    | none => exact ⟨[], rfl, rfl, rfl⟩
    | @more _ _ _ _ _ _ _ _ x y z _ _ first second third fourth same others ih =>
      obtain ⟨sextets, whole, rfl, rfl⟩ := ih
      obtain ⟨i, rfl, rfl⟩ := stands_iff.mp first
      obtain ⟨j, rfl, rfl⟩ := stands_iff.mp second
      obtain ⟨k, rfl, rfl⟩ := stands_iff.mp third
      obtain ⟨l, rfl, rfl⟩ := stands_iff.mp fourth
      have bounds := (⟨x.toNat_lt, y.toNat_lt, z.toNat_lt⟩ : _ ∧ _ ∧ _)
      refine ⟨i :: j :: k :: l :: sextets, ?_, rfl, ?_⟩
      · simp only [List.length_cons]
        omega
      · simp only [Radix64.octets, List.cons.injEq, and_true, ← UInt8.toNat_inj, UInt8.toNat_ofNat']
        omega
  · rintro ⟨sextets, whole, rfl, rfl⟩
    induction sextets using Radix64.octets.induct with
    | case1 i j k l others ih =>
      simp only [List.length_cons] at whole
      have bounds := (⟨i.isLt, j.isLt, k.isLt, l.isLt⟩ : _ ∧ _ ∧ _ ∧ _)
      refine .more (stands_letter i) (stands_letter j) (stands_letter k) (stands_letter l) ?_
        (ih (by omega))
      simp only [UInt8.toNat_ofNat']
      omega
    | case5 => exact .none
    | _ => simp at whole

/-! ## Texts -/

/-- How many equals signs may follow so many letters. -/
def Fits (letters fillers : Nat) : Prop :=
  (letters % 4 = 0 ∧ (letters = 0 → fillers = 0)) ∨ (letters % 4 = 2 ∧ fillers = 2) ∨
    (letters % 4 = 3 ∧ fillers = 1)

instance (letters fillers : Nat) : Decidable (Fits letters fillers) :=
  inferInstanceAs (Decidable (_ ∨ _ ∨ _))

/-- A text is read if it is letters with as many equals signs behind them as may follow. -/
theorem decode?_eq (text : Text) :
    decode? text =
      if (text.dropWhile (· ≠ filler)).all (· = filler) ∧
          Fits (text.takeWhile (· ≠ filler)).length (text.dropWhile (· ≠ filler)).length then
        ((text.takeWhile (· ≠ filler)).mapM sextet?).map Radix64.octets
      else none := by
  unfold decode?
  dsimp only
  refine if_congr ?_ rfl rfl
  rw [Bool.and_eq_true]
  refine and_congr_right fun _ => ?_
  generalize (text.takeWhile (· ≠ filler)).length = letters
  generalize (text.dropWhile (· ≠ filler)).length = fillers
  unfold Fits
  split
  · simp only [Bool.or_eq_true, decide_eq_true_eq]
    omega
  · simp only [Bool.false_eq_true, false_iff]
    omega
  · simp only [decide_eq_true_eq]
    omega
  · rename_i none one two
    have three : letters % 4 = 3 := by
      simp only [imp_false] at none one two
      omega
    simp only [decide_eq_true_eq]
    omega

/-- What is read is letters and equals signs that fit. -/
theorem decode?_eq_some :
    decode? text = some bytes ↔ ∃ (sextets : List Sextet) (count : Nat),
      text = sextets.map letter ++ List.replicate count filler ∧ Fits sextets.length count ∧
        bytes = Radix64.octets sextets := by
  rw [decode?_eq]
  constructor
  · intro read
    split at read
    · rename_i proper
      obtain ⟨fillers, fits⟩ := proper
      obtain ⟨sextets, mapped, same⟩ := Option.map_eq_some_iff.mp read
      have start := mapM_sextet?_eq_some_iff.mp mapped
      have stop := List.eq_replicate_of_mem fun point member =>
        of_decide_eq_true (List.all_eq_true.mp fillers point member)
      rw [start, List.length_map] at fits
      refine ⟨sextets, _, ?_, fits, same.symm⟩
      rw [← start, ← stop, List.takeWhile_append_dropWhile]
    · cases read
  · rintro ⟨sextets, count, rfl, fits, rfl⟩
    rw [takeWhile_letters, dropWhile_letters, mapM_sextet?_letters, List.length_map,
      List.length_replicate]
    exact if_pos ⟨by simp, fits⟩

/-- Letters and equals signs that fit are groups. -/
theorem spells_of_fits {count : Nat} (fits : Fits sextets.length count) :
    Spells (sextets.map letter ++ List.replicate count filler) (Radix64.octets sextets) := by
  -- The letters are whole groups and fewer than four more.
  obtain ⟨groups, rest, rfl, whole, short⟩ : ∃ groups rest, sextets = groups ++ rest ∧
      groups.length % 4 = 0 ∧ rest.length = sextets.length % 4 := by
    refine ⟨sextets.take (sextets.length / 4 * 4), sextets.drop (sextets.length / 4 * 4),
      (List.take_append_drop ..).symm, ?_, ?_⟩
    · rw [List.length_take]
      omega
    · rw [List.length_drop]
      omega
  have start : Groups (groups.map letter) (Radix64.octets groups) :=
    groups_iff.mpr ⟨groups, whole, rfl, rfl⟩
  rw [Radix64.octets_append rest whole, List.map_append, List.append_assoc]
  rcases fits with ⟨none, few⟩ | ⟨two, rfl⟩ | ⟨three, rfl⟩
  · obtain rfl : rest = [] := List.eq_nil_of_length_eq_zero (short.trans none)
    by_cases empty : groups = []
    · subst empty
      rw [few rfl]
      exact .whole .none
    · simpa [Radix64.octets] using Spells.filled start (by simpa using empty) count
  · obtain ⟨i, j, rfl⟩ := List.length_eq_two.mp (short.trans two)
    have bounds := (⟨i.isLt, j.isLt⟩ : _ ∧ _)
    have small : j.val % 16 < 16 := Nat.mod_lt _ (by decide)
    refine .two start (stands_letter i) (stands_letter j) ?_ small
    rw [UInt8.toNat_ofNat']
    omega
  · obtain ⟨i, j, k, rfl⟩ := List.length_eq_three.mp (short.trans three)
    have bounds := (⟨i.isLt, j.isLt, k.isLt⟩ : _ ∧ _ ∧ _)
    have small : k.val % 4 < 4 := Nat.mod_lt _ (by decide)
    refine .three start (stands_letter i) (stands_letter j) (stands_letter k) ?_ small
    simp only [UInt8.toNat_ofNat']
    omega

/-- Groups are letters and equals signs that fit. -/
theorem Spells.fits (spells : Spells text bytes) :
    ∃ (sextets : List Sextet) (count : Nat),
      text = sextets.map letter ++ List.replicate count filler ∧ Fits sextets.length count ∧
        bytes = Radix64.octets sextets := by
  cases spells with
  | whole groups =>
    obtain ⟨sextets, whole, rfl, rfl⟩ := groups_iff.mp groups
    exact ⟨sextets, 0, by simp, .inl ⟨whole, fun _ => rfl⟩, rfl⟩
  | filled groups some count =>
    obtain ⟨sextets, whole, rfl, rfl⟩ := groups_iff.mp groups
    exact ⟨sextets, count, rfl, .inl ⟨whole, fun none => by simp_all⟩, rfl⟩
  | two groups first second same small =>
    obtain ⟨sextets, whole, rfl, rfl⟩ := groups_iff.mp groups
    obtain ⟨i, rfl, rfl⟩ := stands_iff.mp first
    obtain ⟨j, rfl, rfl⟩ := stands_iff.mp second
    rename_i x
    have bound := x.toNat_lt
    refine ⟨sextets ++ [i, j], 2, by simp, .inr (.inl ⟨?_, rfl⟩), ?_⟩
    · rw [List.length_append]
      simp only [List.length_cons, List.length_nil]
      omega
    · rw [Radix64.octets_append _ whole, List.append_cancel_left_eq]
      simp only [Radix64.octets, List.cons.injEq, and_true, ← UInt8.toNat_inj, UInt8.toNat_ofNat']
      omega
  | three groups first second third same small =>
    obtain ⟨sextets, whole, rfl, rfl⟩ := groups_iff.mp groups
    obtain ⟨i, rfl, rfl⟩ := stands_iff.mp first
    obtain ⟨j, rfl, rfl⟩ := stands_iff.mp second
    obtain ⟨k, rfl, rfl⟩ := stands_iff.mp third
    rename_i x y
    have bounds := (⟨x.toNat_lt, y.toNat_lt⟩ : _ ∧ _)
    refine ⟨sextets ++ [i, j, k], 1, by simp, .inr (.inr ⟨?_, rfl⟩), ?_⟩
    · rw [List.length_append]
      simp only [List.length_cons, List.length_nil]
      omega
    · rw [Radix64.octets_append _ whole, List.append_cancel_left_eq]
      simp only [Radix64.octets, List.cons.injEq, and_true, ← UInt8.toNat_inj, UInt8.toNat_ofNat']
      omega

/-- A text is read as octets exactly if it stands for them. -/
theorem decode?_eq_some_iff : decode? text = some bytes ↔ Spells text bytes := by
  constructor
  · intro read
    obtain ⟨sextets, count, rfl, fits, rfl⟩ := decode?_eq_some.mp read
    exact spells_of_fits fits
  · intro spells
    exact decode?_eq_some.mpr spells.fits

/-- There is nothing but ASCII in a text that stands for octets. -/
theorem Spells.isAscii (spells : Spells text bytes) : ∀ point ∈ text, point.isAscii = true := by
  have each : ∀ sextet, (letter sextet).isAscii = true := by decide
  obtain ⟨sextets, count, rfl, -, -⟩ := spells.fits
  intro point member
  rcases List.mem_append.mp member with letters | fillers
  · obtain ⟨sextet, -, rfl⟩ := List.mem_map.mp letters
    exact each sextet
  · rw [List.eq_of_mem_replicate fillers]
    decide

end Base64

end Keyring

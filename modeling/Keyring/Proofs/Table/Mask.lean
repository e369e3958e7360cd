import Keyring.Proofs.Secret.Outcome
import Keyring.Table

/-!
# What shows of a hash

The hash of a secret begins with its version and its cost, in as many octets as a table shows, and its
salt comes next. So nothing shows of it but the cost that it was made with (`mask_hash`), whatever was
taken for a salt.
-/

namespace Keyring

namespace Bcrypt

/-- A setting that is read from what was written has its version and its cost, even if what was
written for a salt is another thing. -/
theorem Setting.parse?_render_eq_some {written setting : Setting}
    (known : written.version ∈ versions) (least : 4 ≤ written.cost) (most : written.cost ≤ 31)
    (read : parse? written.render = some setting) :
    setting.version = written.version ∧ setting.cost = written.cost := by
  have split := parts_render known []
  rw [List.append_nil] at split
  unfold parse? at read
  rw [split] at read
  generalize parts (written.salt ++ []) = others at read
  obtain _ | ⟨salt, _ | ⟨other, others⟩⟩ := others
  · cases read
  · dsimp only at read
    rw [if_pos (by simpa using known), cost?_twoDigits least most] at read
    split at read
    · rename_i same _
      cases same
      cases read
      exact ⟨rfl, rfl⟩
    · cases read
  · cases read

end Bcrypt

namespace Secret

/-- What stands before the salt in a hash of some cost. -/
def opening (cost : Int) : Bytes :=
  [Bcrypt.separator] ++ Bcrypt.currentVersion ++ [Bcrypt.separator] ++ Bcrypt.twoDigits cost.toNat ++
    [Bcrypt.separator]

/-- A hash starts with version and cost, and that is not all of it. -/
theorem hash_opens {secret : Given} {cost : Int} {salts : Salts} {hash : Bytes}
    (hashed : (Secret.hash secret cost salts).1 = .ok hash) :
    ∃ hidden, hash = opening cost ++ hidden ∧ hidden ≠ [] := by
  have outcome := hash_outcome secret cost salts
  rw [hashed] at outcome
  cases outcome with
  | @hashed password _ encoded short fit made =>
    obtain ⟨setting, digits, read, proper, -, rfl⟩ := Bcrypt.laws.keeps made
    obtain ⟨version, same⟩ := Bcrypt.Setting.parse?_render_eq_some
      (by simp [Bcrypt.currentVersion, Bcrypt.versions]) (by simp; omega) (by simp; omega) read
    refine ⟨setting.salt ++ digits, ?_, ?_⟩
    · unfold Bcrypt.Setting.render opening
      rw [version, same]
      simp
    · obtain ⟨-, length, -⟩ := Bcrypt.salt?_eq_some proper.salt
      intro none
      simp [(List.append_eq_nil_iff.mp none).1, Bcrypt.saltLength] at length

end Secret

namespace Table

/-- Of octets that are longer than what shows, just what shows is seen. -/
theorem mask_append {seen hidden : Bytes} (more : hidden ≠ []) :
    mask (seen ++ hidden) seen.length = hashText seen ++ List.replicate 8 42 := by
  have longer : ¬ ((hashText (seen ++ hidden)).length : Int) ≤ seen.length := by
    have filled := List.length_pos_iff.mpr more
    simp only [hashText, List.length_map, List.length_append]
    omega
  have cut : upTo seen.length (hashText (seen ++ hidden)) = hashText seen := by
    unfold upTo hashText
    simp
  unfold mask
  rw [if_neg longer, cut]

/-- What shows of the hash of a secret follows from its cost. -/
theorem mask_hash {secret : Given} {cost : Int} {salts : Salts} {hash : Bytes}
    (hashed : (Secret.hash secret cost salts).1 = .ok hash) :
    mask hash visibleLength = hashText (Secret.opening cost) ++ List.replicate 8 42 := by
  obtain ⟨hidden, rfl, more⟩ := Secret.hash_opens hashed
  exact mask_append more

end Table

end Keyring

import Keyring.Text.Basic

/-!
# Entropy

Where random bytes come from. A source answers each read by what was read before and how much is
asked for now, and hands out at most a given number of reads: so whatever draws from it comes to an
end. Salts for password hashes come from a supply of their own.
-/

namespace Keyring

open Text (lit)

/-- A source of random bytes, as the reads so far have left it. -/
structure Source where
  /-- The bytes for a read, by the sizes of all reads before it, oldest first, and its own size; or
  why the read fails. -/
  answer : List Nat → Nat → Except Text Bytes
  /-- How many more reads are answered. -/
  remaining : Nat
  /-- The sizes of the reads so far, oldest first. -/
  asked : List Nat

namespace Source

/-- The reason for which every read beyond the last that is answered fails. -/
def exhausted : Text :=
  lit "too many reads"

/-- A source that answers each read by its position among the reads. -/
def ofReads (limit : Nat) (reads : List (Except Text Bytes)) : Source where
  answer asked _ := reads.getD asked.length (.error (lit "feed exhausted"))
  remaining := limit
  asked := []

/-- A source that hands out the same bytes over and over, each read from where the last ended. -/
def ofCycle (limit : Nat) (period : Bytes) : Source where
  answer asked size :=
    let position := asked.foldl (· + ·) 0
    .ok ((List.range size).map fun index => period.getD ((position + index) % period.length) 0)
  remaining := limit
  asked := []

end Source

/-- Salts for new hashes: those that wait, and then the same one for ever. -/
structure Salts where
  waiting : List Bytes
  last : Bytes

/-- The next salt, and the supply without it. -/
def Salts.next (salts : Salts) : Bytes × Salts :=
  match salts.waiting with
  | [] => (salts.last, salts)
  | salt :: waiting => (salt, { salts with waiting := waiting })

end Keyring

import Mathlib.Data.List.Induction
import Keyring.LabelledCache
import Keyring.Proofs.VerdictCache.Tagging

/-!
# A cache after any history

A cache begins without verdicts and is asked for one thing after another (`through`). Whatever it is
asked for, it holds no more verdicts than it has room for, its tags are exactly those of its verdicts,
and every look-up is counted once (`WellKept`). So an id is forgotten without a search, and still
exactly the verdicts for it go (`wellKept_through`).

Ids may be of any type with an equality that is an equivalence; that of two values of any kind is one
(`Cell.Label`), although a number and a truth value may be equal.
-/

namespace Keyring

/-- Equality of labels is that of what identifies their values. -/
instance : EquivBEq Cell.Label where
  rfl := decide_eq_true rfl
  symm := fun same => decide_eq_true (of_decide_eq_true same).symm
  trans := fun first second =>
    decide_eq_true ((of_decide_eq_true first).trans (of_decide_eq_true second))

/-- An id has each of its keys once. -/
theorem Tags.Tidy.nodup_keysOf {ι : Type} [BEq ι] {tags : Tags ι} (tidy : tags.Tidy) (id : ι) :
    (tags.keysOf id).Nodup := by
  induction tags with
  | nil => exact .nil
  | cons tag others ih =>
    rw [keysOf]
    split
    · exact (tidy.keys tag (List.mem_cons_self ..)).2
    · exact ih tidy.tail

namespace VerdictCache

variable {ι ω : Type}

/-! ## Histories -/

/-- What a cache is asked for. -/
inductive Request (ι ω : Type) where
  | get (key : Bytes)
  | put (key : Bytes) (id : ι) (allowed : ω)
  | invalidate (id : ι)
  | clear
  | contains (key : Bytes)
  | size
  deriving DecidableEq, Repr

/-- A verdict is looked up and the outcome counted. -/
def Request.isGet : Request ι ω → Bool
  | .get _ => true
  | _ => false

section Serving

variable [BEq ι]

/-- The cache after it was asked for something. -/
def serve (cache : VerdictCache ι ω) : Request ι ω → VerdictCache ι ω
  | .get key => (cache.get key).2
  | .put key id allowed => cache.put key id allowed
  | .invalidate id => (cache.invalidate id).2
  | .clear => cache.clear
  | .contains _ => cache
  | .size => cache

/-- The cache after it was asked for one thing after another. -/
def through (cache : VerdictCache ι ω) (requests : List (Request ι ω)) : VerdictCache ι ω :=
  requests.foldl serve cache

theorem through_append (cache : VerdictCache ι ω) (requests more : List (Request ι ω)) :
    cache.through (requests ++ more) = (cache.through requests).through more :=
  List.foldl_append ..

theorem through_concat (cache : VerdictCache ι ω) (requests : List (Request ι ω))
    (request : Request ι ω) :
    cache.through (requests ++ [request]) = (cache.through requests).serve request := by
  simp [through]

/-! ## What the operations leave alone -/

/-- Discarding changes verdicts and tags alone. -/
theorem discard_eq (cache : VerdictCache ι ω) (key : Bytes) :
    cache.discard key =
      { cache with verdicts := (cache.discard key).verdicts, tags := (cache.discard key).tags } := by
  unfold discard
  split <;> rfl

/-- Making room changes verdicts and tags alone. -/
theorem discardOldest_eq (count : Nat) (cache : VerdictCache ι ω) :
    discardOldest count cache =
      { cache with
        verdicts := (discardOldest count cache).verdicts
        tags := (discardOldest count cache).tags } := by
  induction count generalizing cache with
  | zero => rfl
  | succ count ih =>
    rw [discardOldest]
    split
    · rfl
    · rename_i verdict others _
      rw [ih, discard_eq]

/-- Remembering a verdict changes verdicts and tags alone. -/
theorem put_eq (cache : VerdictCache ι ω) (key : Bytes) (id : ι) (allowed : ω) :
    cache.put key id allowed =
      { cache with
        verdicts := (cache.put key id allowed).verdicts
        tags := (cache.put key id allowed).tags } := by
  unfold put
  dsimp only
  rw [discardOldest_eq, discard_eq]

@[simp]
theorem capacity_serve (cache : VerdictCache ι ω) (request : Request ι ω) :
    (cache.serve request).capacity = cache.capacity := by
  cases request with
  | get key =>
    show (cache.get key).2.capacity = _
    unfold get
    split <;> rfl
  | put key id allowed =>
    show (cache.put key id allowed).capacity = _
    rw [put_eq]
  | invalidate id => rfl
  | clear => rfl
  | contains key => rfl
  | size => rfl

@[simp]
theorem capacity_through (cache : VerdictCache ι ω) (requests : List (Request ι ω)) :
    (cache.through requests).capacity = cache.capacity := by
  induction requests using List.reverseRecOn with
  | nil => rfl
  | append_singleton requests request ih => rw [through_concat, capacity_serve, ih]

/-- A look-up counts as a hit or as a miss, and nothing else counts. -/
theorem counted_serve (cache : VerdictCache ι ω) (request : Request ι ω) :
    (cache.serve request).hits + (cache.serve request).misses =
      cache.hits + cache.misses + if request.isGet then 1 else 0 := by
  cases request with
  | get key =>
    show (cache.get key).2.hits + (cache.get key).2.misses = _ + 1
    unfold get
    split
    · exact (Nat.add_assoc ..).symm
    · exact Nat.succ_add ..
  | put key id allowed =>
    show (cache.put key id allowed).hits + (cache.put key id allowed).misses = _
    rw [put_eq]
    rfl
  | invalidate id => rfl
  | clear => rfl
  | contains key => rfl
  | size => rfl

omit [BEq ι] in
/-- A verdict is found under the keys that have one. -/
theorem isSome_get (cache : VerdictCache ι ω) (key : Bytes) :
    (cache.get key).1.isSome = cache.contains key := by
  unfold get contains
  cases cache.find? key <;> rfl

omit [BEq ι] in
/-- A verdict that is found is a hit. -/
theorem counters_get_of_contains {cache : VerdictCache ι ω} {key : Bytes}
    (known : cache.contains key = true) :
    (cache.get key).2.hits = cache.hits + 1 ∧ (cache.get key).2.misses = cache.misses := by
  obtain ⟨verdict, found⟩ := Option.isSome_iff_exists.mp known
  unfold get
  rw [found]
  exact ⟨rfl, rfl⟩

/-- A verdict that is not found is a miss, and putting it counts for nothing. -/
theorem counters_put_of_not_contains {cache : VerdictCache ι ω} {key : Bytes} (id : ι)
    (allowed : ω) (unknown : cache.contains key = false) :
    ((cache.get key).2.put key id allowed).hits = cache.hits ∧
      ((cache.get key).2.put key id allowed).misses = cache.misses + 1 := by
  have missed : cache.find? key = none := by simpa [contains] using unknown
  rw [put_eq]
  unfold get
  rw [missed]
  exact ⟨rfl, rfl⟩

omit [BEq ι] in
/-- A look-up adds no verdict. -/
theorem size_get_le (cache : VerdictCache ι ω) (key : Bytes) :
    (cache.get key).2.size ≤ cache.size := by
  unfold get size
  split
  · exact Nat.le_refl _
  · rename_i verdict found
    obtain ⟨member, under⟩ := mem_of_find?_eq_some found
    have shorter : (cache.verdicts.filter (·.key ≠ key)).length < cache.verdicts.length := by
      refine List.length_filter_lt_length_iff_exists.mpr ⟨verdict, member, ?_⟩
      simpa using under
    dsimp only
    rw [List.length_append, List.length_singleton]
    exact shorter

end Serving

/-! ## What every history keeps -/

variable [BEq ι]

/-- A cache of a wanted size that has been asked for so many look-ups. -/
structure WellKept (size : Int) (lookups : Nat) (cache : VerdictCache ι ω) : Prop where
  capacity : cache.capacity = (max size minCapacity).toNat
  bounded : cache.size ≤ cache.capacity
  tagged : cache.Tagged
  counted : cache.hits + cache.misses = lookups

/-- An id goes with exactly its verdicts, and the others stay in their order. -/
theorem Tagged.verdicts_invalidate {cache : VerdictCache ι ω} (tagged : cache.Tagged) (id : ι) :
    (cache.invalidate id).2.verdicts = cache.verdicts.filter fun verdict => !(verdict.id == id) := by
  refine List.filter_congr fun verdict member => ?_
  congr 1
  rw [Bool.eq_iff_iff, List.contains_iff_mem, tagged.tagged]
  constructor
  · rintro ⟨other, stored, same, about⟩
    rwa [tagged.unique stored member same] at about
  · exact fun about => ⟨verdict, member, rfl, about⟩

/-- An id has as many keys as verdicts. -/
theorem Tagged.fst_invalidate {cache : VerdictCache ι ω} (tagged : cache.Tagged) (id : ι) :
    (cache.invalidate id).1 = cache.verdicts.countP fun verdict => verdict.id == id := by
  have keys : ((cache.verdicts.filter fun verdict => verdict.id == id).map (·.key)).Nodup :=
    tagged.keys.sublist (List.filter_sublist.map _)
  have same : (cache.tags.keysOf id).Perm
      ((cache.verdicts.filter fun verdict => verdict.id == id).map (·.key)) := by
    refine (List.perm_ext_iff_of_nodup (tagged.tidy.nodup_keysOf id) keys).mpr fun key => ?_
    rw [tagged.tagged, List.mem_map]
    simp only [List.mem_filter]
    exact ⟨fun ⟨verdict, stored, named, about⟩ => ⟨verdict, ⟨stored, about⟩, named⟩,
      fun ⟨verdict, ⟨stored, about⟩, named⟩ => ⟨verdict, stored, named, about⟩⟩
  rw [List.countP_eq_length_filter, ← List.length_map (·.key), ← same.length_eq]
  rfl

variable [EquivBEq ι]

/-- Tags and verdicts stay in step. -/
theorem Tagged.serve {cache : VerdictCache ι ω} (tagged : cache.Tagged) (request : Request ι ω) :
    (cache.serve request).Tagged := by
  cases request with
  | get key => exact tagged.get key
  | put key id allowed => exact tagged.put key id allowed
  | invalidate id => exact tagged.invalidate id
  | clear => exact .clear
  | contains key => exact tagged
  | size => exact tagged

/-- There is room for what is remembered. -/
theorem Tagged.size_serve_le {cache : VerdictCache ι ω} (tagged : cache.Tagged)
    (bounded : cache.size ≤ cache.capacity) (request : Request ι ω) :
    (cache.serve request).size ≤ cache.capacity := by
  cases request with
  | get key => exact Nat.le_trans (size_get_le cache key) bounded
  | put key id allowed =>
    show (cache.put key id allowed).verdicts.length ≤ _
    rw [tagged.verdicts_put, List.length_drop, List.length_append, List.length_singleton]
    omega
  | invalidate id => exact Nat.le_trans (List.length_filter_le ..) bounded
  | clear => exact Nat.zero_le _
  | contains key => exact bounded
  | size => exact bounded

/-- Whatever a cache is asked for, it stays well kept. -/
theorem WellKept.serve {size : Int} {lookups : Nat} {cache : VerdictCache ι ω}
    (wellKept : cache.WellKept size lookups) (request : Request ι ω) :
    (cache.serve request).WellKept size (lookups + if request.isGet then 1 else 0) where
  capacity := (capacity_serve cache request).trans wellKept.capacity
  bounded := by
    rw [capacity_serve]
    exact wellKept.tagged.size_serve_le wellKept.bounded request
  tagged := wellKept.tagged.serve request
  counted := by rw [counted_serve, wellKept.counted]

omit [EquivBEq ι] in
/-- A cache without verdicts is well kept. -/
theorem WellKept.empty (size : Int) : (VerdictCache.empty size : VerdictCache ι ω).WellKept size 0 :=
  ⟨rfl, Nat.zero_le _, .empty size, rfl⟩

/-- After any history a cache is well kept, and an id that is then forgotten goes with its verdicts
and no others. -/
theorem wellKept_through (size : Int) (requests : List (Request ι ω)) :
    let cache := (empty size : VerdictCache ι ω).through requests
    cache.WellKept size (requests.countP Request.isGet) ∧
      ∀ id, (cache.invalidate id).1 = cache.verdicts.countP (fun verdict => verdict.id == id) ∧
        (cache.invalidate id).2.verdicts =
          cache.verdicts.filter fun verdict => !(verdict.id == id) := by
  intro cache
  have wellKept : cache.WellKept size (requests.countP Request.isGet) := by
    unfold cache
    induction requests using List.reverseRecOn with
    | nil => exact .empty size
    | append_singleton requests request ih =>
      rw [through_concat, List.countP_append, List.countP_singleton]
      exact ih.serve request
  exact ⟨wellKept, fun id =>
    ⟨wellKept.tagged.fst_invalidate id, wellKept.tagged.verdicts_invalidate id⟩⟩

/-- One and true are one id. A key that is put for another id is forgotten with that one alone. -/
theorem wellKept_through_shared :
    let one : Cell.Label := ⟨.ofInt 1⟩
    let requests : List (Request Cell.Label Cell) :=
      [.put [1] one (.ofBool true), .put [2] ⟨.ofBool true⟩ (.ofBool true),
        .put [1] ⟨.ofText (Text.lit "a")⟩ (.ofBool false), .get [2], .get [3]]
    let cache := (empty 3).through requests
    cache.WellKept 3 2 ∧ (cache.invalidate one).1 = 1 ∧
      (cache.invalidate one).2.verdicts.map (·.key) = [[1]] := by
  intro one requests cache
  obtain ⟨wellKept, forgets⟩ := wellKept_through 3 requests
  have counted : cache.verdicts.countP (fun verdict => verdict.id == one) = 1 := by
    decide +kernel
  have left : (cache.verdicts.filter fun verdict => !(verdict.id == one)).map (·.key) = [[1]] := by
    decide +kernel
  exact ⟨wellKept, (forgets one).1.trans counted, by rw [(forgets one).2, left]⟩

end VerdictCache

end Keyring

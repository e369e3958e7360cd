import Mathlib.Data.List.Basic
import Keyring.Credential

/-!
# What is drawn

Drawing reads batch after batch and picks characters on the way. What comes of it can be read off the
batches all at once: of their bytes those that fit the alphabet (`Draw.fit`), of these as many as
characters are wanted, and for each the character that it chooses. No more batches are read than it
takes to have enough bytes that fit, and none after one that cannot be used (`Draw.text_iff`).

`Source.attempt` tells what each read brings. A source that is exhausted fails like any other, so a
source that answers for ever is met by the sources that answer as it does for some number of reads.
-/

namespace Keyring

/-! ## Reads -/

namespace Source

variable {source : Source} {size count : Nat} {batches : List Bytes}

/-- What the read brings that follows `count` others of the same size: bytes, or why nothing can be
drawn from it. -/
def attempt (source : Source) (size count : Nat) : Except GenerationFault Bytes :=
  if count < source.remaining then
    match source.answer (source.asked ++ List.replicate count size) size with
    | .error reason => .error (.sourceFailed reason)
    | .ok bytes =>
      if bytes.length = size then .ok bytes else .error (.shortRead bytes.length size)
  else .error (.sourceFailed exhausted)

/-- The source after so many reads of one size. -/
def past (source : Source) (size count : Nat) : Source :=
  { source with
    remaining := source.remaining - count
    asked := source.asked ++ List.replicate count size }

/-- The first reads of a size bring these batches. -/
def Brings (source : Source) (size : Nat) (batches : List Bytes) : Prop :=
  (List.range batches.length).map (source.attempt size) = batches.map .ok

theorem past_zero : source.past size 0 = source := by
  simp [past]

theorem past_past (more : Nat) :
    (source.past size count).past size more = source.past size (count + more) := by
  simp [past, Nat.sub_sub]

/-- Reads after others are those that come later. -/
theorem attempt_past (more : Nat) :
    (source.past size count).attempt size more = source.attempt size (count + more) := by
  have later : more < source.remaining - count ↔ count + more < source.remaining := by omega
  simp [attempt, past, later]

theorem brings_nil : source.Brings size [] := rfl

/-- The first batch comes from the first read, and the others from those after it. -/
theorem brings_cons {batch : Bytes} :
    source.Brings size (batch :: batches) ↔
      source.attempt size 0 = .ok batch ∧ (source.past size 1).Brings size batches := by
  have later : source.attempt size ∘ Nat.succ = (source.past size 1).attempt size :=
    funext fun count => (congrArg _ (Nat.add_comm ..)).trans (attempt_past count).symm
  unfold Brings
  rw [List.length_cons, List.range_succ_eq_map, List.map_cons, List.map_map, later, List.map_cons,
    List.cons.injEq]

/-- One more batch comes from one more read. -/
theorem brings_concat {batch : Bytes} :
    source.Brings size (batches ++ [batch]) ↔
      source.Brings size batches ∧ source.attempt size batches.length = .ok batch := by
  induction batches generalizing source with
  | nil => simp [brings_cons, brings_nil]
  | cons first batches ih =>
    rw [List.cons_append, brings_cons, brings_cons, ih, attempt_past, and_assoc, List.length_cons,
      Nat.add_comm 1]

end Source

/-! ## Batches and their characters -/

namespace Draw

variable {α : Type} {alphabet drawn list : List α} {source : Source} {size wanted : Nat}
  {batches : List Bytes}

/-- The bytes that choose from an alphabet of a size. -/
def fit (size : Nat) (bytes : Bytes) : Bytes :=
  bytes.filter fun byte => byte.toNat ≤ 255 - 256 % size

@[simp]
theorem fit_append (size : Nat) (bytes more : Bytes) :
    fit size (bytes ++ more) = fit size bytes ++ fit size more :=
  List.filter_append ..

/-- The bytes that fit choose one character each. -/
theorem map_characters (filled : alphabet ≠ []) (bytes : Bytes) :
    (characters alphabet bytes).map some =
      (fit alphabet.length bytes).map fun byte => alphabet[byte.toNat % alphabet.length]? := by
  have chosen : ∀ byte : UInt8, (alphabet[byte.toNat % alphabet.length]?).isSome = true := by
    intro byte
    simp [Nat.mod_lt _ (List.length_pos_of_ne_nil filled)]
  unfold characters
  rw [List.map_filterMap_some_eq_filter_map_isSome, List.filter_eq_self.mpr]
  · rfl
  · intro character member
    obtain ⟨byte, -, rfl⟩ := List.mem_map.mp member
    exact chosen byte

theorem characters_append (alphabet : List α) (bytes more : Bytes) :
    characters alphabet (bytes ++ more) = characters alphabet bytes ++ characters alphabet more := by
  simp [characters]

/-- There are as many characters as bytes that fit. -/
theorem length_characters (filled : alphabet ≠ []) (bytes : Bytes) :
    (characters alphabet bytes).length = (fit alphabet.length bytes).length := by
  simpa using congrArg List.length (map_characters filled bytes)

/-- Reads batches until enough is drawn, and tells what becomes of the source. -/
def fillFrom (alphabet : List α) (size wanted : Nat) (source : Source) (drawn : List α) :
    Except GenerationFault (List α) × Source :=
  let (result, remaining, asked) :=
    fill alphabet size wanted source.answer source.remaining source.asked drawn
  (result, { source with remaining := remaining, asked := asked })

/-- One batch is read, and it ends the drawing or adds its characters. -/
theorem fillFrom_eq (alphabet : List α) (size wanted : Nat) (source : Source) (drawn : List α) :
    fillFrom alphabet size wanted source drawn =
      match source.attempt size 0 with
      | .error fault => (.error fault, source.past size 1)
      | .ok bytes =>
        if wanted ≤ (drawn ++ characters alphabet bytes).length then
          (.ok ((drawn ++ characters alphabet bytes).take wanted), source.past size 1)
        else
          fillFrom alphabet size wanted (source.past size 1)
            (drawn ++ characters alphabet bytes) := by
  obtain ⟨answer, remaining, asked⟩ := source
  cases remaining with
  | zero => rfl
  | succ remaining =>
    unfold fillFrom Source.attempt Source.past
    rw [fill, if_pos (Nat.succ_pos remaining)]
    simp only [List.replicate_zero, List.append_nil, List.replicate_one, Nat.add_sub_cancel]
    cases answer asked size with
    | error reason => rfl
    | ok bytes =>
      by_cases whole : bytes.length = size
      · simp only [whole, ne_eq, not_true_eq_false, if_false, if_true]
        split <;> rfl
      · simp only [whole, ne_eq, not_false_eq_true, if_true, if_false]

/-- Batches that do not have enough are read one after another. -/
theorem fillFrom_of_few (brings : source.Brings size batches)
    (few : (drawn ++ characters alphabet batches.flatten).length < wanted) :
    fillFrom alphabet size wanted source drawn =
      fillFrom alphabet size wanted (source.past size batches.length)
        (drawn ++ characters alphabet batches.flatten) := by
  induction batches generalizing source drawn with
  | nil => simp [Source.past_zero, characters]
  | cons batch batches ih =>
    obtain ⟨first, later⟩ := Source.brings_cons.mp brings
    rw [List.flatten_cons, characters_append, ← List.append_assoc] at few ⊢
    have fewer : ¬ wanted ≤ (drawn ++ characters alphabet batch).length := by
      rw [List.length_append] at few
      omega
    rw [fillFrom_eq, first]
    dsimp only
    rw [if_neg fewer, ih later few, Source.past_past, List.length_cons, Nat.add_comm 1]

/-- How drawing ends: some batches have not enough, and the read after them fails or brings what is
missing. -/
inductive Ends (alphabet : List α) (size wanted : Nat) (source : Source) (drawn : List α) :
    Except GenerationFault (List α) × Source → Prop
  | failed {batches : List Bytes} {fault : GenerationFault} (brings : source.Brings size batches)
      (few : (drawn ++ characters alphabet batches.flatten).length < wanted)
      (fails : source.attempt size batches.length = .error fault) :
      Ends alphabet size wanted source drawn (.error fault, source.past size (batches.length + 1))
  | filled {batches : List Bytes} {last : Bytes} (brings : source.Brings size (batches ++ [last]))
      (few : (drawn ++ characters alphabet batches.flatten).length < wanted)
      (enough : wanted ≤ (drawn ++ characters alphabet (batches ++ [last]).flatten).length) :
      Ends alphabet size wanted source drawn
        (.ok ((drawn ++ characters alphabet (batches ++ [last]).flatten).take wanted),
          source.past size (batches.length + 1))

/-- There is only one way in which drawing ends. -/
theorem Ends.eq {outcome : Except GenerationFault (List α) × Source}
    (ends : Ends alphabet size wanted source drawn outcome) :
    fillFrom alphabet size wanted source drawn = outcome := by
  cases ends with
  | failed brings few fails =>
    rw [fillFrom_of_few brings few, fillFrom_eq, Source.attempt_past, Nat.add_zero, fails]
    dsimp only
    rw [Source.past_past]
  | filled brings few enough =>
    obtain ⟨brings, last⟩ := Source.brings_concat.mp brings
    rw [List.flatten_concat, characters_append, ← List.append_assoc] at enough ⊢
    rw [fillFrom_of_few brings few, fillFrom_eq, Source.attempt_past, Nat.add_zero, last]
    dsimp only
    rw [if_pos enough, Source.past_past]

/-- Drawing ends, since the source is exhausted some time. -/
theorem exists_ends (few : drawn.length < wanted) :
    ∃ outcome, Ends alphabet size wanted source drawn outcome := by
  suffices later : ∀ (batches : List Bytes), source.Brings size batches →
      (drawn ++ characters alphabet batches.flatten).length < wanted →
      ∃ outcome, Ends alphabet size wanted source drawn outcome from
    later [] Source.brings_nil (by simpa [characters] using few)
  intro batches brings few
  induction left : source.remaining - batches.length generalizing batches with
  | zero =>
    have fails : source.attempt size batches.length = .error (.sourceFailed Source.exhausted) := by
      rw [Source.attempt, if_neg (by omega)]
    exact ⟨_, .failed brings few fails⟩
  | succ left ih =>
    cases next : source.attempt size batches.length with
    | error fault => exact ⟨_, .failed brings few next⟩
    | ok last =>
      have more := Source.brings_concat.mpr ⟨brings, next⟩
      by_cases enough : wanted ≤ (drawn ++ characters alphabet (batches ++ [last]).flatten).length
      · exact ⟨_, .filled more few enough⟩
      · refine ih (batches ++ [last]) more (by omega) ?_
        rw [List.length_append, List.length_singleton]
        omega

/-- Drawing comes to its one end. -/
theorem fillFrom_eq_iff (few : drawn.length < wanted)
    {outcome : Except GenerationFault (List α) × Source} :
    fillFrom alphabet size wanted source drawn = outcome ↔
      Ends alphabet size wanted source drawn outcome := by
  constructor
  · rintro rfl
    obtain ⟨outcome, ends⟩ : ∃ outcome, Ends alphabet size wanted source drawn outcome :=
      exists_ends few
    rwa [ends.eq]
  · exact Ends.eq

/-- More batches have no fewer bytes that fit. -/
theorem length_fit_take_le (batches : List Bytes) (count sized : Nat) :
    (fit sized (batches.take count).flatten).length ≤ (fit sized batches.flatten).length := by
  conv_rhs => rw [← List.take_append_drop count batches]
  rw [List.flatten_append, fit_append, List.length_append]
  exact Nat.le_add_right ..

/-- Drawing succeeds with the fewest batches that have enough bytes that fit. -/
theorem ends_ok_iff (filled : alphabet ≠ []) (positive : 1 ≤ wanted) {rest : Source} :
    Ends alphabet size wanted source [] (.ok list, rest) ↔
      ∃ batches, source.Brings size batches ∧
        wanted ≤ (fit alphabet.length batches.flatten).length ∧
        (∀ count < batches.length,
          (fit alphabet.length (batches.take count).flatten).length < wanted) ∧
        list.map some =
          ((fit alphabet.length batches.flatten).take wanted).map
            (fun byte => alphabet[byte.toNat % alphabet.length]?) ∧
        rest = source.past size batches.length := by
  constructor
  · rintro ⟨⟩
    rename_i batches last brings few enough
    rw [List.nil_append, length_characters filled] at few enough
    refine ⟨batches ++ [last], brings, enough, fun count fewer => ?_, ?_, by simp⟩
    · have before : count ≤ batches.length := by simpa [Nat.lt_succ_iff] using fewer
      rw [List.take_append_of_le_length before]
      exact Nat.lt_of_le_of_lt (length_fit_take_le ..) few
    · rw [List.nil_append, List.map_take, map_characters filled, List.map_take]
  · rintro ⟨batches, brings, enough, fewest, chosen, rfl⟩
    rcases List.eq_nil_or_concat' batches with rfl | ⟨init, last, rfl⟩
    · simp [fit] at enough
      omega
    · have few := fewest init.length (by simp)
      rw [List.take_left' rfl] at few
      rw [List.map_take, ← map_characters filled, ← List.map_take] at chosen
      obtain rfl := List.map_injective_iff.mpr (fun _ _ => Option.some.inj) chosen
      rw [← length_characters filled] at few enough
      have ends : Ends alphabet size wanted source [] _ :=
        .filled brings (by simpa using few) (by simpa using enough)
      simpa using ends

/-- Drawing fails at a read that brings nothing to draw from, when there is not enough before it. -/
theorem ends_error_iff (filled : alphabet ≠ []) {fault : GenerationFault} {rest : Source} :
    Ends alphabet size wanted source [] (.error fault, rest) ↔
      ∃ batches, source.Brings size batches ∧
        (∀ count ≤ batches.length,
          (fit alphabet.length (batches.take count).flatten).length < wanted) ∧
        source.attempt size batches.length = .error fault ∧
        rest = source.past size (batches.length + 1) := by
  constructor
  · rintro ⟨⟩
    rename_i batches brings few fails
    rw [List.nil_append, length_characters filled] at few
    exact ⟨batches, brings, fun count _ => Nat.lt_of_le_of_lt (length_fit_take_le ..) few, fails, rfl⟩
  · rintro ⟨batches, brings, few, fails, rfl⟩
    have short := few batches.length (Nat.le_refl _)
    rw [List.take_length, ← length_characters filled] at short
    exact .failed brings (by simpa using short) fails

/-! ## Texts -/

section Texts

variable {alphabet : Text} {length : Nat}

/-- A text is drawn as a list of as many characters. -/
theorem text_eq_fillFrom (filled : alphabet ≠ []) (sized : alphabet.length ≤ 256)
    (wanted : 1 ≤ length) (source : Source) :
    Draw.text alphabet length source =
      ((fillFrom alphabet (length + length / 4) length source []).1.mapError .generation,
        (fillFrom alphabet (length + length / 4) length source []).2) := by
  unfold Draw.text sequence firstOf fillFrom batchSize
  rw [if_neg (by simp [filled, sized]), if_neg (by omega), Int.toNat_natCast, Nat.min_self]
  dsimp only
  split <;> simp [*, Except.mapError]

/-- A text is drawn from the fewest batches that have enough bytes that fit, and consists of the
characters that the first of these choose. Drawing fails at the first read that fails or does not bring
a whole batch, if there were not enough bytes by then. Nothing is read after either. -/
theorem text_iff (filled : 1 ≤ alphabet.length) (sized : alphabet.length ≤ 256)
    (wanted : 1 ≤ length) (source : Source) :
    (∀ text rest, Draw.text alphabet length source = (.ok text, rest) ↔
      ∃ batches, source.Brings (length + length / 4) batches ∧
        length ≤ (fit alphabet.length batches.flatten).length ∧
        (∀ count < batches.length,
          (fit alphabet.length (batches.take count).flatten).length < length) ∧
        text.map some =
          ((fit alphabet.length batches.flatten).take length).map
            (fun byte => alphabet[byte.toNat % alphabet.length]?) ∧
        rest = source.past (length + length / 4) batches.length) ∧
    (∀ failure rest, Draw.text alphabet length source = (.error failure, rest) ↔
      ∃ batches fault, source.Brings (length + length / 4) batches ∧
        (∀ count ≤ batches.length,
          (fit alphabet.length (batches.take count).flatten).length < length) ∧
        source.attempt (length + length / 4) batches.length = .error fault ∧
        failure = .generation fault ∧
        rest = source.past (length + length / 4) (batches.length + 1)) := by
  have letters : alphabet ≠ [] := List.ne_nil_of_length_pos filled
  have ends := @fillFrom_eq_iff _ alphabet [] source (length + length / 4) length wanted
  rw [text_eq_fillFrom letters sized wanted]
  generalize fillFrom alphabet (length + length / 4) length source [] = outcome at ends
  constructor
  · intro text rest
    rw [← ends_ok_iff letters wanted, ← ends]
    rcases outcome with ⟨fault | drawn, after⟩ <;> simp [Except.mapError]
  · intro failure rest
    rcases outcome with ⟨fault | drawn, after⟩
    · simp only [Except.mapError, Prod.mk.injEq, Except.error.injEq]
      constructor
      · rintro ⟨rfl, rfl⟩
        obtain ⟨batches, brings, few, fails, past⟩ := (ends_error_iff letters).mp (ends.mp rfl)
        exact ⟨batches, fault, brings, few, fails, rfl, past⟩
      · rintro ⟨batches, other, brings, few, fails, rfl, past⟩
        have same := ends.mpr ((ends_error_iff letters).mpr ⟨batches, brings, few, fails, past⟩)
        cases same
        exact ⟨rfl, rfl⟩
    · simp only [Except.mapError, Prod.mk.injEq, reduceCtorEq, false_and, false_iff]
      rintro ⟨batches, other, brings, few, fails, rfl, past⟩
      cases ends.mpr ((ends_error_iff letters).mpr ⟨batches, brings, few, fails, past⟩)

/-- No byte of the first batch fits an alphabet of three, and the last byte of the second is the fourth
that fits: the third read, which would fail, is not made. With a single byte for the second batch, that
read is the last. -/
theorem text_iff_second_batch :
    let alphabet := Text.lit "abc"
    let spent : Bytes := [255, 255, 255, 255, 255]
    let whole := Source.ofReads 200 [.ok spent, .ok [0, 255, 4, 8, 254], .error (Text.lit "closed")]
    let short := Source.ofReads 200 [.ok spent, .ok [0]]
    1 ≤ alphabet.length ∧ alphabet.length ≤ 256 ∧ 1 ≤ 4 ∧
      Draw.text alphabet (4 : Nat) whole = (.ok (Text.lit "abcc"), whole.past 5 2) ∧
      Draw.text alphabet (4 : Nat) short =
        (.error (.generation (.shortRead 1 5)), short.past 5 2) := by
  intro alphabet spent whole short
  have filled : 1 ≤ alphabet.length := by decide
  have sized : alphabet.length ≤ 256 := by decide
  refine ⟨filled, sized, by decide, ?_, ?_⟩
  · refine ((text_iff filled sized (by decide) whole).1 _ _).mpr
      ⟨[spent, [0, 255, 4, 8, 254]], rfl, by decide, by decide, by decide, rfl⟩
  · refine ((text_iff filled sized (by decide) short).2 _ _).mpr
      ⟨[spent], .shortRead 1 5, rfl, by decide, rfl, rfl, rfl⟩

end Texts

end Draw

end Keyring


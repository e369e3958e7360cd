import Mathlib.Data.Fintype.BigOperators
import Mathlib.Data.Fintype.Vector
import Mathlib.Logic.Equiv.Basic
import Keyring.Proofs.Credential.Drawing
import Keyring.Proofs.Credential.Fresh

/-!
# No text is likelier than another

Texts are drawn uniformly: of all streams of bytes, exactly as many lead to one text as to any other
(`Draw.uniform`). A byte that fits chooses a character by its remainder, and for each quotient there is
one such byte for each remainder. So two characters can change places: `exchange` keeps the quotient of
a byte and swaps the two remainders. Where the bytes that fit are exchanged one by one (`relabel`), a
stream that leads to one text becomes a stream that leads to the other, and doing so twice changes
nothing.
-/

namespace Keyring

instance fintypeUInt8 : Fintype UInt8 :=
  Fintype.ofEquiv (Fin 256) ⟨UInt8.ofFin, UInt8.toFin, fun _ => rfl, fun _ => rfl⟩

/-! ## Streams -/

namespace Source

variable {size limit : Nat} {stream : Bytes}

/-- A source that hands out a stream of bytes, in a limited number of reads. -/
def ofStream (limit : Nat) (stream : Bytes) : Source where
  answer asked size := .ok ((stream.drop (asked.foldl (· + ·) 0)).take size)
  remaining := limit
  asked := []

/-- The batches of a stream. -/
def batches (size limit : Nat) (stream : Bytes) : List Bytes :=
  (List.range limit).map fun count => (stream.drop (count * size)).take size

/-- A stream consists of its batches. -/
theorem flatten_batches (size limit : Nat) (stream : Bytes) :
    (batches size limit stream).flatten = stream.take (limit * size) := by
  induction limit with
  | zero => simp [batches]
  | succ limit ih =>
    unfold batches at ih ⊢
    rw [List.range_succ, List.map_append, List.flatten_append, ih, Nat.succ_mul, List.take_add]
    simp

/-- The reads bring the batches of the stream. -/
theorem brings_ofStream (whole : stream.length = limit * size) :
    (ofStream limit stream).Brings size (batches size limit stream) := by
  unfold Brings
  rw [batches, List.length_map, List.length_range, List.map_map]
  refine List.map_congr_left fun count member => ?_
  have within : count < limit := List.mem_range.mp member
  have enough : (count + 1) * size ≤ stream.length := by
    rw [whole]
    exact Nat.mul_le_mul_right size within
  rw [Nat.succ_mul] at enough
  have full : ((stream.drop (count * size)).take size).length = size := by
    rw [List.length_take, List.length_drop]
    omega
  have before : (List.replicate count size).foldl (· + ·) 0 = count * size := by
    rw [← List.sum_eq_foldl, List.sum_replicate_nat]
  simp [attempt, ofStream, within, full, before]

end Source

namespace Draw

section Streams

variable {α : Type} {alphabet drawn : List α} {source : Source} {size wanted : Nat}
  {batches : List Bytes} {fault : GenerationFault}

/-- Reading ends with what can be drawn from all batches there are. -/
theorem fst_fillFrom_of_brings (brings : source.Brings size batches)
    (fails : source.attempt size batches.length = .error fault) (few : drawn.length < wanted) :
    (fillFrom alphabet size wanted source drawn).1 =
      if wanted ≤ (drawn ++ characters alphabet batches.flatten).length then
        .ok ((drawn ++ characters alphabet batches.flatten).take wanted)
      else .error fault := by
  induction batches generalizing source drawn with
  | nil =>
    rw [List.length_nil] at fails
    rw [fillFrom_eq, fails, if_neg (by simpa [characters] using few)]
  | cons batch batches ih =>
    obtain ⟨first, later⟩ := Source.brings_cons.mp brings
    rw [List.length_cons, Nat.add_comm, ← Source.attempt_past] at fails
    rw [fillFrom_eq, first, List.flatten_cons, characters_append, ← List.append_assoc]
    dsimp only
    split
    · rename_i enough
      have more : wanted ≤
          (drawn ++ characters alphabet batch ++ characters alphabet batches.flatten).length := by
        rw [List.length_append]
        omega
      rw [if_pos more, List.take_append_of_le_length enough]
    · rename_i fewer
      exact ih later fails (by omega)

/-- A text is drawn from a stream that has enough bytes that fit, and their first characters are the
text. -/
theorem text_ofStream_iff {alphabet text : Text} {length limit : Nat} {stream : Bytes}
    (filled : alphabet ≠ []) (sized : alphabet.length ≤ 256) (wanted : 1 ≤ length)
    (whole : stream.length = limit * (length + length / 4)) :
    (Draw.text alphabet length (Source.ofStream limit stream)).1 = .ok text ↔
      length ≤ (fit alphabet.length stream).length ∧
        ((fit alphabet.length stream).take length).map
          (fun byte => alphabet[byte.toNat % alphabet.length]?) = text.map some := by
  have fails : (Source.ofStream limit stream).attempt (length + length / 4)
      (Source.batches (length + length / 4) limit stream).length =
        .error (.sourceFailed Source.exhausted) := by
    simp [Source.attempt, Source.batches, Source.ofStream]
  have all : (Source.batches (length + length / 4) limit stream).flatten = stream := by
    rw [Source.flatten_batches, ← whole, List.take_length]
  have short : ([] : Text).length < length := wanted
  rw [text_eq_fillFrom filled sized wanted,
    fst_fillFrom_of_brings (Source.brings_ofStream whole) fails short, all,
    List.nil_append, length_characters filled, List.map_take, ← map_characters filled,
    ← List.map_take, (List.map_injective_iff.mpr fun _ _ => Option.some.inj).eq_iff]
  split <;> simp [*, Except.mapError]

end Streams

/-! ## Exchanging characters -/

/-- The byte with the same quotient in which two remainders have changed places. -/
def exchange (size first second : Nat) (byte : UInt8) : UInt8 :=
  UInt8.ofNat (byte.toNat / size * size + Equiv.swap first second (byte.toNat % size))

/-- A stream of which the bytes that fit are changed, the first by the first change and so on. -/
def relabel (size : Nat) : List (UInt8 → UInt8) → Bytes → Bytes
  | _, [] => []
  | [], byte :: bytes => byte :: bytes
  | change :: changes, byte :: bytes =>
    if byte.toNat ≤ 255 - 256 % size then change byte :: relabel size changes bytes
    else byte :: relabel size (change :: changes) bytes

/-- A change of bytes that fit, which is undone by itself. -/
def IsExchange (size : Nat) (change : UInt8 → UInt8) : Prop :=
  ∀ byte : UInt8, byte.toNat ≤ 255 - 256 % size →
    (change byte).toNat ≤ 255 - 256 % size ∧ change (change byte) = byte

section Exchange

variable {size first second : Nat} {changes : List (UInt8 → UInt8)}

/-- The bytes that fit are those with a quotient that every remainder occurs with. -/
theorem fits_iff (positive : 0 < size) (sized : size ≤ 256) {byte : UInt8} :
    byte.toNat ≤ 255 - 256 % size ↔ byte.toNat / size < 256 / size := by
  have whole : 256 / size * size + 256 % size = 256 := Nat.div_add_mod' 256 size
  have left : 256 % size < 256 := (Nat.mod_lt 256 positive).trans_le sized
  rw [Nat.div_lt_iff_lt_mul positive]
  generalize 256 / size * size = multiple at whole ⊢
  omega

/-- Numbers below a size change places below it. -/
theorem swap_lt (below : first < size) (below' : second < size) {number : Nat}
    (small : number < size) : Equiv.swap first second number < size := by
  rw [Equiv.swap_apply_def]
  split
  · exact below'
  · split
    · exact below
    · exact small

/-- Exchanging keeps the quotient of a byte that fits and swaps remainders. -/
theorem toNat_exchange (sized : size ≤ 256) (below : first < size) (below' : second < size)
    {byte : UInt8} (fits : byte.toNat ≤ 255 - 256 % size) :
    (exchange size first second byte).toNat / size = byte.toNat / size ∧
      (exchange size first second byte).toNat % size =
        Equiv.swap first second (byte.toNat % size) := by
  have positive : 0 < size := Nat.zero_lt_of_lt below
  have remainder := swap_lt below below' (Nat.mod_lt byte.toNat positive)
  have quotient := (fits_iff positive sized).mp fits
  have bound : byte.toNat / size * size + size ≤ 256 :=
    (Nat.succ_mul ..).symm.trans_le
      ((Nat.mul_le_mul_right size quotient).trans (Nat.div_mul_le_self 256 size))
  unfold exchange
  rw [UInt8.toNat_ofNat', Nat.mod_eq_of_lt (by omega), Nat.mul_comm]
  exact ⟨by rw [Nat.mul_add_div positive, Nat.div_eq_of_lt remainder, Nat.add_zero],
    by rw [Nat.mul_add_mod, Nat.mod_eq_of_lt remainder]⟩

/-- Exchanging two characters is undone by exchanging them again. -/
theorem isExchange_exchange (sized : size ≤ 256) (below : first < size) (below' : second < size) :
    IsExchange size (exchange size first second) := by
  intro byte fits
  have positive : 0 < size := Nat.zero_lt_of_lt below
  obtain ⟨quotient, remainder⟩ := toNat_exchange sized below below' fits
  have still : (exchange size first second byte).toNat ≤ 255 - 256 % size := by
    rw [fits_iff positive sized, quotient]
    exact (fits_iff positive sized).mp fits
  obtain ⟨quotient', remainder'⟩ := toNat_exchange sized below below' still
  refine ⟨still, UInt8.toNat_inj.mp ?_⟩
  rw [← Nat.div_add_mod (exchange size first second _).toNat size, quotient', remainder', quotient,
    remainder, Equiv.swap_apply_self, Nat.div_add_mod]

@[simp]
theorem length_relabel (size : Nat) (changes : List (UInt8 → UInt8)) (bytes : Bytes) :
    (relabel size changes bytes).length = bytes.length := by
  induction bytes generalizing changes with
  | nil => simp [relabel]
  | cons byte bytes ih =>
    cases changes with
    | nil => rfl
    | cons change changes =>
      rw [relabel]
      split <;> simp [ih]

/-- Relabelling twice changes nothing. -/
theorem relabel_relabel (exchanges : ∀ change ∈ changes, IsExchange size change) (bytes : Bytes) :
    relabel size changes (relabel size changes bytes) = bytes := by
  induction bytes generalizing changes with
  | nil => simp [relabel]
  | cons byte bytes ih =>
    cases changes with
    | nil => rfl
    | cons change changes =>
      by_cases fits : byte.toNat ≤ 255 - 256 % size
      · obtain ⟨still, undone⟩ := exchanges change (List.mem_cons_self ..) byte fits
        rw [relabel, if_pos fits, relabel, if_pos still, undone,
          ih fun other member => exchanges other (.tail _ member)]
      · rw [relabel, if_neg fits, relabel, if_neg fits, ih exchanges]

/-- Relabelling changes the bytes that fit, one after another, and they fit still. -/
theorem fit_relabel (exchanges : ∀ change ∈ changes, IsExchange size change) (bytes : Bytes) :
    fit size (relabel size changes bytes) =
      List.zipWith (fun change byte => change byte) changes ((fit size bytes).take changes.length) ++
        (fit size bytes).drop changes.length := by
  induction bytes generalizing changes with
  | nil => simp [relabel, fit]
  | cons byte bytes ih =>
    cases changes with
    | nil => rfl
    | cons change changes =>
      by_cases fits : byte.toNat ≤ 255 - 256 % size
      · have still := (exchanges change (List.mem_cons_self ..) byte fits).1
        have rest := ih fun other member => exchanges other (.tail _ member)
        unfold fit at rest ⊢
        rw [relabel, if_pos fits, List.filter_cons_of_pos (by simpa using still),
          List.filter_cons_of_pos (by simpa using fits), rest]
        rfl
      · have rest := ih exchanges
        unfold fit at rest ⊢
        rw [relabel, if_neg fits, List.filter_cons_of_neg (by simpa using fits),
          List.filter_cons_of_neg (by simpa using fits), rest]

end Exchange

/-! ## Texts -/

/-- A text of a length with characters of an alphabet. -/
structure IsOver (alphabet : Text) (length : Nat) (text : Text) : Prop where
  length : text.length = length
  letters : ∀ point ∈ text, point ∈ alphabet

instance (alphabet : Text) (length : Nat) (text : Text) : Decidable (IsOver alphabet length text) :=
  decidable_of_iff (text.length = length ∧ text.all alphabet.contains = true)
    ⟨fun both => ⟨both.1, by simpa using both.2⟩,
      fun spelled => ⟨spelled.length, by simpa using spelled.letters⟩⟩

/-- The changes that exchange the characters of a text for those of another. -/
def exchanges (alphabet text other : Text) : List (UInt8 → UInt8) :=
  List.zipWith
    (fun point point' => exchange alphabet.length (alphabet.idxOf point) (alphabet.idxOf point'))
    text other

/-- The streams of so many batches that lead to a text. -/
def streams (alphabet : Text) (length limit : Nat) (text : Text) :
    Finset (List.Vector UInt8 (limit * (length + length / 4))) :=
  {stream | (Draw.text alphabet length (Source.ofStream limit stream.toList)).1 = .ok text}

section Texts

variable {alphabet text other : Text} {length limit : Nat} {bytes : Bytes}

theorem exchanges_comm : exchanges alphabet text other = exchanges alphabet other text := by
  unfold exchanges
  rw [List.zipWith_comm]
  congr 1
  funext point' point byte
  rw [exchange, exchange, Equiv.swap_comm]

/-- The characters of both texts are in the alphabet, so each exchange undoes itself. -/
theorem isExchange_of_mem (sized : alphabet.length ≤ 256)
    (letters : ∀ point ∈ text, point ∈ alphabet) (letters' : ∀ point ∈ other, point ∈ alphabet)
    {change : UInt8 → UInt8} (member : change ∈ exchanges alphabet text other) :
    IsExchange alphabet.length change := by
  rw [exchanges, ← List.map_uncurry_zip_eq_zipWith] at member
  obtain ⟨⟨point, point'⟩, paired, rfl⟩ := List.mem_map.mp member
  obtain ⟨first, second⟩ := List.of_mem_zip paired
  exact isExchange_exchange sized (List.idxOf_lt_length_of_mem (letters point first))
    (List.idxOf_lt_length_of_mem (letters' point' second))

/-- A byte that chooses a character chooses the other one after the exchange. -/
theorem getElem?_exchange (distinct : alphabet.Nodup) (sized : alphabet.length ≤ 256)
    {point point' : CodePoint} {byte : UInt8} (fits : byte.toNat ≤ 255 - 256 % alphabet.length)
    (chosen : alphabet[byte.toNat % alphabet.length]? = some point) (member : point' ∈ alphabet) :
    alphabet[(exchange alphabet.length (alphabet.idxOf point) (alphabet.idxOf point') byte).toNat
      % alphabet.length]? = some point' := by
  obtain ⟨within, rfl⟩ := List.getElem?_eq_some_iff.mp chosen
  rw [distinct.idxOf_getElem, (toNat_exchange sized within (List.idxOf_lt_length_of_mem member) fits).2,
    Equiv.swap_apply_left, List.getElem?_idxOf member]

/-- Bytes that choose a text choose the other one after the exchanges. -/
theorem map_exchanges (distinct : alphabet.Nodup) (sized : alphabet.length ≤ 256)
    (fits : ∀ byte ∈ bytes, byte.toNat ≤ 255 - 256 % alphabet.length)
    (letters : ∀ point ∈ other, point ∈ alphabet) (same : text.length = other.length)
    (chosen : bytes.map (fun byte => alphabet[byte.toNat % alphabet.length]?) = text.map some) :
    (List.zipWith (fun change byte => change byte) (exchanges alphabet text other) bytes).map
      (fun byte => alphabet[byte.toNat % alphabet.length]?) = other.map some := by
  induction bytes generalizing text other with
  | nil =>
    have none_left : text = [] := by simpa using chosen.symm
    rw [none_left, List.length_nil, eq_comm, List.length_eq_zero_iff] at same
    simp [none_left, same, exchanges]
  | cons byte bytes ih =>
    rcases text with _ | ⟨point, text⟩
    · simp at chosen
    rcases other with _ | ⟨point', other⟩
    · simp at same
    rw [List.map_cons, List.map_cons, List.cons.injEq] at chosen
    obtain ⟨first, rest⟩ := List.forall_mem_cons.mp fits
    obtain ⟨letter, letters⟩ := List.forall_mem_cons.mp letters
    have head := getElem?_exchange distinct sized first chosen.1 letter
    have tail := ih rest letters (by simpa using same) chosen.2
    unfold exchanges at tail ⊢
    rw [List.zipWith_cons_cons, List.zipWith_cons_cons, List.map_cons, head, tail, List.map_cons]

/-- A stream that leads to a text leads to another one when the two are exchanged in it. -/
theorem text_relabel (distinct : alphabet.Nodup) (filled : alphabet ≠ [])
    (sized : alphabet.length ≤ 256) (wanted : 1 ≤ length) (spelled : IsOver alphabet length text)
    (spelled' : IsOver alphabet length other) (whole : bytes.length = limit * (length + length / 4))
    (drawn : (Draw.text alphabet length (Source.ofStream limit bytes)).1 = .ok text) :
    (Draw.text alphabet length (Source.ofStream limit
      (relabel alphabet.length (exchanges alphabet text other) bytes))).1 = .ok other := by
  have changes : (exchanges alphabet text other).length = length := by
    rw [exchanges, List.length_zipWith, spelled.length, spelled'.length, Nat.min_self]
  rw [text_ofStream_iff filled sized wanted whole] at drawn
  rw [text_ofStream_iff filled sized wanted (by simpa using whole),
    fit_relabel fun _ => isExchange_of_mem sized spelled.letters spelled'.letters, changes]
  obtain ⟨enough, chosen⟩ := drawn
  have changed : (List.zipWith (fun change byte => change byte) (exchanges alphabet text other)
      ((fit alphabet.length bytes).take length)).length = length := by
    rw [List.length_zipWith, changes, List.length_take_of_le enough, Nat.min_self]
  refine ⟨?_, ?_⟩
  · rw [List.length_append, changed]
    exact Nat.le_add_right ..
  · rw [List.take_left' changed]
    refine map_exchanges distinct sized (fun byte member => ?_) spelled'.letters
      (spelled.length.trans spelled'.length.symm) chosen
    simpa [fit] using (List.mem_filter.mp (List.mem_of_mem_take member)).2

/-- Exchanging two texts, as a permutation of the streams. -/
def exchangeAll (letters : ∀ point ∈ text, point ∈ alphabet)
    (letters' : ∀ point ∈ other, point ∈ alphabet) (sized : alphabet.length ≤ 256) (count : Nat) :
    Equiv.Perm (List.Vector UInt8 count) :=
  Function.Involutive.toPerm
    (fun stream => ⟨relabel alphabet.length (exchanges alphabet text other) stream.toList, by simp⟩)
    fun stream => Subtype.ext <|
      relabel_relabel (fun _ => isExchange_of_mem sized letters letters') stream.toList

/-- As many streams lead to one text as to another. -/
theorem card_streams_eq (distinct : alphabet.Nodup) (filled : alphabet ≠ [])
    (sized : alphabet.length ≤ 256) (wanted : 1 ≤ length) (spelled : IsOver alphabet length text)
    (spelled' : IsOver alphabet length other) :
    (streams alphabet length limit text).card = (streams alphabet length limit other).card := by
  refine Finset.card_equiv (exchangeAll spelled.letters spelled'.letters sized _) fun stream => ?_
  have undone := relabel_relabel (fun _ => isExchange_of_mem sized spelled.letters spelled'.letters)
    stream.toList
  simp only [streams, Finset.mem_filter, Finset.mem_univ, true_and]
  constructor
  · exact text_relabel distinct filled sized wanted spelled spelled' stream.toList_length
  · intro drawn
    have back := text_relabel distinct filled sized wanted spelled' spelled
      (exchangeAll spelled.letters spelled'.letters sized _ stream).toList_length drawn
    rw [exchanges_comm] at back
    exact undone ▸ back

/-! ## Shares -/

/-- The texts of a length over an alphabet. -/
def texts (alphabet : Text) (length : Nat) : Finset Text :=
  Finset.univ.image fun indices : List.Vector (Fin alphabet.length) length =>
    indices.toList.map alphabet.get

theorem mem_texts : text ∈ texts alphabet length ↔ IsOver alphabet length text := by
  unfold texts
  rw [Finset.mem_image]
  constructor
  · rintro ⟨indices, -, rfl⟩
    refine ⟨by simp, fun point member => ?_⟩
    obtain ⟨index, -, rfl⟩ := List.mem_map.mp member
    exact List.get_mem ..
  · intro spelled
    let index (point : { point // point ∈ text }) : Fin alphabet.length :=
      ⟨alphabet.idxOf point.1, List.idxOf_lt_length_of_mem (spelled.letters point.1 point.2)⟩
    refine ⟨⟨text.attach.map index, by simp [spelled.length]⟩, Finset.mem_univ _, ?_⟩
    have back : alphabet.get ∘ index = Subtype.val := by
      funext point
      exact List.getElem_idxOf _
    show (text.attach.map index).map alphabet.get = text
    rw [List.map_map, back, List.attach_map_subtype_val]

/-- An alphabet of different characters has a power of texts. -/
theorem card_texts (distinct : alphabet.Nodup) (length : Nat) :
    (texts alphabet length).card = alphabet.length ^ length := by
  have injective : Function.Injective fun indices : List.Vector (Fin alphabet.length) length =>
      indices.toList.map alphabet.get :=
    (List.map_injective_iff.mpr (List.nodup_iff_injective_get.mp distinct)).comp
      Subtype.val_injective
  rw [texts, Finset.card_image_of_injective _ injective, Finset.card_univ, card_vector,
    Fintype.card_fin]

/-- A stream with enough bytes that fit leads to one text, and that is over the alphabet. -/
theorem exists_text (filled : alphabet ≠ []) (sized : alphabet.length ≤ 256) (wanted : 1 ≤ length)
    (whole : bytes.length = limit * (length + length / 4))
    (enough : length ≤ (fit alphabet.length bytes).length) :
    ∃ text, IsOver alphabet length text ∧
      (Draw.text alphabet length (Source.ofStream limit bytes)).1 = .ok text := by
  have drawn : (Draw.text alphabet length (Source.ofStream limit bytes)).1 =
      .ok ((characters alphabet bytes).take length) := by
    rw [text_ofStream_iff filled sized wanted whole, List.map_take, List.map_take,
      map_characters filled]
    exact ⟨enough, rfl⟩
  obtain ⟨long, letters⟩ := text_eq_ok drawn
  exact ⟨_, ⟨by simpa using long, letters⟩, drawn⟩

/-- The streams that lead to a text at all are shared out among the texts. -/
theorem card_enough (filled : alphabet ≠ []) (sized : alphabet.length ≤ 256) (wanted : 1 ≤ length) :
    Finset.card {stream : List.Vector UInt8 (limit * (length + length / 4)) |
        length ≤ (fit alphabet.length stream.toList).length} =
      ∑ text ∈ texts alphabet length, (streams alphabet length limit text).card := by
  let result (stream : List.Vector UInt8 (limit * (length + length / 4))) : Text :=
    match (Draw.text alphabet length (Source.ofStream limit stream.toList)).1 with
    | .ok text => text
    | .error _ => []
  rw [Finset.card_eq_sum_card_fiberwise (f := result) (t := texts alphabet length)]
  · refine Finset.sum_congr rfl fun text member => congrArg Finset.card (Finset.ext fun stream => ?_)
    simp only [streams, Finset.mem_filter, Finset.mem_univ, true_and, result]
    constructor
    · rintro ⟨enough, rfl⟩
      obtain ⟨text, -, drawn⟩ := exists_text filled sized wanted stream.toList_length enough
      rw [drawn]
    · intro drawn
      refine ⟨?_, by rw [drawn]⟩
      exact ((text_ofStream_iff filled sized wanted stream.toList_length).mp drawn).1
  · intro stream member
    have enough := (Finset.mem_filter.mp member).2
    obtain ⟨text, spelled, drawn⟩ := exists_text filled sized wanted stream.toList_length enough
    rw [Finset.mem_coe, mem_texts]
    simpa only [result, drawn] using spelled

/-- As many streams of so many batches lead to one text as to another. Altogether they are all streams
with enough bytes that fit, and each text has the same share of these. -/
theorem uniform (distinct : alphabet.Nodup) (filled : 1 ≤ alphabet.length)
    (sized : alphabet.length ≤ 256) (wanted : 1 ≤ length) (limit : Nat)
    (spelled : IsOver alphabet length text) (spelled' : IsOver alphabet length other) :
    (streams alphabet length limit text).card = (streams alphabet length limit other).card ∧
      alphabet.length ^ length * (streams alphabet length limit text).card =
        Finset.card {stream : List.Vector UInt8 (limit * (length + length / 4)) |
          length ≤ (fit alphabet.length stream.toList).length} := by
  have letters : alphabet ≠ [] := List.ne_nil_of_length_pos filled
  refine ⟨card_streams_eq distinct letters sized wanted spelled spelled', ?_⟩
  rw [card_enough letters sized wanted, ← card_texts distinct, eq_comm]
  refine Finset.sum_const_nat fun text' member => ?_
  exact card_streams_eq distinct letters sized wanted (mem_texts.mp member) spelled

/-- The greatest byte fits no alphabet of three. Still a text of one character throughout is no likelier
than one of all three, and each of the 243 texts has its share. -/
theorem uniform_three :
    let alphabet := Text.lit "abc"
    let streams := streams alphabet 5 2
    alphabet.Nodup ∧ 1 ≤ alphabet.length ∧ alphabet.length ≤ 256 ∧ 1 ≤ 5 ∧
      IsOver alphabet 5 (Text.lit "aaaaa") ∧ IsOver alphabet 5 (Text.lit "bcacb") ∧
      (streams (Text.lit "aaaaa")).card = (streams (Text.lit "bcacb")).card ∧
      alphabet.length ^ 5 = 243 ∧
      alphabet.length ^ 5 * (streams (Text.lit "aaaaa")).card =
        Finset.card {stream : List.Vector UInt8 (2 * (5 + 5 / 4)) |
          5 ≤ (fit alphabet.length stream.toList).length} := by
  intro alphabet streams
  have distinct : alphabet.Nodup := by decide
  have sized : alphabet.length ≤ 256 := by decide
  have spelled : IsOver alphabet 5 (Text.lit "aaaaa") := by decide
  have spelled' : IsOver alphabet 5 (Text.lit "bcacb") := by decide
  obtain ⟨alike, share⟩ := uniform distinct (by decide) sized (by decide) 2 spelled spelled'
  exact ⟨distinct, by decide, sized, by decide, spelled, spelled', alike, by decide, share⟩

end Texts

end Draw

end Keyring

import Keyring.Header
import Keyring.Proofs.Codec.Base64
import Keyring.Proofs.Text.Octets
import Keyring.Proofs.Text.Strict

/-!
# Headers come back

A header that was made for an id and a secret presents what stands before and behind the first colon
of the two with a colon between them. So it presents them as they are exactly if the id holds no colon
(`comes_back`). Many headers present the same id and secret, since scheme, blanks and the last letter
of the token may differ. Whichever of them was parsed, the one that is made anew is parsed alike.
-/

namespace Keyring

namespace Text

variable {text : Text}

/-- A text that starts and ends with no blank is stripped of nothing. -/
theorem strip_of_ends (first : ∀ point ∈ text.head?, point.isBlank = false)
    (last : ∀ point ∈ text.getLast?, point.isBlank = false) : strip text = text := by
  have kept : ∀ list : Text, (∀ point ∈ list.head?, point.isBlank = false) →
      list.dropWhile CodePoint.isBlank = list := by
    intro list start
    cases list with
    | nil => rfl
    | cons point rest => simp [start point rfl]
  unfold strip stripEnd stripStart
  rw [kept text first, kept text.reverse (by simpa using last), List.reverse_reverse]

/-- A text without blanks is stripped of nothing. -/
theorem strip_of_plain (plain : ∀ point ∈ text, point.isBlank = false) : strip text = text :=
  strip_of_ends (fun point first => plain point (List.mem_of_mem_head? first))
    (fun point last => plain point (List.mem_of_mem_getLast? last))

end Text

namespace Utf8

/-- Texts with a character between them have octets exactly if both have. -/
theorem isEncodable_append_cons {before after : Text} {point : CodePoint}
    (character : point.isSurrogate = false) :
    isEncodable (before ++ point :: after) = true ↔
      isEncodable before = true ∧ isEncodable after = true := by
  simp [isEncodable, character]

end Utf8

namespace Header

open Text (lit)

variable {text id secret token header : Text}

/-- The colon is a character. -/
theorem isEncodable_joined :
    Utf8.isEncodable (id ++ separator :: secret) = true ↔
      Utf8.isEncodable id = true ∧ Utf8.isEncodable secret = true :=
  Utf8.isEncodable_append_cons (by decide)

/-- What a header is made of. -/
theorem render_ofText (encodable : Utf8.isEncodable (id ++ separator :: secret) = true) :
    render (.ofText id) (.ofText secret) =
      .ok (lit "Basic " ++ Base64.encode (Utf8.octets (id ++ separator :: secret))) := by
  have encoded : Utf8.encode (id ++ separator :: secret) = .ok _ :=
    Utf8.encode_eq_ok_iff.mpr ⟨encodable, rfl⟩
  unfold render Cell.toText
  rw [encoded]

/-- The token of a text is read as that text. -/
theorem parseToken_encode (encodable : Utf8.isEncodable text = true) :
    parseToken (Base64.encode (Utf8.octets text)) = .ok (splitFirst separator text) := by
  have ascii : (Base64.encode (Utf8.octets text)).all CodePoint.isAscii = true :=
    List.all_eq_true.mpr fun _ member => (Base64.plain_of_mem_encode member).1
  unfold parseToken
  rw [ascii, Base64.decode?_encode]
  dsimp only
  rw [Utf8.decode_octets encodable]
  rfl

/-- A token without blanks is found behind the scheme. -/
theorem parse_scheme_append (filled : token ≠ [])
    (plain : ∀ point ∈ token, point.isBlank = false) :
    parse (lit "Basic " ++ token) = parseToken token := by
  have whole : Text.strip (lit "Basic " ++ token) = lit "Basic " ++ token := by
    refine Text.strip_of_ends (fun point first => ?_) fun point last => plain point ?_
    · cases first
      decide
    · rw [List.getLast?_append_of_ne_nil _ filled] at last
      exact List.mem_of_mem_getLast? last
  have cut : splitFirst 32 (lit "Basic " ++ token) = some (lit "Basic", token) :=
    splitFirst_eq_some_iff.mpr ⟨rfl, by decide⟩
  have named : ¬ ((lit "Basic").map CodePoint.toLowerAscii ≠ scheme || token.isEmpty) = true := by
    simp [show (lit "Basic").map CodePoint.toLowerAscii = scheme by decide, filled]
  unfold parse
  rw [whole, cut]
  dsimp only
  rw [if_neg named, Text.strip_of_plain plain]

/-- A header is parsed as the text that it was made for, cut at the first colon. -/
theorem parse_scheme_encode (filled : text ≠ []) (encodable : Utf8.isEncodable text = true) :
    parse (lit "Basic " ++ Base64.encode (Utf8.octets text)) =
      .ok (splitFirst separator text) := by
  have letters := Base64.encode_ne_nil (Utf8.octets_ne_nil_iff.mpr filled)
  rw [parse_scheme_append letters fun _ member => (Base64.plain_of_mem_encode member).2,
    parseToken_encode encodable]

/-- A token that is read holds an encodable text with a colon, and is cut at the first one. -/
theorem parseToken_eq_some (read : parseToken token = .ok (some (id, secret))) :
    Utf8.isEncodable (id ++ separator :: secret) = true ∧ separator ∉ id := by
  unfold parseToken at read
  split at read
  · cases read
  · split at read
    · cases read
    · split at read
      · cases read
      · rename_i text decoded
        obtain ⟨rfl, fresh⟩ := splitFirst_eq_some_iff.mp (Except.ok.inj read)
        exact ⟨(Utf8.decode_eq_ok_iff.mp decoded).1, fresh⟩

/-- What a header presents has octets, and the id holds no colon. -/
theorem parse?_eq_some {header : Option Text}
    (parsed : parse? header = .ok (some (id, secret))) :
    Utf8.isEncodable (id ++ separator :: secret) = true ∧ separator ∉ id := by
  cases header with
  | none => cases parsed
  | some header =>
    unfold parse? parse at parsed
    dsimp only at parsed
    split at parsed
    · cases parsed
    · split at parsed
      · cases parsed
      · exact parseToken_eq_some parsed

/-- Every text without surrogates can be presented as an id or as a secret, and what stands before
and behind the first colon of both comes back: so id and secret do exactly if the id holds no colon.
And whatever header presented an id and a secret, the id holds no colon, and the header that is made
of the two presents them again. -/
theorem comes_back :
    (∀ id secret : Text, Utf8.isEncodable id = true → Utf8.isEncodable secret = true →
      ∃ header before after, render (.ofText id) (.ofText secret) = .ok header ∧
        id ++ separator :: secret = before ++ separator :: after ∧ separator ∉ before ∧
        parse? (some header) = .ok (some (before, after)) ∧
        (parse? (some header) = .ok (some (id, secret)) ↔ separator ∉ id)) ∧
    ∀ (header : Option Text) (id secret : Text), parse? header = .ok (some (id, secret)) →
      separator ∉ id ∧ ∃ again, render (.ofText id) (.ofText secret) = .ok again ∧
        parse? (some again) = .ok (some (id, secret)) := by
  have parsed : ∀ id secret : Text, Utf8.isEncodable (id ++ separator :: secret) = true →
      parse? (some (lit "Basic " ++ Base64.encode (Utf8.octets (id ++ separator :: secret)))) =
        .ok (splitFirst separator (id ++ separator :: secret)) :=
    fun _ _ => parse_scheme_encode (by simp)
  constructor
  · intro id secret idEncodable secretEncodable
    have encodable := isEncodable_joined.mpr ⟨idEncodable, secretEncodable⟩
    rw [render_ofText encodable]
    cases cut : splitFirst separator (id ++ separator :: secret) with
    | none => simp [splitFirst_eq_none_iff] at cut
    | some pair =>
      obtain ⟨before, after⟩ := pair
      obtain ⟨whole, fresh⟩ := splitFirst_eq_some_iff.mp cut
      have read := parsed id secret encodable
      refine ⟨_, before, after, rfl, whole, fresh, cut ▸ read, ?_⟩
      rw [read, Except.ok.injEq, splitFirst_eq_some_iff]
      exact and_iff_right rfl
  · intro header id secret accepted
    obtain ⟨encodable, fresh⟩ := parse?_eq_some accepted
    refine ⟨fresh, _, render_ofText encodable, ?_⟩
    rw [parsed id secret encodable, splitFirst_eq_some_iff.mpr ⟨rfl, fresh⟩]

/-- An id with a colon is cut there. The scheme in another case, more blanks and a last letter with
bits that belong to no octet make another header that presents the same. -/
theorem comes_back_respelled :
    let header := lit " bASIC   YTp= "
    (∃ joined, render (.ofText (lit "k:é")) (.ofText []) = .ok joined ∧
      parse? (some joined) ≠ .ok (some (lit "k:é", []))) ∧
    parse? (some header) = .ok (some (lit "a", [])) ∧
      render (.ofText (lit "a")) (.ofText []) = .ok (lit "Basic YTo=") ∧
      parse? (some (lit "Basic YTo=")) = .ok (some (lit "a", [])) := by
  intro header
  have accepted : parse? (some header) = .ok (some (lit "a", [])) := by
    decide +kernel
  have same : render (.ofText (lit "a")) (.ofText []) = .ok (lit "Basic YTo=") := by
    decide +kernel
  obtain ⟨again, made, read⟩ := (comes_back.2 _ _ _ accepted).2
  cases made.symm.trans same
  obtain ⟨joined, _, _, written, -, -, -, whole⟩ :=
    comes_back.1 (lit "k:é") [] (by decide) (by decide)
  exact ⟨⟨joined, written, fun kept => absurd (whole.mp kept) (by decide)⟩, accepted, same, read⟩

end Header

end Keyring

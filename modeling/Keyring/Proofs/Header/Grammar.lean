import Mathlib.Data.List.TakeWhile
import Keyring.Proofs.Codec.Grammar
import Keyring.Proofs.Header.RoundTrip
import Keyring.Proofs.Keychain.Requests

/-!
# The grammar of headers

Which headers present an id and a secret, told without saying how a header is parsed (`Carries`). There
are blanks around the whole, the name of the scheme in any case, a space, blanks around the token, and
the token is Base64 of a text in UTF-8, which is cut at its first colon.

The parser accepts these headers and no others. Where there is only ASCII behind the space every other
header is found malformed (`accepts_grammar`).
-/

namespace Keyring

namespace Text

variable {text core : Text}

/-- A text is another one with nothing but blanks around it, and that one has none at its ends. -/
structure Wraps (text core : Text) : Prop where
  around : ∃ before after, text = before ++ core ++ after ∧
    (∀ point ∈ before, point.isBlank = true) ∧ ∀ point ∈ after, point.isBlank = true
  first : ∀ point ∈ core.head?, point.isBlank = false
  last : ∀ point ∈ core.getLast?, point.isBlank = false

/-- What is left of a text without the blanks around it is what it wraps. -/
theorem wraps_strip (text : Text) : text.Wraps (strip text) := by
  have whole : text = text.takeWhile CodePoint.isBlank ++ stripStart text :=
    List.takeWhile_append_dropWhile.symm
  have behind : stripStart text =
      strip text ++ ((stripStart text).reverse.takeWhile CodePoint.isBlank).reverse := by
    rw [strip, stripEnd, ← List.reverse_append, List.takeWhile_append_dropWhile, List.reverse_reverse]
  refine ⟨⟨text.takeWhile CodePoint.isBlank,
    ((stripStart text).reverse.takeWhile CodePoint.isBlank).reverse, ?_, fun point member => ?_,
    fun point member => ?_⟩, ?_, ?_⟩
  · rw [List.append_assoc, ← behind, ← whole]
  · exact List.mem_takeWhile_imp member
  · exact List.mem_takeWhile_imp (List.mem_reverse.mp member)
  · intro point first
    have start : (stripStart text).head? = some point := by
      rw [behind, List.head?_append, first]
      rfl
    have kept := List.head?_dropWhile_not CodePoint.isBlank text
    unfold stripStart at start
    rw [start] at kept
    simpa using kept
  · intro point last
    have kept := List.head?_dropWhile_not CodePoint.isBlank (stripStart text).reverse
    rw [strip, stripEnd, List.getLast?_reverse] at last
    rw [last] at kept
    simpa using kept

/-- A text wraps but one text. -/
theorem strip_eq_iff : strip text = core ↔ text.Wraps core := by
  constructor
  · rintro rfl
    exact wraps_strip text
  · rintro ⟨⟨before, after, rfl, blank, blank'⟩, first, last⟩
    cases core with
    | nil =>
      have nothing : stripStart (before ++ [] ++ after) = [] := by
        rw [stripStart, List.dropWhile_eq_nil_iff]
        simpa [or_imp, forall_and] using ⟨blank, blank'⟩
      rw [strip, nothing]
      rfl
    | cons point rest =>
      have start : stripStart (before ++ (point :: rest) ++ after) = point :: rest ++ after := by
        rw [stripStart, List.append_assoc, List.dropWhile_append_of_pos blank, List.cons_append,
          List.dropWhile_cons_of_neg (by simp [first point rfl])]
      rw [strip, start, stripEnd, List.reverse_append,
        List.dropWhile_append_of_pos fun point member => blank' point (List.mem_reverse.mp member)]
      have kept := strip_of_ends first last
      rw [strip, stripStart, List.dropWhile_cons_of_neg (by simp [first point rfl]), stripEnd] at kept
      exact kept

end Text

namespace Header

open Text (lit)

variable {header id secret token : Text}

/-- A header carries an id and a secret. -/
inductive Carries (header id secret : Text) : Prop
  | basic {word rest token : Text} {octets : Bytes}
      (wrapped : header.Wraps (word ++ 32 :: rest))
      (named : word.map CodePoint.toLowerAscii = lit "basic") (filled : rest ≠ [])
      (held : rest.Wraps token) (spelled : Base64.Spells token octets)
      (written : Utf8.octets (id ++ separator :: secret) = octets)
      (encodable : Utf8.isEncodable (id ++ separator :: secret) = true)
      (first : separator ∉ id)

/-- A token holds an id and a secret if it is Base64 of a text that is cut between them. -/
theorem parseToken_eq_some_iff :
    parseToken token = .ok (some (id, secret)) ↔
      Base64.Spells token (Utf8.octets (id ++ separator :: secret)) ∧
        Utf8.isEncodable (id ++ separator :: secret) = true ∧ separator ∉ id := by
  unfold parseToken
  constructor
  · intro read
    split at read
    · cases read
    · split at read
      · cases read
      · rename_i octets decoded
        split at read
        · cases read
        · rename_i text written
          obtain ⟨rfl, first⟩ := splitFirst_eq_some_iff.mp (Except.ok.inj read)
          obtain ⟨encodable, rfl⟩ := Utf8.decode_eq_ok_iff.mp written
          exact ⟨Base64.decode?_eq_some_iff.mp decoded, encodable, first⟩
  · rintro ⟨spelled, encodable, first⟩
    rw [List.all_eq_true.mpr spelled.isAscii, Base64.decode?_eq_some_iff.mpr spelled]
    dsimp only
    rw [Utf8.decode_octets encodable]
    dsimp only
    rw [splitFirst_eq_some_iff.mpr ⟨rfl, first⟩]
    rfl

/-- The name of the scheme is one word. -/
theorem space_notMem_of_named {word : Text} (named : word.map CodePoint.toLowerAscii = scheme) :
    32 ∉ word := by
  intro member
  have lowered := List.mem_map_of_mem (f := CodePoint.toLowerAscii) member
  rw [named] at lowered
  revert lowered
  decide

/-- A header is accepted with an id and a secret exactly if it carries them. -/
theorem parse_eq_some_iff : parse header = .ok (some (id, secret)) ↔ Carries header id secret := by
  unfold parse
  constructor
  · intro accepted
    split at accepted
    · cases accepted
    · rename_i word rest cut
      split at accepted
      · cases accepted
      · rename_i proper
        simp only [decide_not, Bool.or_eq_true, Bool.not_eq_true', decide_eq_false_iff_not,
          List.isEmpty_iff, not_or, not_not] at proper
        obtain ⟨spelled, encodable, first⟩ := parseToken_eq_some_iff.mp accepted
        have whole := (splitFirst_eq_some_iff.mp cut).1
        exact .basic (Text.strip_eq_iff.mp whole) proper.1 proper.2 (Text.wraps_strip rest) spelled rfl
          encodable first
  · rintro ⟨wrapped, named, filled, held, spelled, rfl, encodable, first⟩
    rename_i word rest token
    have cut := splitFirst_eq_some_iff.mpr ⟨Text.strip_eq_iff.mpr wrapped, space_notMem_of_named named⟩
    have proper : ¬ (word.map CodePoint.toLowerAscii ≠ scheme || rest.isEmpty) = true := by
      simp [show word.map CodePoint.toLowerAscii = scheme from named, filled]
    rw [cut]
    dsimp only
    rw [if_neg proper, Text.strip_eq_iff.mpr held]
    exact parseToken_eq_some_iff.mpr ⟨spelled, encodable, first⟩

/-- There is nothing but ASCII behind the first space of a text. -/
def IsAsciiBehind (text : Text) : Prop :=
  ∀ word rest, splitFirst 32 text = some (word, rest) → rest.all CodePoint.isAscii = true

/-- Blanks around a text are neither here nor there. -/
theorem IsAsciiBehind.strip (ascii : IsAsciiBehind header) : IsAsciiBehind (Text.strip header) := by
  intro word rest cut
  refine List.all_eq_true.mpr fun point member => ?_
  obtain ⟨whole, fresh⟩ := splitFirst_eq_some_iff.mp cut
  obtain ⟨before, after, same, -, -⟩ := (Text.strip_eq_iff.mp whole).around
  cases early : splitFirst 32 header with
  | none =>
    refine absurd ?_ (splitFirst_eq_none_iff.mp early)
    rw [same]
    simp
  | some pair =>
    obtain ⟨start, more⟩ := pair
    obtain ⟨whole', fresh'⟩ := splitFirst_eq_some_iff.mp early
    refine List.all_eq_true.mp (ascii start more early) point ?_
    have both : start ++ 32 :: more = (before ++ word) ++ 32 :: (rest ++ after) := by
      rw [← whole', same]
      simp
    rcases List.append_eq_append_iff.mp both with ⟨between, -, tail⟩ | ⟨between, head, tail⟩
    · cases between with
      | nil =>
        cases tail
        exact List.mem_append_left _ member
      | cons first others =>
        obtain ⟨-, rfl⟩ := List.cons.inj tail
        simp [member]
    · cases between with
      | nil =>
        cases tail
        exact List.mem_append_left _ member
      | cons first others =>
        obtain ⟨rfl, -⟩ := List.cons.inj tail
        exact absurd (head ▸ by simp) fresh'

/-- A header with nothing but ASCII behind the first space can be read. -/
theorem IsAsciiBehind.isReadable (ascii : IsAsciiBehind (Text.strip header)) :
    IsReadable (some header) := by
  rintro _ ⟨_, word, rest, ⟨⟩, cut, -, -, rfl⟩
  refine List.all_eq_true.mpr fun point member =>
    List.all_eq_true.mp (ascii word rest cut) point ?_
  obtain ⟨before, after, same, -, -⟩ := (Text.wraps_strip rest).around
  rw [same]
  simp [member]

/-- Where there is nothing but ASCII behind the first space of a header, or of what is left of it
without the blanks around it, the header is accepted with an id and a secret exactly if it carries them,
and is found malformed if it carries none. -/
theorem accepts_grammar (ascii : IsAsciiBehind header ∨ IsAsciiBehind (Text.strip header)) :
    (∀ id secret, parse? (some header) = .ok (some (id, secret)) ↔ Carries header id secret) ∧
      ((∀ id secret, ¬ Carries header id secret) → parse? (some header) = .ok none) := by
  refine ⟨fun id secret => parse_eq_some_iff, fun foreign => ?_⟩
  obtain ⟨presented, parsed⟩ := parse?_isOk_iff.mpr (ascii.elim IsAsciiBehind.strip id).isReadable
  cases presented with
  | none => exact parsed
  | some pair => exact absurd (parse_eq_some_iff.mp parsed) (foreign pair.1 pair.2)

/-- Wide blanks around the header, tabulators around the token, and more equals signs than the groups
ask for. -/
theorem accepts_grammar_overfilled :
    let header := lit "\u2003bASIC \tQTpiOsOp==\t\u3000"
    IsAsciiBehind (Text.strip header) ∧ Carries header (lit "A") (lit "b:é") ∧
      parse? (some header) = .ok (some (lit "A", lit "b:é")) := by
  intro header
  have cut : splitFirst 32 (Text.strip header) = some (lit "bASIC", lit "\tQTpiOsOp==") := by
    decide +kernel
  have ascii : IsAsciiBehind (Text.strip header) := by
    intro word rest other
    cases cut.symm.trans other
    decide +kernel
  have accepted : parse? (some header) = .ok (some (lit "A", lit "b:é")) := by
    decide +kernel
  exact ⟨ascii, ((accepts_grammar (.inr ascii)).1 _ _).mp accepted, accepted⟩

end Header

end Keyring

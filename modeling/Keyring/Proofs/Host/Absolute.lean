import Mathlib.Data.List.Induction
import Keyring.Proofs.Host.Changes
import Keyring.Proofs.Host.Directory
import Keyring.Proofs.Text.Strict

/-!
# Paths from the root

The place that a path leads to is told from its names and from where it starts, if it leads to a place
at all (`Tree.resolve`). A path from the root that is made of another path has the same place
(`Host.resolve_absolute`), so if both lead to a file it is one file (`Host.place_of_absolute`).

This rests on the names of the current directory: they are read as texts and come back
(`Name.ofText_toText`).
-/

namespace Keyring

/-! ## Names as texts -/

namespace Name

/-- An octet that starts no character is none of ASCII. -/
theorem le_of_leading?_eq_none {octet : UInt8} {rest : Bytes}
    (strange : leading? (octet :: rest) = none) : 0x80 ≤ octet.toNat := by
  by_contra ascii
  have decoded : Utf8.decode ((octet :: rest).take 1) = .ok [CodePoint.ofNat octet.toNat] := by
    rw [List.take_succ_cons, List.take_zero, Utf8.decode_one _ (by omega), Utf8.decode]
    rfl
  have missed := List.findSome?_eq_none_iff.mp strange 1 (by decide)
  rw [decoded] at missed
  cases missed

/-- The surrogate of an octet beyond ASCII stands for the octet. -/
theorem octetsOf_escape {octet : UInt8} (beyond : 0x80 ≤ octet.toNat) :
    octetsOf (escape octet) = [octet] := by
  have bound := octet.toNat_lt
  have value : (escape octet).val = 0xDC00 + octet.toNat := Nat.mod_eq_of_lt (by omega)
  have escaped : isEscape (escape octet) = true := by
    simp only [isEscape, value, Bool.and_eq_true, decide_eq_true_eq]
    omega
  rw [octetsOf, if_pos escaped, value, Nat.add_sub_cancel_left, UInt8.ofNat_toNat]

/-- The text of some octets writes these octets. -/
theorem ofText_textAfter (passed : Nat) (octets : Bytes) :
    ofText (textAfter passed octets) = octets.drop passed := by
  induction octets generalizing passed with
  | nil => cases passed <;> rfl
  | cons octet rest ih =>
    cases passed with
    | succ passed => exact ih passed
    | zero =>
      rw [textAfter]
      split
      · rename_i point width found
        obtain ⟨tried, among, read⟩ := List.exists_of_findSome?_eq_some found
        split at read
        · rename_i first decoded
          cases read
          obtain ⟨encodable, same⟩ := Utf8.octets_of_decode decoded
          obtain ⟨before, rfl⟩ : ∃ before, width = before + 1 := by
            simp only [List.mem_cons, List.not_mem_nil, or_false] at among
            exact ⟨width - 1, by omega⟩
          have written : ofText [point] = (octet :: rest).take (before + 1) :=
            (ofText_eq_octets encodable).trans same
          rw [ofText, List.flatMap_cons, ← ofText, ih]
          have single : octetsOf point = (octet :: rest).take (before + 1) := by
            simpa [ofText] using written
          rw [single, List.take_succ_cons]
          simp
        · cases read
      · rename_i strange
        rw [ofText, List.flatMap_cons, ← ofText, ih, octetsOf_escape (le_of_leading?_eq_none strange)]
        rfl

/-- The text of a name writes the name. -/
theorem ofText_toText (name : Name) : ofText name.toText = name :=
  ofText_textAfter 0 name

/-- Only two dots write the name of the directory above. -/
theorem ofText_eq_dots {text : Text} : ofText text = dots ↔ text = Path.dots := by
  constructor
  · intro same
    cases text with
    | nil => cases same
    | cons point rest =>
      have cut : octetsOf point ++ ofText rest = [46, 46] := same
      obtain ⟨octet, others, filled⟩ := List.exists_cons_of_ne_nil (octetsOf_ne_nil point)
      have first : (46 : UInt8) ∈ octetsOf point := by
        rw [filled, List.cons_append] at cut
        rw [filled, (List.cons.inj cut).1]
        exact List.mem_cons_self ..
      obtain rfl : point = 46 := Fin.ext ((mem_octetsOf_iff (by decide)).mp first).symm
      have last : ofText rest = dot := (List.cons.inj cut).2
      rw [ofText_eq_dot.mp last]
      rfl
  · rintro rfl
    rfl

end Name

namespace Tree

variable {tree : Tree} {here there current place : Place} {name : Name} {names : List Name}

/-! ## Places of names -/

/-- Where one name leads by itself. -/
def resolveName (here : Place) (name : Name) : Place :=
  if name = Name.dot then here else if name = Name.dots then here.dropLast else here ++ [name]

/-- Where names lead by themselves, if they lead anywhere. -/
def resolve (here : Place) (names : List Name) : Place :=
  names.foldl resolveName here

theorem resolve_append (here : Place) (names more : List Name) :
    resolve here (names ++ more) = resolve (resolve here names) more :=
  List.foldl_append

/-- Names that lead on from directories lead to the place that they have by themselves. -/
theorem eq_resolve_of_walk (walked : tree.walk here names = .ok there) :
    there = resolve here names := by
  induction names generalizing here with
  | nil =>
    cases walked
    rfl
  | cons name names ih =>
    rw [walk_cons] at walked
    cases entered : tree.enter here name with
    | error trouble => simp [entered, Except.bind] at walked
    | ok next =>
      rw [entered] at walked
      have step : next = resolveName here name := by
        unfold enter at entered
        unfold resolveName
        split at entered
        · rename_i dot
          cases entered
          rw [if_pos dot]
        · rename_i notDot
          rw [if_neg notDot]
          split at entered
          · rename_i dots
            cases entered
            rw [if_pos dots]
          · rename_i notDots
            rw [if_neg notDots]
            split at entered
            · cases entered
            · split at entered <;> cases entered
              rfl
      exact (ih walked).trans (by rw [step]; rfl)

/-- A file lies where the names of its path lead. -/
theorem eq_resolve_of_lookup {path : Text} {number mode : Nat} {content : Bytes}
    (found : tree.lookup current path = .ok (place, .file number mode content)) :
    place = resolve (startOf current path) (namesOf path) := by
  obtain ⟨parent, name, located, rfl, -⟩ := lookup_eq_file.mp found
  obtain ⟨walked, last, notDot, notDots, -⟩ := located_named located
  rw [← List.dropLast_append_getLast? name last, resolve_append, ← eq_resolve_of_walk walked]
  simp [resolve, resolveName, notDot, notDots]

/-- Names that are neither dots nor single dots lead on from one another. -/
theorem resolve_of_plain (plain : ∀ name ∈ names, name ≠ Name.dot ∧ name ≠ Name.dots) :
    resolve here names = here ++ names := by
  induction names generalizing here with
  | nil => simp [resolve]
  | cons name names ih =>
    obtain ⟨notDot, notDots⟩ := plain name (List.mem_cons_self ..)
    have step : resolveName here name = here ++ [name] := by
      rw [resolveName, if_neg notDot, if_neg notDots]
    show resolve (resolveName here name) names = _
    rw [ih fun other member => plain other (.tail _ member), step]
    simp

/-- Single dots lead nowhere. -/
theorem resolve_filter (here : Place) (names : List Name) :
    resolve here (names.filter (· ≠ Name.dot)) = resolve here names := by
  induction names generalizing here with
  | nil => rfl
  | cons name names ih =>
    by_cases dot : name = Name.dot
    · have stays : resolveName here name = here := if_pos dot
      rw [List.filter_cons_of_neg (by simpa using dot), ih]
      show _ = resolve (resolveName here name) names
      rw [stays]
    · rw [List.filter_cons_of_pos (by simpa using dot)]
      exact ih _

end Tree

namespace Path

variable {names : List Text} {name : Text}

/-- One more name comes after the others, or takes the last of them back. -/
theorem reduce_concat (taken : dots ∉ reduce true names) :
    reduce true (names ++ [name]) =
      if name = dots then (reduce true names).dropLast else reduce true names ++ [name] := by
  unfold reduce at taken ⊢
  rw [List.foldl_concat]
  generalize List.foldl _ [] names = kept at taken ⊢
  split
  · cases last : kept.getLast? with
    | none =>
      rw [List.getLast?_eq_none_iff.mp last]
      rfl
    | some final =>
      have other : final ≠ dots := fun same => taken (same ▸ List.mem_of_getLast? last)
      exact if_neg other
  · rfl

/-- Names with two dots taken back lead where the names lead from the root. No two dots are left. -/
theorem map_ofText_reduce (each : ∀ name ∈ names, name ≠ dot) :
    (reduce true names).map Name.ofText = Tree.resolve [] (names.map Name.ofText) ∧
      ∀ name ∈ reduce true names, name ∈ names ∧ name ≠ dots := by
  induction names using List.reverseRecOn with
  | nil => exact ⟨rfl, by simp [reduce]⟩
  | append_singleton names name ih =>
    obtain ⟨same, left⟩ := ih fun other member => each other (List.mem_append_left _ member)
    rw [List.map_append, Tree.resolve_append, ← same,
      reduce_concat fun member => (left dots member).2 rfl]
    by_cases back : name = dots
    · subst back
      rw [if_pos rfl, List.map_dropLast]
      refine ⟨rfl, fun other member => ?_⟩
      obtain ⟨inside, different⟩ := left other (List.dropLast_subset _ member)
      exact ⟨List.mem_append_left _ inside, different⟩
    · rw [if_neg back, List.map_append]
      have notDot : Name.ofText name ≠ Name.dot := fun dot =>
        each name (by simp) (Name.ofText_eq_dot.mp dot)
      have notDots : Name.ofText name ≠ Name.dots := fun dots => back (Name.ofText_eq_dots.mp dots)
      refine ⟨(Tree.resolve_of_plain (by simp [notDot, notDots])).symm, fun other member => ?_⟩
      rcases List.mem_append.mp member with member | member
      · exact ⟨List.mem_append_left _ (left other member).1, (left other member).2⟩
      · obtain rfl := List.mem_singleton.mp member
        exact ⟨by simp, back⟩

end Path

/-! ## Absolute paths -/

/-- Names that may stand in a place. -/
def Place.IsProper (place : Place) : Prop :=
  ∀ name ∈ place, name ≠ [] ∧ 47 ∉ name ∧ name ≠ Name.dot ∧ name ≠ Name.dots

instance (place : Place) : Decidable place.IsProper :=
  inferInstanceAs (Decidable (∀ name ∈ place, _))

namespace Host

open Keyring.Tree (namesOf startOf resolve)

variable {host : Host}

/-- The texts of the names of a proper place are proper names, and write it. -/
theorem proper_toText {place : Place} (proper : place.IsProper) :
    Directory.Proper (place.map Name.toText) ∧ (place.map Name.toText).map Name.ofText = place := by
  refine ⟨fun text member => ?_, ?_⟩
  · obtain ⟨name, among, rfl⟩ := List.mem_map.mp member
    obtain ⟨filled, single, notDot, -⟩ := proper name among
    have written := Name.ofText_toText name
    refine ⟨⟨fun none => filled ?_, fun slash => single ?_⟩, fun dot => notDot ?_⟩
    · rw [← written, none]
      rfl
    · rw [← written]
      exact List.mem_flatMap.mpr ⟨_, slash, (Name.mem_octetsOf_iff (by decide)).mpr rfl⟩
    · rw [← written, dot]
      rfl
  · rw [List.map_map]
    conv_rhs => rw [← List.map_id place]
    exact List.map_congr_left fun name _ => Name.ofText_toText name

/-- A path made of names, from the root, leads where the names lead from the root. -/
theorem resolve_rooted {root : Text} {names : List Text} (rooted : root.head? = some Path.separator)
    (proper : Directory.Proper names) (current : Place) :
    let path := Path.toText ⟨Path.rootOf root, Path.reduce true names⟩
    resolve (startOf current path) (namesOf path) = resolve [] (names.map Name.ofText) := by
  intro path
  obtain ⟨same, left⟩ := Path.map_ofText_reduce fun name member => (proper name member).2
  have each : ∀ name ∈ Path.reduce true names, name ≠ [] ∧ Path.separator ∉ name :=
    fun name member => (proper name (left name member).1).1
  have start : startOf current path = [] := by
    rw [Tree.startOf_toText current root each, startOf, if_pos rooted]
  rw [start, ← same]
  have plain : ∀ name ∈ (Path.reduce true names).map Name.ofText,
      name ≠ Name.dot ∧ name ≠ Name.dots := by
    intro name member
    obtain ⟨text, among, rfl⟩ := List.mem_map.mp member
    obtain ⟨inside, notDots⟩ := left text among
    exact ⟨fun dot => (proper text inside).2 (Name.ofText_eq_dot.mp dot),
      fun dots => notDots (Name.ofText_eq_dots.mp dots)⟩
  rw [Tree.namesOf_eq]
  rcases Path.parts_toText root each with parts | ⟨none, parts⟩
  · rw [parts, Tree.resolve_of_plain plain, List.nil_append]
  · rw [parts, none]
    rfl

/-- The path from the root that is made of a path has the same place. -/
theorem resolve_absolute (proper : host.current.IsProper) (path : Text) :
    resolve (startOf host.current (host.absolute path)) (namesOf (host.absolute path)) =
      resolve (startOf host.current path) (namesOf path) := by
  obtain ⟨each, written⟩ := proper_toText proper
  have others := Directory.proper_names path
  have plain : ∀ name ∈ host.current, name ≠ Name.dot ∧ name ≠ Name.dots :=
    fun name member => (proper name member).2.2
  unfold absolute Path.absolute currentPath
  by_cases rooted : path.head? = some Path.separator
  · have root : (Path.ofText path).root.isEmpty = false := by
      rw [List.isEmpty_eq_false_iff]
      exact fun none => Path.rootOf_eq_nil_iff.mp none rooted
    rw [if_neg (by simp [root])]
    refine (resolve_rooted rooted others _).trans ?_
    rw [Tree.map_names_ofText, Tree.resolve_filter, startOf, if_pos rooted]
  · have root : (Path.ofText path).root.isEmpty = true := by
      rw [List.isEmpty_iff]
      exact Path.rootOf_eq_nil_iff.mpr rooted
    rw [if_pos root]
    have all : Directory.Proper (host.current.map Name.toText ++ (Path.ofText path).names) := by
      intro name member
      rcases List.mem_append.mp member with member | member
      · exact each name member
      · exact others name member
    have slash : ([Path.separator] : Text).head? = some Path.separator := rfl
    refine (resolve_rooted slash all _).trans ?_
    rw [List.map_append, written, Tree.resolve_append, Tree.resolve_of_plain plain, List.nil_append,
      Tree.map_names_ofText, Tree.resolve_filter, startOf, if_neg rooted]

/-- If a path and the path from the root that is made of it both lead to files, these are at one
place. -/
theorem place_of_absolute (proper : host.current.IsProper) {tree : Tree} {path : Text}
    {place other : Place} {number mode number' mode' : Nat} {content content' : Bytes}
    (found : tree.lookup host.current path = .ok (place, .file number mode content))
    (found' : tree.lookup host.current (host.absolute path) =
      .ok (other, .file number' mode' content')) : other = place := by
  rw [Tree.eq_resolve_of_lookup found, Tree.eq_resolve_of_lookup found', resolve_absolute proper]

end Host

end Keyring

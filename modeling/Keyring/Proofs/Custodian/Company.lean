import Mathlib.Data.List.Induction
import Mathlib.Logic.Function.Basic
import Keyring.Proofs.Custodian.Performance

/-!
# Several custodians of one file

Custodians who share a host take turns, in any order. Each goes by the entries in memory, which are
loaded once, and a save writes all of these. So the file holds what the custodian who saved last has
made of the mapping that was loaded then, and what others have saved since is lost. Only if nobody
saves whose entries are out of date (`IsStale`), the file holds all changes (`files_through`).
-/

namespace Keyring

open Entries (Agree)
open KeychainFile (entriesOf Holds)

/-- Custodians who share a host. -/
structure Company (Who : Type) where
  custodians : Who → Custodian
  host : Host

/-- A task and who is to perform it. -/
abbrev Turn (Who : Type) := Who × Task

namespace Company

variable {Who : Type} [DecidableEq Who]

/-- Custodians of one file, which nobody has looked at. -/
def ofPath (path : Text) (host : Host) : Company Who :=
  ⟨fun _ => .ofPath path, host⟩

/-- What comes of a turn. -/
def outcome (company : Company Who) (turn : Turn Who) : Outcome turn.2.Result :=
  turn.2.perform (company.custodians turn.1) company.host

/-- The company after a turn. -/
def perform (company : Company Who) (turn : Turn Who) : Company Who :=
  ⟨Function.update company.custodians turn.1 (company.outcome turn).custodian,
    (company.outcome turn).host⟩

/-- The company after one turn upon another. -/
def through (company : Company Who) (run : List (Turn Who)) : Company Who :=
  run.foldl perform company

/-- The change that the result of a turn tells of. -/
def change? (company : Company Who) (turn : Turn Who) : Option Change :=
  (company.outcome turn).result.toOption.bind turn.2.receipt

/-- The changes that the results of a run tell of and who has made them, the first one first. -/
def receipts (company : Company Who) : List (Turn Who) → List (Who × Change)
  | [] => []
  | turn :: run =>
    (company.change? turn).toList.map (turn.1, ·) ++ (company.perform turn).receipts run

/-- Every save of a run succeeds; or it may fail, and the keychain is at fault. -/
def Saves (company : Company Who) (mayFail : Prop) : List (Turn Who) → Prop
  | [] => True
  | turn :: run => turn.2.Saves mayFail (company.custodians turn.1) company.host ∧
    (company.perform turn).Saves mayFail run

instance decidableSaves (company : Company Who) (mayFail : Prop) [Decidable mayFail] :
    (run : List (Turn Who)) → Decidable (company.Saves mayFail run)
  | [] => isTrue trivial
  | turn :: run =>
    have := decidableSaves (company.perform turn) mayFail run
    inferInstanceAs (Decidable (_ ∧ _))

/-- The file of a path would be loaded as a mapping. -/
def Files (company : Company Who) (path : Text) (entries : Entries) : Prop :=
  ∃ stored, ((Keychain.load path).run company.host.calmed).1 = .ok stored ∧
    Agree stored.entries entries

/-- In a run somebody loads the keychain, and the file holds a mapping then. -/
def Loads (start : Company Who) (path : Text) (run : List (Turn Who)) (who : Who)
    (base : Entries) : Prop :=
  ∃ early turn late, run = early ++ turn :: late ∧ turn.1 = who ∧
    ((start.through early).custodians who).keychain = none ∧
    ((start.through (early ++ [turn])).custodians who).keychain.isSome = true ∧
    (start.through early).Files path base

/-- After a run somebody has a keychain, and somebody else has saved since it was loaded. -/
def IsStale (start : Company Who) (run : List (Turn Who)) (who : Who) : Prop :=
  ∃ early late, run = early ++ late ∧
    ((start.through early).custodians who).keychain.isSome = true ∧
    ∃ saved ∈ (start.through early).receipts late, saved.1 ≠ who

/-- Nobody saves whose keychain is out of date. -/
def IsCareful (start : Company Who) (run : List (Turn Who)) : Prop :=
  ∀ early turn late, run = early ++ turn :: late →
    ((start.through early).change? turn).isSome = true → ¬ start.IsStale early turn.1

/-- The changes of one custodian. -/
def ofWhom (who : Who) (receipts : List (Who × Change)) : List Change :=
  (receipts.filter (·.1 = who)).map (·.2)

theorem mem_ofWhom {who : Who} {receipts : List (Who × Change)} {change : Change} :
    change ∈ ofWhom who receipts ↔ (who, change) ∈ receipts := by
  simp [ofWhom]

/-! ## Longer runs -/

variable {start company : Company Who} {mayFail : Prop} {path : Text} {initial : Entries}
  {run : List (Turn Who)} {turn : Turn Who} {who : Who} {content? : Option Bytes}

theorem through_append (start : Company Who) (run more : List (Turn Who)) :
    start.through (run ++ more) = (start.through run).through more :=
  List.foldl_append

theorem receipts_append (start : Company Who) (run more : List (Turn Who)) :
    start.receipts (run ++ more) = start.receipts run ++ (start.through run).receipts more := by
  induction run generalizing start with
  | nil => rfl
  | cons turn run ih =>
    rw [List.cons_append, receipts, ih, receipts, List.append_assoc]
    rfl

theorem receipts_concat (start : Company Who) (run : List (Turn Who)) (turn : Turn Who) :
    start.receipts (run ++ [turn]) =
      start.receipts run ++ ((start.through run).change? turn).toList.map (turn.1, ·) := by
  rw [receipts_append, receipts, receipts, List.append_nil]

theorem saves_concat :
    start.Saves mayFail (run ++ [turn]) ↔
      start.Saves mayFail run ∧ turn.2.Saves mayFail ((start.through run).custodians turn.1)
        (start.through run).host := by
  induction run generalizing start with
  | nil => simp [Saves, through]
  | cons first run ih =>
    rw [List.cons_append, Saves, ih, Saves, and_assoc]
    rfl

/-- The changes of whoever has a turn are those before and that of the turn, and all others have made
no more than before. -/
theorem ofWhom_concat (start : Company Who) (run : List (Turn Who)) (turn : Turn Who) (who : Who) :
    ofWhom who (start.receipts (run ++ [turn])) =
      ofWhom who (start.receipts run) ++
        if who = turn.1 then ((start.through run).change? turn).toList else [] := by
  rw [receipts_concat]
  unfold ofWhom
  rw [List.filter_append, List.map_append]
  congr 1
  split
  · rename_i same
    simp [same, List.filter_map, Function.comp_def]
  · rename_i different
    simp [Ne.symm different, List.filter_map, Function.comp_def]

/-- Whoever has no turn stays the same. -/
theorem custodians_concat (start : Company Who) (run : List (Turn Who)) (turn : Turn Who)
    (who : Who) :
    (start.through (run ++ [turn])).custodians who =
      if who = turn.1 then ((start.through run).outcome turn).custodian
      else (start.through run).custodians who := by
  rw [through_append]
  exact Function.update_apply ..

/-- What was loaded in a run was loaded in a longer one. -/
theorem Loads.concat {base : Entries} (loads : start.Loads path run who base)
    (turn : Turn Who) : start.Loads path (run ++ [turn]) who base := by
  obtain ⟨early, first, late, rfl, rest⟩ := loads
  exact ⟨early, first, late ++ [turn], by simp, rest⟩

/-- Whoever is out of date stays out of date. -/
theorem IsStale.concat (stale : start.IsStale run who) (turn : Turn Who) :
    start.IsStale (run ++ [turn]) who := by
  obtain ⟨early, late, rfl, loaded, saved, member, other⟩ := stale
  refine ⟨early, late ++ [turn], by simp, loaded, saved, ?_, other⟩
  rw [receipts_append]
  exact List.mem_append_left _ member

/-- A careful run was careful from the first. -/
theorem IsCareful.of_concat (careful : start.IsCareful (run ++ [turn])) : start.IsCareful run :=
  fun early first late same => careful early first (late ++ [turn]) (by simp [same])

/-! ## What is known after a run -/

/-- The entries that all changes of a run make of those at first. -/
def written (start : Company Who) (initial : Entries) (run : List (Turn Who)) : Entries :=
  Change.applyAll ((start.receipts run).map (·.2)) initial

theorem written_concat (start : Company Who) (initial : Entries) (run : List (Turn Who))
    (turn : Turn Who) :
    start.written initial (run ++ [turn]) =
      Change.applyAll ((start.through run).change? turn).toList (start.written initial run) := by
  unfold written
  rw [receipts_concat, List.map_append, Change.applyAll_append]
  simp [Function.comp_def]

/-- What is true of a company after any run. -/
structure Known (start : Company Who) (mayFail : Prop) (path : Text) (initial : Entries)
    (run : List (Turn Who)) (content? : Option Bytes) : Prop where
  suits : (start.through run).host.Suits mayFail path content?
  serves : ∀ who, ∃ messages, ((start.through run).custodians who).Serves path messages
  /-- Nobody makes a change who has no keychain. -/
  unloaded : ∀ who, ((start.through run).custodians who).keychain = none →
    ofWhom who (start.receipts run) = []
  viewed : ∀ who keychain, ((start.through run).custodians who).keychain = some keychain →
    ∃ base, start.Loads path run who base ∧
      Agree keychain.entries (Change.applyAll (ofWhom who (start.receipts run)) base)
  /-- The file holds what the one who saved last has in memory. -/
  last : match (start.receipts run).getLast? with
    | none => Holds content? initial
    | some (who, _) => ∀ keychain, ((start.through run).custodians who).keychain = some keychain →
      Holds content? keychain.entries
  careful : start.IsCareful run → Holds content? (start.written initial run) ∧
    ∀ who keychain, ((start.through run).custodians who).keychain = some keychain →
      ¬ start.IsStale run who → Agree keychain.entries (start.written initial run)

omit [DecidableEq Who] in
/-- What can be loaded is the mapping of the file. -/
theorem files_of_holds (proper : Path.fault? path = none)
    (suits : company.host.Suits mayFail path content?) {entries : Entries}
    (holds : Holds content? entries) : company.Files path entries := by
  obtain ⟨stored, read, agree⟩ := holds
  obtain ⟨keychain, loaded, rfl⟩ := Keychain.load_calmed proper suits.finds read
  exact ⟨keychain, loaded, agree.symm⟩

namespace Known

variable {later? : Option Bytes}

/-- Whoever has a turn goes by what came of the file when it was loaded. -/
theorem viewed_concat (known : start.Known mayFail path initial run content?)
    (proper : Path.fault? path = none)
    (moves : ((start.through run).custodians turn.1).Moves
      ((start.through run).outcome turn).custodian content? later?
      ((start.through run).change? turn)) {keychain : Keychain}
    (held : ((start.through run).outcome turn).custodian.keychain = some keychain) :
    ∃ base, start.Loads path (run ++ [turn]) turn.1 base ∧
      Agree keychain.entries
        (Change.applyAll (ofWhom turn.1 (start.receipts (run ++ [turn]))) base) := by
  obtain ⟨entries, sees, agree⟩ := moves.sees held
  rw [ofWhom_concat, if_pos rfl]
  simp only [Change.applyAll_append]
  cases sees with
  | holds loaded =>
    obtain ⟨base, loads, same⟩ := known.viewed turn.1 _ loaded
    exact ⟨base, loads.concat turn, agree.trans (Change.applyAll_agree same _)⟩
  | reads unloaded read =>
    -- It is in this turn that the file is loaded, and nothing was changed before.
    refine ⟨entries, ⟨run, turn, [], rfl, rfl, unloaded, ?_, ?_⟩, ?_⟩
    · rw [custodians_concat, if_pos rfl, held]
      rfl
    · exact files_of_holds proper known.suits ⟨entries, read, .refl _⟩
    · rw [known.unloaded turn.1 unloaded]
      exact agree

/-- The one who saved last has in memory what the file holds. -/
theorem last_concat (known : start.Known mayFail path initial run content?)
    (moves : ((start.through run).custodians turn.1).Moves
      ((start.through run).outcome turn).custodian content? later?
      ((start.through run).change? turn)) :
    match (start.receipts (run ++ [turn])).getLast? with
    | none => Holds later? initial
    | some (who, _) => ∀ keychain,
      ((start.through (run ++ [turn])).custodians who).keychain = some keychain →
        Holds later? keychain.entries := by
  rw [receipts_concat]
  cases changed : (start.through run).change? turn with
  | none =>
    rw [changed] at moves
    obtain rfl := moves.content_eq
    have last := known.last
    simp only [Option.toList, List.map_nil, List.append_nil]
    split at last
    · exact last
    · intro keychain held
      rw [custodians_concat] at held
      split at held
      · rename_i same
        exact moves.holds (same ▸ last) held
      · exact last keychain held
  | some change =>
    rw [changed] at moves
    simp only [Option.toList, List.map_cons, List.map_nil, List.getLast?_concat]
    intro keychain held
    rw [custodians_concat, if_pos rfl] at held
    obtain ⟨kept, held', holds⟩ := moves.holds_of_change
    cases held.symm.trans held'
    exact holds

/-- Whoever is not out of date goes by all changes. -/
theorem agree_of_sees (known : start.Known mayFail path initial run content?)
    (careful : start.IsCareful run) (fresh : ¬ start.IsStale run who) {entries : Entries}
    (sees : ((start.through run).custodians who).Sees content? entries) :
    Agree entries (start.written initial run) := by
  obtain ⟨⟨stored, read, agree⟩, views⟩ := known.careful careful
  cases sees with
  | holds held => exact views who _ held fresh
  | reads unloaded loaded =>
    cases read.symm.trans loaded
    exact agree.symm

/-- A careful turn loses nothing. -/
theorem careful_concat (known : start.Known mayFail path initial run content?)
    (moves : ((start.through run).custodians turn.1).Moves
      ((start.through run).outcome turn).custodian content? later?
      ((start.through run).change? turn))
    (careful : start.IsCareful (run ++ [turn])) :
    Holds later? (start.written initial (run ++ [turn])) ∧
      ∀ who keychain, ((start.through (run ++ [turn])).custodians who).keychain = some keychain →
        ¬ start.IsStale (run ++ [turn]) who →
          Agree keychain.entries (start.written initial (run ++ [turn])) := by
  have before := careful.of_concat
  obtain ⟨holds, views⟩ := known.careful before
  rw [written_concat]
  cases changed : (start.through run).change? turn with
  | none =>
    rw [changed] at moves
    obtain rfl := moves.content_eq
    refine ⟨holds, fun who keychain held fresh => ?_⟩
    replace fresh : ¬ start.IsStale run who := fun stale => fresh (stale.concat turn)
    rw [custodians_concat] at held
    split at held
    · rename_i same
      subst same
      obtain ⟨entries, sees, agree⟩ := moves.sees held
      exact agree.trans (known.agree_of_sees before fresh sees)
    · exact views who keychain held fresh
  | some change =>
    rw [changed] at moves
    have fresh := careful run turn [] rfl (by rw [changed]; rfl)
    obtain ⟨kept, held, stored, read, same⟩ := moves.holds_of_change
    obtain ⟨entries, sees, agree⟩ := moves.sees held
    have all := agree.trans
      (Change.applyAll_agree (known.agree_of_sees before fresh sees) (some change).toList)
    refine ⟨⟨stored, read, all.symm.trans same⟩, fun who keychain held' fresh' => ?_⟩
    rw [custodians_concat] at held'
    split at held'
    · cases held.symm.trans held'
      exact all
    · rename_i other
      refine absurd ⟨run, [turn], rfl, by rw [held']; rfl, (turn.1, change), ?_, Ne.symm other⟩ fresh'
      simp [receipts, changed]

/-- One more turn. -/
theorem concat (known : start.Known mayFail path initial run content?)
    (proper : Path.fault? path = none)
    (saves : turn.2.Saves mayFail ((start.through run).custodians turn.1)
      (start.through run).host) :
    ∃ later?, start.Known mayFail path initial (run ++ [turn]) later? := by
  obtain ⟨messages, serves⟩ := known.serves turn.1
  obtain ⟨served, later?, suits, moves⟩ := serves.perform known.suits turn.2 saves
  refine ⟨later?, ?_, fun who => ?_, fun who unloaded => ?_, fun who keychain held => ?_,
    known.last_concat moves, known.careful_concat moves⟩
  · rw [through_append]
    exact suits
  · rw [custodians_concat]
    split
    · exact ⟨_, served⟩
    · exact known.serves who
  · rw [custodians_concat] at unloaded
    rw [ofWhom_concat]
    split at unloaded
    · rename_i same
      obtain ⟨before, nothing⟩ := moves.of_unloaded unloaded
      have none : (start.through run).change? turn = none := nothing
      rw [if_pos same, none, known.unloaded who (same ▸ before)]
      rfl
    · rename_i other
      rw [if_neg other, known.unloaded who unloaded]
      rfl
  · rw [custodians_concat] at held
    split at held
    · rename_i same
      subst same
      exact known.viewed_concat proper moves held
    · rename_i other
      obtain ⟨base, loads, agree⟩ := known.viewed who keychain held
      refine ⟨base, loads.concat turn, ?_⟩
      rw [ofWhom_concat, if_neg other, List.append_nil]
      exact agree

end Known

/-- What is known at first, and then after any run. -/
theorem known_through {host : Host} (suits : host.Suits mayFail path content?)
    (proper : Path.fault? path = none) (holds : Holds content? initial) (run : List (Turn Who))
    (saves : (ofPath path host).Saves mayFail run) :
    ∃ later?, (ofPath path host).Known mayFail path initial run later? := by
  induction run using List.reverseRecOn with
  | nil =>
    have unloaded : ∀ who : Who,
        (((ofPath path host).through []).custodians who).keychain = none := fun _ => rfl
    exact ⟨content?, {
      suits := suits
      serves := fun who => ⟨[], rfl, rfl, by simp [unloaded]⟩
      unloaded := fun _ _ => rfl
      viewed := by simp [unloaded]
      last := holds
      careful := fun _ => ⟨holds, by simp [unloaded]⟩ }⟩
  | append_singleton run turn ih =>
    rw [saves_concat] at saves
    obtain ⟨later?, known⟩ := ih saves.1
    exact known.concat proper saves.2

/-- After any run the file holds what the one who saved last has made of the mapping that was loaded
then; or what it held at first, if nobody has saved. If nobody ever saves who is out of date, then
the file holds what all changes together make of that. -/
theorem files_through {host : Host} (suits : host.Suits mayFail path content?)
    (first : (ofPath path host : Company Who).Files path initial) (run : List (Turn Who))
    (saves : (ofPath path host).Saves mayFail run) :
    (((ofPath path host).receipts run).getLast? = none →
      ((ofPath path host).through run).Files path initial) ∧
    (∀ who change, ((ofPath path host).receipts run).getLast? = some (who, change) →
      ∃ base, (ofPath path host).Loads path run who base ∧
        ((ofPath path host).through run).Files path
          (Change.applyAll (ofWhom who ((ofPath path host).receipts run)) base)) ∧
    ((ofPath path host).IsCareful run →
      ((ofPath path host).through run).Files path
        (Change.applyAll (((ofPath path host).receipts run).map (·.2)) initial)) := by
  obtain ⟨stored, loaded, agree⟩ := first
  obtain ⟨proper, -, read⟩ := Keychain.load_eq_ok suits.calmed.honest suits.calmed.finds loaded
  obtain ⟨later?, known⟩ := known_through suits proper ⟨_, read, agree.symm⟩ run saves
  have last := known.last
  refine ⟨fun nothing => ?_, fun who change saved => ?_,
    fun careful => files_of_holds proper known.suits (known.careful careful).1⟩
  · rw [nothing] at last
    exact files_of_holds proper known.suits last
  · rw [saved] at last
    cases held : (((ofPath path host).through run).custodians who).keychain with
    | none =>
      have made : change ∈ ofWhom who ((ofPath path host).receipts run) :=
        mem_ofWhom.mpr (List.mem_of_getLast? saved)
      simp [known.unloaded who held] at made
    | some keychain =>
      obtain ⟨base, loads, agree⟩ := known.viewed who keychain held
      obtain ⟨stored, read, same⟩ := last keychain held
      exact ⟨base, loads, files_of_holds proper known.suits ⟨stored, read, agree.symm.trans same⟩⟩

/-- Two custodians have the same file. One looks at it, the other one adds a key, and the first one
adds another key. -/
theorem files_through_overwritten :
    let path := Text.lit "k"
    let addB := Task.add (.ofText (Text.lit "b")) (.ofBytes [104])
    let addA := Task.add (.ofText (Text.lit "a")) (.ofBytes [103])
    let putB := Change.put (.ofText (Text.lit "b")) (.ofBytes [104])
    let putA := Change.put (.ofText (Text.lit "a")) (.ofBytes [103])
    let run : List (Turn Bool) := [(false, .ids), (true, addB), (false, addA)]
    let start : Company Bool := ofPath path (.calm .empty)
    start.Files path [] ∧ start.Saves False run ∧
      start.receipts run = [(true, putB), (false, putA)] ∧
      ∃ base, start.Loads path run false base ∧
        (start.through run).Files path (putA.apply base) := by
  intro path addB addA putB putA run start
  have suits : Host.Suits (.calm .empty) False path none :=
    .of_root .empty rfl rfl (fun _ _ fails => by cases fails) ⟨rfl, .inr (by decide)⟩
  have files : start.Files path [] := ⟨_, rfl, .refl _⟩
  have saves : start.Saves False run := by decide +kernel
  have receipts : start.receipts run = [(true, putB), (false, putA)] := by decide +kernel
  obtain ⟨-, last, -⟩ := files_through suits files run saves
  obtain ⟨base, loads, held⟩ := last false putA (by rw [receipts]; rfl)
  rw [receipts] at held
  exact ⟨files, saves, receipts, base, loads, held⟩

/-- A key that was added is lost when somebody saves who has looked before. -/
theorem files_through_loses :
    let path := Text.lit "k"
    let addB := Task.add (.ofText (Text.lit "b")) (.ofBytes [104])
    let addA := Task.add (.ofText (Text.lit "a")) (.ofBytes [103])
    let putB := Change.put (.ofText (Text.lit "b")) (.ofBytes [104])
    let putA := Change.put (.ofText (Text.lit "a")) (.ofBytes [103])
    let run : List (Turn Bool) := [(false, .ids), (true, addB), (false, addA)]
    let start : Company Bool := ofPath path (.calm .empty)
    start.Files path [] ∧ start.Saves False run ∧
      start.receipts run = [(true, putB), (false, putA)] ∧
      (start.through run).Files path [(.ofText (Text.lit "a"), .ofBytes [103])] ∧
      ¬ (start.through run).Files path (Change.applyAll [putB, putA] []) := by
  intro path addB addA putB putA run start
  have loaded : ((Keychain.load path).run (start.through run).host.calmed).1.map (·.entries) =
      .ok [(.ofText (Text.lit "a"), .ofBytes [103])] := by
    decide +kernel
  have entries : ∀ stored, ((Keychain.load path).run (start.through run).host.calmed).1 = .ok stored →
      stored.entries = [(.ofText (Text.lit "a"), .ofBytes [103])] := by
    intro stored read
    simpa [read, Except.map] using loaded
  refine ⟨⟨_, rfl, .refl _⟩, by decide +kernel, by decide +kernel, ?_, ?_⟩
  · cases read : ((Keychain.load path).run (start.through run).host.calmed).1 with
    | error failure => simp [read, Except.map] at loaded
    | ok stored => exact ⟨stored, read, entries stored read ▸ .refl _⟩
  · rintro ⟨stored, read, agree⟩
    have missing := agree (.ofText (Text.lit "b"))
    rw [entries stored read] at missing
    exact absurd missing (by decide)

end Company

end Keyring

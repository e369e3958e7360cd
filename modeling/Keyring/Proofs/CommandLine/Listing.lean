import Keyring.Proofs.CommandLine.Desk
import Keyring.Proofs.CommandLine.Logs
import Keyring.Proofs.KeychainFile.Alike
import Keyring.Proofs.Table.Mask

/-!
# What a list reveals

Two files may have entries for the same ids, in whatever order, with hashes of any secrets and any
salts, as long as the two hashes of an id were made at one cost. The program that is to list the ids
does the same on both: it has one code and prints one text (`list_reveals_costs_alone`).

What is listed goes by the ids and by what shows of the hashes (`Desk.ListsLike.of_alike`). Whatever
is called for before the keychain is loaded is replied to alike, since no file is read, and afterwards
nothing is called for but to show the rows (`list_shows_alike`). What is printed is their table
(`prints_table`).
-/

namespace Keyring

open Text (lit)

/-- The same shows of two hashes. -/
def Table.ShowsLike (hash other : Bytes) : Prop :=
  mask other visibleLength = mask hash visibleLength

/-- Two hashes were made at one cost, each of some secret and with some salt. -/
def Secret.OfOneCost (hash other : Bytes) : Prop :=
  ∃ cost secret secret' salts salts', (Secret.hash secret cost salts).1 = .ok hash ∧
    (Secret.hash secret' cost salts').1 = .ok other

/-- The same shows of hashes that were made at one cost. -/
theorem Secret.OfOneCost.showsLike {hash other : Bytes} (made : OfOneCost hash other) :
    Table.ShowsLike hash other := by
  obtain ⟨cost, _, _, _, _, hashed, hashed'⟩ := made
  unfold Table.ShowsLike
  rw [Table.mask_hash hashed, Table.mask_hash hashed']

/-- What is done with each of some values alike is done with all of them alike. -/
theorem Except.mapM_congr {ε α β : Type} {work work' : α → Except ε β} {values : List α}
    (each : ∀ value ∈ values, work' value = work value) : values.mapM work' = values.mapM work := by
  induction values with
  | nil => rfl
  | cons value values ih =>
    obtain ⟨here, later⟩ := List.forall_mem_cons.mp each
    rw [List.mapM_cons, List.mapM_cons, here, ih later]

namespace CommandLine

open Custodian Duty

namespace Desk

/-! ## Rows -/

/-- The rows go by the ids and by what shows of their hashes. -/
theorem rowsOf_congr {keychain other : Keychain} (storable : keychain.entries.Storable)
    (storable' : other.entries.Storable)
    (shows : keychain.entries.Related Table.ShowsLike other.entries) :
    rowsOf other = rowsOf keychain := by
  obtain ⟨texts, sorted, stored⟩ := storable.sorted_eq
  unfold rowsOf Keychain.ids
  rw [← storable.sorted_ids storable' shows.ids, sorted]
  refine Except.mapM_congr fun id member => ?_
  obtain ⟨text, inside, rfl⟩ := List.mem_map.mp member
  obtain ⟨hash, found⟩ := stored text inside
  have contained : (other.entries.get? (.ofText text)).isSome := by
    rw [← Named.contains, ← shows.ids, Named.contains, found]
    rfl
  obtain ⟨value, found'⟩ := Option.isSome_iff_exists.mp contained
  obtain ⟨_, hash', -, rfl, -⟩ := storable'.get?_eq_some found'
  rw [row_of_stored found, row_of_stored found', shows.hashes found found']

/-- Two keychains of which the same is listed and told. -/
structure ListsLike (keychain other : Keychain) : Prop where
  rows : rowsOf other = rowsOf keychain
  size : other.size = keychain.size

/-- Keychains of whose hashes the same shows are listed alike. -/
theorem ListsLike.of_alike {keychain other : Keychain}
    (alike : Keychain.Alike Table.ShowsLike keychain other) : ListsLike keychain other := by
  cases alike with
  | refl => exact ⟨rfl, rfl⟩
  | related storable storable' shows =>
    exact ⟨rowsOf_congr storable storable' shows, (storable.length_eq storable' shows.ids).symm⟩

/-- What comes of listing goes by the keychain that is loaded for it. -/
theorem outcome_listing_ofPath (path : Text) (host : Host) :
    listing.outcome (.ofPath path) host =
      match (Keychain.load path).run host with
      | (.ok keychain, after) =>
        ⟨rowsOf keychain, ⟨path, some keychain, [.loaded path (.ofInt keychain.size)]⟩, after⟩
      | (.error failure, after) => ⟨.error failure, .ofPath path, after⟩ := by
  have opens : Opens listing := Opens.bind ⟨_, rfl⟩ _
  rw [opens.outcome_eq, ofPath, outcome_opened_none]
  rcases (Keychain.load path).run host with ⟨failure | keychain, after⟩
  · rfl
  · exact outcome_listing path keychain _ after

variable {host other : Host}

/-- A desk lists the same of files that show alike. -/
theorem listing_alike (alike : host.Alike (KeychainFile.Alike Table.ShowsLike) other) (path : Text) :
    let outcome := listing.outcome (.ofPath path) host
    let outcome' := listing.outcome (.ofPath path) other
    outcome'.result = outcome.result ∧ outcome'.custodian.recorded = outcome.custodian.recorded ∧
      outcome.host.DiffersInFiles outcome'.host := by
  obtain ⟨loads, after⟩ := Keychain.load_alike alike path
  rw [outcome_listing_ofPath, outcome_listing_ofPath]
  generalize (Keychain.load path).run host = loaded at loads after ⊢
  generalize (Keychain.load path).run other = loaded' at loads after ⊢
  obtain ⟨result, later⟩ := loaded
  obtain ⟨result', later'⟩ := loaded'
  cases loads with
  | error failure => exact ⟨rfl, rfl, after⟩
  | ok keychains =>
    have lists := ListsLike.of_alike keychains
    exact ⟨lists.rows, by dsimp only; rw [lists.size], after⟩

end Desk

/-! ## Showing -/

theorem makes_printLine (line : Text) : (printLine line).Makes (·.isShowing = true) :=
  ⟨rfl, fun _ => Plan.makes_done _⟩

theorem makes_printLines (lines : List Text) : (printLines lines).Makes (·.isShowing = true) := by
  induction lines with
  | nil => exact Plan.makes_done _
  | cons line lines ih => exact (makes_printLine line).onSuccess fun _ => ih

theorem makes_answering (lines : List Text) (code : Nat) :
    (answering lines code).Makes (·.isShowing = true) :=
  (makes_printLines lines).onSuccess fun _ => Plan.makes_done _

theorem makes_settle (result : Except Failure Nat) :
    (settle result).Makes (·.isShowing = true) := by
  cases result with
  | ok code => exact Plan.makes_done _
  | error failure =>
    unfold settle
    dsimp only
    split
    · exact makes_answering ..
    · split
      · exact makes_answering ..
      · exact Plan.makes_done _

/-- Whoever lets go of a log shows what is in it. -/
theorem makes_closing (channel : Audit.Channel) : channel.close.Makes (·.isShowing = true) :=
  Audit.Channel.makes_close ((Audit.Sink.makes_closeEach channel.sinks).mono fun _ =>
    Call.isShowing_of_isClosing)

variable {desk : Desk} {path : Text} {host other : Host}

/-- A desk that is to list the ids does the same on files that show alike. -/
theorem Desk.list_alike (fresh : desk.session.custodian = .ofPath path)
    (alike : host.Alike (KeychainFile.Alike Table.ShowsLike) other) :
    (desk.list.run other).1 = (desk.list.run host).1 ∧
      (desk.list.run host).2.DiffersInFiles (desk.list.run other).2 := by
  obtain ⟨result, recorded, after⟩ := listing_alike alike path
  have written := after.run
    ((desk.channel.makes_writeEach (listing.outcome (.ofPath path) host).custodian.recorded).mono
      fun _ => Call.isShowing_of_isTelling)
  unfold list Plan.onSuccess
  rw [Plan.run_bind, Plan.run_bind, run_perform fresh, run_perform fresh, result, recorded]
  refine written.2.run ?_
  cases (listing.outcome (.ofPath path) host).result with
  | error failure => exact Plan.makes_done _
  | ok rows =>
    dsimp only
    split
    · exact makes_answering ..
    · split
      · exact makes_answering ..
      · exact Plan.makes_done _

variable {home : Text} {arguments : List Text} {wishes : Session.Wishes}

/-- The program that is to list the ids goes by what shows of the hashes. -/
theorem list_shows_alike (parsed : Options.parse arguments = .ok ⟨wishes, some .list⟩)
    (alike : host.Alike (KeychainFile.Alike Table.ShowsLike) other) :
    ((run home arguments).run other).1 = ((run home arguments).run host).1 ∧
      ((run home arguments).run host).2.DiffersInFiles ((run home arguments).run other).2 := by
  obtain ⟨started, after⟩ :=
    Host.Alike.run_starting (Session.makes_start_initial home wishes) alike (.refl _)
  unfold run
  rw [parsed]
  dsimp only
  rw [Plan.bind_eq_bind, Plan.run_bind, Plan.run_bind, started]
  rcases begun : ((Session.start home wishes .initial).run host).1 with ⟨failure | session, channel⟩
  · exact ⟨rfl, after.differsInFiles⟩
  · obtain ⟨path, fresh⟩ : ∃ path, (Desk.mk session channel).session.custodian = .ofPath path :=
      Session.start_eq_ok (congrArg Prod.fst begun)
    obtain ⟨carried, later⟩ := Desk.list_alike fresh after
    dsimp only
    unfold serve
    rw [Plan.bind_eq_bind, Plan.run_bind, Plan.run_bind, Desk.carryOut, carried]
    refine later.run ((makes_settle _).bind fun result => (makes_closing channel).bind fun
      | (.ok (), _) => Plan.makes_done _
      | (.error failure, _) => Plan.makes_done _)

/-- Of a keychain that is loaded the table of its rows is printed. -/
theorem Desk.concludes_list_of_load {how : Failure → Host → Prop} {later : Host}
    {keychain : Keychain} {rows : List (List Cell)} {table : Text}
    (fresh : desk.session.custodian = .ofPath path)
    (loaded : (Keychain.load path).run host = (.ok keychain, later))
    (listed : rowsOf keychain = .ok rows) (filled : rows.isEmpty = false)
    (formatted : Table.format [lit "ID", lit "Hash"] rows = .ok table) :
    desk.list.Concludes host (fun code after => code = success ∧
      after.output = host.output ++ (table ++ [10])) how := by
  let event : Audit.Event := .loaded path (.ofInt keychain.size)
  have performed : (desk.perform listing).run host =
      (.ok rows, ((desk.channel.writeEach [event]).run later).2) := by
    rw [run_perform fresh, outcome_listing_ofPath, loaded]
    dsimp only
    rw [listed]
  have quiet := (Keychain.isRoutine_load path).run_keeps host
  rw [loaded] at quiet
  have silent := quiet.trans ((desk.channel.isRoutine_writeEach [event]).run_keeps later)
  have found : (desk.perform listing).Concludes host
      (fun value after => value = rows ∧ after.output = host.output) how := by
    refine .inr ?_
    unfold Plan.Ends
    rw [performed]
    exact ⟨rfl, silent.output⟩
  refine found.onSuccess fun value after same => ?_
  rw [same.1, filled, if_neg Bool.false_ne_true, formatted, ← same.2]
  have printed : Plan.Concludes _ after _ how := concludes_answering [table] success after
  rwa [List.flatMap_singleton] at printed

/-- The program that is to list the ids prints the table of the keychain that is loaded, if all is said
that it has to say. -/
theorem prints_table {earlier later : Host} {log : Audit.Log} {channel : Audit.Channel}
    {keychain : Keychain} {rows : List (List Cell)} {table : Text}
    (parsed : Options.parse arguments = .ok ⟨wishes, some .list⟩)
    (started : (Session.start home wishes .initial).run earlier =
      ((.ok ⟨.ofPath path, log⟩, channel), host))
    (loaded : (Keychain.load path).run host = (.ok keychain, later))
    (listed : Desk.rowsOf keychain = .ok rows) (filled : rows.isEmpty = false)
    (formatted : Table.format [lit "ID", lit "Hash"] rows = .ok table)
    (fluent : ¬ (run home arguments).Falters earlier) :
    ∃ after, (run home arguments).run earlier = (.ok success, after) ∧
      after.output = earlier.output ++ (table ++ [10]) := by
  have concludes : (Desk.carryOut ⟨⟨.ofPath path, log⟩, channel⟩ .list).Concludes host _
      fun _ _ => False :=
    Desk.concludes_list_of_load rfl loaded listed filled formatted
  have quiet := ((Session.isRoutine_start home wishes .initial).run_keeps earlier).output
  rw [started] at quiet
  obtain ⟨_, _, after, ⟨rfl, printed⟩, ran, same⟩ :=
    run_of_concludes parsed started fluent concludes
  exact ⟨after, ran, same.trans (printed.trans (congrArg (· ++ _) quiet))⟩

/-- A calm host with one file, whose number is zero. -/
def hostOf (content : Bytes) : Host :=
  .calm { Tree.ofFile [107] content with nextNumber := 1 }

/-- What is printed of two entries, the ids of which come the other way round. -/
theorem run_list_two :
    let host := hostOf (Entries.file
      [(lit "b", Utf8.octets (lit "$2b$31$-")), (lit "a", Utf8.octets (lit "$2b$04$-"))])
    let ran := (run [] [lit "-k", lit "k", lit "--log-dir", lit "d", lit "list"]).run host
    ran.1 = .ok success ∧
      ran.2.output = lit "ID | Hash           \n--------------------\n" ++
        lit "a  | $2b$04$********\nb  | $2b$31$********\n" := by
  intro host ran
  let keychain := Keychain.ofFile (lit "k") (some (Entries.ofPairs
    [(lit "b", Utf8.octets (lit "$2b$31$-")), (lit "a", Utf8.octets (lit "$2b$04$-"))]))
  let started := (Session.start [] ⟨lit "k", lit "d", false⟩ .initial).run host
  have parsed : Options.parse [lit "-k", lit "k", lit "--log-dir", lit "d", lit "list"] =
      .ok ⟨⟨lit "k", lit "d", false⟩, some .list⟩ := by
    decide +kernel
  have begun : started.1 = (.ok ⟨.ofPath (lit "k"), ⟨Path.ofText (lit "d")⟩⟩, ⟨20, [.file 1]⟩) := by
    decide +kernel
  have loaded : ((Keychain.load (lit "k")).run started.2).1 = .ok keychain := by decide +kernel
  have sorted : Cell.sorted keychain.ids = .ok [lit "a", lit "b"] := by
    have swapped : [lit "b", lit "a"].Perm [lit "a", lit "b"] := by decide
    have ids : keychain.ids = [lit "b", lit "a"].map .ofText := rfl
    rw [ids, Cell.sorted_map_ofText, Cell.inOrder_map_ofText_of_perm swapped, Cell.inOrder_map_ofText,
      List.mergeSort_of_pairwise (by decide)]
    rfl
  have listed : Desk.rowsOf keychain =
      .ok [[lit "a", lit "$2b$04$********"], [lit "b", lit "$2b$31$********"]] := by
    unfold Desk.rowsOf
    rw [sorted]
    decide +kernel
  have whole {α β : Type} (pair : α × β) {value : α} (first : pair.1 = value) :
      pair = (value, pair.2) :=
    Prod.ext first rfl
  have speaks : host.IsFluent := ⟨fun _ _ _ => rfl, fun _ => rfl⟩
  obtain ⟨after, done, printed⟩ :=
    prints_table parsed (whole _ begun) (whole _ loaded) listed (by decide) rfl
      (speaks.not_falters _)
  have same : ran = (.ok success, after) := done
  rw [same]
  exact ⟨rfl, printed.trans (by decide +kernel)⟩

/-- Calm hosts are alike whose files have two entries, in one order and in the other. -/
theorem alike_swapped {related : Bytes → Bytes → Prop} {first second first' second' : Bytes}
    (fine : first ≠ [] ∧ Entries.newline ∉ first) (fineToo : second ≠ [] ∧ Entries.newline ∉ second)
    (fine' : first' ≠ [] ∧ Entries.newline ∉ first')
    (fineToo' : second' ≠ [] ∧ Entries.newline ∉ second') (one : related first first')
    (two : related second second') :
    (hostOf (Entries.file [(lit "a", first), (lit "b", second)])).Alike (KeychainFile.Alike related)
      (hostOf (Entries.file [(lit "b", second'), (lit "a", first')])) := by
  have keepsA {hash : Bytes} (fine : hash ≠ [] ∧ Entries.newline ∉ hash) :
      Entries.isAcceptable (lit "a") hash = true :=
    Entries.isAcceptable_iff.mpr ⟨by decide, by decide, fine⟩
  have keepsB {hash : Bytes} (fine : hash ≠ [] ∧ Entries.newline ∉ hash) :
      Entries.isAcceptable (lit "b") hash = true :=
    Entries.isAcceptable_iff.mpr ⟨by decide, by decide, fine⟩
  have files : KeychainFile.Alike related (Entries.file [(lit "a", first), (lit "b", second)])
      (Entries.file [(lit "b", second'), (lit "a", first')]) := by
    refine .of_pairs ?_ ?_ (show [lit "a", lit "b"].Nodup by decide)
      (show [lit "a", lit "b"].Perm [lit "b", lit "a"] by decide) ?_
    all_goals simp only [List.forall_mem_cons]
    · exact ⟨keepsA fine, keepsB fineToo, nofun⟩
    · exact ⟨keepsB fineToo', keepsA fine', nofun⟩
    · have apart : lit "a" ≠ lit "b" := by decide
      exact ⟨⟨fun same => absurd same apart, fun _ => one, nofun⟩,
        ⟨fun _ => two, fun same => absurd same apart.symm, nofun⟩, nofun⟩
  have trees := (Tree.Alike.refl .refl .empty).set [[107]] (.file 0 0o644 files)
  exact ⟨{ Tree.ofFile [107] _ with nextNumber := 1 }, ⟨trees.node, rfl⟩, rfl⟩

/-- On hosts that differ in nothing but files, whose hashes were made at the same costs, the program
that is to list the ids has one code, prints one text and tells one thing as errors: nothing is
revealed of secrets, salts and digests, nor of the order of the entries. -/
theorem list_reveals_costs_alone (parsed : Options.parse arguments = .ok ⟨wishes, some .list⟩)
    (alike : host.Alike (KeychainFile.Alike Secret.OfOneCost) other) :
    ((run home arguments).run other).1 = ((run home arguments).run host).1 ∧
      ((run home arguments).run other).2.output = ((run home arguments).run host).2.output ∧
      ((run home arguments).run other).2.errors = ((run home arguments).run host).2.errors := by
  obtain ⟨code, differs⟩ :=
    list_shows_alike parsed (alike.mono fun _ _ files => files.mono Secret.OfOneCost.showsLike)
  exact ⟨code, differs.output, differs.errors⟩

/-- Of two ids one has a hash of the least cost and one of the highest. In another file the two come
the other way round, with hashes of other secrets and salts. One text is printed for both. -/
theorem list_reveals_costs_alone_swapped :
    let salts : Salts := ⟨[], Utf8.octets (lit "abcdefghijklmnopqrstuu")⟩
    let salts' : Salts := ⟨[], Utf8.octets (lit "ABCDEFGHIJKLMNOPQRSTUO")⟩
    let arguments := [lit "-k", lit "k", lit "--log-dir", lit "d", lit "list"]
    let text := lit "ID | Hash           \n--------------------\n" ++
      lit "a  | $2b$04$********\nb  | $2b$31$********\n"
    ∃ first second first' second' : Bytes,
      (Secret.hash (.ofText (lit "one")) 4 salts).1 = .ok first ∧
        (Secret.hash (.ofText (lit "two")) 31 salts).1 = .ok second ∧
        (Secret.hash (.ofText (lit "three")) 4 salts').1 = .ok first' ∧
        (Secret.hash (.ofText (lit "four")) 31 salts').1 = .ok second' ∧
        let host := hostOf (Entries.file [(lit "a", first), (lit "b", second)])
        let other := hostOf (Entries.file [(lit "b", second'), (lit "a", first')])
        ((run [] arguments).run host).1 = .ok success ∧
          ((run [] arguments).run host).2.output = text ∧
          ((run [] arguments).run other).1 = .ok success ∧
          ((run [] arguments).run other).2.output = text := by
  intro salts salts' arguments text
  obtain ⟨first, hashed, -, fine⟩ := Secret.exists_hash (lit "one") 4 salts
    (by decide) (by decide) (by decide) (by decide)
  obtain ⟨second, hashedToo, -, fineToo⟩ := Secret.exists_hash (lit "two") 31 salts
    (by decide) (by decide) (by decide) (by decide)
  obtain ⟨first', hashed', -, fine'⟩ := Secret.exists_hash (lit "three") 4 salts'
    (by decide) (by decide) (by decide) (by decide)
  obtain ⟨second', hashedToo', -, fineToo'⟩ := Secret.exists_hash (lit "four") 31 salts'
    (by decide) (by decide) (by decide) (by decide)
  refine ⟨first, second, first', second', hashed, hashedToo, hashed', hashedToo', ?_⟩
  intro host other
  have parsed : Options.parse arguments = .ok ⟨⟨lit "k", lit "d", false⟩, some .list⟩ := by
    decide +kernel
  -- What has been hashed is not evaluated: a file that shows as much is listed in its place.
  have shows : host.Alike (KeychainFile.Alike Table.ShowsLike) (hostOf (Entries.file
      [(lit "b", Utf8.octets (lit "$2b$31$-")), (lit "a", Utf8.octets (lit "$2b$04$-"))])) :=
    alike_swapped fine fineToo (by decide) (by decide)
      (Table.mask_hash hashed).symm (Table.mask_hash hashedToo).symm
  have made : host.Alike (KeychainFile.Alike Secret.OfOneCost) other :=
    alike_swapped fine fineToo fine' fineToo'
      ⟨4, _, _, _, _, hashed, hashed'⟩ ⟨31, _, _, _, _, hashedToo, hashedToo'⟩
  obtain ⟨succeeds, prints⟩ := run_list_two
  obtain ⟨code, differs⟩ := @list_shows_alike _ _ [] _ _ parsed shows
  obtain ⟨code', output, -⟩ := @list_reveals_costs_alone _ _ [] _ _ parsed made
  have succeeded : ((run [] arguments).run host).1 = .ok success := code.symm.trans succeeds
  have printed : ((run [] arguments).run host).2.output = text := differs.output.symm.trans prints
  exact ⟨succeeded, printed, code'.trans succeeded, output.trans printed⟩

end CommandLine

end Keyring

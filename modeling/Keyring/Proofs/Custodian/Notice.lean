import Keyring.Proofs.Custodian.Succession

/-!
# What events tell of ids

Some audit events tell that an id has come to be stored or is not stored any more
(`Audit.Event.notice?`). Whoever knows the ids that were stored at first and reads the events from
there on can tell which ones are stored now (`Audit.replay`).

Each task records what it changes, and no more than that: the notices among its events are the
change that its result tells of (`Task.notices_events`). This is so whatever the calls reply, and
whether a change was undone or could not be.
-/

namespace Keyring

/-! ## Ids that are told of -/

namespace Named

variable {α β γ : Type}

/-- The names alone. -/
def marks (named : Named α) : Named Unit :=
  named.map fun (name, _) => (name, ())

/-- Two tables have the same names, in whatever order. -/
def SameNames (named : Named α) (others : Named β) : Prop :=
  ∀ name, named.contains name = others.contains name

theorem contains_put (name other : Cell) (value : α) (named : Named α) :
    (named.put name value).contains other =
      (decide (other.identity = name.identity) || named.contains other) := by
  unfold contains
  rw [get?_put]
  split
  · simp [*]
  · simp [*]

theorem contains_erase (name other : Cell) (named : Named α) :
    (named.erase name).contains other =
      (!decide (other.identity = name.identity) && named.contains other) := by
  unfold contains
  rw [get?_erase]
  split
  · simp [*]
  · simp [*]

theorem sameNames_marks (named : Named α) : SameNames named.marks named := by
  intro name
  unfold contains marks
  induction named with
  | nil => rfl
  | cons pair others ih =>
    obtain ⟨stored, value⟩ := pair
    rw [List.map_cons, get?, get?]
    split
    · rfl
    · exact ih

namespace SameNames

variable {named : Named α} {others : Named β}

theorem trans {third : Named γ} (same : SameNames named others) (next : SameNames others third) :
    SameNames named third :=
  fun name => (same name).trans (next name)

/-- The same name is put. -/
theorem put (same : SameNames named others) (name : Cell) (value : α) (other : β) :
    SameNames (named.put name value) (others.put name other) := by
  intro sought
  rw [contains_put, contains_put, same]

/-- The same name is erased. -/
theorem erase (same : SameNames named others) (name : Cell) :
    SameNames (named.erase name) (others.erase name) := by
  intro sought
  rw [contains_erase, contains_erase, same]

end SameNames

end Named

/-- One mapping has one set of ids. -/
theorem Entries.Agree.sameNames {entries others : Entries} (agree : Entries.Agree entries others) :
    Named.SameNames entries others :=
  agree.contains_eq

namespace Audit

/-- What becomes of an id. -/
inductive Notice where
  | inserted (id : Cell)
  | deleted (id : Cell)
  deriving DecidableEq, Repr

/-- What an event tells of an id, if it tells of a change. -/
def Event.notice? : Event → Option Notice
  | .created id => some (.inserted id)
  | .added id => some (.inserted id)
  | .removed id => some (.deleted id)
  | _ => none

/-- The ids after a notice. -/
def Notice.apply : Notice → Named Unit → Named Unit
  | .inserted id => Named.put id ()
  | .deleted id => Named.erase id

/-- The notices among some events, in order. -/
def notices (events : List Event) : List Notice :=
  events.filterMap Event.notice?

/-- The ids after some events. -/
def replay (events : List Event) (ids : Named Unit) : Named Unit :=
  (notices events).foldl (fun ids notice => notice.apply ids) ids

theorem notices_append (events more : List Event) :
    notices (events ++ more) = notices events ++ notices more :=
  List.filterMap_append

end Audit

open Audit (Event Notice)

namespace Change

/-- What a change makes of an id. -/
def notice? : Change → Option Notice
  | .put id _ => some (.inserted id)
  | .erase id => some (.deleted id)
  | .keep => none

/-- Nothing is put that would be refused. -/
def IsFit : Change → Prop
  | .put id hash => ∃ entry, id.entryWith hash = .ok entry
  | _ => True

/-- Whoever applies what is told of a change has the ids that there are after the change. -/
theorem sameNames_apply {change : Change} (fit : change.IsFit) {entries : Entries}
    {ids : Named Unit} (same : Named.SameNames ids entries) :
    Named.SameNames (change.notice?.toList.foldl (fun ids notice => notice.apply ids) ids)
      (change.apply entries) := by
  cases change with
  | put id hash =>
    obtain ⟨⟨text, bytes⟩, entry⟩ := fit
    obtain rfl := Cell.id_of_entryWith entry
    unfold apply
    dsimp only
    rw [entry]
    exact same.put (.ofText text) () _
  | erase id => exact same.erase id
  | keep => exact same

end Change

/-! ## What duties record -/

namespace Duty

variable {α β : Type} {duty : Duty α} {told : α → Option Notice}

/-- A duty records events after those that were recorded before, and the notices among them are what
its result tells. -/
def Tells (duty : Duty α) (told : α → Option Notice) : Prop :=
  ∀ custodian host, ∃ events,
    (duty.outcome custodian host).custodian.recorded = custodian.recorded ++ events ∧
    Audit.notices events = ((duty.outcome custodian host).result.toOption.bind told).toList

/-- A duty records no notices. -/
abbrev IsQuiet (duty : Duty α) : Prop :=
  duty.Tells fun _ => none

theorem tells_pure {value : α} (nothing : told value = none) :
    (pure value : Duty α).Tells told := by
  intro custodian host
  refine ⟨[], (List.append_nil _).symm, ?_⟩
  show [] = (told value).toList
  rw [nothing]
  rfl

theorem tells_throw (failure : Failure) : (throw failure : Duty α).Tells told :=
  fun _ _ => ⟨[], (List.append_nil _).symm, rfl⟩

theorem tells_record (event : Event) : (record event).Tells fun _ => event.notice? := by
  intro custodian host
  refine ⟨[event], rfl, ?_⟩
  show List.filterMap Event.notice? [event] = event.notice?.toList
  cases notice : event.notice? <;> simp [notice]

theorem isQuiet_record {event : Event} (silent : event.notice? = none) :
    (record event).IsQuiet := by
  simpa only [silent] using tells_record event

/-- Whoever changes no more than the keychain records nothing. -/
theorem isQuiet_modify {change : Custodian → Custodian}
    (keeps : ∀ custodian, (change custodian).recorded = custodian.recorded) :
    (modify change : Duty Unit).IsQuiet := by
  intro custodian host
  exact ⟨[], by simp [keeps], rfl⟩

theorem isQuiet_get : (get : Duty Custodian).IsQuiet :=
  fun _ _ => ⟨[], (List.append_nil _).symm, rfl⟩

theorem isQuiet_through (plan : Plan α) : (through plan).IsQuiet := by
  intro custodian host
  exact ⟨[], by simp, by simp [Audit.notices, Except.toOption]⟩

theorem isQuiet_ofExcept (result : Except Failure α) : (ofExcept result).IsQuiet := by
  cases result with
  | error failure => exact tells_throw failure
  | ok value => exact tells_pure rfl

/-- A duty that is quiet at first tells what the rest of it tells. -/
theorem Tells.bind (quiet : duty.IsQuiet) {next : α → Duty β} {told : β → Option Notice}
    (tells : ∀ value, (next value).Tells told) : (duty >>= next).Tells told := by
  intro custodian host
  obtain ⟨early, recorded, silent⟩ := quiet custodian host
  rw [outcome_bind]
  generalize duty.outcome custodian host = outcome at recorded silent
  obtain ⟨failure | value, after, later⟩ := outcome
  · exact ⟨early, recorded, silent⟩
  · obtain ⟨late, recorded', tells⟩ := tells value after later
    dsimp only at recorded ⊢
    refine ⟨early ++ late, ?_, ?_⟩
    · rw [recorded', recorded, List.append_assoc]
    · rw [Audit.notices_append, silent, tells]
      rfl

/-- A duty that gives a value in the end tells what it told before. -/
theorem Tells.giving (tells : duty.Tells told) {value : β} {told' : β → Option Notice}
    (same : ∀ given, told given = told' value) :
    (duty >>= fun _ => pure value).Tells told' := by
  intro custodian host
  obtain ⟨events, recorded, tells⟩ := tells custodian host
  rw [outcome_bind]
  generalize duty.outcome custodian host = outcome at recorded tells
  obtain ⟨failure | given, after, later⟩ := outcome
  · exact ⟨events, recorded, tells⟩
  · exact ⟨events, recorded, tells.trans (congrArg Option.toList (same given))⟩

/-- A quiet duty of which failures are handled quietly. -/
theorem IsQuiet.tryCatch (quiet : duty.IsQuiet) {handle : Failure → Duty α}
    (quiet' : ∀ failure, (handle failure).IsQuiet) : (tryCatch duty handle).IsQuiet := by
  intro custodian host
  obtain ⟨early, recorded, silent⟩ := quiet custodian host
  rw [outcome_tryCatch]
  generalize duty.outcome custodian host = outcome at recorded silent
  obtain ⟨failure | value, after, later⟩ := outcome
  · obtain ⟨late, recorded', silent'⟩ := quiet' failure after later
    dsimp only at recorded ⊢
    refine ⟨early ++ late, ?_, ?_⟩
    · rw [recorded', recorded, List.append_assoc]
    · rw [Audit.notices_append, silent, silent']
      rfl
  · exact ⟨early, recorded, silent⟩

end Duty

namespace Custodian

open Duty

variable {α : Type}

theorem isQuiet_keep (keychain : Keychain) : (keep keychain).IsQuiet :=
  isQuiet_modify fun _ => rfl

theorem isQuiet_opened : opened.IsQuiet := by
  refine .bind isQuiet_get fun custodian => ?_
  split
  · exact tells_pure rfl
  · refine .bind (isQuiet_through _) fun result => .bind (isQuiet_ofExcept _) fun keychain => ?_
    refine .bind (isQuiet_keep keychain) fun _ => .bind ?_ fun _ => ?_
    · exact isQuiet_record rfl
    · exact tells_pure rfl

/-- To keep the keychain that some work has left is no change that is told of. -/
theorem isQuiet_kept (made : Except Failure α × Keychain) :
    (do keep made.2; Duty.ofExcept made.1 : Duty α).IsQuiet :=
  .bind (isQuiet_keep _) fun _ => isQuiet_ofExcept _

theorem isQuiet_withKeychain (work : Keychain → Except Failure α × Keychain) :
    (withKeychain work).IsQuiet :=
  .bind isQuiet_opened fun keychain => isQuiet_kept (work keychain)

theorem isQuiet_withKeychainThrough (work : Keychain → Plan (Except Failure α × Keychain)) :
    (withKeychainThrough work).IsQuiet :=
  .bind isQuiet_opened fun _ => .bind (isQuiet_through _) fun made => isQuiet_kept made

theorem isQuiet_hashOf (id : Cell) : (hashOf id).IsQuiet :=
  .bind isQuiet_opened fun _ => isQuiet_ofExcept _

theorem isQuiet_save : save.IsQuiet :=
  .bind (isQuiet_withKeychainThrough _) fun _ => .bind isQuiet_get fun _ =>
    .bind isQuiet_opened fun _ => isQuiet_record rfl

/-- To undo a change is no change that is told of. -/
theorem isQuiet_restore (id previous : Cell) : (restore id previous).IsQuiet := by
  unfold restore
  split
  · exact .bind (isQuiet_withKeychain _) fun _ => tells_pure rfl
  · exact isQuiet_withKeychain _

/-- No failure to save is a change that is told of. -/
theorem isQuiet_saveOr {undo : Duty Unit} (quiet : undo.IsQuiet) {event : Failure → Event}
    (silent : ∀ failure, (event failure).notice? = none) : (saveOr undo event).IsQuiet := by
  refine .tryCatch isQuiet_save fun failure => ?_
  split
  · exact .bind quiet fun _ => .bind (isQuiet_record (silent failure)) fun _ => tells_throw failure
  · exact tells_throw failure

theorem isQuiet_putAndSave (id hash : Cell) : (putAndSave id hash).IsQuiet :=
  .bind (isQuiet_hashOf id) fun _ => .bind (isQuiet_withKeychain _) fun _ =>
    isQuiet_saveOr (isQuiet_restore id _) fun _ => rfl

theorem isQuiet_missing (id : Cell) {told : Bool → Option Notice} (nothing : told false = none) :
    (missing id).Tells told :=
  (tells_record _).giving fun _ => nothing.symm

/-- Looking after a keychain changes nothing. -/
theorem isQuiet_statistics : statistics.IsQuiet :=
  .bind isQuiet_opened fun _ => .bind isQuiet_get fun _ => .bind (isQuiet_through _) fun _ =>
    tells_pure rfl

end Custodian

/-! ## What tasks record -/

namespace Task

/-- A task records the change that its result tells of. -/
theorem tells (task : Task) :
    task.duty.Tells fun value => (task.receipt value).bind Change.notice? := by
  cases task with
  | create =>
    refine .bind (Duty.isQuiet_through _) fun issued => .bind (Duty.isQuiet_ofExcept _) fun _ => ?_
    exact .bind (Custodian.isQuiet_putAndSave _ _) fun _ =>
      (Duty.tells_record _).giving fun _ => rfl
  | add id hash => exact .bind (Custodian.isQuiet_putAndSave _ _) fun _ => Duty.tells_record _
  | remove id =>
    refine .bind (Custodian.isQuiet_hashOf id) fun previous => ?_
    split
    · exact Custodian.isQuiet_missing id rfl
    · refine .bind (Custodian.isQuiet_withKeychain _) fun removed => ?_
      split
      · have restores := Custodian.isQuiet_restore id previous
        refine .bind (Custodian.isQuiet_saveOr restores fun _ => rfl) fun _ => ?_
        exact (Duty.tells_record _).giving fun _ => rfl
      · exact Custodian.isQuiet_missing id rfl
  | verify id secret =>
    exact .bind (Custodian.isQuiet_withKeychain _) fun _ =>
      (Duty.tells_record _).giving fun _ => rfl
  | ids => exact .bind Custodian.isQuiet_opened fun _ => Duty.isQuiet_ofExcept _
  | save => exact Custodian.isQuiet_save

/-- The events that a task hands over. -/
def events (task : Task) (custodian : Custodian) (host : Host) : List Event :=
  ((task.duty.perform custodian).run host).1.2.2

/-- The notices among the events of a task are the change that its result tells of. -/
theorem notices_events (task : Task) (custodian : Custodian) (host : Host) :
    Audit.notices (task.events custodian host) =
      ((task.told custodian host).bind Change.notice?).toList := by
  obtain ⟨events, recorded, tells⟩ := task.tells { custodian with recorded := [] } host
  unfold Task.events Task.told
  rw [Duty.run_perform, perform_eq]
  dsimp only
  rw [recorded, List.nil_append, tells]
  cases (task.duty.outcome { custodian with recorded := [] } host).result <;> rfl

end Task

end Keyring

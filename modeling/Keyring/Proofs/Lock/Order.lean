import Keyring.Proofs.Lock.Crowd

/-!
# In whichever order they look

A release that wakes has all who wait look again, and each of them finds the lock as the one before
has left it. How that ends can be told from the lock and from how many look for each side
(`Lock.settle`): those who want to read are admitted if no writer waits, and else one writer if nobody
holds a side. So it ends alike in whichever order they look (`Traffic.Wanders.order_irrelevant`), and
a crowd, which has them look in one certain order, ends as threads do in any.

A side may be left here by threads that do not hold it (`Traffic.Wanders`), and the number of readers
may be below zero. All that is needed of what happened before is that the lock counts the writers that
wait (`Traffic.IsCounted`).
-/

namespace Keyring

namespace Lock

/-- One more who wants a side. -/
def withOne (side : Side) (wanting : Side → Nat) : Side → Nat :=
  fun other => wanting other + if side = other then 1 else 0

/-- How it ends when some who want a side look one after another: the lock, and how many of them are
not admitted. The lock counts those among them who want to write. -/
def settle (lock : Lock) (wanting : Side → Nat) : Lock × (Side → Nat) :=
  if lock.admits .read then
    ({ lock with readers := lock.readers + wanting .read }, fun
      | .read => 0
      | .write => wanting .write)
  else if lock.admits .write ∧ 0 < wanting .write then
    (lock.enter .write, fun
      | .read => wanting .read
      | .write => wanting .write - 1)
  else (lock, wanting)

variable {lock : Lock} {side : Side} {wanting : Side → Nat}

/-- While a writer waits nobody is admitted to read. -/
theorem admits_read_eq_false (waits : 0 < lock.writersWaiting) : lock.admits .read = false :=
  admits_eq_false_iff.mpr (.inr waits)

/-- While nobody is admitted to read, a writer may be. -/
theorem settle_of_not_read (refused : lock.admits .read = false) (wanting : Side → Nat) :
    lock.settle wanting =
      if lock.admits .write ∧ 0 < wanting .write then
        (lock.enter .write, fun
          | .read => wanting .read
          | .write => wanting .write - 1)
      else (lock, wanting) := by
  rw [settle, if_neg (by simp [refused])]

/-- Of those who look at most one writer is admitted, and no reader with it. -/
theorem settle_excludes (lock : Lock) (wanting : Side → Nat) :
    (lock.settle wanting).2 .write = wanting .write ∨
      (lock.settle wanting).2 .write + 1 = wanting .write ∧
        (lock.settle wanting).2 .read = wanting .read := by
  rw [settle]
  split
  · exact .inl rfl
  · split
    · rename_i enters
      exact .inr ⟨Nat.sub_add_cancel enters.2, rfl⟩
    · exact .inl rfl

/-- Where nobody looks nothing happens. -/
theorem settle_nobody (lock : Lock) : lock.settle (fun _ => 0) = (lock, fun _ => 0) := by
  have same : ({ lock with readers := lock.readers + ((0 : Nat) : Int) } : Lock) = lock := by simp
  rw [settle, if_neg (show ¬ (lock.admits .write ∧ 0 < 0) by simp), same]
  split
  · refine Prod.ext rfl (funext fun side => ?_)
    cases side <;> rfl
  · rfl

/-- The lock counts the writers that are still to look if it counts one more. -/
theorem le_of_withOne_le (counted : withOne side wanting .write ≤ lock.writersWaiting) :
    wanting .write ≤ lock.writersWaiting :=
  Nat.le_trans (Nat.le_add_right _ _) counted

/-- Whoever enters to write does not wait any more, and the lock counts the others. -/
theorem le_enter_of_withOne_le (counted : withOne side wanting .write ≤ lock.writersWaiting) :
    wanting .write ≤ (lock.enter side).writersWaiting := by
  cases side with
  | read => exact counted
  | write => exact Nat.le_sub_of_add_le counted

/-- Where nobody is admitted all stay as they are. -/
theorem settle_of_barred (read : lock.admits .read = false) (write : lock.admits .write = false)
    (wanting : Side → Nat) : lock.settle wanting = (lock, wanting) := by
  rw [settle_of_not_read read, if_neg (by simp [write])]

/-- Whoever is not admitted changes nothing for those who look after it. -/
theorem settle_of_refused (refused : lock.admits side = false)
    (counted : withOne side wanting .write ≤ lock.writersWaiting) :
    lock.settle (withOne side wanting) =
      ((lock.settle wanting).1, withOne side (lock.settle wanting).2) := by
  cases side with
  | read =>
    rw [settle_of_not_read refused, settle_of_not_read refused]
    by_cases enters : lock.admits .write ∧ 0 < wanting .write
    · rw [if_pos enters, if_pos (show _ ∧ 0 < withOne .read wanting .write from enters)]
      refine Prod.ext rfl (funext fun other => ?_)
      cases other <;> rfl
    · rw [if_neg enters, if_neg (show ¬ (_ ∧ 0 < withOne .read wanting .write) from enters)]
  | write =>
    have read : lock.admits .read = false :=
      admits_read_eq_false (Nat.lt_of_lt_of_le (Nat.succ_pos _) counted)
    rw [settle_of_barred read refused, settle_of_barred read refused]

/-- Whoever is admitted leaves the others a lock at which they end as they would have before. -/
theorem settle_of_admits (admits : lock.admits side = true)
    (counted : withOne side wanting .write ≤ lock.writersWaiting) :
    lock.settle (withOne side wanting) = (lock.enter side).settle wanting := by
  cases side with
  | read =>
    have still : (lock.enter .read).admits .read = true := admits
    have readers : lock.readers + ((wanting .read + 1 : Nat) : Int) =
        lock.readers + 1 + wanting .read := by omega
    rw [settle, settle, if_pos admits, if_pos still]
    refine Prod.ext (congrArg (Lock.mk · _ _) readers) (funext fun other => ?_)
    cases other <;> rfl
  | write =>
    have read : lock.admits .read = false :=
      admits_read_eq_false (Nat.lt_of_lt_of_le (Nat.succ_pos _) counted)
    have enters : lock.admits .write ∧ 0 < withOne .write wanting .write :=
      ⟨admits, Nat.succ_pos _⟩
    rw [settle_of_not_read read, if_pos enters, settle_of_barred rfl rfl]
    refine Prod.ext rfl (funext fun other => ?_)
    cases other <;> rfl

end Lock

namespace Crowd

variable {lock : Lock} {order : List Visitor}

/-- How many visitors want a side. -/
def wanting (visitors : List Visitor) (side : Side) : Nat :=
  visitors.countP fun visitor => visitor.side = side

theorem wanting_cons (visitor : Visitor) (others : List Visitor) :
    wanting (visitor :: others) = Lock.withOne visitor.side (wanting others) := by
  funext side
  simp [wanting, Lock.withOne, List.countP_cons]

theorem wanting_concat (visitors : List Visitor) (visitor : Visitor) :
    wanting (visitors ++ [visitor]) = Lock.withOne visitor.side (wanting visitors) := by
  funext side
  simp [wanting, Lock.withOne, List.countP_cons]

/-- Visitors who stay end as the lock and their number tell. -/
theorem rouse_settles (waiting : List Visitor)
    (stay : ∀ visitor ∈ order, visitor.passing = false)
    (counted : wanting order .write ≤ lock.writersWaiting) :
    (rouse lock waiting order).lock = (lock.settle (wanting order)).1 ∧
      ∀ side, (rouse lock waiting order).blocked side =
        wanting waiting side + (lock.settle (wanting order)).2 side := by
  induction order generalizing lock waiting with
  | nil =>
    have nobody : lock.settle (wanting []) = (lock, wanting []) := lock.settle_nobody
    rw [nobody, rouse]
    exact ⟨rfl, fun _ => rfl⟩
  | cons visitor others ih =>
    obtain ⟨stays, stay⟩ := List.forall_mem_cons.mp stay
    rw [wanting_cons] at counted ⊢
    cases admits : lock.admits visitor.side with
    | true =>
      rw [Lock.settle_of_admits admits counted]
      have entered : rouse lock waiting (visitor :: others) =
          rouse (lock.enter visitor.side) waiting others := by
        rw [rouse, if_pos admits]
        simp [stays]
      rw [entered]
      exact ih waiting stay (Lock.le_enter_of_withOne_le counted)
    | false =>
      rw [Lock.settle_of_refused admits counted]
      have waits : rouse lock waiting (visitor :: others) =
          rouse lock (waiting ++ [visitor]) others := by
        rw [rouse, if_neg (by simp [admits])]
      obtain ⟨left, stuck⟩ := ih (waiting ++ [visitor]) stay (Lock.le_of_withOne_le counted)
      rw [waits]
      refine ⟨left, fun side => ?_⟩
      rw [stuck, wanting_concat]
      simp only [Lock.withOne]
      omega

end Crowd

namespace Traffic

variable {mayFail : Prop} {traffic after : Traffic} {thread : Nat} {side : Side} {old : Stage}
  {order : List Nat}

/-- How many threads sleep while they wait for a side. -/
def sleeping (traffic : Traffic) (side : Side) : Nat :=
  traffic.threads.countP (· = .asleep side)

/-- How many threads are to look again for a side. -/
def looking (traffic : Traffic) (side : Side) : Nat :=
  traffic.threads.countP (· = .woken side)

/-- Those who wait sleep or are to look. -/
theorem waiters_eq (traffic : Traffic) (side : Side) :
    traffic.waiters side = traffic.sleeping side + traffic.looking side :=
  waiters_eq_add traffic side

/-- What comes of threads that may leave a side they do not hold. -/
inductive Wanders (mayFail : Prop) : Traffic → Prop
  | start (count : Nat) : Wanders mayFail (start count)
  | step {traffic after : Traffic} {thread : Nat} (wanders : Wanders mayFail traffic)
      (step : traffic.Step mayFail thread after) : Wanders mayFail after
  | stray {traffic : Traffic} {thread : Nat} (wanders : Wanders mayFail traffic)
      (away : traffic.threads[thread]? = some .away) (side : Side) :
      Wanders mayFail (traffic.leave thread side)

/-- However sides are left, the lock counts the writers that wait. -/
theorem Wanders.counted (wanders : Wanders mayFail traffic) : traffic.IsCounted := by
  induction wanders with
  | start count => exact .start count
  | step _ step ih => exact ih.step step
  | stray _ away side ih => exact ih.leave away rfl side

/-! ## Looking one after another -/

/-- A thread looks again, if it is to. -/
def lookAgain (traffic : Traffic) (thread : Nat) : Traffic :=
  match traffic.threads[thread]? with
  | some (.woken side) => traffic.look thread side
  | _ => traffic

/-- Some threads look again, one after another. -/
def lookAll (traffic : Traffic) : List Nat → Traffic
  | [] => traffic
  | thread :: order => (traffic.lookAgain thread).lookAll order

/-- An order in which those who are to look can do so. -/
structure IsOrder (traffic : Traffic) (order : List Nat) : Prop where
  once : order.Nodup
  all : ∀ thread : Nat, thread ∈ order ↔ ∃ side, traffic.threads[thread]? = some (.woken side)

/-- Those who can look in one order can look in any other. -/
theorem IsOrder.perm {other : List Nat} (isOrder : traffic.IsOrder order)
    (same : order.Perm other) : traffic.IsOrder other where
  once := same.nodup_iff.mp isOrder.once
  all thread := same.mem_iff.symm.trans (isOrder.all thread)

theorem lookAgain_of_woken (woken : traffic.threads[thread]? = some (.woken side)) :
    traffic.lookAgain thread = traffic.look thread side := by
  rw [lookAgain, woken]

/-- Whoever looks again makes a step. -/
theorem Wanders.lookAgain (wanders : Wanders mayFail traffic) (thread : Nat) :
    Wanders mayFail (traffic.lookAgain thread) := by
  unfold Traffic.lookAgain
  split
  · exact wanders.step (.look ‹_›)
  · exact wanders

theorem Wanders.lookAll (wanders : Wanders mayFail traffic) (order : List Nat) :
    Wanders mayFail (traffic.lookAll order) := by
  induction order generalizing traffic with
  | nil => exact wanders
  | cons thread order ih => exact ih (wanders.lookAgain thread)

/-- Whoever is admitted is inside then, and not to look any more. -/
theorem look_of_admits (woken : traffic.threads[thread]? = some (.woken side))
    (admits : traffic.lock.admits side = true) :
    (traffic.look thread side).lock = traffic.lock.enter side ∧
      traffic.looking = Lock.withOne side (traffic.look thread side).looking ∧
      (traffic.look thread side).sleeping = traffic.sleeping ∧
      (traffic.look thread side).holders = Lock.withOne side traffic.holders := by
  rw [look, if_pos admits]
  refine ⟨rfl, funext fun other => ?_, funext fun other => ?_, funext fun other => ?_⟩
  · have changed := countP_set woken (.inside side) (· = .woken other)
    by_cases same : side = other <;> simpa [Lock.withOne, looking, same, eq_comm] using changed
  · simpa [sleeping] using countP_set woken (.inside side) (· = .asleep other)
  · have changed := countP_set woken (.inside side) (Stage.holds other)
    by_cases same : side = other <;> simpa [Lock.withOne, holders, Stage.holds, same] using changed

/-- Whoever is not admitted sleeps then, and is not to look any more. -/
theorem look_of_refused (woken : traffic.threads[thread]? = some (.woken side))
    (refused : traffic.lock.admits side = false) :
    (traffic.look thread side).lock = traffic.lock ∧
      traffic.looking = Lock.withOne side (traffic.look thread side).looking ∧
      (traffic.look thread side).sleeping = Lock.withOne side traffic.sleeping ∧
      (traffic.look thread side).holders = traffic.holders := by
  rw [look, if_neg (by simp [refused])]
  refine ⟨rfl, funext fun other => ?_, funext fun other => ?_, funext fun other => ?_⟩
  · have changed := countP_set woken (.asleep side) (· = .woken other)
    by_cases same : side = other <;> simpa [Lock.withOne, looking, same, eq_comm] using changed
  · have changed := countP_set woken (.asleep side) (· = .asleep other)
    by_cases same : side = other <;> simpa [Lock.withOne, sleeping, same] using changed
  · simpa [holders, Stage.holds] using countP_set woken (.asleep side) (Stage.holds other)

/-- Whoever has looked is not to look any more. -/
theorem IsOrder.look (isOrder : traffic.IsOrder (thread :: order)) (side : Side) :
    (traffic.look thread side).IsOrder order := by
  obtain ⟨fresh, once⟩ := List.nodup_cons.mp isOrder.once
  obtain ⟨stage, looked, same⟩ : ∃ stage, (∀ other, stage ≠ Stage.woken other) ∧
      (traffic.look thread side).threads = traffic.threads.set thread stage := by
    unfold Traffic.look
    split
    · exact ⟨.inside side, nofun, rfl⟩
    · exact ⟨.asleep side, nofun, rfl⟩
  refine ⟨once, fun other => ?_⟩
  rw [same]
  by_cases same : thread = other
  · subst same
    refine iff_of_false fresh ?_
    rintro ⟨side, woken⟩
    obtain ⟨inRange, there⟩ := List.getElem?_eq_some_iff.mp woken
    exact looked side (by simpa using there)
  · have member : other ∈ thread :: order ↔ other ∈ order := by
      simp [Ne.symm same]
    rw [← member, isOrder.all other, List.getElem?_set_ne same]

/-- Where nobody has an order to look in, nobody is to look. -/
theorem IsOrder.looking_eq_zero (isOrder : traffic.IsOrder []) : traffic.looking = fun _ => 0 := by
  funext side
  refine List.countP_eq_zero.mpr fun stage member woken => ?_
  obtain ⟨thread, there⟩ := List.getElem?_of_mem member
  have looks : thread ∈ [] := (isOrder.all thread).mpr ⟨side, by simpa [there] using woken⟩
  exact List.not_mem_nil looks

/-- Threads that look end as the lock and their number tell, in whichever order they do. -/
theorem lookAll_settles (isOrder : traffic.IsOrder order)
    (counted : traffic.looking .write ≤ traffic.lock.writersWaiting) :
    (traffic.lookAll order).lock = (traffic.lock.settle traffic.looking).1 ∧
      ∀ side, (traffic.lookAll order).looking side = 0 ∧
        (traffic.lookAll order).sleeping side =
          traffic.sleeping side + (traffic.lock.settle traffic.looking).2 side ∧
        (traffic.lookAll order).holders side + (traffic.lock.settle traffic.looking).2 side =
          traffic.holders side + traffic.looking side := by
  induction order generalizing traffic with
  | nil =>
    have nobody := isOrder.looking_eq_zero
    rw [nobody, Lock.settle_nobody, lookAll, nobody]
    exact ⟨rfl, fun _ => ⟨rfl, rfl, rfl⟩⟩
  | cons thread order ih =>
    obtain ⟨side, woken⟩ := (isOrder.all thread).mp (List.mem_cons_self ..)
    rw [lookAll, lookAgain_of_woken woken]
    cases admits : traffic.lock.admits side with
    | true =>
      obtain ⟨lock, looking, sleeping, holders⟩ := look_of_admits woken admits
      rw [looking] at counted ⊢
      have settled := Lock.settle_of_admits admits counted
      rw [← lock] at settled
      obtain ⟨left, ends⟩ := ih (isOrder.look side) (lock ▸ Lock.le_enter_of_withOne_le counted)
      rw [settled]
      refine ⟨left, fun other => ?_⟩
      obtain ⟨looked, slept, held⟩ := ends other
      rw [sleeping] at slept
      rw [holders] at held
      simp only [Lock.withOne] at held ⊢
      refine ⟨looked, slept, ?_⟩
      omega
    | false =>
      obtain ⟨lock, looking, sleeping, holders⟩ := look_of_refused woken admits
      rw [looking] at counted ⊢
      have settled := Lock.settle_of_refused admits counted
      obtain ⟨left, ends⟩ := ih (isOrder.look side) (lock ▸ Lock.le_of_withOne_le counted)
      rw [lock] at left ends
      rw [settled]
      refine ⟨left, fun other => ?_⟩
      obtain ⟨looked, slept, held⟩ := ends other
      rw [sleeping] at slept
      rw [holders] at held
      simp only [Lock.withOne] at slept ⊢
      refine ⟨looked, ?_, ?_⟩ <;> omega

/-- A release that wakes leaves nobody asleep: all who wait are to look. -/
theorem leave_of_wakes (there : traffic.threads[thread]? = some old)
    (idle : ∀ other, old.waits other = false)
    (wakes : (traffic.lock.leave side).wakes side = true) :
    (traffic.leave thread side).looking = traffic.waiters ∧
      (traffic.leave thread side).sleeping = fun _ => 0 := by
  rw [leave, if_pos wakes]
  refine ⟨funext fun other => ?_, funext fun other => ?_⟩
  · have kept := waiters_set there .away traffic.lock other
    rw [idle, waiters_eq_add] at kept
    rw [looking, countP_woken_roused, Nat.add_comm]
    simpa [Stage.waits] using kept
  · refine List.countP_eq_zero.mpr fun stage member sleeps => ?_
    obtain ⟨before, -, rfl⟩ := List.mem_map.mp member
    cases before <;> simp [Stage.roused] at sleeps

section Awake

variable {first : List Nat} (wanders : Wanders mayFail traffic)
  (awake : traffic.sleeping = fun _ => 0) (one : traffic.IsOrder first)

include wanders

/-- Whoever is to look to write is counted. -/
theorem Wanders.looking_le : traffic.looking .write ≤ traffic.lock.writersWaiting := by
  have waits : traffic.lock.writersWaiting = traffic.waiters .write := wanders.counted
  rw [waits, waiters_eq]
  exact Nat.le_add_left _ _

include one

/-- In the end nobody is to look, so that the writers that wait are those who sleep. -/
theorem Wanders.writersWaiting_lookAll :
    (traffic.lookAll first).lock.writersWaiting = (traffic.lookAll first).sleeping .write := by
  have waits : (traffic.lookAll first).lock.writersWaiting = (traffic.lookAll first).waiters .write :=
    (wanders.lookAll first).counted
  rw [waits, waiters_eq, ((lookAll_settles one wanders.looking_le).2 .write).1, Nat.add_zero]

/-- At most one writer gets in, and no reader with it. -/
theorem Wanders.holders_lookAll :
    (traffic.lookAll first).holders .write ≤ traffic.holders .write + 1 ∧
      (traffic.holders .write < (traffic.lookAll first).holders .write →
        (traffic.lookAll first).holders .read = traffic.holders .read) := by
  have entered (side : Side) := ((lookAll_settles one wanders.looking_le).2 side).2.2
  have written := entered .write
  have read := entered .read
  rcases traffic.lock.settle_excludes traffic.looking with none | ⟨one, alone⟩
  · exact ⟨by omega, by omega⟩
  · exact ⟨by omega, by omega⟩

include awake

/-- If nobody sleeps, those who sleep in the end are those who were not admitted. -/
theorem Wanders.sleeping_lookAll (side : Side) :
    (traffic.lookAll first).sleeping side = (traffic.lock.settle traffic.looking).2 side := by
  rw [((lookAll_settles one wanders.looking_le).2 side).2.1, awake, Nat.zero_add]

/-- A crowd in which as many are woken ends alike. -/
theorem Wanders.rouse_lookAll {order : List Visitor}
    (stay : ∀ visitor ∈ order, visitor.passing = false)
    (same : ∀ side, Crowd.wanting order side = traffic.looking side) :
    (Crowd.rouse traffic.lock [] order).lock = (traffic.lookAll first).lock ∧
      ∀ side, (Crowd.rouse traffic.lock [] order).blocked side =
        (traffic.lookAll first).sleeping side := by
  have wanted : Crowd.wanting order = traffic.looking := funext same
  obtain ⟨ended, blocked⟩ := Crowd.rouse_settles [] stay (wanted ▸ wanders.looking_le)
  rw [wanted] at ended blocked
  refine ⟨ended.trans (lookAll_settles one wanders.looking_le).1.symm, fun side => ?_⟩
  rw [blocked, wanders.sleeping_lookAll awake one]
  exact Nat.zero_add _

end Awake

/-- When a side is left and all who wait are woken, it ends alike in whichever order they look, and
as for a crowd in which as many are woken: the lock remembers the same, and as many go on to wait for
each side. Then the lock counts the writers that do, nobody is to look any more, and at most one
writer has got in, and no reader with it. -/
theorem Wanders.order_irrelevant (wanders : Wanders mayFail traffic)
    (leaves : traffic.threads[thread]? = some .away ∨
      traffic.threads[thread]? = some (.inside side))
    (wakes : (traffic.lock.leave side).wakes side = true) {first second : List Nat}
    (one : (traffic.leave thread side).IsOrder first)
    (two : (traffic.leave thread side).IsOrder second) :
    let left := traffic.leave thread side
    let after := left.lookAll first
    Wanders mayFail after ∧
    (left.lookAll second).lock = after.lock ∧
    (∀ side, (left.lookAll second).sleeping side = after.sleeping side) ∧
    after.lock.writersWaiting = after.sleeping .write ∧
    (∀ side, after.looking side = 0) ∧
    after.holders .write ≤ left.holders .write + 1 ∧
    (left.holders .write < after.holders .write → after.holders .read = left.holders .read) ∧
    ∀ order : List Visitor, (∀ visitor ∈ order, visitor.passing = false) →
      (∀ side, Crowd.wanting order side = traffic.waiters side) →
      (Crowd.rouse left.lock [] order).lock = after.lock ∧
      ∀ side, (Crowd.rouse left.lock [] order).blocked side = after.sleeping side := by
  intro left after
  obtain ⟨old, there, idle⟩ : ∃ old, traffic.threads[thread]? = some old ∧
      ∀ other, old.waits other = false := by
    rcases leaves with there | there
    · exact ⟨_, there, fun _ => rfl⟩
    · exact ⟨_, there, fun _ => rfl⟩
  obtain ⟨looking, awake⟩ := leave_of_wakes there idle wakes
  have wanders : Wanders mayFail left := by
    rcases leaves with away | inside
    · exact wanders.stray away side
    · exact wanders.step (.leave inside)
  obtain ⟨ended, ends⟩ := lookAll_settles one wanders.looking_le
  obtain ⟨ended', -⟩ := lookAll_settles two wanders.looking_le
  obtain ⟨alone, apart⟩ := wanders.holders_lookAll one
  refine ⟨wanders.lookAll first, ended'.trans ended.symm, fun other => ?_,
    wanders.writersWaiting_lookAll one, fun other => (ends other).1, alone, apart,
    fun order stay same => ?_⟩
  · rw [wanders.sleeping_lookAll awake two, wanders.sleeping_lookAll awake one]
  · rw [← looking] at same
    exact wanders.rouse_lookAll awake one stay same

/-- One thread leaves to read without holding that side, so that a writer shares the lock with a
reader. When the writer leaves, another one gets in, and which one depends on the order. -/
theorem order_irrelevant_shared :
    let traffic : Traffic := ⟨⟨0, true, 2⟩,
      [.away, .inside .read, .inside .write, .asleep .read, .asleep .write, .asleep .write]⟩
    let left := traffic.leave 2 .write
    Wanders False traffic ∧ left.IsOrder [3, 4, 5] ∧ left.IsOrder [5, 3, 4] ∧
      left.lookAll [5, 3, 4] ≠ left.lookAll [3, 4, 5] ∧
      (left.lookAll [5, 3, 4]).lock = (left.lookAll [3, 4, 5]).lock ∧
      (∀ side, (left.lookAll [5, 3, 4]).sleeping side = (left.lookAll [3, 4, 5]).sleeping side) ∧
      (left.lookAll [3, 4, 5]).lock.writersWaiting = (left.lookAll [3, 4, 5]).sleeping .write := by
  intro traffic left
  have strays : Wanders False ⟨⟨-1, false, 0⟩, List.replicate 6 .away⟩ :=
    @Wanders.stray False _ 0 (.start 6) rfl .read
  have reads : Step False 1 ⟨⟨-1, false, 0⟩, List.replicate 6 .away⟩
      ⟨⟨0, false, 0⟩, [.away, .inside .read, .away, .away, .away, .away]⟩ :=
    @Step.arrive False 1 _ .read rfl
  have writes : Step False 2 ⟨⟨0, false, 0⟩, [.away, .inside .read, .away, .away, .away, .away]⟩
      ⟨⟨0, true, 0⟩, [.away, .inside .read, .inside .write, .away, .away, .away]⟩ :=
    @Step.arrive False 2 _ .write rfl
  have first : Step False 3
      ⟨⟨0, true, 0⟩, [.away, .inside .read, .inside .write, .away, .away, .away]⟩
      ⟨⟨0, true, 0⟩, [.away, .inside .read, .inside .write, .asleep .read, .away, .away]⟩ :=
    @Step.arrive False 3 _ .read rfl
  have second : Step False 4
      ⟨⟨0, true, 0⟩, [.away, .inside .read, .inside .write, .asleep .read, .away, .away]⟩
      ⟨⟨0, true, 1⟩,
        [.away, .inside .read, .inside .write, .asleep .read, .asleep .write, .away]⟩ :=
    @Step.arrive False 4 _ .write rfl
  have third : Step False 5
      ⟨⟨0, true, 1⟩,
        [.away, .inside .read, .inside .write, .asleep .read, .asleep .write, .away]⟩ traffic :=
    @Step.arrive False 5 _ .write rfl
  have wanders : Wanders False traffic :=
    ((((strays.step reads).step writes).step first).step second).step third
  have one : left.IsOrder [3, 4, 5] := by
    have threads : left.threads =
        [.away, .inside .read, .away, .woken .read, .woken .write, .woken .write] := rfl
    refine ⟨by decide, fun thread => ?_⟩
    rw [threads]
    rcases thread with _ | _ | _ | _ | _ | _ | thread <;> simp
  have two : left.IsOrder [5, 3, 4] := one.perm (by decide)
  obtain ⟨-, same, slept, counted, -⟩ := wanders.order_irrelevant (.inr rfl) rfl one two
  exact ⟨wanders, one, two, by decide, same, slept, counted⟩

end Traffic

end Keyring

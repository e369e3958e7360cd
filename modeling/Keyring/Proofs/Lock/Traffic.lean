import Keyring.Lock

/-!
# Threads at a lock

Any number of threads come to a lock, look whether it admits them, sleep, are woken and leave, in any
order and one at a time (`Traffic.Step`). A release wakes all who sleep, but each of them looks again
at a time of its own, and meanwhile others may come and go.

At any time nobody shares the lock with a writer, and what the lock remembers is what the threads are
at (`Reaches.isSafe`). Only who holds a side leaves it. The lock knows no owners, so whoever takes a
side while holding one counts as two threads here.
-/

namespace Keyring

/-- What a thread is at. -/
inductive Stage where
  /-- It neither holds a side nor waits for one. -/
  | away
  /-- It waits for a side, and nobody has woken it since it looked. -/
  | asleep (side : Side)
  /-- It waits for a side, and is to look again. -/
  | woken (side : Side)
  /-- It holds a side. -/
  | inside (side : Side)
  deriving DecidableEq, Repr

/-- Whoever sleeps is woken. -/
def Stage.roused : Stage → Stage
  | .asleep side => .woken side
  | stage => stage

/-- A lock and what each thread is at. -/
structure Traffic where
  lock : Lock
  threads : List Stage
  deriving DecidableEq, Repr

/-- A thread at this stage holds a side. -/
def Stage.holds (side : Side) (stage : Stage) : Bool :=
  stage = .inside side

/-- A thread at this stage waits for a side. -/
def Stage.waits (side : Side) (stage : Stage) : Bool :=
  stage = .asleep side || stage = .woken side

namespace Traffic

/-- Some threads at the free lock, all of them away. -/
def start (count : Nat) : Traffic :=
  ⟨.free, List.replicate count .away⟩

/-- A thread that waits for a side looks: it enters, or it sleeps. -/
def look (traffic : Traffic) (thread : Nat) (side : Side) : Traffic :=
  if traffic.lock.admits side then
    ⟨traffic.lock.enter side, traffic.threads.set thread (.inside side)⟩
  else ⟨traffic.lock, traffic.threads.set thread (.asleep side)⟩

/-- A thread that wants a side says so. It is to look then. -/
def announce (traffic : Traffic) (thread : Nat) (side : Side) : Traffic :=
  ⟨traffic.lock.announce side, traffic.threads.set thread (.woken side)⟩

/-- A thread leaves a side, which may wake all who sleep. -/
def leave (traffic : Traffic) (thread : Nat) (side : Side) : Traffic :=
  let left := traffic.lock.leave side
  let threads := traffic.threads.set thread .away
  ⟨left, if left.wakes side then threads.map Stage.roused else threads⟩

/-- A thread gives up waiting for a side. -/
def abandon (traffic : Traffic) (thread : Nat) (side : Side) : Traffic :=
  ⟨traffic.lock.abandon side, traffic.threads.set thread .away⟩

/-- What a thread may do without interruption. A wait may end with a failure only if that is
allowed. -/
inductive Step (mayFail : Prop) (thread : Nat) (traffic : Traffic) : Traffic → Prop
  | arrive {side : Side} (away : traffic.threads[thread]? = some .away) :
      Step mayFail thread traffic ((traffic.announce thread side).look thread side)
  | look {side : Side} (woken : traffic.threads[thread]? = some (.woken side)) :
      Step mayFail thread traffic (traffic.look thread side)
  /-- Whether the work inside was done or has failed. -/
  | leave {side : Side} (inside : traffic.threads[thread]? = some (.inside side)) :
      Step mayFail thread traffic (traffic.leave thread side)
  | abandon {side : Side} (fails : mayFail)
      (waits : traffic.threads[thread]? = some (.asleep side) ∨
        traffic.threads[thread]? = some (.woken side)) :
      Step mayFail thread traffic (traffic.abandon thread side)

/-- What comes of any number of threads at the free lock, whoever makes the next step. -/
inductive Reaches (mayFail : Prop) : Traffic → Prop
  | start (count : Nat) : Reaches mayFail (start count)
  | step {traffic after : Traffic} {thread : Nat} (reached : Reaches mayFail traffic)
      (step : traffic.Step mayFail thread after) : Reaches mayFail after

/-- How many threads hold a side. -/
def holders (traffic : Traffic) (side : Side) : Nat :=
  traffic.threads.countP (Stage.holds side)

/-- How many threads wait for a side, woken or not. -/
def waiters (traffic : Traffic) (side : Side) : Nat :=
  traffic.threads.countP (Stage.waits side)

/-! ## Counting threads -/

/-- One thread counts for what it is at now, and all others as before. -/
theorem countP_set {threads : List Stage} {thread : Nat} {old : Stage}
    (there : threads[thread]? = some old) (new : Stage) (counts : Stage → Bool) :
    (threads.set thread new).countP counts + (counts old).toNat =
      threads.countP counts + (counts new).toNat := by
  obtain ⟨inRange, rfl⟩ := List.getElem?_eq_some_iff.mp there
  have counted : counts threads[thread] = true → 0 < threads.countP counts := fun counts =>
    List.countP_pos_iff.mpr ⟨_, List.getElem_mem inRange, counts⟩
  rw [List.countP_set inRange]
  cases counts new <;> cases old : counts threads[thread] <;> simp_all

variable {traffic : Traffic} {thread : Nat} {old : Stage} {side : Side}

theorem holders_set (there : traffic.threads[thread]? = some old) (new : Stage) (lock : Lock)
    (side : Side) :
    holders ⟨lock, traffic.threads.set thread new⟩ side + (old.holds side).toNat =
      traffic.holders side + (new.holds side).toNat :=
  countP_set there new (Stage.holds side)

theorem waiters_set (there : traffic.threads[thread]? = some old) (new : Stage) (lock : Lock)
    (side : Side) :
    waiters ⟨lock, traffic.threads.set thread new⟩ side + (old.waits side).toNat =
      traffic.waiters side + (new.waits side).toNat :=
  countP_set there new (Stage.waits side)

/-- A thread that holds a side is among those who do. -/
theorem holders_pos (inside : traffic.threads[thread]? = some (.inside side)) :
    0 < traffic.holders side :=
  List.countP_pos_iff.mpr ⟨_, List.mem_of_getElem? inside, by simp [Stage.holds]⟩

/-- A thread that waits for a side is among those who do. -/
theorem waiters_pos (there : traffic.threads[thread]? = some old) (waits : old.waits side = true) :
    0 < traffic.waiters side :=
  List.countP_pos_iff.mpr ⟨old, List.mem_of_getElem? there, waits⟩

/-- Those who are woken still wait. -/
theorem countP_waits_roused (threads : List Stage) (side : Side) :
    (threads.map Stage.roused).countP (Stage.waits side) = threads.countP (Stage.waits side) := by
  rw [List.countP_map]
  congr 1
  funext stage
  cases stage <;> simp [Stage.roused, Stage.waits]

/-- Those who hold a side are not touched when others are woken. -/
theorem countP_holds_roused (threads : List Stage) (side : Side) :
    (threads.map Stage.roused).countP (Stage.holds side) = threads.countP (Stage.holds side) := by
  rw [List.countP_map]
  congr 1
  funext stage
  cases stage <;> simp [Stage.roused, Stage.holds]

/-! ## The writers that wait -/

/-- The lock counts the writers that wait. -/
def IsCounted (traffic : Traffic) : Prop :=
  traffic.lock.writersWaiting = traffic.waiters .write

namespace IsCounted

theorem start (count : Nat) : (start count).IsCounted := by
  simp [IsCounted, Traffic.start, Lock.free, waiters, List.countP_replicate, Stage.waits]

/-- If a thread and what the lock counts of it change alike, the number is right again. -/
theorem set (counted : traffic.IsCounted) (there : traffic.threads[thread]? = some old)
    {new : Stage} {lock : Lock}
    (waiting : lock.writersWaiting + (old.waits .write).toNat =
      traffic.lock.writersWaiting + (new.waits .write).toNat) :
    IsCounted ⟨lock, traffic.threads.set thread new⟩ := by
  have waits := waiters_set there new lock .write
  have before : traffic.lock.writersWaiting = traffic.waiters .write := counted
  show lock.writersWaiting = waiters ⟨lock, traffic.threads.set thread new⟩ .write
  omega

/-- A thread that has waited to write is taken off the number, and only such a thread is. -/
theorem set_of_waits (counted : traffic.IsCounted) (side : Side)
    (there : traffic.threads[thread]? = some old) (waits : old.waits side = true)
    (once : old.waits .write = decide (side = .write)) {new : Stage}
    (stops : new.waits .write = false) {lock : Lock}
    (waiting : lock.writersWaiting =
      traffic.lock.writersWaiting - (decide (side = .write)).toNat) :
    IsCounted ⟨lock, traffic.threads.set thread new⟩ := by
  refine counted.set there ?_
  have pos := waiters_pos there waits
  have before : traffic.lock.writersWaiting = traffic.waiters .write := counted
  rw [once, stops, waiting]
  cases side with
  | read => rfl
  | write =>
    show traffic.lock.writersWaiting - 1 + 1 = traffic.lock.writersWaiting + 0
    omega

/-- Waking those who sleep makes nobody wait less. -/
theorem roused (counted : traffic.IsCounted) :
    IsCounted ⟨traffic.lock, traffic.threads.map Stage.roused⟩ :=
  Eq.trans counted (countP_waits_roused traffic.threads .write).symm

/-- A writer that says what it wants is one more that waits. -/
theorem announce (counted : traffic.IsCounted) (away : traffic.threads[thread]? = some .away)
    (side : Side) : (traffic.announce thread side).IsCounted := by
  refine counted.set away ?_
  cases side <;> simp [Lock.announce, Stage.waits]

/-- A writer that enters is one less that waits. -/
theorem enter (counted : traffic.IsCounted)
    (woken : traffic.threads[thread]? = some (.woken side)) :
    IsCounted ⟨traffic.lock.enter side, traffic.threads.set thread (.inside side)⟩ := by
  refine counted.set_of_waits side woken (by simp [Stage.waits]) (by simp [Stage.waits]) rfl ?_
  cases side <;> rfl

/-- Whoever is not admitted goes on to wait. -/
theorem sleep (counted : traffic.IsCounted)
    (woken : traffic.threads[thread]? = some (.woken side)) :
    IsCounted ⟨traffic.lock, traffic.threads.set thread (.asleep side)⟩ :=
  counted.set woken (by simp [Stage.waits])

theorem look (counted : traffic.IsCounted)
    (woken : traffic.threads[thread]? = some (.woken side)) :
    (traffic.look thread side).IsCounted := by
  unfold Traffic.look
  split
  · exact counted.enter woken
  · exact counted.sleep woken

/-- Whoever leaves a side without waiting for one leaves the number as it is. -/
theorem set_away (counted : traffic.IsCounted) (there : traffic.threads[thread]? = some old)
    (idle : old.waits .write = false) (side : Side) :
    IsCounted ⟨traffic.lock.leave side, traffic.threads.set thread .away⟩ := by
  refine counted.set there ?_
  rw [idle]
  cases side <;> rfl

theorem leave (counted : traffic.IsCounted) (there : traffic.threads[thread]? = some old)
    (idle : old.waits .write = false) (side : Side) : (traffic.leave thread side).IsCounted := by
  unfold Traffic.leave
  dsimp only
  split
  · exact (counted.set_away there idle side).roused
  · exact counted.set_away there idle side

/-- A writer that gives up is one less that waits. -/
theorem abandon (counted : traffic.IsCounted)
    (waits : traffic.threads[thread]? = some (.asleep side) ∨
      traffic.threads[thread]? = some (.woken side)) :
    (traffic.abandon thread side).IsCounted := by
  have taken : (traffic.lock.abandon side).writersWaiting =
      traffic.lock.writersWaiting - (decide (side = .write)).toNat := by
    cases side <;> rfl
  rcases waits with there | there
  · exact counted.set_of_waits side there (by simp [Stage.waits]) (by simp [Stage.waits]) rfl taken
  · exact counted.set_of_waits side there (by simp [Stage.waits]) (by simp [Stage.waits]) rfl taken

/-- Every step of a thread leaves the number right. -/
theorem step (counted : traffic.IsCounted) {mayFail : Prop} {after : Traffic}
    (step : traffic.Step mayFail thread after) : after.IsCounted := by
  cases step with
  | arrive away =>
    obtain ⟨inRange, -⟩ := List.getElem?_eq_some_iff.mp away
    exact (counted.announce away _).look (by simp [Traffic.announce, inRange])
  | look woken => exact counted.look woken
  | leave inside => exact counted.leave inside rfl _
  | abandon fails waits => exact counted.abandon waits

end IsCounted

/-! ## What every step keeps -/

/-- The lock remembers what the threads are at, and whoever writes is alone. -/
structure Sound (traffic : Traffic) : Prop where
  readers : traffic.lock.readers = traffic.holders .read
  writer : traffic.holders .write = traffic.lock.writing.toNat
  alone : traffic.lock.writing = true → traffic.holders .read = 0
  waiting : traffic.lock.writersWaiting = traffic.waiters .write

theorem sound_start (count : Nat) : (start count).Sound := by
  refine ⟨?_, ?_, ?_, IsCounted.start count⟩ <;>
    simp [start, Lock.free, holders, List.countP_replicate, Stage.holds]

namespace Sound

theorem counted (sound : traffic.Sound) : traffic.IsCounted :=
  sound.waiting

/-- Whoever writes is alone, so that the lock remembers no readers. -/
theorem readers_eq_zero (sound : traffic.Sound) (writing : traffic.lock.writing = true) :
    traffic.lock.readers = 0 := by
  rw [sound.readers, sound.alone writing]
  rfl

/-- The lock remembers that somebody writes. -/
theorem writing_of_inside (sound : traffic.Sound)
    (inside : traffic.threads[thread]? = some (.inside .write)) : traffic.lock.writing = true := by
  have pos := holders_pos inside
  rw [sound.writer] at pos
  cases writing : traffic.lock.writing with
  | true => rfl
  | false => simp [writing] at pos

/-- If a thread and what the lock remembers of it change alike, all is well again. -/
theorem set (sound : traffic.Sound) (there : traffic.threads[thread]? = some old) {new : Stage}
    {lock : Lock}
    (readers : lock.readers + (old.holds .read).toNat =
      traffic.lock.readers + (new.holds .read).toNat)
    (writer : lock.writing.toNat + (old.holds .write).toNat =
      traffic.lock.writing.toNat + (new.holds .write).toNat)
    (waiting : IsCounted ⟨lock, traffic.threads.set thread new⟩)
    (alone : lock.writing = true → lock.readers = 0) :
    Sound ⟨lock, traffic.threads.set thread new⟩ := by
  have reading := holders_set there new lock .read
  have writes := holders_set there new lock .write
  have before := sound.readers
  have same : lock.readers = holders ⟨lock, traffic.threads.set thread new⟩ .read := by omega
  refine ⟨same, ?_, fun writing => ?_, waiting⟩
  · have := sound.writer
    dsimp only
    omega
  · have := alone writing
    omega

/-- Waking those who sleep is nothing that the lock remembers. -/
theorem roused (sound : traffic.Sound) :
    Sound ⟨traffic.lock, traffic.threads.map Stage.roused⟩ := by
  have holders (side : Side) :
      holders ⟨traffic.lock, traffic.threads.map Stage.roused⟩ side = traffic.holders side :=
    countP_holds_roused _ _
  obtain ⟨readers, writer, alone, waiting⟩ := sound
  exact ⟨(holders .read).symm ▸ readers, (holders .write).symm ▸ writer,
    (holders .read).symm ▸ alone, IsCounted.roused waiting⟩

/-- A thread that says what it wants is one more that waits. -/
theorem announce (sound : traffic.Sound) (away : traffic.threads[thread]? = some .away)
    (side : Side) : (traffic.announce thread side).Sound := by
  refine sound.set away ?_ ?_ (sound.counted.announce away side) fun writing => ?_
  · cases side <;> simp [Lock.announce, Stage.holds]
  · cases side <;> simp [Lock.announce, Stage.holds]
  · cases side <;> exact sound.readers_eq_zero writing

/-- A thread that looks enters alone if it is to write, and else only where nobody writes. -/
theorem look (sound : traffic.Sound) (waits : traffic.threads[thread]? = some (.woken side)) :
    (traffic.look thread side).Sound := by
  unfold Traffic.look
  split
  · rename_i admitted
    have counted := sound.counted.enter waits
    cases side with
    | read =>
      obtain ⟨free, -⟩ : traffic.lock.writing = false ∧ traffic.lock.writersWaiting = 0 := by
        simpa [Lock.admits] using admitted
      refine sound.set waits (by simp [Lock.enter, Stage.holds]) rfl counted fun writing => ?_
      exact absurd (free.symm.trans writing) nofun
    | write =>
      obtain ⟨free, empty⟩ : traffic.lock.writing = false ∧ traffic.lock.readers = 0 := by
        simpa [Lock.admits] using admitted
      exact sound.set waits rfl (by simp [Lock.enter, Stage.holds, free]) counted fun _ => empty
  · exact sound.set waits rfl rfl (sound.counted.sleep waits) sound.readers_eq_zero

/-- A thread that leaves is one less inside. -/
theorem leave (sound : traffic.Sound) (inside : traffic.threads[thread]? = some (.inside side)) :
    (traffic.leave thread side).Sound := by
  have after : Sound ⟨traffic.lock.leave side, traffic.threads.set thread .away⟩ := by
    have counted := sound.counted.set_away inside rfl side
    cases side with
    | read =>
      refine sound.set inside (by simp [Lock.leave, Stage.holds]) rfl counted fun writing => ?_
      exact absurd (sound.alone writing) (Nat.ne_of_gt (holders_pos inside))
    | write =>
      have writing := sound.writing_of_inside inside
      refine sound.set inside rfl ?_ counted nofun
      simp [Lock.leave, Stage.holds, writing]
  unfold Traffic.leave
  dsimp only
  split
  · exact after.roused
  · exact after

/-- A thread that gives up is one less that waits. -/
theorem abandon (sound : traffic.Sound) (waits : traffic.threads[thread]? = some (.asleep side) ∨
    traffic.threads[thread]? = some (.woken side)) : (traffic.abandon thread side).Sound := by
  have counted := sound.counted.abandon waits
  obtain ⟨stage, there, holds⟩ : ∃ stage, traffic.threads[thread]? = some stage ∧
      ∀ side, stage.holds side = false := by
    rcases waits with there | there
    · exact ⟨_, there, by simp [Stage.holds]⟩
    · exact ⟨_, there, by simp [Stage.holds]⟩
  refine sound.set there ?_ ?_ counted ?_
  · rw [holds]
    cases side <;> rfl
  · rw [holds]
    cases side <;> rfl
  · cases side <;> exact sound.readers_eq_zero

/-- Every step of a thread keeps all well. -/
theorem step (sound : traffic.Sound) {mayFail : Prop} {after : Traffic}
    (step : traffic.Step mayFail thread after) : after.Sound := by
  cases step with
  | arrive away =>
    obtain ⟨inRange, -⟩ := List.getElem?_eq_some_iff.mp away
    exact (sound.announce away _).look (by simp [Traffic.announce, inRange])
  | look woken => exact sound.look woken
  | leave inside => exact sound.leave inside
  | abandon fails waits => exact sound.abandon waits

end Sound

/-- All is well at any time. -/
theorem Reaches.sound {mayFail : Prop} (reached : Reaches mayFail traffic) : traffic.Sound := by
  induction reached with
  | start count => exact sound_start count
  | step reached step ih => exact ih.step step

/-! ## Who enters -/

/-- Whoever reads once a thread is at another stage has read before. -/
theorem reading_of_set {threads : List Stage} {other : Nat} (stage : Stage)
    (different : stage ≠ .inside .read)
    (reading : (threads.set thread stage)[other]? = some (.inside .read)) :
    threads[other]? = some (.inside .read) := by
  rw [List.getElem?_set] at reading
  split at reading
  · split at reading
    · exact absurd (Option.some.inj reading) different
    · cases reading
  · exact reading

/-- While a writer waits, no thread that looks enters to read. -/
theorem reading_of_look {other : Nat} (writers : 0 < traffic.lock.writersWaiting)
    (reading : (traffic.look thread side).threads[other]? = some (.inside .read)) :
    traffic.threads[other]? = some (.inside .read) := by
  unfold look at reading
  split at reading
  · rename_i admitted
    refine reading_of_set (.inside side) ?_ reading
    rintro ⟨⟩
    have : traffic.lock.writersWaiting = 0 := by simp_all [Lock.admits]
    omega
  · exact reading_of_set (.asleep side) nofun reading

/-- While a writer waits, whoever reads after a step has read before it. -/
theorem reading_of_step {mayFail : Prop} {after : Traffic} {other : Nat}
    (step : traffic.Step mayFail thread after) (writers : 0 < traffic.lock.writersWaiting)
    (reading : after.threads[other]? = some (.inside .read)) :
    traffic.threads[other]? = some (.inside .read) := by
  cases step with
  | @arrive side away =>
    have announced : 0 < (traffic.announce thread side).lock.writersWaiting := by
      cases side with
      | read => exact writers
      | write => exact Nat.succ_pos _
    exact reading_of_set (.woken side) nofun (reading_of_look announced reading)
  | look woken => exact reading_of_look writers reading
  | leave inside =>
    unfold leave at reading
    dsimp only at reading
    split at reading
    · rw [List.getElem?_map, Option.map_eq_some_iff] at reading
      obtain ⟨stage, there, roused⟩ := reading
      cases stage with
      | inside side =>
        cases roused
        exact reading_of_set .away nofun there
      | away => cases roused
      | asleep side => cases roused
      | woken side => cases roused
    · exact reading_of_set .away nofun reading
  | abandon fails waits => exact reading_of_set .away nofun reading

/-- At any time no more than one thread writes, and then none reads; the lock remembers how many
threads read, whether one writes and how many wait to write; and while one waits to write, no step
lets another thread in to read. -/
theorem Reaches.isSafe {mayFail : Prop} (reached : Reaches mayFail traffic) :
    traffic.holders .write ≤ 1 ∧
    (0 < traffic.holders .write → traffic.holders .read = 0) ∧
    traffic.lock.readers = traffic.holders .read ∧
    (traffic.lock.writing = true ↔ 0 < traffic.holders .write) ∧
    traffic.lock.writersWaiting = traffic.waiters .write ∧
    ∀ (thread : Nat) (after : Traffic), traffic.Step mayFail thread after →
      0 < traffic.lock.writersWaiting → ∀ other : Nat,
        after.threads[other]? = some (.inside .read) →
          traffic.threads[other]? = some (.inside .read) := by
  obtain ⟨readers, writer, alone, waiting⟩ := reached.sound
  have written : traffic.lock.writing = true ↔ 0 < traffic.holders .write := by
    rw [writer]
    cases traffic.lock.writing <;> simp
  refine ⟨?_, fun writes => alone (written.mpr writes), readers, written, waiting, ?_⟩
  · rw [writer]
    exact Bool.toNat_le _
  · intro thread after step writers other reading
    exact reading_of_step step writers reading

/-- A thread reads, another one waits to write, and so a third one has to wait to read. -/
theorem isSafe_waiting :
    let traffic : Traffic :=
      ⟨⟨1, false, 1⟩, [.inside .read, .asleep .write, .asleep .read]⟩
    Reaches True traffic ∧ traffic.lock.readers = traffic.holders .read ∧
      traffic.lock.writersWaiting = traffic.waiters .write ∧
      ∀ (thread : Nat) (after : Traffic), traffic.Step True thread after →
        after.threads[2]? ≠ some (.inside .read) := by
  intro traffic
  have reads : Traffic.Step True 0 (start 3) ⟨⟨1, false, 0⟩, [.inside .read, .away, .away]⟩ :=
    @Step.arrive True 0 _ .read rfl
  have wants : Traffic.Step True 1 ⟨⟨1, false, 0⟩, [.inside .read, .away, .away]⟩
      ⟨⟨1, false, 1⟩, [.inside .read, .asleep .write, .away]⟩ :=
    @Step.arrive True 1 _ .write rfl
  have comes : Traffic.Step True 2 ⟨⟨1, false, 1⟩, [.inside .read, .asleep .write, .away]⟩
      traffic := @Step.arrive True 2 _ .read rfl
  have reached : Reaches True traffic := .step (.step (.step (.start 3) reads) wants) comes
  obtain ⟨-, -, readers, -, waiting, enters⟩ := reached.isSafe
  refine ⟨reached, readers, waiting, fun thread after step reading => ?_⟩
  exact nomatch enters thread after step (by decide) 2 reading

end Traffic

end Keyring

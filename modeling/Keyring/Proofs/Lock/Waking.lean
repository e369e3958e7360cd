import Keyring.Proofs.Lock.Traffic

/-!
# No thread sleeps for good

Whoever sleeps has a reason to, by what the lock remembers now (`Traffic.IsAlert`): a step that takes
the reason away wakes all who sleep. So as long as anybody waits, there is somebody who holds a side
or is to look again, and can go on (`Reaches.isAlert`).

This rests on waits that do not fail. A writer that gives up lowers the number of those who wait and
wakes nobody, and a reader that sleeps because of it sleeps for good (`reaches_stranded`).
-/

namespace Keyring

/-- The reason to wait for a side. -/
def Lock.Bars (lock : Lock) : Side → Prop
  | .read => lock.writing = true ∨ 0 < lock.writersWaiting
  | .write => lock.writing = true ∨ lock.readers ≠ 0

/-- A side may be entered if there is no reason to wait. -/
theorem Lock.admits_eq_false_iff {lock : Lock} {side : Side} :
    lock.admits side = false ↔ lock.Bars side := by
  cases side with
  | read =>
    rw [admits, Bars, Bool.and_eq_false_iff, Bool.not_eq_false', decide_eq_false_iff_not,
      Nat.pos_iff_ne_zero]
  | write => rw [admits, Bars, Bool.and_eq_false_iff, Bool.not_eq_false', decide_eq_false_iff_not]

/-- Those who wait, woken or not. -/
theorem Stage.waits_iff {stage : Stage} {side : Side} :
    stage.waits side = true ↔ stage = .asleep side ∨ stage = .woken side := by
  simp [waits]

/-- A thread at this stage can go on by itself: it holds a side, or it is to look again. -/
def Stage.IsAwake (stage : Stage) : Prop :=
  ∃ side, stage = .inside side ∨ stage = .woken side

namespace Traffic

/-- Whoever sleeps has a reason to. -/
def IsAlert (traffic : Traffic) : Prop :=
  ∀ side, .asleep side ∈ traffic.threads → traffic.lock.Bars side

variable {traffic after : Traffic} {thread : Nat} {side : Side}

/-- Where there are as many reasons to wait as before, those who sleep may go on to. -/
theorem IsAlert.set (alert : traffic.IsAlert) {lock : Lock} {stage : Stage}
    (bars : ∀ side, traffic.lock.Bars side → lock.Bars side)
    (slept : ∀ side, stage = .asleep side → lock.Bars side) :
    IsAlert ⟨lock, traffic.threads.set thread stage⟩ := by
  intro side member
  rcases List.mem_or_eq_of_mem_set member with member | same
  · exact bars side (alert side member)
  · exact slept side same.symm

/-- Whoever announces a wish takes no reason away. -/
theorem IsAlert.announce (alert : traffic.IsAlert) (thread : Nat) (side : Side) :
    (traffic.announce thread side).IsAlert := by
  refine alert.set (fun other bars => ?_) nofun
  cases side with
  | read => exact bars
  | write =>
    cases other with
    | read => exact .inr (Nat.succ_pos _)
    | write => exact bars

/-- Whoever enters gives others more reason to wait, and whoever is not admitted has one. -/
theorem IsAlert.look (alert : traffic.IsAlert) (sound : traffic.Sound) (thread : Nat)
    (side : Side) : (traffic.look thread side).IsAlert := by
  unfold Traffic.look
  split
  · refine alert.set (fun other bars => ?_) nofun
    cases side with
    | read =>
      cases other with
      | read => exact bars
      | write =>
        refine .inr ?_
        show traffic.lock.readers + 1 ≠ 0
        have := sound.readers
        omega
    | write => cases other <;> exact .inl rfl
  · rename_i refused
    refine alert.set (fun _ => id) ?_
    rintro other ⟨⟩
    exact Lock.admits_eq_false_iff.mp (Bool.not_eq_true _ ▸ refused)

/-- Nobody sleeps after all have been woken. -/
theorem isAlert_roused (lock : Lock) (threads : List Stage) :
    IsAlert ⟨lock, threads.map Stage.roused⟩ := by
  intro side member
  obtain ⟨stage, -, same⟩ := List.mem_map.mp member
  cases stage <;> cases same

/-- Whoever leaves wakes the others, or there is still a reason to wait. -/
theorem IsAlert.leave (alert : traffic.IsAlert) (thread : Nat) (side : Side) :
    (traffic.leave thread side).IsAlert := by
  unfold Traffic.leave
  dsimp only
  split
  · exact isAlert_roused _ _
  · rename_i quiet
    cases side with
    | read =>
      -- Somebody else is still reading, and those who wait to write wait for that.
      refine alert.set (fun other bars => ?_) nofun
      cases other with
      | read => exact bars
      | write => exact .inr (by simpa [Lock.wakes] using quiet)
    | write => exact absurd rfl quiet

/-- If no wait fails, every step leaves those asleep who have a reason to be. -/
theorem IsAlert.step (alert : traffic.IsAlert) (sound : traffic.Sound)
    (step : traffic.Step False thread after) : after.IsAlert := by
  cases step with
  | arrive away => exact (alert.announce _ _).look (sound.announce away _) _ _
  | look woken => exact alert.look sound _ _
  | leave inside => exact alert.leave _ _
  | abandon fails => exact fails.elim

/-- If no wait fails, whoever sleeps has a reason to, at any time. -/
theorem Reaches.alert (reached : Reaches False traffic) : traffic.IsAlert := by
  induction reached with
  | start count => exact fun side member => nomatch List.eq_of_mem_replicate member
  | step reached step ih => exact ih.step reached.sound step

/-! ## Who can go on -/

/-- No thread is awake. -/
def IsStill (traffic : Traffic) : Prop :=
  ∀ stage ∈ traffic.threads, ¬ stage.IsAwake

/-- Nobody holds a side while no thread is awake. -/
theorem IsStill.holders_eq_zero (still : traffic.IsStill) (side : Side) :
    traffic.holders side = 0 := by
  refine List.countP_eq_zero.mpr fun stage member holds => still stage member ⟨side, .inl ?_⟩
  simpa [Stage.holds] using holds

/-- Without anybody inside there is no reason to wait to write. So nobody does, and then there is
no reason to wait to read either. -/
theorem IsAlert.not_asleep (alert : traffic.IsAlert) (sound : traffic.Sound)
    (still : traffic.IsStill) (side : Side) : .asleep side ∉ traffic.threads := by
  have writing : traffic.lock.writing = false := by
    have none := sound.writer
    rw [still.holders_eq_zero] at none
    cases writing : traffic.lock.writing with
    | false => rfl
    | true => simp [writing] at none
  have readers : traffic.lock.readers = 0 := by
    rw [sound.readers, still.holders_eq_zero]
    rfl
  have writers : .asleep .write ∉ traffic.threads := by
    intro sleeps
    rcases alert .write sleeps with bars | bars
    · exact absurd (writing.symm.trans bars) nofun
    · exact bars readers
  have waiting : traffic.lock.writersWaiting = 0 := by
    rw [sound.waiting]
    refine List.countP_eq_zero.mpr fun stage member waits => ?_
    rcases Stage.waits_iff.mp waits with rfl | rfl
    · exact writers member
    · exact still _ member ⟨.write, .inr rfl⟩
  cases side with
  | write => exact writers
  | read =>
    intro sleeps
    rcases alert .read sleeps with bars | bars
    · exact absurd (writing.symm.trans bars) nofun
    · omega

/-- A thread that is awake can make a step, whether or not waits may fail. -/
theorem exists_step (mayFail : Prop) {stage : Stage} (there : traffic.threads[thread]? = some stage)
    (awake : stage.IsAwake) : ∃ after, traffic.Step mayFail thread after := by
  obtain ⟨side, rfl | rfl⟩ := awake
  · exact ⟨_, .leave there⟩
  · exact ⟨_, .look there⟩

/-- If no wait fails, whoever sleeps has a reason to at any time. So nobody waits while nobody holds
a side or is to look again; and while anybody waits, some thread that holds a side or is to look
again can make a step. -/
theorem Reaches.isAlert (reached : Reaches False traffic) :
    (∀ (thread : Nat) (side : Side), traffic.threads[thread]? = some (.asleep side) →
      traffic.lock.Bars side) ∧
    (traffic.IsStill → ∀ side, traffic.waiters side = 0) ∧
    ∀ side, 0 < traffic.waiters side → ∃ (thread : Nat) (stage : Stage) (after : Traffic),
      traffic.threads[thread]? = some stage ∧ stage.IsAwake ∧ traffic.Step False thread after := by
  have none (still : traffic.IsStill) (side : Side) : traffic.waiters side = 0 := by
    refine List.countP_eq_zero.mpr fun stage member waits => ?_
    rcases Stage.waits_iff.mp waits with rfl | rfl
    · exact reached.alert.not_asleep reached.sound still side member
    · exact still _ member ⟨side, .inr rfl⟩
  refine ⟨fun thread side sleeps => reached.alert side (List.mem_of_getElem? sleeps), none,
    fun side waits => ?_⟩
  have awake : ¬ traffic.IsStill := fun still => Nat.ne_of_gt waits (none still side)
  obtain ⟨stage, member, awake⟩ : ∃ stage ∈ traffic.threads, stage.IsAwake := by
    simpa [IsStill] using awake
  obtain ⟨thread, there⟩ := List.getElem?_of_mem member
  obtain ⟨after, step⟩ := exists_step False there awake
  exact ⟨thread, stage, after, there, awake, step⟩

/-- A writer keeps out a thread that wants to read and another one that wants to write. Once it has
left, both are to look again. -/
theorem isAlert_released :
    let busy : Traffic := ⟨⟨0, true, 1⟩, [.inside .write, .asleep .read, .asleep .write]⟩
    let released : Traffic := ⟨⟨0, false, 1⟩, [.away, .woken .read, .woken .write]⟩
    busy.lock.Bars .read ∧ busy.lock.Bars .write ∧ busy.Step False 0 released ∧
      ∃ (thread : Nat) (stage : Stage) (after : Traffic),
        released.threads[thread]? = some stage ∧ stage.IsAwake ∧
          released.Step False thread after := by
  intro busy released
  have writes : Step False 0 (start 3) ⟨⟨0, true, 0⟩, [.inside .write, .away, .away]⟩ :=
    @Step.arrive False 0 _ .write rfl
  have reads : Step False 1 ⟨⟨0, true, 0⟩, [.inside .write, .away, .away]⟩
      ⟨⟨0, true, 0⟩, [.inside .write, .asleep .read, .away]⟩ := @Step.arrive False 1 _ .read rfl
  have wants : Step False 2 ⟨⟨0, true, 0⟩, [.inside .write, .asleep .read, .away]⟩ busy :=
    @Step.arrive False 2 _ .write rfl
  have leaves : Step False 0 busy released := @Step.leave False 0 _ .write rfl
  have reached : Reaches False busy := .step (.step (.step (.start 3) writes) reads) wants
  have reason := reached.isAlert.1
  have released : Reaches False released := reached.step leaves
  exact ⟨reason 1 .read rfl, reason 2 .write rfl, leaves,
    released.isAlert.2.2 .read (by decide)⟩

/-- Where waits may fail, a thread may be left asleep by all others. A writer leaves; the thread that
wants to read looks first, and sleeps because another one waits to write; and that one gives up. -/
theorem reaches_stranded :
    let stranded : Traffic := ⟨⟨0, false, 0⟩, [.away, .asleep .read, .away]⟩
    Reaches True stranded ∧ stranded.IsStill ∧ ¬ stranded.lock.Bars .read := by
  intro stranded
  have writes : Step True 0 (start 3) ⟨⟨0, true, 0⟩, [.inside .write, .away, .away]⟩ :=
    @Step.arrive True 0 _ .write rfl
  have reads : Step True 1 ⟨⟨0, true, 0⟩, [.inside .write, .away, .away]⟩
      ⟨⟨0, true, 0⟩, [.inside .write, .asleep .read, .away]⟩ := @Step.arrive True 1 _ .read rfl
  have wants : Step True 2 ⟨⟨0, true, 0⟩, [.inside .write, .asleep .read, .away]⟩
      ⟨⟨0, true, 1⟩, [.inside .write, .asleep .read, .asleep .write]⟩ :=
    @Step.arrive True 2 _ .write rfl
  have leaves : Step True 0 ⟨⟨0, true, 1⟩, [.inside .write, .asleep .read, .asleep .write]⟩
      ⟨⟨0, false, 1⟩, [.away, .woken .read, .woken .write]⟩ := @Step.leave True 0 _ .write rfl
  have looks : Step True 1 ⟨⟨0, false, 1⟩, [.away, .woken .read, .woken .write]⟩
      ⟨⟨0, false, 1⟩, [.away, .asleep .read, .woken .write]⟩ := @Step.look True 1 _ .read rfl
  have fails : Step True 2 ⟨⟨0, false, 1⟩, [.away, .asleep .read, .woken .write]⟩ stranded :=
    @Step.abandon True 2 _ .write trivial (.inr rfl)
  refine ⟨.step (.step (.step (.step (.step (.step (.start 3) writes) reads) wants) leaves) looks)
    fails, ?_, by simp [stranded, Lock.Bars]⟩
  simp [stranded, IsStill, Stage.IsAwake]

end Traffic

end Keyring

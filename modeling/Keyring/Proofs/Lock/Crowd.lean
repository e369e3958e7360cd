import Keyring.Proofs.Lock.Waking

/-!
# A crowd is made of threads

A crowd has whoever is woken look in one certain order, and knows only of those who are blocked.
Whatever becomes of it may become of threads as well (`Crowd.Reaches.exists_threads`): there is one
for each visitor, and those sleep whose visitors are blocked. So the crowd has what threads have at
any time (`Crowd.Reaches.bars`, `Crowd.Reaches.blocked_write`).

Threads may do more than a crowd does: they look in any order, and others come in between.
-/

namespace Keyring

/-- As far as the lock knows, somebody holds a side. -/
def Lock.IsHeld (lock : Lock) : Side → Prop
  | .read => 0 < lock.readers
  | .write => lock.writing = true

namespace Traffic

variable {mayFail : Prop} {traffic after : Traffic} {thread : Nat} {side : Side} {old : Stage}
  {lock : Lock} {waiting others : List Visitor}

/-! ## One thread more -/

/-- The same with one thread more, which is away. -/
def joined (traffic : Traffic) : Traffic :=
  ⟨traffic.lock, traffic.threads ++ [.away]⟩

theorem set_joined (there : traffic.threads[thread]? = some old) (lock : Lock) (stage : Stage) :
    (⟨lock, traffic.joined.threads.set thread stage⟩ : Traffic) =
      joined ⟨lock, traffic.threads.set thread stage⟩ := by
  obtain ⟨inRange, -⟩ := List.getElem?_eq_some_iff.mp there
  simp only [joined, List.set_append_left _ _ inRange]

theorem look_joined (there : traffic.threads[thread]? = some old) :
    traffic.joined.look thread side = (traffic.look thread side).joined := by
  unfold look
  split
  · rw [if_pos ‹_›]
    exact set_joined there _ _
  · rw [if_neg ‹_›]
    exact set_joined there _ _

theorem leave_joined (there : traffic.threads[thread]? = some old) :
    traffic.joined.leave thread side = (traffic.leave thread side).joined := by
  have same := congrArg threads (set_joined there traffic.lock .away)
  unfold leave
  dsimp only [joined] at same ⊢
  rw [same]
  split
  · rw [List.map_append]
    rfl
  · rfl

/-- A thread that is away is in nobody's way. -/
theorem Step.joined (step : traffic.Step mayFail thread after) :
    traffic.joined.Step mayFail thread after.joined := by
  have still {stage : Stage} (there : traffic.threads[thread]? = some stage) :
      traffic.joined.threads[thread]? = some stage := by
    obtain ⟨inRange, -⟩ := List.getElem?_eq_some_iff.mp there
    rw [Traffic.joined, List.getElem?_append_left inRange, there]
  cases step with
  | @arrive side away =>
    obtain ⟨inRange, -⟩ := List.getElem?_eq_some_iff.mp away
    have announced : (traffic.announce thread side).threads[thread]? = some (.woken side) := by
      simp [announce, inRange]
    have same : traffic.joined.announce thread side = (traffic.announce thread side).joined :=
      set_joined away _ _
    rw [← look_joined announced, ← same]
    exact .arrive (still away)
  | look woken =>
    rw [← look_joined woken]
    exact .look (still woken)
  | leave inside =>
    rw [← leave_joined inside]
    exact .leave (still inside)
  | abandon fails waits =>
    rcases waits with there | there
    · exact set_joined there _ _ ▸ .abandon fails (.inl (still there))
    · exact set_joined there _ _ ▸ .abandon fails (.inr (still there))

/-- What comes of some threads comes of one thread more. -/
theorem Reaches.joined (reached : Reaches mayFail traffic) : Reaches mayFail traffic.joined := by
  induction reached with
  | start count =>
    have one : (Traffic.start count).joined = Traffic.start (count + 1) := by
      simp [Traffic.joined, Traffic.start, List.replicate_succ']
    exact one ▸ .start (count + 1)
  | step reached step ih => exact ih.step step.joined

/-! ## Threads for visitors -/

/-- Threads that count for one of two reasons, and never for both. -/
theorem countP_eq_add {counts first second : Stage → Bool}
    (one : ∀ stage, (counts stage).toNat = (first stage).toNat + (second stage).toNat)
    (threads : List Stage) :
    threads.countP counts = threads.countP first + threads.countP second := by
  induction threads with
  | nil => rfl
  | cons stage threads ih =>
    have counted (counts : Stage → Bool) : (stage :: threads).countP counts =
        threads.countP counts + (counts stage).toNat := by
      rw [List.countP_cons]
      cases counts stage <;> rfl
    have here := one stage
    rw [counted, counted, counted]
    omega

/-- Those who are to look once all have been woken: whoever was to look before, and whoever slept. -/
theorem countP_woken_roused (threads : List Stage) (side : Side) :
    (threads.map Stage.roused).countP (· = .woken side) =
      threads.countP (· = .woken side) + threads.countP (· = .asleep side) := by
  rw [List.countP_map]
  refine countP_eq_add (fun stage => ?_) threads
  cases stage <;> simp [Stage.roused]

/-- Those who wait: whoever sleeps, and whoever is to look. -/
theorem waiters_eq_add (traffic : Traffic) (side : Side) :
    traffic.waiters side =
      traffic.threads.countP (· = .asleep side) + traffic.threads.countP (· = .woken side) := by
  refine countP_eq_add (fun stage => ?_) traffic.threads
  cases stage <;> simp [Stage.waits]

/-- As many threads sleep as visitors are blocked, and as many are woken as visitors are to look, at
each side of the lock. -/
structure Shows (traffic : Traffic) (lock : Lock) (waiting others : List Visitor) : Prop where
  lock : traffic.lock = lock
  asleep : ∀ side, traffic.threads.countP (· = .asleep side) = waiting.countP (·.side = side)
  woken : ∀ side, traffic.threads.countP (· = .woken side) = others.countP (·.side = side)

namespace Shows

/-- If a thread and what is known of its visitor change alike, the threads are right again. -/
theorem set (shows : traffic.Shows lock waiting others)
    (there : traffic.threads[thread]? = some old) {new : Stage} {lock' : Lock}
    {waiting' others' : List Visitor}
    (asleep : ∀ side, waiting'.countP (·.side = side) + (decide (old = .asleep side)).toNat =
      waiting.countP (·.side = side) + (decide (new = .asleep side)).toNat)
    (woken : ∀ side, others'.countP (·.side = side) + (decide (old = .woken side)).toNat =
      others.countP (·.side = side) + (decide (new = .woken side)).toNat) :
    Shows ⟨lock', traffic.threads.set thread new⟩ lock' waiting' others' := by
  refine ⟨rfl, fun side => ?_, fun side => ?_⟩
  · have counted := countP_set there new (· = .asleep side)
    have before := shows.asleep side
    have change := asleep side
    dsimp only
    omega
  · have counted := countP_set there new (· = .woken side)
    have before := shows.woken side
    have change := woken side
    dsimp only
    omega

/-- There is a thread for whoever is to look first. -/
theorem exists_woken {visitor : Visitor} (shows : traffic.Shows lock waiting (visitor :: others)) :
    ∃ thread : Nat, traffic.threads[thread]? = some (.woken visitor.side) := by
  have some : 0 < traffic.threads.countP (· = .woken visitor.side) := by
    rw [shows.woken]
    simp
  obtain ⟨stage, member, woken⟩ := List.countP_pos_iff.mp some
  obtain ⟨thread, there⟩ := List.getElem?_of_mem member
  exact ⟨thread, by rw [there, of_decide_eq_true woken]⟩

variable {visitor : Visitor}

/-- Whoever is admitted is inside then. -/
theorem enters (shows : traffic.Shows lock waiting (visitor :: others))
    (there : traffic.threads[thread]? = some (.woken visitor.side))
    (admits : lock.admits visitor.side = true) :
    (traffic.look thread visitor.side).threads[thread]? = some (.inside visitor.side) ∧
      (traffic.look thread visitor.side).Shows (lock.enter visitor.side) waiting others := by
  obtain ⟨inRange, -⟩ := List.getElem?_eq_some_iff.mp there
  rw [look, shows.lock, if_pos admits]
  refine ⟨by simp [inRange], shows.set there (by simp) fun side => ?_⟩
  by_cases same : visitor.side = side <;> simp [same]

/-- Whoever is not admitted is blocked. -/
theorem waits (shows : traffic.Shows lock waiting (visitor :: others))
    (there : traffic.threads[thread]? = some (.woken visitor.side))
    (refused : ¬ lock.admits visitor.side = true) :
    (traffic.look thread visitor.side).Shows lock (waiting ++ [visitor]) others := by
  rw [look, shows.lock, if_neg refused]
  refine shows.set there (fun side => ?_) fun side => ?_
  · by_cases same : visitor.side = side <;> simp [same]
  · by_cases same : visitor.side = side <;> simp [same]

/-- A release that wakes has all who are blocked look. -/
theorem leave_of_wakes (shows : traffic.Shows lock waiting others)
    (inside : traffic.threads[thread]? = some (.inside side))
    (wakes : (lock.leave side).wakes side = true) :
    (traffic.leave thread side).Shows (lock.leave side) [] (others ++ waiting) := by
  have left : Shows ⟨lock.leave side, traffic.threads.set thread .away⟩ (lock.leave side) waiting
      others := shows.set inside (by simp) (by simp)
  unfold Traffic.leave
  dsimp only
  rw [shows.lock, if_pos wakes]
  refine ⟨rfl, fun other => ?_, fun other => ?_⟩
  · refine List.countP_eq_zero.mpr fun stage member sleeps => ?_
    obtain ⟨before, -, rfl⟩ := List.mem_map.mp member
    cases before <;> simp [Stage.roused] at sleeps
  · rw [countP_woken_roused, List.countP_append]
    rw [← left.woken other, ← left.asleep other]

/-- Any other release has nobody look. -/
theorem leave_of_not_wakes (shows : traffic.Shows lock waiting others)
    (inside : traffic.threads[thread]? = some (.inside side))
    (quiet : ¬ (lock.leave side).wakes side = true) :
    (traffic.leave thread side).Shows (lock.leave side) waiting others := by
  unfold Traffic.leave
  dsimp only
  rw [shows.lock, if_neg quiet]
  exact shows.set inside (by simp) (by simp)

/-- What visitors do who look one after another, threads can do. -/
theorem exists_rouse (shows : traffic.Shows lock waiting others)
    (looks : ∀ (thread : Nat) (side : Side), traffic.threads[thread]? = some (.woken side) →
      Reaches mayFail (traffic.look thread side))
    (ends : others = [] → Reaches mayFail traffic) :
    ∃ after, Reaches mayFail after ∧
      after.Shows (Crowd.rouse lock waiting others).lock
        (Crowd.rouse lock waiting others).waiting [] := by
  fun_induction Crowd.rouse lock waiting others generalizing traffic with
  | case1 lock waiting => exact ⟨traffic, ends rfl, shows⟩
  | case2 lock waiting visitor others admits inside passing left wakes =>
    rename_i ih
    obtain ⟨thread, there⟩ := shows.exists_woken
    obtain ⟨there, entered⟩ := shows.enters there admits
    have reached := (looks thread _ ‹_›).step (.leave there)
    exact ih (entered.leave_of_wakes there wakes) (fun _ _ woken => reached.step (.look woken))
      fun _ => reached
  | case3 lock waiting visitor others admits inside passing left quiet =>
    rename_i ih
    obtain ⟨thread, there⟩ := shows.exists_woken
    obtain ⟨there, entered⟩ := shows.enters there admits
    have reached := (looks thread _ ‹_›).step (.leave there)
    exact ih (entered.leave_of_not_wakes there quiet) (fun _ _ woken => reached.step (.look woken))
      fun _ => reached
  | case4 lock waiting visitor others admits inside stays =>
    rename_i ih
    obtain ⟨thread, there⟩ := shows.exists_woken
    have reached := looks thread _ there
    exact ih (shows.enters there admits).2 (fun _ _ woken => reached.step (.look woken))
      fun _ => reached
  | case5 lock waiting visitor others refused =>
    rename_i ih
    obtain ⟨thread, there⟩ := shows.exists_woken
    have reached := looks thread _ there
    exact ih (shows.waits there refused) (fun _ _ woken => reached.step (.look woken))
      fun _ => reached

/-- A visitor comes as a thread more. -/
theorem exists_arrive (shows : traffic.Shows lock waiting []) (reached : Reaches mayFail traffic)
    (visitor : Visitor) :
    ∃ after, Reaches mayFail after ∧
      after.Shows (Crowd.arrive ⟨lock, waiting⟩ visitor).lock
        (Crowd.arrive ⟨lock, waiting⟩ visitor).waiting [] := by
  let thread := traffic.threads.length
  have away : traffic.joined.threads[thread]? = some .away := by simp [joined, thread]
  have joined : traffic.joined.Shows lock waiting [] := by
    refine ⟨shows.lock, fun side => ?_, fun side => ?_⟩
    · rw [Traffic.joined, List.countP_append, shows.asleep]
      rfl
    · rw [Traffic.joined, List.countP_append, shows.woken]
      rfl
  have came : (traffic.joined.announce thread visitor.side).Shows (lock.announce visitor.side)
      waiting [visitor] := by
    rw [announce, joined.lock]
    refine joined.set away (by simp) fun side => ?_
    by_cases same : visitor.side = side <;> simp [same]
  refine came.exists_rouse (fun other side woken => ?_) (absurd · (List.cons_ne_nil _ _))
  by_cases same : other = thread
  · subst same
    have sides : Stage.woken visitor.side = .woken side := by
      simpa [announce, (List.getElem?_eq_some_iff.mp away).1] using woken
    cases sides
    exact reached.joined.step (.arrive away)
  · -- Nobody else is to look.
    have woken : traffic.joined.threads[other]? = some (.woken side) := by
      rwa [announce, List.getElem?_set_ne (Ne.symm same)] at woken
    have none : traffic.joined.threads.countP (· = .woken side) = 0 := joined.woken side
    exact absurd (by simp) (List.countP_eq_zero.mp none _ (List.mem_of_getElem? woken))

end Shows

/-- A thread that is inside, if the lock remembers that a side is held. -/
theorem Sound.exists_inside (sound : traffic.Sound) (held : traffic.lock.IsHeld side) :
    ∃ thread : Nat, traffic.threads[thread]? = some (.inside side) := by
  have inside : 0 < traffic.holders side := by
    cases side with
    | read =>
      have readers : 0 < traffic.lock.readers := held
      have := sound.readers
      omega
    | write =>
      have writing : traffic.lock.writing = true := held
      rw [sound.writer, writing]
      exact Nat.one_pos
  obtain ⟨stage, member, holds⟩ := List.countP_pos_iff.mp inside
  obtain ⟨thread, there⟩ := List.getElem?_of_mem member
  exact ⟨thread, by rw [there, of_decide_eq_true holds]⟩

end Traffic

namespace Crowd

/-- What becomes of a crowd if a side is left only while it is held. -/
inductive Reaches : Crowd → Prop
  | empty : Reaches empty
  | arrive {crowd : Crowd} (reached : Reaches crowd) (visitor : Visitor) :
      Reaches (crowd.arrive visitor)
  | leave {crowd : Crowd} {side : Side} (reached : Reaches crowd) (held : crowd.lock.IsHeld side) :
      Reaches (crowd.leave side)

variable {crowd : Crowd}

/-- Threads can do what a crowd does. Then those sleep whose visitors are blocked, and none is to look
again. -/
theorem Reaches.exists_threads (reached : Reaches crowd) :
    ∃ traffic : Traffic, traffic.Reaches False ∧ traffic.Shows crowd.lock crowd.waiting [] := by
  induction reached with
  | empty => exact ⟨_, .start 0, rfl, fun _ => rfl, fun _ => rfl⟩
  | @arrive crowd reached visitor ih =>
    obtain ⟨traffic, reached, shows⟩ := ih
    exact shows.exists_arrive reached visitor
  | @leave crowd side reached held ih =>
    obtain ⟨traffic, reached, shows⟩ := ih
    obtain ⟨thread, inside⟩ := reached.sound.exists_inside (shows.lock ▸ held)
    have reached := reached.step (.leave inside)
    unfold Crowd.leave
    dsimp only
    split
    · rename_i wakes
      exact (shows.leave_of_wakes inside wakes).exists_rouse
        (fun _ _ woken => reached.step (.look woken)) fun _ => reached
    · rename_i quiet
      exact ⟨_, reached, shows.leave_of_not_wakes inside quiet⟩

/-- Whoever is blocked has a reason to wait. -/
theorem Reaches.bars (reached : Reaches crowd) {visitor : Visitor}
    (blocked : visitor ∈ crowd.waiting) : crowd.lock.Bars visitor.side := by
  obtain ⟨traffic, reached, shows⟩ := reached.exists_threads
  have sleeps : 0 < traffic.threads.countP (· = .asleep visitor.side) := by
    rw [shows.asleep]
    exact List.countP_pos_iff.mpr ⟨visitor, blocked, by simp⟩
  obtain ⟨stage, member, asleep⟩ := List.countP_pos_iff.mp sleeps
  rw [← shows.lock]
  exact reached.alert _ (of_decide_eq_true asleep ▸ member)

/-- The lock remembers how many are blocked who want to write. -/
theorem Reaches.blocked_write (reached : Reaches crowd) :
    crowd.lock.writersWaiting = crowd.blocked .write := by
  obtain ⟨traffic, reached, shows⟩ := reached.exists_threads
  rw [← shows.lock, reached.sound.waiting, Traffic.waiters_eq_add, shows.asleep, shows.woken]
  rfl

end Crowd

end Keyring

import NodeTelemetry.Proofs.Schedule.Run

/-!
# Storage does not touch the schedule

A loop whose store may hold anything at any time, in which every action may fail
and every look may see anything: its passes end somehow (`Procedure.Ends`). When
such loops are given the same script, they keep the same times and states
whatever their stores do (`Course.steady`).
-/

namespace NodeTelemetry

/-- What a loop is given from outside of its store. Of a report it only counts whether the source breaks. Which
    of several reasons ends a wait is part of it, and so is whether the loop sees the shutdown. -/
inductive Occurrence where
  | elapse (span : Span)
  | update (f : Control → Control)
  | report (breaks : Bool)
  | expire
  | notice
  | signal
  | turn (signalled : Bool)

def Event.occurrence : Event → Occurrence
  | .elapse span => .elapse span
  | .update f => .update f
  | .report source => .report source.isBroken
  | .expire => .expire
  | .notice => .notice
  | .signal => .signal

/-- Whether a pass ran a cycle to its end. -/
def Scheduler.PassEnd.isSampled : Scheduler.PassEnd → Bool
  | .sampled _ => true
  | _ => false

/-- What is seen of a turn: when it was made, which state it left, and whether it ran a cycle. -/
structure Beat where
  now : Instant
  state : SchedulerState
  sampled : Bool

/-- The courses of a loop when its store is beyond control: the disk is another one at every moment, and a pass
    ends in any way in which it can end at all. The last occurrence comes first, and so does the last turn. -/
inductive Course (start : World) : List Occurrence → List Beat → World → Prop where
  | start (d : Disk) : Course start [] [] { start with disk := d }
  | happen {script : List Occurrence} {beats : List Beat} {w : World} (course : Course start script beats w) (e : Event)
    (d : Disk) : Course start (e.occurrence :: script) beats { w.after e with disk := d }
  | turn {script : List Occurrence} {beats : List Beat} {w : World} (course : Course start script beats w)
    (running : w.loop.phase = .running) (signalled : Bool) {s : Scheduler} {ending : Scheduler.PassEnd}
    {notices : List Notice}
    (ends : (w.loop.scheduler.pass w.surface.current w.source w.now).Ends (s, ending, notices)) (d : Disk) :
    Course start (.turn signalled :: script) (⟨w.now, s.state, ending.isSampled⟩ :: beats)
      { w with loop := ⟨s, w.surface.current, Loop.phaseAfter s w.surface.current signalled ending⟩, disk := d }

/-! ## Runs on a disk are courses -/

theorem Course.refl (start : World) : Course start [] [] start := .start start.disk

theorem Course.others {start w : World} {script : List Occurrence} {beats : List Beat} (course : Course start script beats w)
    (d : Disk) : Course start script beats { w with disk := d } := by
  cases course with
  | start => exact .start d
  | happen course e => exact course.happen e d
  | turn course running signalled ends => exact course.turn running signalled ends d

/-- A turn on the disk that is there. -/
theorem Course.turn_on_disk {start w : World} {script : List Occurrence} {beats : List Beat}
    (course : Course start script beats w) (running : w.loop.phase = .running) (signalled : Bool) :
    Course start (.turn signalled :: script)
      (⟨w.now, (w.turn signalled).loop.scheduler.state, w.iteration.ending.isSampled⟩ :: beats) (w.turn signalled) := by
  have turned := course.turn running signalled (Procedure.ends_run _ w.disk) (w.turn signalled).disk
  rw [← (World.turn_of_running running signalled).1, ← World.turn_scheduler running signalled] at turned
  exact turned

/-- What really happens on a disk is among what may happen. -/
theorem Run.course {touches : Disk → Disk → Prop} {start w : World} {past : List Iteration}
    (run : Run touches start past w) :
    ∃ script beats, Course start script beats w ∧
      beats.map (fun b => (b.now, b.sampled)) = past.map fun i => (i.now, i.ending.isSampled) := by
  induction run with
  | start => exact ⟨[], [], .refl start, rfl⟩
  | @happen past w _ e ih =>
    obtain ⟨script, beats, course, same⟩ := ih
    exact ⟨_, beats, course.happen e _, same⟩
  | others _ _ ih =>
    obtain ⟨script, beats, course, same⟩ := ih
    exact ⟨script, beats, course.others _, same⟩
  | @turn past w _ running signalled ih =>
    obtain ⟨script, beats, course, same⟩ := ih
    exact ⟨_, _, course.turn_on_disk running signalled, by rw [List.map_cons, List.map_cons, same]; rfl⟩

/-! ## Side by side -/

/-- Worlds that differ at most in what concerns their stores and what their sources report. -/
structure Abreast (w w' : World) : Prop where
  surface : w'.surface = w.surface
  now : w'.now = w.now
  breaks : w'.source.isBroken = w.source.isBroken
  phase : w'.loop.phase = w.loop.phase
  state : w'.loop.scheduler.state = w.loop.scheduler.state

/-- What happens between turns keeps worlds abreast. -/
theorem Abreast.happen {w w' : World} (abreast : Abreast w w') {e e' : Event} (same : e'.occurrence = e.occurrence) :
    Abreast (w.after e) (w'.after e') := by
  obtain ⟨surface, now, breaks, phase, state⟩ := abreast
  have waits : w'.loop.isWaiting = w.loop.isWaiting := by unfold Loop.isWaiting; rw [phase]
  have wakes : w'.loop.deadline? = w.loop.deadline? := by unfold Loop.deadline?; rw [phase]
  have woken : w'.loop.wake.phase = w.loop.wake.phase := by rw [Loop.phase_wake, Loop.phase_wake, waits, phase]
  have stopped : w'.loop.signal.phase = w.loop.signal.phase := by rw [Loop.phase_signal, Loop.phase_signal, waits, phase]
  have states : (w'.after e').loop.scheduler.state = (w.after e).loop.scheduler.state := by
    rw [World.after_scheduler, World.after_scheduler, state]
  cases e with
  | elapse span =>
    cases e' <;> cases same
    exact ⟨surface, by simp only [World.after, now], breaks, phase, states⟩
  | update f =>
    cases e' <;> cases same
    exact ⟨by simp only [World.after, surface], now, breaks, phase, states⟩
  | report source =>
    cases e' with
    | report source' => exact ⟨surface, now, Occurrence.report.inj same, phase, states⟩
    | _ => cases same
  | expire =>
    cases e' <;> cases same
    by_cases due : w.loop.deadline?.any (·.nanos ≤ w.now.nanos) = true
    · have here : w.after .expire = { w with loop := w.loop.wake } := if_pos due
      have there : w'.after .expire = { w' with loop := w'.loop.wake } := if_pos (by rw [wakes, now, due])
      rw [here, there] at states ⊢
      exact ⟨surface, now, breaks, woken, states⟩
    · have here : w.after .expire = w := if_neg due
      have there : w'.after .expire = w' := if_neg (by rwa [wakes, now])
      rw [here, there]
      exact ⟨surface, now, breaks, phase, state⟩
  | notice =>
    cases e' <;> cases same
    by_cases stored : (w.loop.isWaiting && w.surface.notified) = true
    · have here : w.after .notice =
          { w with loop := w.loop.wake, surface := { w.surface with notified := false } } := if_pos stored
      have there : w'.after .notice =
          { w' with loop := w'.loop.wake, surface := { w'.surface with notified := false } } :=
        if_pos (by rw [waits, surface, stored])
      rw [here, there] at states ⊢
      exact ⟨by rw [surface], now, breaks, woken, states⟩
    · have here : w.after .notice = w := if_neg stored
      have there : w'.after .notice = w' := if_neg (by rwa [waits, surface])
      rw [here, there]
      exact ⟨surface, now, breaks, phase, state⟩
  | signal =>
    cases e' <;> cases same
    exact ⟨surface, now, breaks, stopped, states⟩

/-- However two passes of worlds that are abreast end, they end with the same state and both with a cycle or
    both without, and the loops go on in the same way. -/
theorem Abreast.turn {w w' : World} (abreast : Abreast w w') (signalled : Bool) {s s' : Scheduler}
    {ending ending' : Scheduler.PassEnd} {notices notices' : List Notice}
    (ends : (w.loop.scheduler.pass w.surface.current w.source w.now).Ends (s, ending, notices))
    (ends' : (w'.loop.scheduler.pass w'.surface.current w'.source w'.now).Ends (s', ending', notices')) :
    s'.state = s.state ∧ ending'.isSampled = ending.isSampled ∧
      Loop.phaseAfter s' w.surface.current signalled ending' = Loop.phaseAfter s w.surface.current signalled ending := by
  obtain ⟨surface, now, breaks, _, state⟩ := abreast
  have first := Scheduler.ends_pass ends
  have second := Scheduler.ends_pass ends'
  rw [surface, now, breaks, state] at second
  rcases first with ⟨due, rfl, here, _⟩ | ⟨due, broken, rfl, here, _⟩ | ⟨due, broken, ⟨_, rfl⟩, here, _⟩ <;>
  rcases second with ⟨due', rfl, there, _⟩ | ⟨due', broken', rfl, there, _⟩ | ⟨due', broken', ⟨_, rfl⟩, there, _⟩
  · have same : s'.state = s.state := there.trans here.symm
    exact ⟨same, rfl, by simp only [Loop.phaseAfter, same]⟩
  · cases due.symm.trans due'
  · cases due.symm.trans due'
  · cases due.symm.trans due'
  · exact ⟨there.trans here.symm, rfl, rfl⟩
  · cases broken.symm.trans broken'
  · cases due.symm.trans due'
  · cases broken.symm.trans broken'
  · exact ⟨there.trans here.symm, rfl, rfl⟩

namespace Course

variable {start start' w w' : World} {script : List Occurrence} {beats beats' : List Beat}

/-- Courses with one script that start abreast stay abreast. -/
theorem abreast (before : Abreast start start') (course : Course start script beats w)
    (course' : Course start' script beats' w') : beats' = beats ∧ Abreast w w' := by
  induction course generalizing beats' w' with
  | start d =>
    cases course' with
    | start d' => exact ⟨rfl, { before with }⟩
  | @happen script beats w _ e d ih =>
    generalize same : e.occurrence :: script = whole at course'
    cases course' with
    | start => cases same
    | happen course' e' d' =>
      obtain ⟨occurrence, rfl⟩ := List.cons.inj same
      obtain ⟨equal, abreast⟩ := ih course'
      exact ⟨equal, { abreast.happen occurrence.symm with }⟩
    | turn => cases e <;> cases same
  | @turn script beats w _ running signalled s ending notices ends d ih =>
    generalize same : Occurrence.turn signalled :: script = whole at course'
    cases course' with
    | start => cases same
    | happen _ e' _ => cases e' <;> cases same
    | turn course' _ _ ends' d' =>
      cases same
      obtain ⟨rfl, abreast⟩ := ih course'
      obtain ⟨state, sampled, phase⟩ := abreast.turn signalled ends ends'
      refine ⟨by rw [abreast.now, state, sampled], abreast.surface, abreast.now, abreast.breaks, ?_, state⟩
      rw [abreast.surface]
      exact phase

/-- Every cycle is counted, and nothing else is. -/
theorem counted (course : Course start script beats w) :
    w.loop.scheduler.stats.counted = start.loop.scheduler.stats.counted + beats.countP (·.sampled) := by
  induction course with
  | start d => rfl
  | happen _ e d ih =>
    show (World.after _ e).loop.scheduler.stats.counted = _
    rw [World.after_scheduler, ih]
  | turn _ _ _ ends _ ih =>
    rcases Scheduler.ends_pass ends with ⟨_, rfl, _, same⟩ | ⟨_, _, rfl, _, same⟩ | ⟨_, _, ⟨_, rfl⟩, _, more⟩
    · simp [same, ih, Scheduler.PassEnd.isSampled]
    · simp [same, ih, Scheduler.PassEnd.isSampled]
    · simp [more, ih, Scheduler.PassEnd.isSampled, Nat.add_assoc]

/-- A source that breaks was broken at the start or was reported. -/
theorem reported (course : Course start script beats w) (broken : w.source.isBroken = true) :
    start.source.isBroken = true ∨ .report true ∈ script := by
  induction course with
  | start d => exact .inl broken
  | happen _ e d ih =>
    cases e with
    | report source =>
      have broken : source.isBroken = true := broken
      exact .inr (by simp [Event.occurrence, broken])
    | expire =>
      simp only [World.after] at broken
      split at broken <;> exact (ih broken).imp_right (List.mem_cons_of_mem _)
    | notice =>
      simp only [World.after] at broken
      split at broken <;> exact (ih broken).imp_right (List.mem_cons_of_mem _)
    | _ => exact (ih broken).imp_right (List.mem_cons_of_mem _)
  | turn _ _ _ _ _ ih => exact (ih broken).imp_right (List.mem_cons_of_mem _)

/-- A loop is stopped only by the shutdown, and fails only by a source that breaks. -/
theorem ended (course : Course start script beats w) (running : start.loop.phase = .running) :
    (w.loop.phase = .stopped → .signal ∈ script ∨ .turn true ∈ script) ∧
    (w.loop.phase = .failed → start.source.isBroken = true ∨ .report true ∈ script) := by
  induction course with
  | start d => simp [running]
  | @happen script beats w _ e d before =>
    show ((w.after e).loop.phase = .stopped → _) ∧ ((w.after e).loop.phase = .failed → _)
    rcases w.phase_after e with same | same | ⟨rfl, same⟩ <;> rw [same]
    · exact ⟨fun stopped => (before.1 stopped).imp (List.mem_cons_of_mem _) (List.mem_cons_of_mem _),
        fun failed => (before.2 failed).imp_right (List.mem_cons_of_mem _)⟩
    · simp
    · simp [Event.occurrence]
  | @turn script beats w course _ signalled s ending notices ends d ih =>
    show (Loop.phaseAfter .. = .stopped → _) ∧ (Loop.phaseAfter .. = .failed → _)
    rcases Scheduler.ends_pass ends with ⟨_, rfl, _⟩ | ⟨_, broken, rfl, _⟩ | ⟨_, _, ⟨_, rfl⟩, _⟩
    · cases signalled <;> simp [Loop.phaseAfter]
    · refine ⟨by simp [Loop.phaseAfter], fun _ => ?_⟩
      exact (course.reported broken).imp_right (List.mem_cons_of_mem _)
    · cases signalled <;> simp [Loop.phaseAfter]

/-- Two loops are built at the same instant with the same parameters in force and given the same script, while
    their disks hold anything at any moment and their actions go in any way. Their turns come at the same times
    and leave the same states and phases. All cycles of both are counted, and neither ends before it is given the
    shutdown, unless the source of its role breaks. -/
theorem steady {startedAt : Instant} (fresh : start.Fresh startedAt) (fresh' : start'.Fresh startedAt)
    (surface : start'.surface = start.surface) (now : start'.now = start.now)
    (breaks : start'.source.isBroken = start.source.isBroken) (course : Course start script beats w)
    (course' : Course start' script beats' w') :
    beats' = beats ∧ w'.loop.scheduler.state = w.loop.scheduler.state ∧ w'.loop.phase = w.loop.phase ∧
    w'.now = w.now ∧
    w.loop.scheduler.stats.counted = beats.countP (·.sampled) ∧
    w'.loop.scheduler.stats.counted = beats.countP (·.sampled) ∧
    (w.loop.phase = .stopped → .signal ∈ script ∨ .turn true ∈ script) ∧
    (w.loop.phase = .failed → start.source.isBroken = true ∨ .report true ∈ script) := by
  have before : Abreast start start' := by
    refine ⟨surface, now, breaks, ?_, ?_⟩
    · rw [fresh.built, fresh'.built]
      rfl
    · rw [fresh.built, fresh'.built, surface]
      rfl
  have none {start : World} (fresh : start.Fresh startedAt) : start.loop.scheduler.stats.counted = 0 := by
    rw [fresh.built]
    rfl
  have running : start.loop.phase = .running := by
    rw [fresh.built]
    rfl
  obtain ⟨rfl, after⟩ := course.abreast before course'
  have all := course.counted
  have all' := course'.counted
  rw [none fresh, Nat.zero_add] at all
  rw [none fresh', Nat.zero_add] at all'
  exact ⟨rfl, after.state, after.phase, after.now, all, all', course.ended running⟩

/-- One store is an empty directory, and where the other one should be there is a file: the first cycle is
    written here and fails there, and the loops go on alike. -/
theorem steady_of_file_in_place :
    let start := World.alone ⟨true, ⟨0⟩, ⟨1000000000⟩, ⟨0⟩⟩
    let blocked : World := { start with
      loop := { start.loop with scheduler := { start.loop.scheduler with store := ⟨Path.ofText "t"⟩ } },
      disk := ((Procedure.writeFile (Path.ofText "t") []).run start.disk).2 }
    let here := (start.turn false).loop
    let there := (blocked.turn false).loop
    here.scheduler.stats.samplesWritten = 1 ∧ there.scheduler.stats.writeFailures = 1 ∧
      there.scheduler.state = here.scheduler.state ∧ there.phase = here.phase := by
  intro start blocked here there
  have fresh : start.Fresh ⟨0⟩ := ⟨by decide, rfl⟩
  have fresh' : blocked.Fresh ⟨0⟩ := ⟨by decide, rfl⟩
  have course := (Course.refl start).turn_on_disk rfl false
  have course' := (Course.refl blocked).turn_on_disk rfl false
  obtain ⟨_, state, phase, _⟩ := steady fresh fresh' rfl rfl rfl course course'
  refine ⟨by decide +kernel, by decide +kernel, ?_, ?_⟩
  · simp only [there, here]
    exact state
  · simp only [there, here]
    exact phase

end Course

end NodeTelemetry

import Mathlib.Data.Nat.Find
import Mathlib.Order.Bounds.Defs
import NodeTelemetry.Proofs.Retention.Effects
import NodeTelemetry.Proofs.Schedule.Cadence

/-!
# How many files are retained

The cycles of an activation keep their scrape interval, and so do the capture
times of its files. A successful cycle leaves no file whose name says a time
before the cutoff, and a name says at most 999 milliseconds more than the capture
time. Since no scrape interval is below a second, the files that are left fit
into the keep interval, and one more (`Run.retained_le`). Whatever stood in the
directory at the start, and whatever others put there, does not matter.

The path of the store is not the empty one, at which no directory can be read:
validation refuses it.
-/

namespace NodeTelemetry

open Retention

/-- The turns since the last activation ended. -/
def sinceDeactivated (past : List Iteration) : List Iteration := past.takeWhile (·.transition ≠ .deactivated)

/-- The files that a run wrote since the last activation ended, the newest first. -/
def filesWritten (past : List Iteration) : List Path := (sinceDeactivated past).filterMap (·.file?)

/-- What others may do while only one collector touches the files of its instance. -/
def Store.Spares (s : Store) (id : String) (d d' : Disk) : Prop :=
  ∀ n, Owns id n → d'.file? (n :: s.dir.location) = d.file? (n :: s.dir.location)

theorem Iteration.cycled_of_file? {i : Iteration} {path : Path} (wrote : i.file? = some path) : i.cycled = true := by
  rw [cycled, file?_eq_some_iff.mp wrote]

/-! ## Counting -/

/-- Numbers that keep a distance from each other, in a range. -/
theorem spaced_length_le {gap low high : Nat} {l : List Nat} (spaced : l.Pairwise fun later earlier => earlier + gap ≤ later)
    (inside : ∀ x ∈ l, low ≤ x ∧ x ≤ high) : (l.length - 1) * gap ≤ high - low := by
  induction l generalizing high with
  | nil => simp
  | cons x rest ih =>
    obtain ⟨first, spaced⟩ := List.pairwise_cons.mp spaced
    cases rest with
    | nil => simp
    | cons y rest =>
      -- what follows lies a whole gap below the first number
      have below : ∀ z ∈ y :: rest, low ≤ z ∧ z ≤ x - gap := by
        intro z member
        have := first z member
        exact ⟨(inside z (List.mem_cons_of_mem _ member)).1, by omega⟩
      have fits := ih spaced below
      have := first y List.mem_cons_self
      have := (inside y (by simp)).1
      have := (inside x (by simp)).2
      simp only [List.length_cons, Nat.add_sub_cancel, Nat.add_mul] at fits ⊢
      omega

/-- Capture times keep the whole milliseconds of a span, as long as the clock has not run out. -/
theorem CaptureClock.nowMs_spaced {c : CaptureClock} {i j : Instant} {span : Span} (anchored : c.anchor.nanos ≤ i.nanos)
    (later : i.nanos + span.nanos ≤ j.nanos) (early : (c.nowMs j).toNat < 18446744073709551615) :
    (c.nowMs i).toNat + span.millis ≤ (c.nowMs j).toNat := by
  have whole : (i.nanos - c.anchor.nanos) / 1000000 + span.nanos / 1000000 ≤ (j.nanos - c.anchor.nanos) / 1000000 :=
    calc (i.nanos - c.anchor.nanos) / 1000000 + span.nanos / 1000000
      _ ≤ (i.nanos - c.anchor.nanos + span.nanos) / 1000000 := Nat.div_add_div_le_add_div
      _ ≤ (j.nanos - c.anchor.nanos) / 1000000 := Nat.div_le_div_right (by omega)
  simp only [nowMs, Word.toNat_addCapped, Word.toNat_cap, Instant.since, Span.millis] at early ⊢
  omega

/-! ## One cycle -/

namespace Scheduler

/-- After a cycle that wrote a file no file of the instance is older than the cutoff. -/
theorem recent_of_cycle {s : Scheduler} {c : Control} {report : Option RoleState} {now : Instant} {d : Disk}
    (named : s.store.dir.isEmpty = false) (nameable : Nameable s.instanceId) {path : Path}
    (wrote : ((s.cycle c report now).run d).1.2.1 = .ok path) :
    (∃ n ∈ Store.candidates (s.sample report now), path = s.store.finalPath n ∧ s.store.dir.Takes (Name.ofText n.text)) ∧
    ∀ m time, s.store.Stored ((s.cycle c report now).run d).2 s.instanceId m time →
      (Store.cutoff (s.sample report now).capturedAt c.keep).toNat ≤ time.toNat := by
  have result := (cycle_written s c report now d).symm.trans wrote
  have disk := cycle_disk s c report now d
  rw [result] at disk
  replace disk : ((s.cycle c report now).run d).2 = ((s.store.prune s.instanceId (s.clock.nowMs now) c.keep).run
      ((s.store.write (s.sample report now)).run d).2).2 := disk
  obtain ⟨between, n, _, directory, tried, same, _, written⟩ := Store.write_of_ok named nameable result
  have mine : n.instanceId = s.instanceId := Store.instanceId_of_mem_candidates tried
  refine ⟨⟨n, tried, same, written.takes⟩, fun m time stored => ?_⟩
  generalize (s.store.write (s.sample report now)).run d = wrote at written disk
  have inside := Disk.isDirectory_mono written.directories.keeps directory
  have new : s.store.Stored wrote.2 s.instanceId (Name.ofText n.text) n.time :=
    ⟨mine ▸ FileName.ofName?_text (mine ▸ nameable.1), written.takes, by simp [written.placed]⟩
  have fresh : (Store.cutoff (s.clock.nowMs now) c.keep).toNat ≤ n.time.toNat := by
    have := (Store.time_of_mem_candidates tried).1
    have captured : (s.sample report now).capturedAt = s.clock.nowMs now := rfl
    rw [captured] at this
    rw [Store.toNat_cutoff]
    omega
  have cleared := Store.prune_cleared s.instanceId inside ⟨_, _, new, fresh⟩
  rw [disk] at stored
  obtain ⟨stays, stood⟩ := cleared.survived stored.stands
  exact Nat.le_of_not_lt fun expired => stays ⟨m, time, rfl, ⟨stored.read, stored.takes, stood⟩, expired⟩

/-- A cycle that failed to write leaves all finished files alone. -/
theorem files_of_cycle {s : Scheduler} {c : Control} {report : Option RoleState} {now : Instant} {d : Disk}
    (nameable : Nameable s.instanceId) {e : StorageError} (failed : ((s.cycle c report now).run d).1.2.1 = .error e)
    {n : Name} {m : FileName} (read : FileName.ofName? n = some m) :
    ((s.cycle c report now).run d).2.file? (n :: s.store.dir.location) = d.file? (n :: s.store.dir.location) := by
  have result := (cycle_written s c report now d).symm.trans failed
  have disk := cycle_disk s c report now d
  rw [result] at disk
  rw [disk]
  exact Store.write_of_error nameable result read

end Scheduler

/-! ## The history of a run -/

/-- What the records of a run say about its clock and its instance. -/
structure Recorded (start : World) (past : List Iteration) (w : World) : Prop where
  alike : Scheduler.Alike start.loop.scheduler w.loop.scheduler
  now : start.now.nanos ≤ w.now.nanos
  turns : ∀ i ∈ past, start.now.nanos ≤ i.now.nanos ∧ i.snapshot.instanceId = start.instanceId ∧
    i.snapshot.capturedAt = start.loop.scheduler.clock.nowMs i.now

theorem Recorded.cons {start w w' : World} {past : List Iteration} (recorded : Recorded start past w) {i : Iteration}
    (records : w.Records i) (alike : Scheduler.Alike w.loop.scheduler w'.loop.scheduler) (now : w'.now = w.now) :
    Recorded start (i :: past) w' := by
  refine ⟨recorded.alike.trans alike, now ▸ recorded.now, ?_⟩
  intro j among
  rcases List.mem_cons.mp among with rfl | among
  · rw [records.now, records.snapshot]
    exact ⟨recorded.now, recorded.alike.instanceId, congrArg (·.nowMs w.now) recorded.alike.clock⟩
  · exact recorded.turns j among

theorem FaultyRun.recorded {fallible : Action → Prop} {touches : Disk → Disk → Prop} {start w : World}
    {past : List Iteration} (run : FaultyRun fallible touches start past w) : Recorded start past w := by
  induction run with
  | start => exact ⟨Scheduler.Alike.refl _, Nat.le_refl _, by simp⟩
  | @happen past w _ e ih =>
    refine ⟨?_, Nat.le_trans ih.now (World.now_le_after w e), ih.turns⟩
    rw [World.after_scheduler]
    exact ih.alike
  | others _ _ ih => exact ⟨ih.alike, ih.now, ih.turns⟩
  | turn _ _ _ passed ih =>
    have ends := Procedure.ends_of_goes passed
    exact ih.cons (World.records_of_ends ends) (Scheduler.alike_of_ends_pass ends) rfl

theorem Run.recorded {touches : Disk → Disk → Prop} {start w : World} {past : List Iteration}
    (run : Run touches start past w) : Recorded start past w := (run.faulty fun _ => False).recorded

theorem sinceDeactivated_cons (i : Iteration) (past : List Iteration) :
    sinceDeactivated (i :: past) = if i.transition = .deactivated then [] else i :: sinceDeactivated past := by
  unfold sinceDeactivated
  rw [List.takeWhile_cons]
  split <;> simp_all

theorem SchedulerState.onControl_eq_deactivated_iff {s : SchedulerState} {c : Control} {now : Instant} :
    (s.onControl c now).2 = .deactivated ↔ c.enabled = false ∧ s ≠ .disabled := by
  unfold onControl
  split <;> simp_all

theorem filter_sinceDeactivated_cons {since : Option Instant} {past : List Iteration} {w : World}
    (tracked : Tracked since past w) (running : w.loop.phase = .running) {i : Iteration} (records : w.Records i)
    (before : (sinceDeactivated past).filter (·.cycled) = cycles past) :
    (sinceDeactivated (i :: past)).filter (·.cycled) = cycles (i :: past) := by
  have ended : i.transition = .deactivated ↔ i.control.enabled = false ∧ stateAfter since past ≠ .disabled := by
    rw [← tracked.state (by simp [running]), records.transition, records.control]
    exact SchedulerState.onControl_eq_deactivated_iff
  rw [sinceDeactivated_cons, cycles_cons]
  cases on : i.control.enabled with
  | true =>
    rw [if_neg (by simp [ended, on]), List.filter_cons, before]
    rfl
  | false =>
    have idle : i.cycled = false := by
      refine Bool.eq_false_iff.mpr fun ran => ?_
      have enabled := ((tracked.maySample_iff running).mp (records.cycled ▸ ran)).1
      rw [← records.control, on] at enabled
      cases enabled
    split
    · rfl
    · next goes =>
      have disabled : stateAfter since past = .disabled := by
        simpa [ended, on] using goes
      have inactive : activeSince since past = none := by
        unfold stateAfter at disabled
        split at disabled
        · assumption
        · split at disabled <;> cases disabled
      rw [List.filter_cons, idle, before, cycles_eq_nil inactive]
      rfl

/-- The cycles since the last activation ended are those of the present one. -/
theorem FaultyRun.cycles_sinceDeactivated {fallible : Action → Prop} {touches : Disk → Disk → Prop} {start w : World}
    {past : List Iteration} {startedAt : Instant} (fresh : start.Fresh startedAt)
    (run : FaultyRun fallible touches start past w) : (sinceDeactivated past).filter (·.cycled) = cycles past := by
  induction run with
  | start => rfl
  | happen _ _ ih => exact ih
  | others _ _ ih => exact ih
  | turn run running _ passed ih =>
    exact filter_sinceDeactivated_cons (run.tracked fresh) running (World.records_of_ends (Procedure.ends_of_goes passed)) ih

theorem Run.cycles_sinceDeactivated {touches : Disk → Disk → Prop} {start w : World} {past : List Iteration}
    {startedAt : Instant} (fresh : start.Fresh startedAt) (run : Run touches start past w) :
    (sinceDeactivated past).filter (·.cycled) = cycles past := (run.faulty fun _ => False).cycles_sinceDeactivated fresh

/-! ## What is left of the files -/

/-- The name under which a turn wrote its file. -/
structure Store.Took (s : Store) (i : Iteration) (path : Path) (n : FileName) : Prop where
  tried : n ∈ Store.candidates i.snapshot
  same : path = s.finalPath n
  takes : s.dir.Takes (Name.ofText n.text)

/-- Of the files written since the last activation ended, those that are left are not older than the cutoff
    of the last cycle that wrote one. -/
def Store.Recent (s : Store) (past : List Iteration) (d : Disk) : Prop :=
  ∀ i ∈ sinceDeactivated past, ∀ path, i.file? = some path → ∃ n, s.Took i path n ∧
    ∀ last, (sinceDeactivated past).find? (·.file?.isSome) = some last →
      d.file? (Name.ofText n.text :: s.dir.location) ≠ none →
        (Store.cutoff last.snapshot.capturedAt last.control.keep).toNat ≤ n.time.toNat

section Recent

variable {s : Store} {id : String} {past : List Iteration} {d d' : Disk}

theorem Store.Took.read {i : Iteration} {path : Path} {n : FileName} (took : s.Took i path n)
    (nameable : Nameable i.snapshot.instanceId) :
    FileName.ofName? (Name.ofText n.text) = some ⟨n.time, i.snapshot.instanceId⟩ := by
  have mine : n.instanceId = i.snapshot.instanceId := Store.instanceId_of_mem_candidates took.tried
  rw [← mine]
  exact FileName.ofName?_text (mine ▸ nameable.1)

/-- As long as no further file is written, it is enough that none comes back. -/
theorem Store.Recent.congr (recent : s.Recent past d) (nameable : Nameable id)
    (mine : ∀ i ∈ past, i.snapshot.instanceId = id)
    (files : ∀ n time, FileName.ofName? n = some ⟨time, id⟩ →
      d'.file? (n :: s.dir.location) = d.file? (n :: s.dir.location)) : s.Recent past d' := by
  intro i among path wrote
  obtain ⟨n, took, late⟩ := recent i among path wrote
  have same := mine i (List.takeWhile_subset _ among)
  refine ⟨n, took, fun last found stands => late last found ?_⟩
  rwa [files _ n.time (same ▸ took.read (same ▸ nameable))] at stands

/-- A turn that writes nothing adds nothing. -/
theorem Store.Recent.cons (recent : s.Recent past d) {i : Iteration} (nothing : i.file? = none) : s.Recent (i :: past) d := by
  unfold Store.Recent
  rw [sinceDeactivated_cons]
  split
  · simp
  · intro j among path wrote
    rcases List.mem_cons.mp among with rfl | among
    · cases nothing.symm.trans wrote
    · rw [List.find?_cons_of_neg (by simp [nothing])]
      exact recent j among path wrote

/-- A cycle that wrote a file, and after which nothing is older than its cutoff. -/
theorem Store.Recent.wrote (recent : s.Recent past d) (nameable : Nameable id)
    (mine : ∀ i ∈ past, i.snapshot.instanceId = id) {i : Iteration} (own : i.snapshot.instanceId = id)
    (on : i.transition ≠ .deactivated) {path : Path} (wrote : i.file? = some path) {n : FileName} (took : s.Took i path n)
    (late : ∀ m time, s.Stored d' id m time →
      (Store.cutoff i.snapshot.capturedAt i.control.keep).toNat ≤ time.toNat) : s.Recent (i :: past) d' := by
  unfold Store.Recent
  rw [sinceDeactivated_cons, if_neg on, List.find?_cons_of_pos (by simp [wrote])]
  intro j among path' wrote'
  have named : ∃ n, s.Took j path' n ∧ j.snapshot.instanceId = id := by
    rcases List.mem_cons.mp among with rfl | among
    · cases wrote.symm.trans wrote'
      exact ⟨n, took, own⟩
    · obtain ⟨m, took, _⟩ := recent j among path' wrote'
      exact ⟨m, took, mine j (List.takeWhile_subset _ among)⟩
  obtain ⟨m, took, rfl⟩ := named
  refine ⟨m, took, fun last found stands => ?_⟩
  cases found
  exact late _ m.time ⟨took.read nameable, took.takes, stands⟩

end Recent

theorem Store.Recent.turn {start w : World} {past : List Iteration} (named : start.store.dir.isEmpty = false)
    (nameable : Nameable start.instanceId) (recorded : Recorded start past w) (recent : start.store.Recent past w.disk)
    (running : w.loop.phase = .running) (signalled : Bool) :
    start.store.Recent (w.iteration :: past) (w.turn signalled).disk := by
  have mine (i : Iteration) (among : i ∈ past) : i.snapshot.instanceId = start.instanceId := (recorded.turns i among).2.1
  rcases World.disk_cases running signalled with ⟨off, _, _⟩ | ⟨_, skipped, disk⟩ | ⟨on, s, alike, ran, disk⟩
  · unfold Store.Recent
    rw [sinceDeactivated_cons, if_pos off]
    simp
  · rw [disk]
    refine recent.cons (Option.eq_none_iff_forall_ne_some.mpr fun path wrote => ?_)
    exact skipped _ (Iteration.file?_eq_some_iff.mp wrote)
  · have alike := recorded.alike.trans alike
    have store : s.store = start.store := alike.store
    have same : s.instanceId = start.instanceId := alike.instanceId
    have snapshot : s.sample w.source.current w.now = w.iteration.snapshot :=
      (alike.sample _ _).trans (recorded.alike.sample _ _).symm
    rw [disk]
    cases outcome : ((s.cycle w.surface.current w.source.current w.now).run w.disk).1.2.1 with
    | error e =>
      -- without a new file the cutoff stays where it was
      rw [outcome] at ran
      have nothing : w.iteration.file? = none := by rw [Iteration.file?, ran]
      refine (recent.congr nameable mine fun n time read => ?_).cons nothing
      rw [← store]
      exact Scheduler.files_of_cycle (same ▸ nameable) outcome read
    | ok path =>
      rw [outcome] at ran
      have wrote : w.iteration.file? = some path := Iteration.file?_eq_some_iff.mpr ran
      obtain ⟨⟨n, tried, final, takes⟩, late⟩ := Scheduler.recent_of_cycle (store ▸ named) (same ▸ nameable) outcome
      rw [snapshot] at tried late
      rw [store] at final takes late
      rw [same] at late
      exact recent.wrote nameable mine recorded.alike.instanceId on wrote ⟨tried, final, takes⟩ late

theorem Run.recent {start w : World} {past : List Iteration} (named : start.store.dir.isEmpty = false)
    (nameable : Nameable start.instanceId) (run : Run (start.store.Spares start.instanceId) start past w) :
    start.store.Recent past w.disk := by
  induction run with
  | start => simp [Store.Recent, sinceDeactivated]
  | @happen past w _ e ih =>
    rw [World.after_disk]
    exact ih
  | @others past w run d spares ih =>
    have recorded := run.recorded
    refine ih.congr nameable (fun i among => (recorded.turns i among).2.1) fun n time read => ?_
    exact spares n (.finished read rfl)
  | turn run running signalled ih => exact ih.turn named nameable run.recorded running signalled

/-! ## The bound -/

theorem mem_of_mem_cycles {i : Iteration} {past : List Iteration} (ran : i ∈ cycles past) : i ∈ past :=
  List.takeWhile_subset _ (List.mem_filter.mp ran).1

theorem filesWritten_eq {past : List Iteration} (since : (sinceDeactivated past).filter (·.cycled) = cycles past) :
    filesWritten past = (cycles past).filterMap (·.file?) := by
  rw [← since, List.filterMap_filter, filesWritten]
  congr 1
  funext i
  cases ran : i.cycled with
  | true => rfl
  | false =>
    refine Option.eq_none_iff_forall_ne_some.mpr fun path wrote => ?_
    cases ran.symm.trans (Iteration.cycled_of_file? wrote)

/-- What a run has come to, as far as the number of its files depends on it. -/
structure Retaining (start : World) (past : List Iteration) (w : World) : Prop where
  recorded : Recorded start past w
  anchored : start.loop.scheduler.clock.anchor.nanos ≤ start.now.nanos
  accepted : ∀ i ∈ past, i.control.Valid
  spaced : (cycles past).Pairwise Spaced
  since : (sinceDeactivated past).filter (·.cycled) = cycles past
  early : ∀ i ∈ past, i.snapshot.capturedAt.toNat < 18446744073709551616 - 1000

/-- Capture times keep every distance that all scrape intervals keep. -/
theorem Retaining.captures {start w : World} {past : List Iteration} (retaining : Retaining start past w) {gap : Nat}
    (least : ∀ i ∈ cycles past, gap ≤ i.control.scrape.millis) :
    (cycles past).Pairwise fun later earlier =>
      earlier.snapshot.capturedAt.toNat + gap ≤ later.snapshot.capturedAt.toNat := by
  refine retaining.spaced.imp_of_mem fun {later earlier} ran ran' spaced => ?_
  obtain ⟨_, _, captured⟩ := retaining.recorded.turns later (mem_of_mem_cycles ran)
  obtain ⟨after, _, captured'⟩ := retaining.recorded.turns earlier (mem_of_mem_cycles ran')
  have early := retaining.early later (mem_of_mem_cycles ran)
  rw [captured] at early ⊢
  rw [captured']
  have kept := CaptureClock.nowMs_spaced (Nat.le_trans retaining.anchored after) spaced (by omega)
  have := least later ran
  omega

theorem Retaining.least {start w : World} {past : List Iteration} (retaining : Retaining start past w) :
    ∀ i ∈ cycles past, 1000 ≤ i.control.scrape.millis := by
  intro i ran
  have accepted : minScrape.nanos ≤ i.control.scrape.nanos := retaining.accepted i (mem_of_mem_cycles ran)
  have second : minScrape.nanos = 1000000000 := rfl
  rw [second] at accepted
  exact Nat.div_le_div_right accepted (c := 1000000)

/-- The last of the cycles that wrote a file captured its snapshot last. -/
theorem Retaining.le_last {start w : World} {past : List Iteration} (retaining : Retaining start past w) {last : Iteration}
    (found : (sinceDeactivated past).find? (·.file?.isSome) = some last) {i : Iteration} (ran : i ∈ cycles past)
    (wrote : i.file?.isSome = true) : i.snapshot.capturedAt.toNat ≤ last.snapshot.capturedAt.toNat := by
  have among : (cycles past).find? (·.file?.isSome) = some last := by
    rw [← retaining.since, List.find?_filter, ← found]
    congr 1
    funext i
    cases wrote : i.file? with
    | none => simp
    | some path => simp [Iteration.cycled_of_file? wrote]
  obtain ⟨_, newer, older, split, none⟩ := List.find?_eq_some_iff_append.mp among
  have captures : (cycles past).Pairwise fun later earlier =>
      earlier.snapshot.capturedAt.toNat + 0 ≤ later.snapshot.capturedAt.toNat :=
    retaining.captures fun _ _ => Nat.zero_le _
  rw [split] at captures ran
  rcases List.mem_append.mp ran with ran | ran
  · have := none i ran
    simp [wrote] at this
  · rcases List.mem_cons.mp ran with rfl | ran
    · exact Nat.le_refl _
    · exact (List.pairwise_cons.mp (List.pairwise_append.mp captures).2.1).1 i ran

/-- A cycle whose file is left captured its snapshot at most 999 milliseconds before the cutoff. -/
theorem Store.Recent.late {s : Store} {past : List Iteration} {d : Disk} (recent : s.Recent past d)
    {i last : Iteration} (nameable : Nameable i.snapshot.instanceId) (among : i ∈ sinceDeactivated past)
    (found : (sinceDeactivated past).find? (·.file?.isSome) = some last) {path : Path} (wrote : i.file? = some path)
    (stands : d.isFile path = true) :
    (Store.cutoff last.snapshot.capturedAt last.control.keep).toNat ≤ i.snapshot.capturedAt.toNat + 999 := by
  obtain ⟨n, took, late⟩ := recent i among path wrote
  have mine : n.instanceId = i.snapshot.instanceId := Store.instanceId_of_mem_candidates took.tried
  rw [took.same, s.finalPath_eq_child (mine ▸ nameable.2), Disk.isFile_child_iff (FileName.descends_text n)] at stands
  have := late last found stands.2.2
  have := (Store.time_of_mem_candidates took.tried).2
  omega

theorem Retaining.countP_le {start w : World} {past : List Iteration} (retaining : Retaining start past w)
    (nameable : Nameable start.instanceId) (recent : start.store.Recent past w.disk) {gap : Nat} (second : 1000 ≤ gap)
    (least : ∀ i ∈ cycles past, gap ≤ i.control.scrape.millis) {last : Iteration}
    (found : (sinceDeactivated past).find? (·.file?.isSome) = some last) :
    (filesWritten past).countP w.disk.isFile ≤ Control.ceilDiv last.control.keep.millis gap + 1 := by
  rw [filesWritten_eq retaining.since, List.countP_filterMap, List.countP_eq_length_filter]
  generalize left : (cycles past).filter _ = kept
  have inside : ∀ c ∈ kept.map (·.snapshot.capturedAt.toNat),
      last.snapshot.capturedAt.toNat - last.control.keep.millis - 999 ≤ c ∧ c ≤ last.snapshot.capturedAt.toNat := by
    intro c member
    obtain ⟨i, among, rfl⟩ := List.mem_map.mp member
    rw [← left] at among
    obtain ⟨ran, stands⟩ := List.mem_filter.mp among
    cases wrote : i.file? with
    | none => simp [wrote] at stands
    | some path =>
      have among : i ∈ sinceDeactivated past := (List.mem_filter.mp (retaining.since ▸ ran)).1
      have own := (retaining.recorded.turns i (mem_of_mem_cycles ran)).2.1
      have late := recent.late (own ▸ nameable) among found wrote (by simpa [wrote] using stands)
      have := retaining.le_last found ran (by simp [wrote])
      rw [Store.toNat_cutoff] at late
      omega
  have sublist : kept.Sublist (cycles past) := left ▸ List.filter_sublist
  have spaced : (kept.map (·.snapshot.capturedAt.toNat)).Pairwise fun later earlier => earlier + gap ≤ later :=
    List.pairwise_map.mpr ((retaining.captures least).sublist sublist)
  have fits := spaced_length_le spaced inside
  rw [List.length_map] at fits
  -- the 999 milliseconds by which a name may be late are less than one gap
  have room : (kept.length - 1) * gap ≤ last.control.keep.millis + gap - 1 := by omega
  have := (Nat.le_div_iff_mul_le (by omega : 0 < gap)).mpr room
  unfold Control.ceilDiv
  omega

/-- No name is used twice. -/
theorem Retaining.nodup {start w : World} {past : List Iteration} (retaining : Retaining start past w)
    (nameable : Nameable start.instanceId) (recent : start.store.Recent past w.disk) : (filesWritten past).Nodup := by
  have named {i : Iteration} (ran : i ∈ cycles past) {path : Path} (wrote : i.file? = some path) :
      ∃ n, start.store.Took i path n ∧ Nameable n.instanceId := by
    have among : i ∈ sinceDeactivated past := (List.mem_filter.mp (retaining.since ▸ ran)).1
    have own := (retaining.recorded.turns i (mem_of_mem_cycles ran)).2.1
    obtain ⟨n, took, _⟩ := recent i among path wrote
    have mine : n.instanceId = i.snapshot.instanceId := Store.instanceId_of_mem_candidates took.tried
    exact ⟨n, took, (mine.trans own) ▸ nameable⟩
  rw [filesWritten_eq retaining.since, List.Nodup, List.pairwise_filterMap]
  refine (retaining.captures retaining.least).imp_of_mem fun {later earlier} ran ran' spaced path wrote path' wrote' same => ?_
  obtain ⟨n, took, plain⟩ := named ran wrote
  obtain ⟨m, took', plain'⟩ := named ran' wrote'
  rw [took.same, took'.same, Store.finalPath_eq_child _ plain.2, Store.finalPath_eq_child _ plain'.2] at same
  cases FileName.eq_of_text_eq plain.1 plain'.1 (Path.child_injective same)
  have := (Store.time_of_mem_candidates took.tried).1
  have := (Store.time_of_mem_candidates took'.tried).2
  omega

theorem Retaining.countP_lt {start w : World} {past : List Iteration} (retaining : Retaining start past w) :
    (filesWritten past).countP w.disk.isFile < 18446744073709551615 := by
  have inside : ∀ c ∈ (cycles past).map (·.snapshot.capturedAt.toNat), 0 ≤ c ∧ c ≤ 18446744073709551616 := by
    intro c member
    obtain ⟨i, ran, rfl⟩ := List.mem_map.mp member
    have := retaining.early i (mem_of_mem_cycles ran)
    omega
  have fits := spaced_length_le (List.pairwise_map.mpr (retaining.captures retaining.least)) inside
  have few : (filesWritten past).countP w.disk.isFile ≤ (cycles past).length :=
    calc (filesWritten past).countP w.disk.isFile
      _ ≤ (filesWritten past).length := List.countP_le_length
      _ ≤ (cycles past).length := by
        rw [filesWritten_eq retaining.since]
        exact List.length_filterMap_le ..
  rw [List.length_map] at fits
  omega

theorem FaultyRun.retaining {fallible : Action → Prop} {touches : Disk → Disk → Prop} {start w : World}
    {past : List Iteration} {startedAt : Instant} (fresh : start.Fresh startedAt)
    (anchored : start.loop.scheduler.clock.anchor.nanos ≤ start.now.nanos) (run : FaultyRun fallible touches start past w)
    (early : ∀ i ∈ past, i.snapshot.capturedAt.toNat < 18446744073709551616 - 1000) : Retaining start past w where
  recorded := run.recorded
  anchored := anchored
  accepted := (run.tracked fresh).accepted
  spaced := (run.tracked fresh).spaced
  since := run.cycles_sinceDeactivated fresh
  early := early

theorem Run.retaining {touches : Disk → Disk → Prop} {start w : World} {past : List Iteration} {startedAt : Instant}
    (fresh : start.Fresh startedAt) (anchored : start.loop.scheduler.clock.anchor.nanos ≤ start.now.nanos)
    (run : Run touches start past w) (early : ∀ i ∈ past, i.snapshot.capturedAt.toNat < 18446744073709551616 - 1000) :
    Retaining start past w := (run.faulty fun _ => False).retaining fresh anchored early

theorem find?_sinceDeactivated {past : List Iteration} {P : Iteration → Bool} {last : Iteration}
    (found : (sinceDeactivated past).find? P = some last) : past.find? P = some last := by
  rw [← List.takeWhile_append_dropWhile (p := fun i => decide (i.transition ≠ .deactivated)) (l := past), List.find?_append]
  rw [sinceDeactivated] at found
  rw [found, Option.some_or]

/-- The shortest scrape interval of the cycles since the last activation ended. -/
theorem Retaining.exists_shortest {start w : World} {past : List Iteration} (retaining : Retaining start past w)
    {i : Iteration} (ran : i ∈ cycles past) :
    ∃ shortest, IsLeast {m | ∃ i ∈ sinceDeactivated past, i.cycled = true ∧ m = i.control.scrape.millis} shortest ∧
      1000 ≤ shortest ∧ ∀ i ∈ cycles past, shortest ≤ i.control.scrape.millis := by
  classical
  have member (i : Iteration) : i ∈ cycles past ↔ i ∈ sinceDeactivated past ∧ i.cycled = true := by
    rw [← retaining.since, List.mem_filter]
  have one : ∃ m, ∃ i ∈ sinceDeactivated past, i.cycled = true ∧ m = i.control.scrape.millis :=
    ⟨_, i, ((member i).mp ran).1, ((member i).mp ran).2, rfl⟩
  refine ⟨Nat.find one, ⟨Nat.find_spec one, fun m among => Nat.find_min' one among⟩, ?_, ?_⟩
  · obtain ⟨i, among, cycled, same⟩ := Nat.find_spec one
    rw [same]
    exact retaining.least i ((member i).mpr ⟨among, cycled⟩)
  · intro i ran
    exact Nat.find_min' one ⟨i, ((member i).mp ran).1, ((member i).mp ran).2, rfl⟩

/-- Constant parameters keep to their retention bound. -/
theorem Retaining.countP_le_retentionBound {start w : World} {past : List Iteration} (retaining : Retaining start past w)
    (nameable : Nameable start.instanceId) (recent : start.store.Recent past w.disk) {last : Iteration}
    (ran : last ∈ cycles past) (found : (sinceDeactivated past).find? (·.file?.isSome) = some last) {c : Control}
    (constant : ∀ i ∈ past, i.control = c) : (filesWritten past).countP w.disk.isFile ≤ c.retentionBound.toNat := by
  have same (i : Iteration) (ran : i ∈ cycles past) : i.control = c := constant i (mem_of_mem_cycles ran)
  have second : 1000 ≤ c.scrape.millis := same last ran ▸ retaining.least last ran
  have bound := retaining.countP_le nameable recent second (fun i ran => by rw [same i ran]) found
  have few := retaining.countP_lt
  rw [same last ran] at bound
  rw [Control.retentionBound, Word.toNat_addCapped, Word.toNat_cap, Nat.max_eq_left (by omega)]
  omega

/-- Of the files that a run has written since the last activation ended, at most so many are left at any time as
    the shortest scrape interval since then covers the keep interval of the last cycle that wrote one, and one
    more. Constant parameters keep to their retention bound. `named` leaves out the empty path, which validation
    refuses. -/
theorem Run.retained_le {start w : World} {past : List Iteration} {startedAt : Instant} (fresh : start.Fresh startedAt)
    (anchored : start.loop.scheduler.clock.anchor.nanos ≤ start.now.nanos) (named : start.store.dir.isEmpty = false)
    (nameable : Nameable start.instanceId) (run : Run (start.store.Spares start.instanceId) start past w)
    (early : ∀ i ∈ past, i.snapshot.capturedAt.toNat < 18446744073709551616 - 1000) :
    let retained := (filesWritten past).countP w.disk.isFile
    (filesWritten past).Nodup ∧
    (retained = 0 ∨ ∃ last shortest, past.find? (·.file?.isSome) = some last ∧
      IsLeast {m | ∃ i ∈ sinceDeactivated past, i.cycled = true ∧ m = i.control.scrape.millis} shortest ∧
      1000 ≤ shortest ∧ retained ≤ Control.ceilDiv last.control.keep.millis shortest + 1) ∧
    (∀ c : Control, (∀ i ∈ past, i.control = c) → retained ≤ c.retentionBound.toNat) := by
  intro retained
  have retaining := run.retaining fresh anchored early
  have recent := run.recent named nameable
  cases found : (sinceDeactivated past).find? (·.file?.isSome) with
  | none =>
    have nothing : retained = 0 := by
      have : filesWritten past = [] := by
        rw [filesWritten, List.filterMap_eq_nil_iff]
        simpa using found
      simp [retained, this]
    refine ⟨retaining.nodup nameable recent, .inl nothing, fun c _ => ?_⟩
    rw [nothing]
    exact Nat.zero_le _
  | some last =>
    have filled : last.file?.isSome = true := List.find?_some (p := fun i : Iteration => i.file?.isSome) found
    obtain ⟨path, wrote⟩ := Option.isSome_iff_exists.mp filled
    have ran : last ∈ cycles past := by
      rw [← retaining.since]
      exact List.mem_filter.mpr ⟨List.mem_of_find?_eq_some found, Iteration.cycled_of_file? wrote⟩
    obtain ⟨shortest, least, second, all⟩ := retaining.exists_shortest ran
    refine ⟨retaining.nodup nameable recent, .inr ?_, ?_⟩
    · exact ⟨last, shortest, find?_sinceDeactivated found, least, second, retaining.countP_le nameable recent second all found⟩
    · intro c constant
      exact retaining.countP_le_retentionBound nameable recent ran found constant

/-- Where nothing is to be kept, one of two files is left. -/
theorem Run.retained_after_second :
    let c : Control := ⟨true, ⟨0⟩, ⟨1000000000⟩, ⟨0⟩⟩
    let start := World.alone c
    let idle := start.turn false
    let due := ((idle.turn false).after (.elapse ⟨1000000000⟩)).after .expire
    (filesWritten [due.iteration, idle.iteration, start.iteration]).countP (due.turn false).disk.isFile ≤
      c.retentionBound.toNat := by
  intro c start idle due
  have fresh : start.Fresh ⟨0⟩ := ⟨by decide, rfl⟩
  have first : Run (start.store.Spares start.instanceId) start [start.iteration] idle := Run.start.turn rfl false
  have second : Run (start.store.Spares start.instanceId) start [idle.iteration, start.iteration] (idle.turn false) :=
    first.turn (by decide +kernel) false
  have run : Run (start.store.Spares start.instanceId) start [due.iteration, idle.iteration, start.iteration]
      (due.turn false) := ((second.happen _).happen _).turn (by decide +kernel) false
  refine (run.retained_le fresh (by decide) rfl (by decide) ?_).2.2 c ?_
  · simp only [List.forall_mem_cons, List.not_mem_nil, false_implies, implies_true, and_true]
    decide +kernel
  · simp only [List.forall_mem_cons, List.not_mem_nil, false_implies, implies_true, and_true]
    decide +kernel

end NodeTelemetry

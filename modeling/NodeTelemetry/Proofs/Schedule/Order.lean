import NodeTelemetry.Proofs.Retention.Attempts
import NodeTelemetry.Proofs.Schedule.Bound

/-!
# Names in the order of capture

A name says at most 999 milliseconds more than the capture time of its file, and the
cycles of an activation are at least a second apart. So its files are listed in the
order in which they were captured, also where names were taken, and whatever fails
(`FaultyRun.capture_order`). As long as nobody else uses the names of the instance,
and none stood in the directory when the activation began, each file has its capture
time for a name: all that stands there are files of earlier cycles.

There is one exception. The path of a store may pass through a name of the instance
in its own directory and go up again; making the directory then takes that name
(`FaultyRun.bumped_by_path`).
-/

namespace NodeTelemetry

open Retention

/-- The time in the name under which a turn wrote its file: the capture time, or up to 999 milliseconds more. -/
structure Store.NamedAt (s : Store) (i : Iteration) (path : Path) (time : UInt64) : Prop where
  same : path = s.finalPath ⟨time, i.snapshot.instanceId⟩
  least : i.snapshot.capturedAt.toNat ≤ time.toNat
  most : time.toNat ≤ i.snapshot.capturedAt.toNat + 999

/-- What others may do while they put nothing under the names of an instance. -/
def Store.LeavesFree (s : Store) (id : String) (d d' : Disk) : Prop :=
  ∀ n time, FileName.ofName? n = some ⟨time, id⟩ → d.get? (n :: s.dir.location) = none →
    d'.get? (n :: s.dir.location) = none

theorem Store.NamedAt.of_candidate {s : Store} {i : Iteration} {n : FileName} (tried : n ∈ Store.candidates i.snapshot) :
    s.NamedAt i (s.finalPath n) n.time := by
  obtain ⟨least, most⟩ := Store.time_of_mem_candidates tried
  exact ⟨by rw [← Store.instanceId_of_mem_candidates tried], least, most⟩

/-- A path has one name, and with it one time. -/
theorem Store.finalPath_inj {s : Store} {id : String} (nameable : Nameable id) {time time' : UInt64}
    (same : s.finalPath ⟨time, id⟩ = s.finalPath ⟨time', id⟩) : time = time' := by
  rw [s.finalPath_eq_child (n := ⟨time, id⟩) nameable.2, s.finalPath_eq_child (n := ⟨time', id⟩) nameable.2] at same
  have names := FileName.eq_of_text_eq (n := ⟨time, id⟩) (m := ⟨time', id⟩) nameable.1 nameable.1 (Path.child_injective same)
  exact congrArg FileName.time names

/-- All that stands under names of an instance has the capture times of certain cycles. -/
def Store.NamedByCycles (s : Store) (id : String) (stretch : List Iteration) (d : Disk) : Prop :=
  ∀ n time, FileName.ofName? n = some ⟨time, id⟩ → d.get? (n :: s.dir.location) ≠ none →
    ∃ i ∈ stretch, i.cycled = true ∧ i.snapshot.capturedAt = time

/-! ## One turn -/

section Turn

variable {fallible : Action → Prop} {start w : World} {past : List Iteration} {s : Scheduler} {ending : Scheduler.PassEnd}
  {notices : List Notice} {d : Disk}

/-- What a turn that ends no activation does to the disk, when its actions go somehow. -/
theorem Recorded.disk_of_goes (recorded : Recorded start past w) (on : w.iteration.transition ≠ .deactivated)
    (goes : (w.loop.scheduler.pass w.surface.current w.source w.now).Goes fallible w.disk (s, ending, notices) d) :
    (∀ written, ending ≠ .sampled written) ∧ d = w.disk ∨
    ∃ written between, ending = .sampled written ∧
      (start.store.write w.iteration.snapshot).Goes fallible w.disk written between ∧
      ((∃ e, written = .error e) ∧ d = between ∨ ∃ path removed, written = .ok path ∧
        (start.store.prune start.instanceId w.iteration.snapshot.capturedAt w.surface.current.keep).Goes fallible between
          removed d) := by
  rcases Scheduler.goes_pass on goes with idle | ⟨looked, written, cycled, alike, sampled, cycling⟩
  · exact .inl idle
  · obtain ⟨between, writing, later⟩ := Scheduler.goes_cycle cycling
    have own := recorded.alike.trans alike
    have snapshot : looked.sample w.source.current w.now = w.iteration.snapshot := alike.sample _ _
    have store : looked.store = start.store := own.store
    rw [snapshot, store] at writing later
    rw [own.instanceId] at later
    exact .inr ⟨written, between, sampled, writing, later⟩

/-- A turn that runs a cycle ends no activation. -/
theorem World.on_of_sampled
    (ends : (w.loop.scheduler.pass w.surface.current w.source w.now).Ends (s, ending, notices))
    {written : Except StorageError Path} (sampled : ending = .sampled written) : w.iteration.transition ≠ .deactivated := by
  intro off
  have disabled : (w.loop.scheduler.state.onControl w.surface.current w.now).1 = .disabled :=
    SchedulerState.onControl_deactivated off
  rcases Scheduler.ends_pass ends with ⟨_, idle, _⟩ | ⟨_, _, failed, _⟩ | ⟨due, _⟩
  · cases sampled.symm.trans idle
  · cases sampled.symm.trans failed
  · rw [disabled] at due
    cases due

variable (recorded : Recorded start past w) (nameable : Nameable start.instanceId)
  (goes : (w.loop.scheduler.pass w.surface.current w.source w.now).Goes fallible w.disk (s, ending, notices) d)

include recorded nameable goes

/-- A pass that has written a file has left the whole snapshot under one of its names. -/
theorem Recorded.wrote_of_goes {path : Path} (wrote : ending = .sampled (.ok path)) :
    (∃ time, start.store.NamedAt { w.iteration with ending } path time) ∧ d.read path = .ok w.iteration.snapshot.render := by
  have own : w.iteration.snapshot.instanceId = start.instanceId := recorded.alike.instanceId
  have on := World.on_of_sampled (Procedure.ends_of_goes goes) wrote
  rcases recorded.disk_of_goes on goes with ⟨idle, _⟩ | ⟨_, between, sampled, writing, later⟩
  · exact absurd wrote (idle _)
  cases sampled.symm.trans wrote
  obtain ⟨n, tried, rfl, before, added⟩ := Store.added_of_goes_write (own ▸ nameable) writing
  have mine : Nameable n.instanceId := by
    rw [Store.instanceId_of_mem_candidates tried, own]
    exact nameable
  refine ⟨⟨n.time, .of_candidate tried⟩, ?_⟩
  rcases later with ⟨⟨e, failed⟩, _⟩ | ⟨_, removed, _, pruning⟩
  · cases failed
  have pruned := Store.elsewhere_of_goes_prune pruning
  rw [start.store.finalPath_eq_child mine.2, Disk.read_child_eq_ok_iff (FileName.descends_text n)]
  refine ⟨added.takes, (added.inside.congr added.directories).congr pruned.directories, ?_⟩
  rw [pruned.files, added.stands]
  -- the name of the new file does not say less than its snapshot, so it has not expired
  rintro ⟨m, time, read, late, same⟩
  rw [← (List.cons.inj same).1, FileName.ofName?_text mine.1] at read
  cases read
  have least : w.iteration.snapshot.capturedAt.toNat ≤ time.toNat := (Store.time_of_mem_candidates tried).1
  rw [UInt64.lt_iff_toNat_lt, Store.toNat_cutoff] at late
  omega

variable {stretch : List Iteration} (aside : ∀ n time, FileName.ofName? n = some ⟨time, start.instanceId⟩ →
    ¬ start.store.dir.PassesThrough (n :: start.store.dir.location))
  (cycles : start.store.NamedByCycles start.instanceId stretch w.disk)
  (before : w.iteration.cycled = true → ∀ i ∈ stretch, i.cycled = true →
    i.snapshot.capturedAt ≠ w.iteration.snapshot.capturedAt)

include aside cycles before

/-- Where only cycles of the activation have used names of the instance, each before the present time, a cycle
    writes under its capture time or fails at a path, and no other name is taken by it. -/
theorem Recorded.first_of_goes {written : Except StorageError Path} (sampled : ending = .sampled written) :
    (written = .ok (start.store.finalPath ⟨w.iteration.snapshot.capturedAt, start.instanceId⟩) ∨
      ∃ p e, written = .error (.atPath p e)) ∧
    ∀ n time, FileName.ofName? n = some ⟨time, start.instanceId⟩ → w.disk.get? (n :: start.store.dir.location) = none →
      d.get? (n :: start.store.dir.location) ≠ none → time = w.iteration.snapshot.capturedAt := by
  have own : w.iteration.snapshot.instanceId = start.instanceId := recorded.alike.instanceId
  have ends := Procedure.ends_of_goes goes
  have ran : w.iteration.cycled = true := by
    rw [← (World.records_of_ends ends).cycled, Iteration.cycled, sampled]
  rcases recorded.disk_of_goes (World.on_of_sampled ends sampled) goes with ⟨idle, _⟩ | ⟨_, between, sampled', writing, later⟩
  · exact absurd sampled (idle _)
  cases sampled'.symm.trans sampled
  have nameable' : Nameable w.iteration.snapshot.instanceId := own ▸ nameable
  -- the first name is free, since whoever uses it would have been captured at the same time
  have read := FileName.ofName?_text (n := ⟨w.iteration.snapshot.capturedAt, start.instanceId⟩) nameable.1
  have free : w.disk.get? (Name.ofText (FileName.text ⟨w.iteration.snapshot.capturedAt, start.instanceId⟩) ::
      start.store.dir.location) = none := by
    by_contra taken
    obtain ⟨i, among, ran', same⟩ := cycles _ _ read taken
    exact before ran i among ran' same
  have first := Store.first_of_goes_write nameable' writing (congrArg _ own.symm) (aside _ _ read) free
  refine ⟨first, fun n time reads old stands => ?_⟩
  have stands' : between.get? (n :: start.store.dir.location) ≠ none := by
    rcases later with ⟨_, rfl⟩ | ⟨_, removed, _, pruning⟩
    · exact stands
    · exact fun free => stands (Store.free_of_goes_prune pruning free)
  obtain ⟨k, tried, done, rfl⟩ := Store.took_of_goes_write nameable' writing reads (aside _ _ reads) old stands'
  have mine : k.instanceId = start.instanceId := (Store.instanceId_of_mem_candidates tried).trans own
  have written : k = ⟨time, start.instanceId⟩ := by
    have back := FileName.ofName?_text (n := k) (mine ▸ nameable.1)
    rw [reads] at back
    exact (Option.some.inj back).symm
  rcases first with taken | ⟨p, e, failed⟩
  · rw [written] at done
    exact Store.finalPath_inj nameable (Except.ok.inj (done.symm.trans taken))
  · cases done.symm.trans failed

/-- A turn that ends no activation keeps it so that only cycles have used names of the instance. -/
theorem Recorded.namedByCycles_of_goes (on : w.iteration.transition ≠ .deactivated) :
    start.store.NamedByCycles start.instanceId ({ w.iteration with ending } :: stretch) d := by
  intro n time read stands
  by_cases old : w.disk.get? (n :: start.store.dir.location) = none
  · -- the turn has used the name, so it ran a cycle
    rcases recorded.disk_of_goes on goes with ⟨_, rfl⟩ | ⟨written, _, sampled, _⟩
    · exact absurd old stands
    · have new := (recorded.first_of_goes nameable goes aside cycles before sampled).2 n time read old stands
      exact ⟨_, List.mem_cons_self, by rw [Iteration.cycled, sampled], new.symm⟩
  · obtain ⟨i, among, rest⟩ := cycles n time read old
    exact ⟨i, List.mem_cons_of_mem _ among, rest⟩

end Turn

/-! ## The cycles of an activation -/

section

variable {fallible : Action → Prop} {touches : Disk → Disk → Prop} {start between w : World} {past stretch : List Iteration}
  {startedAt : Instant}

theorem sinceDeactivated_append (kept : ∀ i ∈ stretch, i.transition ≠ .deactivated) :
    sinceDeactivated (stretch ++ past) = stretch ++ sinceDeactivated past :=
  List.takeWhile_append_of_pos fun i member => decide_eq_true (kept i member)

/-- The cycles of turns that end no activation are a second apart. -/
theorem Retaining.apart (retaining : Retaining start (stretch ++ past) w)
    (kept : ∀ i ∈ stretch, i.transition ≠ .deactivated) :
    stretch.Pairwise fun later earlier => later.cycled = true → earlier.cycled = true →
      earlier.snapshot.capturedAt.toNat + 1000 ≤ later.snapshot.capturedAt.toNat := by
  have captures := retaining.captures retaining.least
  rw [← retaining.since, sinceDeactivated_append kept, List.filter_append] at captures
  exact List.pairwise_filter.mp (List.pairwise_append.mp captures).1

variable (fresh : start.Fresh startedAt) (anchored : start.loop.scheduler.clock.anchor.nanos ≤ start.now.nanos)
  (nameable : Nameable start.instanceId) (run : FaultyRun fallible touches start past between)

include run nameable

/-- Every file that was written has a name of its snapshot. -/
theorem FaultyRun.named (further : FaultyRun fallible touches between stretch w) :
    ∀ i ∈ stretch, ∀ path, i.file? = some path → ∃ time, start.store.NamedAt i path time := by
  induction further with
  | start => simp
  | happen _ _ ih => exact ih
  | others _ _ ih => exact ih
  | turn further _ _ passed ih =>
    intro i among path wrote
    rcases List.mem_cons.mp among with rfl | among
    · exact ((run.append further).recorded.wrote_of_goes nameable passed (Iteration.file?_eq_some_iff.mp wrote)).1
    · exact ih i among path wrote

include fresh anchored

/-- Where the names of the instance are free at first and nobody else uses them, every cycle writes under its
    capture time or fails at a path. -/
theorem FaultyRun.first (further : FaultyRun fallible touches between stretch w)
    (kept : ∀ i ∈ stretch, i.transition ≠ .deactivated)
    (early : ∀ i ∈ stretch ++ past, i.snapshot.capturedAt.toNat < 18446744073709551616 - 1000)
    (free : ∀ n time, FileName.ofName? n = some ⟨time, start.instanceId⟩ →
      between.disk.get? (n :: start.store.dir.location) = none ∧
        ¬ start.store.dir.PassesThrough (n :: start.store.dir.location))
    (left : ∀ d d', touches d d' → start.store.LeavesFree start.instanceId d d') :
    start.store.NamedByCycles start.instanceId stretch w.disk ∧
    ∀ i ∈ stretch, ∀ written, i.ending = .sampled written →
      written = .ok (start.store.finalPath ⟨i.snapshot.capturedAt, start.instanceId⟩) ∨
        ∃ p e, written = .error (.atPath p e) := by
  induction further with
  | start => exact ⟨fun n time read stands => absurd (free n time read).1 stands, by simp⟩
  | @happen stretch w _ e ih =>
    rw [World.after_disk]
    exact ih kept early
  | @others stretch w _ d touched ih =>
    obtain ⟨cycles, outcomes⟩ := ih kept early
    refine ⟨fun n time read stands => cycles n time read fun old => ?_, outcomes⟩
    exact stands (left _ _ touched n time read old)
  | @turn stretch w further running signalled s ending notices d passed ih =>
    obtain ⟨cycles, outcomes⟩ := ih (fun i among => kept i (List.mem_cons_of_mem _ among))
      (fun i among => early i (List.mem_cons_of_mem _ among))
    have recorded := (run.append further).recorded
    have apart := ((run.append (further.turn running signalled passed)).retaining fresh anchored early).apart kept
    have records := World.records_of_ends (Procedure.ends_of_goes passed)
    have before (ran : w.iteration.cycled = true) (i : Iteration) (among : i ∈ stretch) (ran' : i.cycled = true) :
        i.snapshot.capturedAt ≠ w.iteration.snapshot.capturedAt := by
      intro same
      have later : i.snapshot.capturedAt.toNat + 1000 ≤ w.iteration.snapshot.capturedAt.toNat :=
        (List.pairwise_cons.mp apart).1 i among (records.cycled.trans ran) ran'
      rw [same] at later
      omega
    have aside n time (read : FileName.ofName? n = some ⟨time, start.instanceId⟩) := (free n time read).2
    have on : w.iteration.transition ≠ .deactivated := kept { w.iteration with ending } List.mem_cons_self
    refine ⟨recorded.namedByCycles_of_goes nameable passed aside cycles before on, fun i among written sampled => ?_⟩
    rcases List.mem_cons.mp among with rfl | among
    · exact (recorded.first_of_goes nameable passed aside cycles before sampled).1
    · exact outcomes i among written sampled

/-- However the actions on a device go, the files that an activation writes have later times in their names the
    later they were captured, at most 999 milliseconds more than the capture time of the snapshot that the file
    holds. From a moment on at which the names of the instance are free, and as long as others leave them so, each
    file has its capture time for a name: a cycle that writes none fails at a path, never for want of a name. -/
theorem FaultyRun.capture_order (further : FaultyRun fallible touches between stretch w)
    (kept : ∀ i ∈ stretch, i.transition ≠ .deactivated)
    (early : ∀ i ∈ stretch ++ past, i.snapshot.capturedAt.toNat < 18446744073709551616 - 1000) :
    (∀ i ∈ stretch, ∀ path, i.file? = some path → ∃ time, start.store.NamedAt i path time) ∧
    (stretch.Pairwise fun later earlier => ∀ path time path' time', later.file? = some path →
      start.store.NamedAt later path time → earlier.file? = some path' → start.store.NamedAt earlier path' time' →
        time' < time) ∧
    (∀ s ending notices d,
      (w.loop.scheduler.pass w.surface.current w.source w.now).Goes fallible w.disk (s, ending, notices) d →
        ∀ path, ending = .sampled (.ok path) → d.read path = .ok w.iteration.snapshot.render) ∧
    ((∀ n time, FileName.ofName? n = some ⟨time, start.instanceId⟩ →
        between.disk.get? (n :: start.store.dir.location) = none ∧
          ¬ start.store.dir.PassesThrough (n :: start.store.dir.location)) →
      (∀ d d', touches d d' → start.store.LeavesFree start.instanceId d d') →
      ∀ i ∈ stretch, ∀ written, i.ending = .sampled written →
        written = .ok (start.store.finalPath ⟨i.snapshot.capturedAt, start.instanceId⟩) ∨
          ∃ p e, written = .error (.atPath p e)) := by
  have whole := run.append further
  refine ⟨run.named nameable further, ?_, ?_, fun free left => (run.first fresh anchored nameable further kept early free left).2⟩
  · refine ((whole.retaining fresh anchored early).apart kept).imp ?_
    intro later earlier apart path time path' time' wrote named wrote' named'
    have := apart (Iteration.cycled_of_file? wrote) (Iteration.cycled_of_file? wrote')
    have := named.least
    have := named'.most
    exact UInt64.lt_iff_toNat_lt.mpr (by omega)
  · intro s ending notices d passed path wrote
    exact (whole.recorded.wrote_of_goes nameable passed wrote).2

end

/-- The first name of the first cycle is taken, so it is written a millisecond late and the next one is not. On
    an empty disk both cycles write under their capture times. -/
theorem FaultyRun.capture_order_after_taken :
    let second (start : World) : World := (((start.turn false).turn false).after (.elapse ⟨1000000000⟩)).after .expire
    let records (start : World) := [(second start).iteration, (start.turn false).iteration, start.iteration]
    let bare := World.alone ⟨true, ⟨0⟩, ⟨1000000000⟩, ⟨5000000000⟩⟩
    let taken : World := { bare with disk := ((Procedure.perform (.create (Path.ofText "0-a.json"))).run .empty).2 }
    ((records taken).map (·.file?) = [some (Path.ofText "./1000-a.json"), none, some (Path.ofText "./1-a.json")] ∧
      ∃ time time', taken.store.NamedAt (second taken).iteration (Path.ofText "./1000-a.json") time ∧
        taken.store.NamedAt taken.iteration (Path.ofText "./1-a.json") time' ∧ time' < time) ∧
    (records bare).map (·.file?) = [some (Path.ofText "./1000-a.json"), none, some (Path.ofText "./0-a.json")] ∧
      ∀ i ∈ records bare, ∀ written, i.ending = .sampled written →
        written = .ok (bare.store.finalPath ⟨i.snapshot.capturedAt, "a"⟩) ∨ ∃ p e, written = .error (.atPath p e) := by
  intro second records bare taken
  have runs (start : World) (first : start.loop.phase = .running) (next : (start.turn false).loop.phase = .running)
      (last : (second start).loop.phase = .running) :
      FaultyRun (fun _ => False) Eq start (records start) ((second start).turn false) :=
    ((((Run.start.turn first false).turn next false).happen _).happen _ |>.turn last false).faulty _
  have ordinary (start : World) (same : start = taken ∨ start = bare) :
      (∀ i ∈ records start, i.transition ≠ .deactivated) ∧
        ∀ i ∈ records start ++ [], i.snapshot.capturedAt.toNat < 18446744073709551616 - 1000 := by
    rcases same with rfl | rfl <;>
    · simp only [records, List.append_nil, List.forall_mem_cons, List.not_mem_nil, false_implies, implies_true, and_true]
      decide +kernel
  constructor
  · have files : (records taken).map (·.file?) =
        [some (Path.ofText "./1000-a.json"), none, some (Path.ofText "./1-a.json")] := by decide +kernel
    refine ⟨files, ?_⟩
    obtain ⟨kept, early⟩ := ordinary taken (.inl rfl)
    have fresh : taken.Fresh ⟨0⟩ := ⟨by decide, rfl⟩
    obtain ⟨named, ordered, -, -⟩ := FaultyRun.capture_order fresh (by decide) (by decide)
      .start (runs taken (by decide +kernel) (by decide +kernel) (by decide +kernel)) kept early
    simp only [records, List.map_cons, List.cons.injEq] at files
    obtain ⟨time, late⟩ := named (second taken).iteration (by simp [records]) _ files.1
    obtain ⟨time', soon⟩ := named taken.iteration (by simp [records]) _ files.2.2.1
    refine ⟨time, time', late, soon, ?_⟩
    exact (List.pairwise_cons.mp ordered).1 taken.iteration (by simp) _ _ _ _ files.1 late files.2.2.1 soon
  · refine ⟨by decide +kernel, ?_⟩
    obtain ⟨kept, early⟩ := ordinary bare (.inr rfl)
    have fresh : bare.Fresh ⟨0⟩ := ⟨by decide, rfl⟩
    obtain ⟨-, -, -, first⟩ := FaultyRun.capture_order fresh (by decide) (by decide)
      .start (runs bare (by decide +kernel) (by decide +kernel) (by decide +kernel)) kept early
    refine first ?_ ?_
    · intro n time read
      have top := FileName.ne_top_of_ofName? read bare.store.dir.location
      refine ⟨?_, ?_⟩
      · show Disk.empty.get? _ = none
        simp [Disk.get?, Disk.empty, lookup, top]
      · -- the path does not move at all
        rintro ⟨front, back, moves, passed⟩
        obtain ⟨rfl, rfl⟩ := List.append_eq_nil_iff.mp (moves.symm.trans (by decide))
        cases passed
    · rintro d _ rfl n time _ free
      exact free

/-- The path of the store goes through the name that the first cycle would use. The disk is empty, and yet the
    first file says a millisecond more than its capture time: to make the directory of the store, the cycle itself
    has made a directory under that name. -/
theorem FaultyRun.bumped_by_path :
    let alone := World.alone ⟨true, ⟨0⟩, ⟨1000000000⟩, ⟨0⟩⟩
    let scheduler := { alone.loop.scheduler with store := ⟨Path.ofText "t/0-a.json/.."⟩ }
    let start : World := { alone with loop := { alone.loop with scheduler } }
    start.Fresh ⟨0⟩ ∧ FaultyRun (fun _ => False) Eq start [start.iteration] (start.turn false) ∧
      start.disk = .empty ∧ start.iteration.snapshot.capturedAt = 0 ∧
      start.iteration.file? = some (start.store.finalPath ⟨1, "a"⟩) := by
  intro alone scheduler start
  exact ⟨⟨by decide, rfl⟩, (Run.start.turn (by decide) false).faulty _, rfl, by decide +kernel, by decide +kernel⟩

end NodeTelemetry

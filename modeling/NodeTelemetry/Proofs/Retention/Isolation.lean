import NodeTelemetry.Proofs.Disk.Directories
import NodeTelemetry.Proofs.Retention.Listing

/-!
# Instances that share a directory

Whatever an instance asks of a store concerns its own files only, the finished
ones and those that it is writing (`Store.serve_spares`). So another instance gets
the same answers and has the same files whether the first one is there or not,
in every order of their requests (`Store.isolated`).
-/

namespace NodeTelemetry

open Retention

/-- A call of an operation of a store. -/
inductive Request where
  | write (snapshot : Snapshot)
  | list (id : String)
  | prune (id : String) (now : UInt64) (keep : Span)
  | purge (id : String)

/-- What a caller gets. -/
inductive Answer where
  | written (outcome : Except StorageError Path)
  | listed (outcome : Except StorageError (List SnapshotFile))
  | removed (outcome : Except StorageError Removal)

/-- The instance that a call is made for. -/
def Request.owner : Request → String
  | .write snapshot => snapshot.instanceId
  | .list id => id
  | .prune id _ _ => id
  | .purge id => id

namespace Store

/-- The operation that a request calls. -/
def serve (s : Store) : Request → Procedure Answer
  | .write snapshot => do return .written (← s.write snapshot)
  | .list id => do return .listed (← Procedure.observe (s.list id))
  | .prune id now keep => do return .removed (← s.prune id now keep)
  | .purge id => do return .removed (← s.purge id)

/-- Requests one after another, with the answers. -/
def serveAll (s : Store) : List Request → Procedure (List (Request × Answer))
  | [] => return []
  | r :: rest => do
    let answer ← s.serve r
    return (r, answer) :: (← serveAll s rest)

/-- Where the files of an instance lie. -/
def Holds (s : Store) (id : String) (l : Location) : Prop := ∃ n, Owns id n ∧ l = n :: s.dir.location

/-! ## What an instance does -/

/-- Actions on the files of an instance. -/
structure Own (s : Store) (id : String) (x : Action) : Prop where
  onFiles : x.OnFiles
  mine : ∀ p ∈ x.paths, ∃ n, Owns id n ∧ p = s.dir.child n

/-- What an instance may change: its own files, where the directory of the store exists. -/
structure Confined (s : Store) (id : String) (d d' : Disk) : Prop where
  directories : Disk.SameDirectories d d'
  files : ∀ l, ¬ s.Holds id l → d'.file? l = d.file? l
  outside : ¬ d.LeadsInto s.dir → d' = d

theorem Confined.refl (s : Store) (id : String) (d : Disk) : s.Confined id d d :=
  ⟨Disk.SameDirectories.refl d, fun _ _ => rfl, fun _ => rfl⟩

theorem Confined.trans {s : Store} {id : String} (d d' d'' : Disk) (first : s.Confined id d d')
    (second : s.Confined id d' d'') : s.Confined id d d'' where
  directories := first.directories.trans second.directories
  files := fun l others => (second.files l others).trans (first.files l others)
  outside := by
    intro outside
    have same := first.outside outside
    rw [second.outside (same ▸ outside), same]

end Store

theorem Retention.Owns.descends {id : String} {n : Name} (mine : Owns id n) : n.Descends := by
  cases mine with
  | finished read _ => exact FileName.descends_of_ofName? read
  | temp time => exact FileName.descends_tempText _

namespace Store

theorem confined_perform {s : Store} {id : String} {x : Action} (own : s.Own id x) :
    (Procedure.perform x).Keeps (s.Confined id) := by
  intro d
  rw [Procedure.run_perform]
  cases acted : d.act x with
  | error e => exact Confined.refl s id d
  | ok after =>
    have leads : ∀ p ∈ x.paths, ∀ l, d.locate p = .ok l → d.LeadsInto s.dir ∧ s.Holds id l := by
      intro p member l found
      obtain ⟨n, mine, rfl⟩ := own.mine p member
      obtain ⟨_, inside, same⟩ := (Disk.locate_child_eq_ok_iff mine.descends).mp found
      exact ⟨inside, n, mine, same⟩
    refine ⟨Disk.sameDirectories_act own.onFiles acted, ?_, ?_⟩
    · intro l others
      exact Disk.file?_act acted fun p member found => others (leads p member l found).2
    · intro outside
      rcases Disk.located_of_act own.onFiles acted with same | ⟨p, member, l, found⟩
      · exact same
      · exact absurd (leads p member l found).1 outside

theorem confined_of_only {s : Store} {id : String} {α : Type} {p : Procedure α} (only : p.Only (s.Own id)) :
    p.Keeps (s.Confined id) :=
  Procedure.keeps_of_only (Confined.refl s id) Confined.trans (fun _ own => confined_perform own) only

/-- An instance whose id can stand in a file name, and a name that it writes under. -/
theorem own_paths (s : Store) {n : FileName} (nameable : Nameable n.instanceId) :
    (∃ m, Owns n.instanceId m ∧ s.finalPath n = s.dir.child m) ∧ ∃ m, Owns n.instanceId m ∧ s.tempPath n = s.dir.child m :=
  ⟨⟨_, .final _ nameable.1 n.time, s.finalPath_eq_child nameable.2⟩,
    ⟨_, .temp n.time, s.tempPath_eq_child nameable.2⟩⟩

theorem only_place (s : Store) {n : FileName} (nameable : Nameable n.instanceId) (body : List UInt8) :
    (s.place n body).Only (s.Own n.instanceId) := by
  obtain ⟨final, temp⟩ := s.own_paths nameable
  have one {x : Action} (onFiles : x.OnFiles) (paths : x.paths = [s.tempPath n]) : s.Own n.instanceId x :=
    ⟨onFiles, fun p member => by rw [paths, List.mem_singleton] at member; exact member ▸ temp⟩
  have create : s.Own n.instanceId (.create (s.tempPath n)) := one (fun _ => by simp) rfl
  have append : s.Own n.instanceId (.append (s.tempPath n) body) := one (fun _ => by simp) rfl
  have remove : s.Own n.instanceId (.remove (s.tempPath n)) := one (fun _ => by simp) rfl
  have sync : s.Own n.instanceId (.sync (s.tempPath n)) := ⟨fun _ => by simp, by simp [Action.paths]⟩
  have rename : s.Own n.instanceId (.rename (s.tempPath n) (s.finalPath n)) := by
    refine ⟨fun _ => by simp, ?_⟩
    intro p member
    simp only [Action.paths, List.mem_cons, List.not_mem_nil, or_false] at member
    rcases member with rfl | rfl
    · exact temp
    · exact final
  refine (Procedure.Only.writeFile create append sync).bind ?_
  rintro (e | _)
  · exact (Procedure.Only.perform remove).bind fun _ => .done _
  · refine (Procedure.Only.perform rename).bind ?_
    rintro (e | _)
    · exact (Procedure.Only.perform remove).bind fun _ => .done _
    · exact .done _

theorem only_removeFiles {P : Action → Prop} {files : List SnapshotFile} (each : ∀ f ∈ files, P (.remove f.path)) :
    (removeFiles files).Only P := by
  induction files with
  | nil => exact .done _
  | cons f rest ih =>
    have ih := ih fun f member => each f (List.mem_cons_of_mem _ member)
    refine (Procedure.Only.perform (each f List.mem_cons_self)).bind ?_
    intro r
    split
    · exact ih.bind fun _ => .done _
    · exact ih
    · exact ih.bind fun _ => .done _

theorem own_of_list {s : Store} {d : Disk} {id : String} {files : List SnapshotFile} (listed : s.list id d = .ok files) :
    ∀ f ∈ files, s.Own id (.remove f.path) := by
  intro f member
  obtain ⟨_, n, stored, same⟩ := (mem_list_iff listed).mp member
  refine ⟨fun _ => by simp, fun p among => ?_⟩
  rw [Action.paths, List.mem_singleton] at among
  exact ⟨n, .finished stored.read rfl, by rw [among, same]; rfl⟩

theorem mem_of_mem_expired {now : UInt64} {keep : Span} {files : List SnapshotFile} {f : SnapshotFile}
    (member : f ∈ expired now keep files) : f ∈ files :=
  (List.dropLast_sublist files).subset (List.mem_of_mem_filter member)

theorem confined_placeFrom (s : Store) {snapshot : Snapshot} (nameable : Nameable snapshot.instanceId)
    (tried attempts : Nat) : (s.placeFrom snapshot tried attempts).Keeps (s.Confined snapshot.instanceId) := by
  induction attempts generalizing tried with
  | zero => exact Confined.refl s _
  | succ attempts ih =>
    refine Procedure.Keeps.bind Confined.trans (.observe (Confined.refl s _) _) ?_
    rintro (_ | _)
    · exact confined_of_only (s.only_place (n := nameAfter snapshot tried) nameable snapshot.render)
    · exact ih (tried + 1)

theorem confined_prune (s : Store) (id : String) (now : UInt64) (keep : Span) :
    (s.prune id now keep).Keeps (s.Confined id) := by
  intro d
  simp only [prune, Procedure.run_bind, Procedure.run_observe]
  split
  · exact Confined.refl s id d
  · next files listed =>
    rw [Procedure.run_bind]
    exact confined_of_only (only_removeFiles fun f member => own_of_list listed f (mem_of_mem_expired member)) d

theorem confined_purge (s : Store) (id : String) : (s.purge id).Keeps (s.Confined id) := by
  intro d
  simp only [purge, Procedure.run_bind, Procedure.run_observe]
  split
  · exact Confined.refl s id d
  · next files listed =>
    rw [Procedure.run_bind]
    exact confined_of_only (only_removeFiles (own_of_list listed)) d

/-- What a request changes on a disk on which making the directory of the store changes nothing. -/
theorem serve_confined {s : Store} {r : Request} (nameable : Nameable r.owner) {d : Disk}
    (settled : (s.prepare.run d).2 = d) : s.Confined r.owner d ((s.serve r).run d).2 := by
  cases r with
  | write snapshot =>
    simp only [serve, write, Procedure.run_bind]
    rw [settled]
    split
    · exact Confined.refl s _ d
    · exact s.confined_placeFrom nameable 0 nameAttempts d
  | list id => exact Confined.refl s id d
  | prune id now keep =>
    rw [serve, Procedure.run_bind]
    exact s.confined_prune id now keep d
  | purge id =>
    rw [serve, Procedure.run_bind]
    exact s.confined_purge id d

/-- A request leaves all files but those of its owner as they are, on every disk. -/
theorem serve_spares {s : Store} {r : Request} (nameable : Nameable r.owner) (d : Disk) {l : Location}
    (others : ¬ s.Holds r.owner l) : ((s.serve r).run d).2.file? l = d.file? l := by
  cases r with
  | write snapshot =>
    have grown := (Procedure.makeDirectories_grows s.dir d).files l
    simp only [serve, write, prepare, Procedure.run_bind]
    split
    · exact grown
    · exact ((s.confined_placeFrom nameable 0 nameAttempts _).files l others).trans grown
  | list id => rfl
  | prune id now keep =>
    rw [serve, Procedure.run_bind]
    exact (s.confined_prune id now keep d).files l others
  | purge id =>
    rw [serve, Procedure.run_bind]
    exact (s.confined_purge id d).files l others

/-! ## Writing on disks that look the same -/

section

variable {s : Store} {snapshot : Snapshot} {R : Disk → Disk → Prop}
  (inside : ∀ d d', R d d' → d.LeadsInto s.dir ∧ d'.LeadsInto s.dir)
  (seen : ∀ d d', R d d' → ∀ n : FileName, n.instanceId = snapshot.instanceId →
    d.get? (Name.ofText n.text :: s.dir.location) = d'.get? (Name.ofText n.text :: s.dir.location))
  (placed : ∀ n : FileName, n.instanceId = snapshot.instanceId → (s.place n snapshot.render).Indifferent R)

include inside seen placed

theorem indifferent_placeFrom (nameable : Nameable snapshot.instanceId) (tried attempts : Nat) :
    (s.placeFrom snapshot tried attempts).Indifferent R := by
  induction attempts generalizing tried with
  | zero => exact fun _ _ same => ⟨rfl, same⟩
  | succ attempts ih =>
    refine Procedure.Indifferent.bind (.observe ?_) ?_
    · intro d d' same
      have down := FileName.descends_text (nameAfter snapshot tried)
      rw [s.finalPath_eq_child nameable.2, Bool.eq_iff_iff, Disk.has_child_iff down, Disk.has_child_iff down,
        seen d d' same _ rfl]
      simp [inside d d' same]
    · rintro (_ | _)
      · exact placed _ rfl
      · exact ih (tried + 1)

/-- A snapshot is written in the same way on disks that hold the same under its names, if it is placed in
    the same way on them. -/
theorem indifferent_write_of_place (nameable : Nameable snapshot.instanceId) : (s.write snapshot).Indifferent R := by
  intro d d' same
  obtain ⟨here, there⟩ := inside d d' same
  rw [write, Procedure.run_bind, Procedure.run_bind, prepare, Procedure.makeDirectories_of_leadsInto here,
    Procedure.makeDirectories_of_leadsInto there]
  cases (if s.dir.isEmpty then .ok () else Disk.accept s.dir : Except DiskError Unit) with
  | error e => exact ⟨rfl, same⟩
  | ok u => exact indifferent_placeFrom inside seen placed nameable 0 nameAttempts d d' same

end

/-! ## What another instance notices -/

/-- Disks on which the directory of a store exists and all files are the same but those of one instance. -/
structure SameButFor (s : Store) (id : String) (d d' : Disk) : Prop where
  directories : Disk.SameDirectories d d'
  inside : d.LeadsInto s.dir
  files : ∀ l, ¬ s.Holds id l → d.file? l = d'.file? l

theorem SameButFor.refl {s : Store} {d : Disk} (id : String) (inside : d.LeadsInto s.dir) : s.SameButFor id d d :=
  ⟨Disk.SameDirectories.refl d, inside, fun _ _ => rfl⟩

/-- What the one instance does does not part the disks for others. -/
theorem SameButFor.step {s : Store} {id : String} {d d' after : Disk} (same : s.SameButFor id d d')
    (confined : s.Confined id d after) : s.SameButFor id after d' :=
  ⟨confined.directories.symm.trans same.directories, same.inside.congr confined.directories,
    fun l others => (confined.files l others).trans (same.files l others)⟩

section

variable {s : Store} {a b : String}

/-- Names of one instance are none of another one. -/
theorem not_holds (namedA : a ≠ "") (namedB : b ≠ "") (different : a ≠ b) {n : Name} (yours : Owns b n) :
    ¬ s.Holds a (n :: s.dir.location) := by
  rintro ⟨m, mine, same⟩
  cases List.cons.inj same |>.1
  exact different (mine.unique namedA namedB yours)

theorem indifferent_perform (namedA : a ≠ "") (namedB : b ≠ "") (different : a ≠ b) {x : Action} (own : s.Own b x) :
    (Procedure.perform x).Indifferent (s.SameButFor a) := by
  intro d d' same
  have agree : ∀ p ∈ x.paths, Disk.AgreeAt d d' p := by
    intro p member
    obtain ⟨n, yours, rfl⟩ := own.mine p member
    refine ⟨?_, fun l found => ?_⟩
    · rw [same.inside.locate_child yours.descends,
        (same.inside.congr same.directories).locate_child yours.descends]
    · obtain ⟨_, _, rfl⟩ := (Disk.locate_child_eq_ok_iff yours.descends).mp found
      exact Disk.get?_congr same.directories (same.files _ (not_holds namedA namedB different yours))
  rcases Procedure.run_perform_of_parallel (Disk.act_parallel same.directories own.onFiles agree) with
    ⟨e, went, went'⟩ | ⟨after, after', acted, went, went', directories, files⟩ <;> rw [went, went']
  · exact ⟨rfl, same⟩
  · exact ⟨rfl, directories, same.inside.congr (Disk.sameDirectories_act own.onFiles acted),
      fun l others => files l (same.files l others)⟩

theorem indifferent_of_only (namedA : a ≠ "") (namedB : b ≠ "") (different : a ≠ b) {α : Type} {p : Procedure α}
    (only : p.Only (s.Own b)) : p.Indifferent (s.SameButFor a) :=
  Procedure.indifferent_of_only (fun _ own => indifferent_perform namedA namedB different own) only

theorem list_sameButFor (namedA : a ≠ "") (namedB : b ≠ "") (different : a ≠ b) {d d' : Disk} (same : s.SameButFor a d d') :
    s.list b d = s.list b d' := by
  refine list_congr same.inside (same.inside.congr same.directories) ?_
  rintro n ⟨m, read, mine⟩
  exact same.files _ (not_holds namedA namedB different (.finished read mine))

theorem indifferent_write (namedA : a ≠ "") (different : a ≠ b) {snapshot : Snapshot} (yours : snapshot.instanceId = b)
    (nameable : Nameable b) : (s.write snapshot).Indifferent (s.SameButFor a) := by
  subst yours
  refine indifferent_write_of_place (fun d d' same => ⟨same.inside, same.inside.congr same.directories⟩) ?_ ?_ nameable
  · intro d d' same n mine
    have owned : Owns snapshot.instanceId (Name.ofText n.text) := mine ▸ .final _ (mine ▸ nameable.1) n.time
    exact Disk.get?_congr same.directories (same.files _ (not_holds namedA nameable.1 different owned))
  · intro n mine
    exact indifferent_of_only namedA nameable.1 different (mine ▸ s.only_place (mine ▸ nameable) snapshot.render)

theorem indifferent_prune (namedA : a ≠ "") (namedB : b ≠ "") (different : a ≠ b) (now : UInt64) (keep : Span) :
    (s.prune b now keep).Indifferent (s.SameButFor a) := by
  intro d d' same
  rw [prune, Procedure.run_bind, Procedure.run_bind, Procedure.run_observe, Procedure.run_observe,
    ← list_sameButFor namedA namedB different same]
  cases listed : s.list b d with
  | error e => exact ⟨rfl, same⟩
  | ok files =>
    have own (f : SnapshotFile) (member : f ∈ expired now keep files) := own_of_list listed f (mem_of_mem_expired member)
    have removed := indifferent_of_only namedA namedB different (only_removeFiles own)
    exact removed.bind (fun _ => .pure _) d d' same

theorem indifferent_purge (namedA : a ≠ "") (namedB : b ≠ "") (different : a ≠ b) :
    (s.purge b).Indifferent (s.SameButFor a) := by
  intro d d' same
  rw [purge, Procedure.run_bind, Procedure.run_bind, Procedure.run_observe, Procedure.run_observe,
    ← list_sameButFor namedA namedB different same]
  cases listed : s.list b d with
  | error e => exact ⟨rfl, same⟩
  | ok files =>
    have removed := indifferent_of_only namedA namedB different (only_removeFiles (own_of_list listed))
    exact removed.bind (fun _ => .pure _) d d' same

/-- A request goes the same way whatever files another instance has. -/
theorem indifferent_serve (namedA : a ≠ "") {r : Request} (nameable : Nameable r.owner) (different : a ≠ r.owner) :
    (s.serve r).Indifferent (s.SameButFor a) := by
  cases r with
  | write snapshot => exact (indifferent_write namedA different rfl nameable).bind fun _ => .pure _
  | list id =>
    have listed : (Procedure.observe (s.list id)).Indifferent (s.SameButFor a) :=
      .observe fun _ _ same => list_sameButFor namedA nameable.1 different same
    exact listed.bind fun _ => .pure _
  | prune id now keep => exact (indifferent_prune namedA nameable.1 different now keep).bind fun _ => .pure _
  | purge id => exact (indifferent_purge namedA nameable.1 different).bind fun _ => .pure _

end

/-! ## Requests in any order -/

theorem run_serveAll_cons (s : Store) (r : Request) (rest : List Request) (d : Disk) :
    (s.serveAll (r :: rest)).run d =
      ((r, ((s.serve r).run d).1) :: ((s.serveAll rest).run ((s.serve r).run d).2).1,
        ((s.serveAll rest).run ((s.serve r).run d).2).2) := by
  rw [serveAll, Procedure.run_bind, Procedure.run_bind]
  rfl

/-- Where the directory of the store does not exist, no request changes anything. -/
theorem serveAll_outside {s : Store} {d : Disk} (settled : (s.prepare.run d).2 = d) (outside : ¬ d.LeadsInto s.dir)
    (requests : List Request) (nameable : ∀ r ∈ requests, Nameable r.owner) :
    (s.serveAll requests).run d = (requests.map fun r => (r, ((s.serve r).run d).1), d) := by
  induction requests with
  | nil => rfl
  | cons r rest ih =>
    have stays : ((s.serve r).run d).2 = d :=
      (serve_confined (nameable r List.mem_cons_self) settled).outside outside
    rw [run_serveAll_cons, stays, ih fun r member => nameable r (List.mem_cons_of_mem _ member)]
    rfl

theorem settled_of_leadsInto {s : Store} {d : Disk} (inside : d.LeadsInto s.dir) : (s.prepare.run d).2 = d := by
  rw [prepare, Procedure.makeDirectories_of_leadsInto inside]

/-- From disks that differ in the files of one instance only, the others get the same answers and keep the
    same files when the requests of that instance are dropped. -/
theorem serveAll_sameButFor {s : Store} {a : String} (nameableA : Nameable a) (requests : List Request)
    (nameable : ∀ r ∈ requests, Nameable r.owner) {d d' : Disk} (same : s.SameButFor a d d') :
    let all := (s.serveAll requests).run d
    let without := (s.serveAll (requests.filter fun r => r.owner ≠ a)).run d'
    all.1.filter (fun answered => answered.1.owner ≠ a) = without.1 ∧ s.SameButFor a all.2 without.2 := by
  induction requests generalizing d d' with
  | nil => exact ⟨rfl, same⟩
  | cons r rest ih =>
    have ih := @ih fun r member => nameable r (List.mem_cons_of_mem _ member)
    have named := nameable r List.mem_cons_self
    simp only [run_serveAll_cons, List.filter_cons]
    by_cases mine : r.owner = a
    · -- the dropped request touches nothing that the others see
      have step := same.step (mine ▸ serve_confined named (settled_of_leadsInto same.inside))
      simpa [mine] using ih step
    · obtain ⟨answers, after⟩ := indifferent_serve nameableA.1 named (Ne.symm mine) d d' same
      obtain ⟨rest', last⟩ := ih after
      simp only [mine, ne_eq, not_false_eq_true, decide_true, if_true]
      rw [run_serveAll_cons, answers]
      exact ⟨congrArg _ rest', last⟩

/-- Instances that share a directory do not interfere. A request of one changes no file but the finished and
    the unfinished files of that instance, and none of these belongs to another one. From the moment at which
    the store is opened, whatever the disk was like before, the answers to all others and the files of all
    others are the same when the requests of the one are dropped. -/
theorem isolated (s : Store) {a b : String} (nameableA : Nameable a) (nameableB : Nameable b) (different : a ≠ b) :
    (∀ (d : Disk) (r : Request), r.owner = a → ∀ l, ¬ s.Holds a l → ((s.serve r).run d).2.file? l = d.file? l) ∧
    (∀ l, s.Holds b l → ¬ s.Holds a l) ∧
    (∀ (before : Disk) (requests : List Request), (∀ r ∈ requests, Nameable r.owner) →
      let opened := (s.prepare.run before).2
      let all := (s.serveAll requests).run opened
      let without := (s.serveAll (requests.filter fun r => r.owner ≠ a)).run opened
      all.1.filter (fun answered => answered.1.owner ≠ a) = without.1 ∧
        ∀ l, ¬ s.Holds a l → all.2.file? l = without.2.file? l) := by
  refine ⟨?_, ?_, ?_⟩
  · intro d r mine l others
    subst mine
    exact serve_spares nameableA d others
  · rintro l ⟨n, yours, rfl⟩
    exact not_holds nameableA.1 nameableB.1 different yours
  · intro before requests nameable opened all without
    by_cases inside : opened.LeadsInto s.dir
    · obtain ⟨answers, same⟩ := serveAll_sameButFor nameableA requests nameable (SameButFor.refl a inside)
      exact ⟨answers, same.files⟩
    · -- without a directory nobody changes anything, and dropping requests only drops answers
      have settled : (s.prepare.run opened).2 = opened := Procedure.makeDirectories_again s.dir before
      have whole : all = _ := serveAll_outside settled inside requests nameable
      have rest : without = _ := serveAll_outside settled inside (requests.filter fun r => r.owner ≠ a)
        fun r member => nameable r (List.mem_of_mem_filter member)
      rw [whole, rest]
      refine ⟨?_, fun _ _ => rfl⟩
      simp only [List.filter_map]
      rfl

/-- An id that extends another one: the one writes and is forgotten, and the other keeps what it wrote. -/
theorem isolated_extension :
    let s : Store := ⟨⟨[.here]⟩⟩
    let opened := (s.prepare.run .empty).2
    let snapshot (id : String) : Snapshot := ⟨id, "", "mongod", "wiredTiger", [], "7.0", 60, none, none, false, false, 5⟩
    let writes : List Request := [.write (snapshot "7-a"), .write (snapshot "a")]
    let written := ((s.serveAll writes).run opened).2
    let all := (s.serveAll (writes ++ [.purge "7-a", .list "a"])).run opened
    let without := (s.serveAll [.write (snapshot "a"), .list "a"]).run opened
    s.list "7-a" written = .ok [⟨Path.ofText "./5-7-a.json", "7-a", 5⟩] ∧ s.list "7-a" all.2 = .ok [] ∧
      s.list "a" all.2 = .ok [⟨Path.ofText "./5-a.json", "a", 5⟩] ∧
      all.2.read (Path.ofText "./5-a.json") = .ok (snapshot "a").render ∧
      all.1.filter (fun answered => answered.1.owner ≠ "7-a") = without.1 ∧
      ∀ l, ¬ s.Holds "7-a" l → all.2.file? l = without.2.file? l := by
  intro s opened snapshot writes written all without
  have apart := s.isolated (a := "7-a") (b := "a") (by decide) (by decide) (by decide)
  have nameable : ∀ r ∈ writes ++ [.purge "7-a", .list "a"], Nameable r.owner := by decide
  obtain ⟨answers, files⟩ := apart.2.2 .empty _ nameable
  exact ⟨by decide +kernel, by decide +kernel, by decide +kernel, by decide +kernel, answers, files⟩

end Store

end NodeTelemetry

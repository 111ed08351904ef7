import NodeTelemetry.Proofs.Disk.Change

/-!
# Making the directories of a path

Making directories touches no file and removes no directory. It succeeds exactly
where the path then leads into a directory, and what could not be made the first
time cannot be made the second time either (`Procedure.makeDirectories_again`).
-/

namespace NodeTelemetry

namespace Path

/-- The pieces of a path that move. -/
def moves (p : Path) : List Name := p.descent.filter fun n => !isStill n

/-- What is left of a list when the elements of one kind at its end are dropped. -/
theorem exists_dropped (P : Name → Bool) (l : List Name) :
    ∃ tail, l = (l.reverse.dropWhile P).reverse ++ tail ∧ (∀ n ∈ tail, P n = true) ∧
      ∀ n, (l.reverse.dropWhile P).reverse.getLast? = some n → P n = false := by
  refine ⟨(l.reverse.takeWhile P).reverse, ?_, ?_, ?_⟩
  · rw [← List.reverse_append, List.takeWhile_append_dropWhile, List.reverse_reverse]
  · intro n member
    exact List.all_eq_true.mp List.all_takeWhile n (List.mem_reverse.mp member)
  · intro n last
    rw [List.getLast?_reverse] at last
    have := List.head?_dropWhile_not P l.reverse
    rw [last] at this
    simpa using this

/-- The three ways in which a path starts. -/
theorem start_cases (p : Path) :
    (p.isAbsolute = true ∧ p.start = [.empty] ∧ ∃ n rest, p.pieces = .empty :: n :: rest) ∨
    (p.isAbsolute = false ∧ p.start = [.here] ∧ ∃ rest, p.pieces = .here :: rest) ∨
    (p.isAbsolute = false ∧ p.start = []) := by
  unfold start
  cases absolute : p.isAbsolute with
  | true =>
    refine .inl ⟨rfl, ?_⟩
    unfold isAbsolute at absolute
    split at absolute
    · next first n rest pieces =>
      have same : first = .empty := by simpa using absolute
      exact ⟨by simp [pieces, same], n, rest, by rw [pieces, same]⟩
    · cases absolute
  | false =>
    by_cases here : p.pieces.head? = some .here
    · obtain ⟨rest, pieces⟩ := List.head?_eq_some_iff.mp here
      exact .inr (.inl ⟨rfl, by simp [pieces], rest, pieces⟩)
    · exact .inr (.inr ⟨rfl, by simp [here]⟩)

theorem isAbsolute_of_append {ws rest : List Name} (relative : isAbsolute ⟨ws ++ rest⟩ = false) :
    isAbsolute ⟨ws⟩ = false := by
  match ws with
  | [] => rfl
  | [_] => rfl
  | _ :: _ :: _ => exact relative

/-- Cutting a path short keeps where it starts and the moves of what is left. -/
theorem ofStart_start (p : Path) {ws rest : List Name} (kept : p.pieces.drop p.start.length = ws ++ rest) :
    (ofStart p.start ws).origin = p.origin ∧ (ofStart p.start ws).moves = ws.filter fun n => !isStill n := by
  rcases start_cases p with ⟨absolute, start, -⟩ | ⟨absolute, start, -⟩ | ⟨absolute, start⟩
  · have top : p.origin = .top := by rw [origin, if_pos absolute]
    rw [start, top]
    cases ws with
    | nil => exact ⟨rfl, rfl⟩
    | cons n ws => exact ⟨by simp [ofStart, origin, isAbsolute], by simp [ofStart, moves, descent, isAbsolute]⟩
  · have relative : isAbsolute ⟨.here :: ws⟩ = false := by cases ws <;> rfl
    have still : isStill .here = true := rfl
    have shape : ofStart [.here] ws = ⟨.here :: ws⟩ := by simp [ofStart, Name.here, Name.empty]
    rw [start, shape]
    simp [origin, moves, descent, absolute, relative, still]
  · rw [start] at kept ⊢
    have pieces : p = ⟨ws ++ rest⟩ := by
      cases p
      exact congrArg Path.mk kept
    have relative : isAbsolute ⟨ws⟩ = false := isAbsolute_of_append (pieces ▸ absolute)
    have shape : ofStart [] ws = ⟨ws⟩ := by simp [ofStart]
    rw [shape]
    simp [origin, moves, descent, absolute, relative]

theorem moves_eq (p : Path) : p.moves = (p.pieces.drop p.start.length).filter fun n => !isStill n := by
  have still : isStill .here = true := rfl
  rcases start_cases p with ⟨absolute, start, _, _, pieces⟩ | ⟨absolute, start, _, pieces⟩ | ⟨absolute, start⟩
  · simp [moves, descent, absolute, start, pieces]
  · simp [moves, descent, absolute, start, pieces, still]
  · simp [moves, descent, absolute, start]

/-! ## Paths that a system takes -/

theorem length_le_append (ws rest : List Name) : length ⟨ws⟩ ≤ length ⟨ws ++ rest⟩ := by
  have grows (rest : List Name) : ∀ k, k ≤ rest.foldl (fun k m => k + 1 + m.bytes.length) k := by
    induction rest with
    | nil => exact fun k => Nat.le_refl k
    | cons m rest ih => exact fun k => Nat.le_trans (by omega) (ih (k + 1 + m.bytes.length))
  cases ws with
  | nil => exact Nat.zero_le _
  | cons n ws =>
    simp only [length, List.cons_append, List.foldl_append]
    exact grows rest _

theorem accept_eq_ok_iff {p : Path} :
    Disk.accept p = .ok () ↔
      (∀ n ∈ p.pieces, (0 : UInt8) ∉ n.bytes) ∧ p.isEmpty = false ∧ p.length ≤ maxLength := by
  unfold Disk.accept
  split
  · next nul =>
    refine iff_of_false (by simp) fun taken => ?_
    simp only [List.any_eq_true, List.contains_iff_mem] at nul
    obtain ⟨n, member, zero⟩ := nul
    exact taken.1 n member zero
  · next clean =>
    simp only [List.any_eq_true, List.contains_iff_mem, not_exists, not_and] at clean
    split
    · next empty => simp [empty]
    · next filled =>
      split
      · next long => exact iff_of_false (by simp) fun taken => absurd taken.2.2 (Nat.not_le.mpr long)
      · next short => exact iff_of_true rfl ⟨clean, by simpa using filled, Nat.not_lt.mp short⟩

/-- A path that is accepted is still accepted when it is cut short, unless nothing is left. -/
theorem accept_ofStart {p : Path} (accepted : Disk.accept p = .ok ()) {ws rest : List Name}
    (kept : p.pieces.drop p.start.length = ws ++ rest) (filled : (ofStart p.start ws).isEmpty = false) :
    Disk.accept (ofStart p.start ws) = .ok () := by
  obtain ⟨clean, _, short⟩ := accept_eq_ok_iff.mp accepted
  rw [accept_eq_ok_iff]
  by_cases bare : p.start = [.empty] ∧ ws = []
  · have shape : ofStart p.start ws = ⟨[.empty, .empty]⟩ := by simp [ofStart, bare]
    rw [shape]
    refine ⟨by simp [Name.empty], rfl, ?_⟩
    decide
  · have shape : ofStart p.start ws = ⟨p.start ++ ws⟩ := by simp [ofStart, bare]
    have whole : p.pieces = (p.start ++ ws) ++ rest := by
      rw [List.append_assoc, ← kept]
      rcases start_cases p with ⟨_, start, _, _, pieces⟩ | ⟨_, start, _, pieces⟩ | ⟨_, start⟩
      · simp [start, pieces]
      · simp [start, pieces]
      · simp [start]
    rw [shape] at filled ⊢
    refine ⟨?_, filled, ?_⟩
    · intro n member
      exact clean n (by rw [whole]; exact List.mem_append_left _ member)
    · refine Nat.le_trans (length_le_append (p.start ++ ws) rest) ?_
      rw [← whole]
      exact short

/-- A path below which a name is accepted is accepted itself, unless it is empty. -/
theorem accept_of_takes {p : Path} {n : Name} (takes : p.Takes n) (filled : p.isEmpty = false) :
    Disk.accept p = .ok () := by
  obtain ⟨clean, _, short⟩ := accept_eq_ok_iff.mp takes.1
  obtain ⟨front, pieces, same⟩ := child_pieces p n
  rw [pieces] at clean
  rw [accept_eq_ok_iff]
  have whole : p.child n = ⟨front ++ [n]⟩ := by
    cases h : p.child n
    simpa [h] using pieces
  rw [whole] at short
  refine ⟨?_, filled, Nat.le_trans ?_ short⟩
  · intro m member
    rcases same with ⟨same, _⟩ | same <;> rw [same] at member
    · exact clean m (List.mem_append_left _ member)
    · rcases List.mem_append.mp member with member | last
      · exact clean m (List.mem_append_left _ member)
      · simp [List.mem_singleton.mp last, Name.empty]
  · obtain ⟨all⟩ := p
    rcases same with ⟨same, _⟩ | same <;> cases same
    · exact length_le_append _ [n]
    · cases front with
      | nil => simp [length, Name.empty]
      | cons m front => simp [length, Name.empty]

/-- Slashes at the end of a path change neither where it leads nor whether it is accepted. -/
theorem withoutTrailingSlash_spec (p : Path) :
    p.withoutTrailingSlash.origin = p.origin ∧ p.withoutTrailingSlash.moves = p.moves ∧
      (Disk.accept p = .ok () → Disk.accept p.withoutTrailingSlash = .ok ()) := by
  obtain ⟨tail, kept, slashes, last⟩ := exists_dropped (fun n => decide (n = Name.empty)) (p.pieces.drop p.start.length)
  have still : tail.filter (fun n => !isStill n) = [] := by
    rw [List.filter_eq_nil_iff]
    intro n member
    simp [isStill, of_decide_eq_true (slashes n member)]
  obtain ⟨origin, moves⟩ := ofStart_start p kept
  refine ⟨origin, ?_, ?_⟩
  · rw [moves_eq p]
    refine moves.trans ?_
    rw [congrArg (List.filter _) kept, List.filter_append, still, List.append_nil]
  · intro accepted
    refine accept_ofStart accepted kept ?_
    have filled := (accept_eq_ok_iff.mp accepted).2.1
    generalize ((p.pieces.drop p.start.length).reverse.dropWhile _).reverse = ws at kept last
    rcases start_cases p with ⟨_, start, -⟩ | ⟨_, start, -⟩ | ⟨absolute, start⟩
    · rw [start]
      cases ws <;> simp [ofStart, isEmpty]
    · rw [start]
      simp [ofStart, isEmpty, Name.here, Name.empty]
    · rw [start] at kept ⊢
      rcases ws with _ | ⟨n, _ | ⟨m, ws⟩⟩
      · -- nothing but slashes: the path is empty or starts at the top
        have pieces : p.pieces = tail := by simpa using kept
        unfold isAbsolute at absolute
        unfold isEmpty at filled
        rw [pieces] at absolute filled
        rcases tail with _ | ⟨n, _ | ⟨m, tail⟩⟩
        · simp at filled
        · simp_all
        · simp_all
      · have := last n rfl
        simp_all [ofStart, isEmpty]
      · simp [ofStart, isEmpty]

/-- What holds the end of a path is reached by all of its moves but the last, if it has one. -/
theorem parent_spec {p above : Path} (parent : p.parent? = some above) :
    above.isEmpty = true ∧ p.moves = [] ∨
      above.origin = p.origin ∧ (∃ n, isStill n = false ∧ p.moves = above.moves ++ [n]) ∧
        (Disk.accept p = .ok () → above.isEmpty = false → Disk.accept above = .ok ()) := by
  obtain ⟨tail, kept, stills, last⟩ := exists_dropped isStill (p.pieces.drop p.start.length)
  unfold parent? at parent
  simp only at parent
  split at parent
  · next still =>
    split at parent
    · cases parent
      refine .inl ⟨rfl, ?_⟩
      unfold withoutStill at still
      rw [still, List.nil_append] at kept
      rw [moves_eq, kept, List.filter_eq_nil_iff]
      intro n member
      simp [stills n member]
    · cases parent
  · next m rest moving =>
    cases parent
    refine .inr ?_
    unfold withoutStill at moving
    rw [moving] at kept last
    obtain ⟨front, n, shape⟩ : ∃ front n, m :: rest = front ++ [n] :=
      ⟨(m :: rest).dropLast, (m :: rest).getLast (by simp), (List.dropLast_concat_getLast _).symm⟩
    rw [shape] at kept last ⊢
    rw [List.dropLast_append_of_ne_nil (by simp), List.dropLast_singleton, List.append_nil]
    obtain ⟨inner, keptFront, stillsFront, _⟩ := exists_dropped isStill front
    have cut : p.pieces.drop p.start.length = withoutStill front ++ (inner ++ [n] ++ tail) := by
      rw [kept, ← List.append_assoc, ← List.append_assoc]
      exact congrArg (fun l => l ++ [n] ++ tail) keptFront
    have moved : isStill n = false := last n (by simp)
    have none (l : List Name) (all : ∀ n ∈ l, isStill n = true) : l.filter (fun n => !isStill n) = [] := by
      rw [List.filter_eq_nil_iff]
      intro n member
      simp [all n member]
    obtain ⟨origin, moves⟩ := ofStart_start p cut
    refine ⟨origin, ⟨n, moved, ?_⟩, fun accepted filled => accept_ofStart accepted cut filled⟩
    rw [moves_eq p, moves, cut]
    simp [none inner stillsFront, none tail stills, moved]

/-- A path leads where its moves lead. -/
theorem location_eq_moves (p : Path) : p.location = p.moves.foldl Location.move p.origin := by
  rw [location, moves, List.foldl_filter]
  congr 1
  funext loc n
  by_cases still : isStill n = true
  · simp [still, Location.move]
  · simp [still]

/-- The locations that a path comes by: where it starts, and where each of its moves leads from there. -/
def PassesThrough (p : Path) (l : Location) : Prop :=
  ∃ front back, p.moves = front ++ back ∧ l = front.foldl Location.move p.origin

theorem passesThrough_location (p : Path) : p.PassesThrough p.location :=
  ⟨p.moves, [], by simp, p.location_eq_moves⟩

/-- A path comes by all that the path comes by which holds its end. -/
theorem PassesThrough.of_parent {p above : Path} (parent : p.parent? = some above) (filled : above.isEmpty = false)
    {l : Location} (passes : above.PassesThrough l) : p.PassesThrough l := by
  obtain ⟨front, back, moves, rfl⟩ := passes
  rcases parent_spec parent with ⟨empty, _⟩ | ⟨origin, ⟨n, _, all⟩, _⟩
  · cases filled.symm.trans empty
  · exact ⟨front, back ++ [n], by rw [all, moves, List.append_assoc], by rw [origin]⟩

end Path

namespace Disk

/-! ## Directories and what holds them -/

theorem walk_eq_moves (d : Disk) (p : Path) : d.walk p = p.moves.foldlM d.enter p.origin := by
  have dropped (pieces : List Name) :
      ∀ loc, pieces.foldlM d.enter loc = (pieces.filter fun n => !Path.isStill n).foldlM d.enter loc := by
    induction pieces with
    | nil => exact fun _ => rfl
    | cons piece rest ih =>
      intro loc
      rw [List.filter_cons, List.foldlM_cons]
      split
      · rw [List.foldlM_cons]
        exact congrArg (d.enter loc piece >>= ·) (funext ih)
      · next still =>
        have stays : d.enter loc piece = .ok loc := by
          unfold enter
          rw [if_pos (by simpa using still)]
        rw [stays]
        exact ih loc
  rw [walk_eq]
  exact dropped _ _

theorem walk_withoutTrailingSlash (d : Disk) (p : Path) : d.walk p.withoutTrailingSlash = d.walk p := by
  obtain ⟨origin, moves, _⟩ := Path.withoutTrailingSlash_spec p
  rw [walk_eq_moves, walk_eq_moves, origin, moves]

theorem makeDirectory_of_isDirectory {d : Disk} {p : Path} (directory : d.isDirectory p = true) :
    d.makeDirectory p = .error .exists := by
  obtain ⟨accepted, followed, stands⟩ := isDirectory_iff.mp directory
  have found : d.locate p.withoutTrailingSlash = .ok p.location :=
    locate_eq_ok_iff.mpr ⟨(Path.withoutTrailingSlash_spec p).2.2 accepted,
      by rw [walk_withoutTrailingSlash, followed], arrives_of_directory _ stands⟩
  unfold makeDirectory
  rw [accepted]
  simp only [bind, Except.bind]
  split
  · next failed => rw [found] at failed; cases failed
  · next again =>
    rw [found] at again
    cases again
    split
    · rfl
    · next free => rw [stands] at free; cases free

theorem isDirectory_of_makeDirectory {d d' : Disk} {p : Path} (made : d.makeDirectory p = .ok d') :
    d'.isDirectory p = true := by
  obtain ⟨accepted, loc, found, _, stands, _⟩ := makeDirectory_of_ok made
  have followed := (locate_eq_ok_iff.mp found).2.1
  rw [walk_withoutTrailingSlash] at followed
  cases walk_eq_location followed
  exact isDirectory_iff.mpr ⟨accepted, walk_mono (makeDirectory_grows made).directories followed, stands⟩

/-- Making a directory makes no other one. -/
theorem directory_of_makeDirectory {d d' : Disk} {p : Path} (made : d.makeDirectory p = .ok d') {l : Location}
    (there : d'.get? l = some .directory) : d.get? l = some .directory ∨ l = p.location := by
  obtain ⟨_, loc, found, _, _, rest⟩ := makeDirectory_of_ok made
  have followed := (locate_eq_ok_iff.mp found).2.1
  rw [walk_withoutTrailingSlash] at followed
  cases walk_eq_location followed
  by_cases here : l = p.location
  · exact .inr here
  · exact .inl (rest l here ▸ there)

/-- What a directory stands in is a directory. -/
theorem directory_of_suffix {d : Disk} {l above : Location} (directory : d.get? l = some .directory)
    (holds : above <:+ l) : d.get? above = some .directory := by
  induction l with
  | nil => rwa [List.suffix_nil.mp holds]
  | cons n rest ih =>
    rcases List.suffix_cons_iff.mp holds with rfl | inner
    · exact directory
    · refine ih ?_ inner
      by_cases top : n :: rest = Location.top
      · rw [(List.cons.inj top).2]
        simp [get?, lookup]
      · exact (placed_of_get? d (by simp [directory]) ⟨by simp, top⟩).held

/-- Every directory that a path leaves on its way up is there. Directories that it goes down into may still
    be missing. -/
def Followable (d : Disk) (p : Path) : Prop := d.walk p = .ok p.location

/-- A path is followed by following what holds its end, and then its last move. -/
theorem walk_parent {d : Disk} {p above : Path} (parent : p.parent? = some above) {loc : Location}
    (followed : d.walk p = .ok loc) :
    above.isEmpty = true ∨ d.Followable above ∧ (accept p = .ok () → above.isEmpty = false → accept above = .ok ()) ∧
      ∃ n, Path.isStill n = false ∧ d.enter above.location n = .ok loc := by
  rcases Path.parent_spec parent with ⟨empty, _⟩ | ⟨origin, ⟨n, moved, moves⟩, taken⟩
  · exact .inl empty
  · rw [walk_eq_moves, moves, List.foldlM_append, ← origin, ← walk_eq_moves, Except.bind_eq_ok_iff] at followed
    obtain ⟨before, reached, last⟩ := followed
    cases walk_eq_location reached
    exact .inr ⟨reached, taken, n, moved, by simpa using last⟩

/-- What a path passes through before its last move is what holds its end, or it goes up from there and
    directories are there already. -/
theorem held_of_parent {d : Disk} {p above : Path} (parent : p.parent? = some above) (followed : d.Followable p) :
    above.isEmpty = true ∨
      d.Followable above ∧ ∀ l, l <:+ above.location → d.get? l = some .directory ∨ l <:+ p.location.tail := by
  rcases walk_parent parent followed with empty | ⟨reached, _, n, moved, entered⟩
  · exact .inl empty
  · refine .inr ⟨reached, fun l holds => ?_⟩
    obtain ⟨moved', left⟩ := enter_eq_ok_iff.mp entered
    by_cases up : n = .up
    · exact .inl (directory_of_suffix (left up) holds)
    · rw [Location.move_of_descends ⟨moved, up⟩] at moved'
      exact .inr (by rwa [moved', List.tail_cons])

/-- What holds the end of a path is a directory, when the path can be followed. -/
theorem isDirectory_parent {d : Disk} {p above : Path} (parent : p.parent? = some above) (accepted : accept p = .ok ())
    {loc : Location} (followed : d.walk p = .ok loc)
    (held : loc ≠ [] → loc ≠ .top → d.get? loc.tail = some .directory) :
    above.isEmpty = true ∨ d.isDirectory above = true := by
  rcases walk_parent parent followed with empty | ⟨reached, taken, n, moved, entered⟩
  · exact .inl empty
  · cases filled : above.isEmpty with
    | true => exact .inl rfl
    | false =>
      refine .inr (isDirectory_iff.mpr ⟨taken accepted filled, reached, ?_⟩)
      obtain ⟨moved', left⟩ := enter_eq_ok_iff.mp entered
      by_cases up : n = .up
      · exact left up
      · rw [Location.move_of_descends ⟨moved, up⟩] at moved'
        by_cases root : loc = .top
        · have : above.location = [] := by
            rw [root, Location.top, List.cons.injEq] at moved'
            exact moved'.2.symm
          simp [this, get?, lookup]
        · have := held (by simp [moved']) root
          simpa [moved'] using this

theorem isDirectory_parent_of_isDirectory {d : Disk} {p above : Path} (parent : p.parent? = some above)
    (directory : d.isDirectory p = true) : above.isEmpty = true ∨ d.isDirectory above = true := by
  obtain ⟨accepted, followed, stands⟩ := isDirectory_iff.mp directory
  refine isDirectory_parent parent accepted followed ?_
  intro filled other
  exact (placed_of_get? d (by simp [stands]) ⟨filled, other⟩).held

theorem isDirectory_parent_of_makeDirectory {d d' : Disk} {p above : Path} (parent : p.parent? = some above)
    (made : d.makeDirectory p = .ok d') : above.isEmpty = true ∨ d.isDirectory above = true := by
  obtain ⟨accepted, loc, found, free, _, _⟩ := makeDirectory_of_ok made
  obtain ⟨_, followed, arrives⟩ := locate_eq_ok_iff.mp found
  rw [walk_withoutTrailingSlash] at followed
  refine isDirectory_parent parent accepted followed ?_
  intro _ _
  unfold Arrives at arrives
  split at arrives
  · rw [free] at arrives
    cases arrives
  · exact arrives.1

end Disk

namespace Procedure

open Disk

/-! ## Making all directories of a path -/

theorem run_makeDirectoriesUpTo_succ (depth : Nat) (p : Path) (d : Disk) :
    (makeDirectoriesUpTo (depth + 1) p).run d =
      if p.isEmpty then (.ok (), d)
      else
        match d.makeDirectory p with
        | .ok after => (.ok (), after)
        | .error .notFound =>
          match p.parent? with
          | none => (.error .notFound, d)
          | some above =>
            match (makeDirectoriesUpTo depth above).run d with
            | (.error e, between) => (.error e, between)
            | (.ok (), between) =>
              match between.makeDirectory p with
              | .ok after => (.ok (), after)
              | .error e => (if between.isDirectory p then .ok () else .error e, between)
        | .error e => (if d.isDirectory p then .ok () else .error e, d) := by
  rw [makeDirectoriesUpTo]
  split
  · rfl
  · rw [run_bind, run_perform, Disk.act]
    cases first : d.makeDirectory p with
    | ok after => rfl
    | error e =>
      have asked (e : DiskError) (d : Disk) :
          (do return if ← observe (·.isDirectory p) then .ok () else .error e : Procedure (Except DiskError Unit)).run d =
            (if d.isDirectory p then .ok () else .error e, d) := by
        rw [run_bind, run_observe]
        rfl
      cases e with
      | notFound =>
        cases p.parent? with
        | none => rfl
        | some above =>
          simp only [run_bind]
          rcases inner : (makeDirectoriesUpTo depth above).run d with ⟨made, between⟩
          cases made with
          | error e => rfl
          | ok u =>
            simp only [run_bind, run_perform, Disk.act]
            cases between.makeDirectory p with
            | ok after => rfl
            | error e => exact asked e between
      | _ => exact asked _ d

/-- Making directories touches no file. -/
theorem makeDirectoriesUpTo_grows (depth : Nat) (p : Path) (d : Disk) :
    Grows d ((makeDirectoriesUpTo depth p).run d).2 := by
  induction depth generalizing p d with
  | zero => exact Grows.refl d
  | succ depth ih =>
    rw [run_makeDirectoriesUpTo_succ]
    split
    · exact Grows.refl d
    · split
      · next made => exact makeDirectory_grows made
      · split
        · exact Grows.refl d
        · next above _ =>
          have inner := ih above d
          split
          · next failed => rwa [failed] at inner
          · next made =>
            rw [made] at inner
            split
            · next last => exact inner.trans (makeDirectory_grows last)
            · exact inner
      · exact Grows.refl d

/-- Where the path leads into a directory already, nothing is done. -/
theorem makeDirectoriesUpTo_of_isDirectory (depth : Nat) {p : Path} {d : Disk}
    (directory : p.isEmpty = true ∨ d.isDirectory p = true) :
    (makeDirectoriesUpTo (depth + 1) p).run d = (.ok (), d) := by
  rw [run_makeDirectoriesUpTo_succ]
  split
  · rfl
  · next filled =>
    have directory := directory.resolve_left filled
    rw [makeDirectory_of_isDirectory directory]
    simp [directory]

/-- Where making directories succeeds, the path leads into a directory afterwards. -/
theorem isDirectory_of_makeDirectoriesUpTo {depth : Nat} {p : Path} {d after : Disk}
    (made : (makeDirectoriesUpTo depth p).run d = (.ok (), after)) :
    p.isEmpty = true ∨ after.isDirectory p = true := by
  cases depth with
  | zero => cases made
  | succ depth =>
    have asked {d : Disk} {e : DiskError}
        (last : ((if d.isDirectory p then .ok () else .error e : Except DiskError Unit), d) = (.ok (), after)) :
        after.isDirectory p = true := by
      obtain ⟨answer, rfl⟩ := Prod.mk.inj last
      split at answer
      · assumption
      · cases answer
    rw [run_makeDirectoriesUpTo_succ] at made
    split at made
    · next empty => exact .inl empty
    · refine .inr ?_
      split at made
      · next first =>
        cases made
        exact isDirectory_of_makeDirectory first
      · split at made
        · cases made
        · split at made
          · cases made
          · split at made
            · next last =>
              cases made
              exact isDirectory_of_makeDirectory last
            · exact asked made
      · exact asked made

/-- Where making directories fails, the path leads into no directory afterwards. -/
theorem not_isDirectory_of_makeDirectoriesUpTo {depth : Nat} {p : Path} {d after : Disk} {e : DiskError}
    (failed : (makeDirectoriesUpTo depth p).run d = (.error e, after)) :
    depth = 0 ∧ after = d ∨ p.isEmpty = false ∧ after.isDirectory p = false := by
  induction depth generalizing p d e with
  | zero =>
    cases failed
    exact .inl ⟨rfl, rfl⟩
  | succ depth ih =>
    refine .inr ?_
    have asked {d : Disk} {e e' : DiskError}
        (last : ((if d.isDirectory p then .ok () else .error e' : Except DiskError Unit), d) = (.error e, after)) :
        after.isDirectory p = false := by
      obtain ⟨answer, rfl⟩ := Prod.mk.inj last
      split at answer
      · cases answer
      · next none => simpa using none
    rw [run_makeDirectoriesUpTo_succ] at failed
    split at failed
    · cases failed
    · next filled =>
      refine ⟨by simpa using filled, ?_⟩
      split at failed
      · cases failed
      · next missing =>
        have none : d.isDirectory p = false := by
          refine Bool.eq_false_iff.mpr fun directory => ?_
          rw [makeDirectory_of_isDirectory directory] at missing
          cases missing
        split at failed
        · cases failed
          exact none
        · next above parent =>
          split at failed
          · next inner =>
            cases failed
            rcases ih inner with ⟨_, rfl⟩ | ⟨filled, noneAbove⟩
            · exact none
            · refine Bool.eq_false_iff.mpr fun directory => ?_
              rcases isDirectory_parent_of_isDirectory parent directory with empty | there
              · simp [empty] at filled
              · simp [there] at noneAbove
          · split at failed
            · cases failed
            · exact asked failed
      · exact asked failed

theorem makeDirectoriesUpTo_stays {depth : Nat} {p : Path} {d : Disk}
    (blocked : ∀ after, d.makeDirectory p ≠ .ok after)
    (inner : ∀ above, p.parent? = some above → ((makeDirectoriesUpTo depth above).run d).2 = d) :
    ((makeDirectoriesUpTo (depth + 1) p).run d).2 = d := by
  rw [run_makeDirectoriesUpTo_succ]
  split
  · rfl
  · split
    · next made => exact absurd made (blocked _)
    · split
      · rfl
      · next above parent =>
        have stays := inner above parent
        split
        · next failed => rwa [failed] at stays
        · next made =>
          rw [made] at stays
          cases stays
          split
          · next last => exact absurd last (blocked _)
          · rfl
    · rfl

/-- Making the same directories again changes nothing, whether the first time succeeded or failed. -/
theorem makeDirectoriesUpTo_again (depth : Nat) (p : Path) (d : Disk) :
    ((makeDirectoriesUpTo depth p).run ((makeDirectoriesUpTo depth p).run d).2).2 =
      ((makeDirectoriesUpTo depth p).run d).2 := by
  induction depth generalizing p d with
  | zero => rfl
  | succ depth ih =>
    rcases first : (makeDirectoriesUpTo (depth + 1) p).run d with ⟨made, after⟩
    cases made with
    | ok u => rw [makeDirectoriesUpTo_of_isDirectory depth (isDirectory_of_makeDirectoriesUpTo first)]
    | error e =>
      -- the same run again, unless directories above the path were made in between
      have same (still : after = d) : ((makeDirectoriesUpTo (depth + 1) p).run after).2 = after := by
        rw [still, first, still]
      have unfolded := first
      rw [run_makeDirectoriesUpTo_succ] at unfolded
      split at unfolded
      · cases unfolded
      · split at unfolded
        · cases unfolded
        · next missing =>
          split at unfolded
          · cases unfolded
            exact same rfl
          · next above parent =>
            have again := ih above d
            split at unfolded
            · next inner =>
              cases unfolded
              rw [inner] at again
              refine makeDirectoriesUpTo_stays ?_ ?_
              · intro last made
                rcases not_isDirectory_of_makeDirectoriesUpTo inner with ⟨_, rfl⟩ | ⟨filled, none⟩
                · rw [missing] at made
                  cases made
                · rcases isDirectory_parent_of_makeDirectory parent made with empty | there
                  · simp [empty] at filled
                  · simp [there] at none
              · intro other parent'
                rw [parent] at parent'
                cases parent'
                exact again
            · next inner =>
              rw [inner] at again
              split at unfolded
              · cases unfolded
              · next failed =>
                obtain ⟨_, rfl⟩ := Prod.mk.inj unfolded
                refine makeDirectoriesUpTo_stays ?_ ?_
                · intro last made
                  rw [failed] at made
                  cases made
                · intro other parent'
                  rw [parent] at parent'
                  cases parent'
                  exact again
        · exact same (Prod.mk.inj unfolded).2.symm

/-! ## Which directories are made -/

theorem makeDirectoriesUpTo_of_isEmpty (depth : Nat) {p : Path} (empty : p.isEmpty = true) (d : Disk) :
    ((makeDirectoriesUpTo depth p).run d).2 = d := by
  cases depth with
  | zero => rfl
  | succ depth => rw [makeDirectoriesUpTo_of_isDirectory depth (.inl empty)]

/-- For a path that goes up from directories only, no directories are made but the one it leads to and
    those that hold it. -/
theorem directory_of_makeDirectoriesUpTo {depth : Nat} {p : Path} {d : Disk} (followed : d.Followable p) {l : Location}
    (there : ((makeDirectoriesUpTo depth p).run d).2.get? l = some .directory) :
    d.get? l = some .directory ∨ l <:+ p.location := by
  induction depth generalizing p d l with
  | zero => exact .inl there
  | succ depth ih =>
    rw [run_makeDirectoriesUpTo_succ] at there
    split at there
    · exact .inl there
    · split at there
      · next made =>
        rcases directory_of_makeDirectory made there with old | rfl
        · exact .inl old
        · exact .inr (List.suffix_refl _)
      · split at there
        · exact .inl there
        · next above parent =>
          -- what is made above the path holds the path, or the path goes up from there and it was there before
          have inner {l : Location} (there : ((makeDirectoriesUpTo depth above).run d).2.get? l = some .directory) :
              d.get? l = some .directory ∨ l <:+ p.location := by
            rcases held_of_parent parent followed with empty | ⟨reached, held⟩
            · rw [makeDirectoriesUpTo_of_isEmpty depth empty] at there
              exact .inl there
            · rcases ih reached there with old | holds
              · exact .inl old
              · exact (held l holds).imp_right fun holds => holds.trans (List.tail_suffix _)
          split at there
          · next failed =>
            rw [failed] at inner
            exact inner there
          · next made =>
            rw [made] at inner
            split at there
            · next last =>
              rcases directory_of_makeDirectory last there with old | rfl
              · exact inner old
              · exact .inr (List.suffix_refl _)
            · exact inner there
      · exact .inl there

/-! ## The directories of a path -/

theorem makeDirectories_grows (p : Path) (d : Disk) : Grows d ((makeDirectories p).run d).2 :=
  makeDirectoriesUpTo_grows _ p d

theorem makeDirectories_of_isDirectory {p : Path} {d : Disk} (directory : p.isEmpty = true ∨ d.isDirectory p = true) :
    (makeDirectories p).run d = (.ok (), d) := makeDirectoriesUpTo_of_isDirectory _ directory

/-- In a directory nothing is done either, even if the path is one that the system refuses. -/
theorem makeDirectories_of_leadsInto {p : Path} {d : Disk} (inside : d.LeadsInto p) :
    (makeDirectories p).run d = (if p.isEmpty then .ok () else accept p, d) := by
  cases filled : p.isEmpty with
  | true => exact makeDirectories_of_isDirectory (.inl filled)
  | false =>
    cases accepted : accept p with
    | ok u => exact makeDirectories_of_isDirectory (.inr (isDirectory_iff.mpr ⟨accepted, inside⟩))
    | error e =>
      have refused : d.makeDirectory p = .error e := by
        unfold makeDirectory
        rw [accepted]
        rfl
      have outside : d.isDirectory p = false := by
        refine Bool.eq_false_iff.mpr fun directory => ?_
        rw [(isDirectory_iff.mp directory).1] at accepted
        cases accepted
      have found : e ≠ .notFound := by
        rintro rfl
        unfold accept at accepted
        split at accepted
        · cases accepted
        · rw [filled, if_neg (by simp)] at accepted
          split at accepted <;> cases accepted
      rw [makeDirectories, run_makeDirectoriesUpTo_succ, filled, refused]
      cases e with
      | notFound => exact absurd rfl found
      | _ => simp [outside]

theorem isDirectory_of_makeDirectories {p : Path} {d after : Disk} (made : (makeDirectories p).run d = (.ok (), after)) :
    p.isEmpty = true ∨ after.isDirectory p = true := isDirectory_of_makeDirectoriesUpTo made

theorem directory_of_makeDirectories {p : Path} {d : Disk} (followed : d.Followable p) {l : Location}
    (there : ((makeDirectories p).run d).2.get? l = some .directory) : d.get? l = some .directory ∨ l <:+ p.location :=
  directory_of_makeDirectoriesUpTo followed there

theorem makeDirectories_again (p : Path) (d : Disk) :
    ((makeDirectories p).run ((makeDirectories p).run d).2).2 = ((makeDirectories p).run d).2 :=
  makeDirectoriesUpTo_again _ p d

end Procedure

end NodeTelemetry

import Mathlib.Logic.Function.Basic
import NodeTelemetry.Control.Surface

/-!
# Updates that happen at once

Any number of callers update one surface, and their steps interleave in any
order. What they publish is a sequence in which each state comes from the one
before it by one request (`Callers.linearizable`): no update is lost, none is
applied twice, and a call that publishes nothing has decided so on parameters
that were in force while it was under way.

A call that returns changed parameters has published these and nothing else. One
that returns unchanged parameters has seen these in force, where its request
changes nothing; one that is refused has seen parameters of which its request
makes invalid ones. So the parameters in force at last are the initial ones with
the requests of those that published, in the order of the publications.
-/

namespace NodeTelemetry

/-- A surface and the calls that update it. -/
structure Callers (ι : Type) where
  surface : Surface
  calls : ι → Call

/-- Between its first step and its return, a call is under way. -/
def Call.isUnderWay : Call → Bool
  | .start => false
  | .done _ => false
  | _ => true

namespace Callers

variable {ι : Type}

/-- Callers of whom none has made a step. -/
def new (s : Surface) : Callers ι := ⟨s, fun _ => .start⟩

/-- What was published last, or what was in force before. The last publication stands first. -/
def inForce (initial : Control) : List (ι × Control) → Control
  | [] => initial
  | (_, c) :: _ => c

variable [DecidableEq ι] (f : ι → Control → Control)

/-- One step of one call; each caller asks for a request of its own. -/
def step (w : Callers ι) (i : ι) : Callers ι :=
  let stepped := Call.step (f i) w.surface (w.calls i)
  ⟨stepped.1, Function.update w.calls i stepped.2⟩

/-- The callers after steps in a certain order, the last step first. -/
def after (w : Callers ι) : List ι → Callers ι
  | [] => w
  | i :: past => (after w past).step f i

/-- What a step publishes. A new stamp shows that it does. -/
def published? (w : Callers ι) (i : ι) : Option Control :=
  if (w.step f i).surface.stamp = w.surface.stamp then none else some (w.step f i).surface.current

/-- What was published and by whom, the last publication first. -/
def publications (w : Callers ι) : List ι → List (ι × Control)
  | [] => []
  | i :: past => ((w.after f past).published? f i).toList.map (i, ·) ++ publications w past

/-- The publications of one caller. -/
def publicationsOf (w : Callers ι) (past : List ι) (i : ι) : List (ι × Control) :=
  (w.publications f past).filter (·.1 = i)

/-- Parameters that were in force at some moment while a call was under way. -/
def Saw (w : Callers ι) (past : List ι) (i : ι) (c : Control) : Prop :=
  ∃ earlier, earlier <:+ past ∧ ((w.after f earlier).calls i).isUnderWay = true ∧ (w.after f earlier).surface.current = c

/-- A stamp that tells whether these parameters are still the ones in force. -/
def Tells (w : Callers ι) (base : Control) (stamp : Nat) : Prop :=
  stamp ≤ w.surface.stamp ∧ (w.surface.stamp = stamp → w.surface.current = base)

/-- What the history says about a call that has come so far. -/
def Accounted (w : Callers ι) (past : List ι) (i : ι) : Call → Prop
  | .start => w.publicationsOf f past i = []
  | .loaded base stamp => w.publicationsOf f past i = [] ∧ w.Saw f past i base ∧ (w.after f past).Tells base stamp
  | .ready stamp next => w.publicationsOf f past i = [] ∧ next.Valid ∧
      ∃ base, next = f i base ∧ next ≠ base ∧ (w.after f past).Tells base stamp
  | .waking next => w.publicationsOf f past i = [(i, next)]
  | .done (.published next) => w.publicationsOf f past i = [(i, next)]
  | .done (.unchanged c) => w.publicationsOf f past i = [] ∧ w.Saw f past i c ∧ f i c = c
  | .done (.refused fault) => w.publicationsOf f past i = [] ∧ ∃ c, w.Saw f past i c ∧ (f i c).validate = .error fault

variable {f}

/-! ## One step -/

theorem calls_step_self (w : Callers ι) (i : ι) :
    (w.step f i).calls i = (Call.step (f i) w.surface (w.calls i)).2 := by
  simp [step]

theorem calls_step_of_ne (w : Callers ι) {i j : ι} (other : j ≠ i) : (w.step f i).calls j = w.calls j := by
  simp [step, other]

/-- What a step does to the surface: it publishes what its call has made ready, or it leaves the parameters
    and their stamp alone. -/
theorem step_cases (w : Callers ι) (i : ι) :
    (∃ next, w.calls i = .ready w.surface.stamp next ∧ (w.step f i).surface.stamp = w.surface.stamp + 1 ∧
      (w.step f i).surface.current = next ∧ (w.step f i).calls i = .waking next) ∨
    ((∀ next, w.calls i ≠ .ready w.surface.stamp next) ∧ (w.step f i).surface.stamp = w.surface.stamp ∧
      (w.step f i).surface.current = w.surface.current) := by
  rw [calls_step_self]
  unfold step
  cases come : w.calls i with
  | start => simp [Call.step]
  | loaded base stamp =>
    refine .inr ⟨by simp, ?_⟩
    simp only [Call.step]
    split
    · exact ⟨rfl, rfl⟩
    · split <;> exact ⟨rfl, rfl⟩
  | ready stamp next =>
    by_cases same : w.surface.stamp = stamp
    · refine .inl ⟨next, ?_⟩
      simp [Call.step, same]
    · refine .inr ⟨?_, ?_⟩
      · intro other
        simp [Ne.symm same]
      · simp [Call.step, same]
  | waking next => simp [Call.step]
  | done result => simp [Call.step]

theorem published?_of_ready {w : Callers ι} {i : ι} {next : Control} (ready : w.calls i = .ready w.surface.stamp next) :
    w.published? f i = some next := by
  unfold published?
  rcases w.step_cases (f := f) i with ⟨other, come, stamp, current, _⟩ | ⟨idle, _⟩
  · cases ready.symm.trans come
    rw [stamp, current, if_neg (by omega)]
  · exact absurd ready (idle next)

theorem published?_of_not_ready {w : Callers ι} {i : ι} (idle : ∀ next, w.calls i ≠ .ready w.surface.stamp next) :
    w.published? f i = none := by
  unfold published?
  rcases w.step_cases (f := f) i with ⟨next, come, _⟩ | ⟨_, stamp, _⟩
  · exact absurd come (idle next)
  · rw [if_pos stamp]

/-- What one stamp tells is told until the end, whoever makes a step. -/
theorem Tells.step {w : Callers ι} {base : Control} {stamp : Nat} (tells : w.Tells base stamp) (i : ι) :
    (w.step f i).Tells base stamp := by
  obtain ⟨old, same⟩ := tells
  unfold Tells
  rcases w.step_cases (f := f) i with ⟨_, _, stamps, _, _⟩ | ⟨_, stamps, current⟩
  · rw [stamps]
    exact ⟨by omega, fun new => by omega⟩
  · rw [stamps, current]
    exact ⟨old, same⟩

/-! ## The history of a step -/

variable {w : Callers ι} {past : List ι}

theorem Saw.cons {i : ι} {c : Control} (saw : w.Saw f past i c) (j : ι) : w.Saw f (j :: past) i c := by
  obtain ⟨earlier, before, rest⟩ := saw
  exact ⟨earlier, before.trans (List.suffix_cons j past), rest⟩

theorem publications_of_ready {i : ι} {next : Control}
    (ready : (w.after f past).calls i = .ready (w.after f past).surface.stamp next) :
    w.publications f (i :: past) = (i, next) :: w.publications f past := by
  simp [publications, published?_of_ready ready]

theorem publications_of_not_ready {i : ι}
    (idle : ∀ next, (w.after f past).calls i ≠ .ready (w.after f past).surface.stamp next) :
    w.publications f (i :: past) = w.publications f past := by
  simp [publications, published?_of_not_ready idle]

theorem publicationsOf_of_not_ready {i : ι}
    (idle : ∀ next, (w.after f past).calls i ≠ .ready (w.after f past).surface.stamp next) (j : ι) :
    w.publicationsOf f (i :: past) j = w.publicationsOf f past j := by
  unfold publicationsOf
  rw [publications_of_not_ready idle]

theorem publicationsOf_of_ne {i j : ι} (other : j ≠ i) : w.publicationsOf f (i :: past) j = w.publicationsOf f past j := by
  rcases (w.after f past).step_cases (f := f) i with ⟨next, ready, _⟩ | ⟨idle, _⟩
  · simp [publicationsOf, publications_of_ready ready, Ne.symm other]
  · exact publicationsOf_of_not_ready idle j

/-- What is known of a call stays known, until the call itself moves or publishes. -/
theorem Accounted.cons {i j : ι} {call : Call} (accounted : w.Accounted f past i call)
    (own : w.publicationsOf f (j :: past) i = w.publicationsOf f past i) : w.Accounted f (j :: past) i call := by
  have tells {base : Control} {stamp : Nat} (told : (w.after f past).Tells base stamp) :
      (w.after f (j :: past)).Tells base stamp := told.step j
  cases call with
  | start => exact own.trans accounted
  | loaded base stamp =>
    obtain ⟨unpublished, saw, told⟩ := accounted
    exact ⟨own.trans unpublished, saw.cons j, tells told⟩
  | ready stamp next =>
    obtain ⟨unpublished, valid, base, comes, differs, told⟩ := accounted
    exact ⟨own.trans unpublished, valid, base, comes, differs, tells told⟩
  | waking next => exact own.trans accounted
  | done result =>
    cases result with
    | published next => exact own.trans accounted
    | unchanged c =>
      obtain ⟨unpublished, saw, same⟩ := accounted
      exact ⟨own.trans unpublished, saw.cons j, same⟩
    | refused fault =>
      obtain ⟨unpublished, c, saw, invalid⟩ := accounted
      exact ⟨own.trans unpublished, c, saw.cons j, invalid⟩

/-- A call that loads has seen what it loaded in this very moment, and its stamp tells whether it stays. -/
theorem accounted_of_load {i : ι}
    (idle : ∀ next, (w.after f past).calls i ≠ .ready (w.after f past).surface.stamp next)
    (none : w.publicationsOf f past i = [])
    (loaded : (w.after f (i :: past)).calls i =
      .loaded (w.after f past).surface.current (w.after f past).surface.stamp) :
    w.Accounted f (i :: past) i ((w.after f (i :: past)).calls i) := by
  rcases (w.after f past).step_cases (f := f) i with ⟨next, ready, _⟩ | ⟨_, stamp, current⟩
  · exact absurd ready (idle next)
  · have under : ((w.after f (i :: past)).calls i).isUnderWay = true := by rw [loaded]; rfl
    rw [loaded]
    refine ⟨(publicationsOf_of_not_ready idle i).trans none, ⟨i :: past, List.suffix_refl _, under, current⟩, ?_⟩
    exact ⟨Nat.le_of_eq stamp.symm, fun _ => current⟩

/-- What is known of a call stays known through its own step. -/
theorem Accounted.self {i : ι} (accounted : w.Accounted f past i ((w.after f past).calls i)) :
    w.Accounted f (i :: past) i ((w.after f (i :: past)).calls i) := by
  have stepped : (w.after f (i :: past)).calls i = _ := calls_step_self (w.after f past) i
  cases come : (w.after f past).calls i with
  | start =>
    rw [come] at accounted stepped
    exact accounted_of_load (by simp [come]) accounted stepped
  | loaded base stamp =>
    rw [come] at accounted stepped
    have own : w.publicationsOf f (i :: past) i = _ := publicationsOf_of_not_ready (by simp [come]) i
    obtain ⟨unpublished, saw, told⟩ := accounted
    simp only [Call.step] at stepped
    split at stepped
    · next fault refused =>
      rw [stepped]
      exact ⟨own.trans unpublished, base, saw.cons i, refused⟩
    · next accepted =>
      have valid := (Control.validate_eq_ok_iff _).mp accepted
      split at stepped
      · next same =>
        rw [stepped]
        exact ⟨own.trans unpublished, saw.cons i, same⟩
      · next differs =>
        rw [stepped]
        exact ⟨own.trans unpublished, valid, base, rfl, differs, told.step i⟩
  | ready stamp next =>
    rw [come] at accounted stepped
    obtain ⟨unpublished, _⟩ := accounted
    by_cases same : (w.after f past).surface.stamp = stamp
    · subst same
      simp only [Call.step, if_true] at stepped
      rw [stepped]
      have published := publications_of_ready come
      simp only [publicationsOf] at unpublished
      simp [Accounted, publicationsOf, published, unpublished]
    · -- another caller has published since, so the call loads again
      simp only [Call.step, if_neg same] at stepped
      refine accounted_of_load ?_ unpublished stepped
      intro other ready
      cases come.symm.trans ready
      exact same rfl
  | waking next =>
    rw [come] at accounted stepped
    rw [stepped]
    exact (publicationsOf_of_not_ready (by simp [come]) i).trans accounted
  | done result =>
    rw [come] at accounted stepped
    rw [stepped]
    exact accounted.cons (publicationsOf_of_not_ready (by simp [come]) i)

/-- A caller has published once if its call has come behind its publication, and never before that. -/
theorem Accounted.publicationsOf_cases {i : ι} {call : Call} (accounted : w.Accounted f past i call) :
    w.publicationsOf f past i = [] ∨
      ∃ c, w.publicationsOf f past i = [(i, c)] ∧ (call = .waking c ∨ call = .done (.published c)) := by
  cases call with
  | start => exact .inl accounted
  | loaded base stamp => exact .inl accounted.1
  | ready stamp next => exact .inl accounted.1
  | waking next => exact .inr ⟨next, accounted, .inl rfl⟩
  | done result =>
    cases result with
    | published next => exact .inr ⟨next, accounted, .inr rfl⟩
    | unchanged c => exact .inl accounted.1
    | refused fault => exact .inl accounted.1

/-! ## Whole histories -/

/-- What the publications of a history say about the surface and the calls that it has come to. -/
structure Accounts (f : ι → Control → Control) (w : Callers ι) (past : List ι) : Prop where
  current : (w.after f past).surface.current = inForce w.surface.current (w.publications f past)
  linked : ∀ later i c earlier, w.publications f past = later ++ (i, c) :: earlier →
    c.Valid ∧ c = f i (inForce w.surface.current earlier) ∧ c ≠ inForce w.surface.current earlier
  calls : ∀ i, w.Accounted f past i ((w.after f past).calls i)

theorem accounts_new (s : Surface) : Accounts f (new s) [] where
  current := rfl
  linked := by simp [publications]
  calls := fun _ => rfl

theorem Accounts.cons (accounts : Accounts f w past) (i : ι) : Accounts f w (i :: past) where
  calls := by
    intro j
    by_cases mine : j = i
    · subst mine
      exact (accounts.calls j).self
    · have still : (w.after f (i :: past)).calls j = _ := calls_step_of_ne (w.after f past) mine
      rw [still]
      exact (accounts.calls j).cons (publicationsOf_of_ne mine)
  current := by
    rcases (w.after f past).step_cases (f := f) i with ⟨next, ready, _, current, _⟩ | ⟨idle, _, current⟩
    · rw [publications_of_ready ready]
      exact current
    · rw [publications_of_not_ready idle]
      exact current.trans accounts.current
  linked := by
    rcases (w.after f past).step_cases (f := f) i with ⟨next, ready, _⟩ | ⟨idle, _⟩
    · rw [publications_of_ready ready]
      intro later j c earlier split
      cases later with
      | cons first later => exact accounts.linked later j c earlier (List.cons.inj split).2
      | nil =>
        -- the publication of this step comes from what its stamp tells to be in force
        obtain ⟨same, rfl⟩ := List.cons.inj split
        cases same
        have known := accounts.calls i
        rw [ready] at known
        obtain ⟨_, valid, base, comes, differs, _, told⟩ := known
        have base_eq := (told rfl).symm.trans accounts.current
        exact ⟨valid, base_eq ▸ comes, base_eq ▸ differs⟩
    · rw [publications_of_not_ready idle]
      exact accounts.linked

theorem accounts (f : ι → Control → Control) (s : Surface) (past : List ι) : Accounts f (new s) past := by
  induction past with
  | nil => exact accounts_new s
  | cons i past ih => exact ih.cons i

omit [DecidableEq ι] in
/-- Publications that come one from the other are the requests applied one after the other. -/
theorem inForce_eq_foldr {initial : Control} {published : List (ι × Control)}
    (linked : ∀ later i c earlier, published = later ++ (i, c) :: earlier → c = f i (inForce initial earlier)) :
    inForce initial published = published.foldr (fun p c => f p.1 c) initial := by
  induction published with
  | nil => rfl
  | cons p earlier ih =>
    obtain ⟨i, c⟩ := p
    have first : c = f i (inForce initial earlier) := linked [] i c earlier rfl
    rw [List.foldr_cons, ← ih]
    · exact first
    · intro later j c' rest split
      exact linked ((i, c) :: later) j c' rest (by rw [split]; rfl)

/-- Updates are linearizable. However the steps of callers interleave, every published state is valid, differs from
    the one before it and comes from it by the request of its caller, who publishes once. A call that publishes
    nothing has seen parameters in force that its request leaves as they are or makes invalid. -/
theorem linearizable (f : ι → Control → Control) {s : Surface} (valid : s.current.Valid) (past : List ι) :
    let start : Callers ι := new s
    let last := start.after f past
    let published := start.publications f past
    (∀ later i c earlier, published = later ++ (i, c) :: earlier →
      c.Valid ∧ c = f i (inForce s.current earlier) ∧ c ≠ inForce s.current earlier) ∧
    (∀ i c, last.calls i = .done (.published c) → published.filter (·.1 = i) = [(i, c)]) ∧
    (∀ i c, last.calls i = .done (.unchanged c) →
      published.filter (·.1 = i) = [] ∧ start.Saw f past i c ∧ f i c = c) ∧
    (∀ i fault, last.calls i = .done (.refused fault) →
      published.filter (·.1 = i) = [] ∧ ∃ c, start.Saw f past i c ∧ (f i c).validate = .error fault) ∧
    (∀ i, (published.filter (·.1 = i)).length ≤ 1) ∧
    (∀ i c, (i, c) ∈ published → last.calls i = .waking c ∨ last.calls i = .done (.published c)) ∧
    last.surface.current = inForce s.current published ∧
    last.surface.current = published.foldr (fun p c => f p.1 c) s.current ∧
    last.surface.current.Valid := by
  intro start last published
  have known : Accounts f start past := accounts f s past
  have own (i : ι) := (known.calls i).publicationsOf_cases
  have called {i : ι} {call : Call} (come : last.calls i = call) : start.Accounted f past i call := come ▸ known.calls i
  refine ⟨known.linked, fun i c come => called come, fun i c come => called come, fun i fault come => called come,
    ?_, ?_, known.current, ?_, ?_⟩
  · intro i
    rcases own i with none | ⟨c, one, _⟩
    · simp [published, show published.filter (·.1 = i) = [] from none]
    · simp [show published.filter (·.1 = i) = [(i, c)] from one]
  · intro i c member
    have mine : (i, c) ∈ published.filter (·.1 = i) := by simp [member]
    rcases own i with none | ⟨c', one, come⟩
    · rw [show published.filter (·.1 = i) = [] from none] at mine
      cases mine
    · rw [show published.filter (·.1 = i) = [(i, c')] from one, List.mem_singleton] at mine
      cases mine
      exact come
  · have linked := inForce_eq_foldr fun later i c earlier split => (known.linked later i c earlier split).2.1
    exact known.current.trans linked
  · have current : last.surface.current = inForce s.current published := known.current
    rw [current]
    cases all : published with
    | nil => exact valid
    | cons p earlier => exact (known.linked [] p.1 p.2 earlier all).1

/-- Two callers load the same parameters. The one that comes second starts again from what the first has
    published, so that both requests are in force at last. -/
theorem linearizable_race :
    let f (second : Bool) : Control → Control :=
      if second then (ControlChange.mk none none none (some ⟨5⟩)).apply
      else (ControlChange.mk (some true) none none none).apply
    let s : Surface := ⟨⟨false, ⟨0⟩, ⟨1000000000⟩, ⟨0⟩⟩, 0, false⟩
    let past := [true, true, true, true, false, false, true, false, true, false]
    s.current.Valid ∧ ((new s).after f past).surface.current = ⟨true, ⟨0⟩, ⟨1000000000⟩, ⟨5⟩⟩ ∧
      ((new s).publications f past).map (·.1) = [true, false] := by
  intro f s past
  have published : (new s).publications f past =
      [(true, ⟨true, ⟨0⟩, ⟨1000000000⟩, ⟨5⟩⟩), (false, ⟨true, ⟨0⟩, ⟨1000000000⟩, ⟨0⟩⟩)] := by decide
  have applied := (linearizable f (s := s) (by decide) past).2.2.2.2.2.2.1
  rw [published] at applied
  exact ⟨by decide, applied, by rw [published]; rfl⟩

end Callers

end NodeTelemetry

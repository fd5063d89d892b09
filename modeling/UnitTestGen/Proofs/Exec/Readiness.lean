import UnitTestGen.Proofs.Exec.Survivors

/-! A runner serves one cycle after the other, whatever becomes of each. A part of a cycle leaves
the runner where it stands or enters the next states of a route, and if it fails it has come some
way on that route. So a cycle that starts in the idle state never asks for a step that is not there,
and where it ends, done or put back to idle, the next one can start. Only a container can bring in
a refused step, as an error of its own that the cycle it is written in passes on. -/

namespace UnitTestGen

def ExecError.IsRefusal (e : ExecError) : Prop :=
  ∃ origin target, e = .invalidTransition origin target

namespace Progress

def along (p : Progress) (route : List RunnerState) : Progress :=
  route.foldl (fun p target => ⟨target, target :: p.visited⟩) p

theorem along_cons (p : Progress) (target : RunnerState) (route : List RunnerState) :
    p.along (target :: route) = along ⟨target, target :: p.visited⟩ route := rfl

theorem visited_along (p : Progress) (route : List RunnerState) :
    (p.along route).visited = route.reverse ++ p.visited := by
  induction route generalizing p with
  | nil => rfl
  | cons target route ih => simp [along_cons, ih]

end Progress

namespace Cycle

section Walks

variable {m : Type → Type} {S : Type} [Monad m] [Stateful m S] {α β : Type}
  {origin target : RunnerState} {route : List RunnerState}

/-- A part of a cycle that starts in a state goes all of a route if it succeeds, and some of it if
it fails, for another reason than a refused step. -/
def Walks (origin : RunnerState) (route : List RunnerState) (act : Cycle m α) : Prop :=
  ∀ p s, p.state = origin →
    match exec act (p, s) with
    | (.ok _, q, _) => q = p.along route
    | (.error e, q, _) => ¬ e.IsRefusal ∧ ∃ part, part <+: route ∧ q = p.along part

namespace Walks

theorem pure (a : α) : Walks origin [] (Pure.pure a : Cycle m α) := by
  intro p s _
  rw [exec_pure]
  rfl

theorem throw {e : ExecError} (he : ¬ e.IsRefusal) :
    Walks origin route (MonadExcept.throw e : Cycle m α) := by
  intro p s _
  rw [show exec (MonadExcept.throw e : Cycle m α) (p, s) = _ from exec_throw e (p, s)]
  exact ⟨he, [], List.nil_prefix, rfl⟩

theorem lift (x : m α) : Walks origin [] (liftM x : Cycle m α) := by
  intro p s _
  rw [exec_lift]
  rfl

theorem after {act : Cycle m α} {f : α → Cycle m β} (h : Walks origin [] act)
    (hf : ∀ a, Walks origin route (f a)) : Walks origin route (act >>= f) := by
  intro p s hp
  have hact := h p s hp
  rw [exec_bind]
  rcases hend : exec act (p, s) with ⟨e | a, q, s'⟩ <;> rw [hend] at hact
  · obtain ⟨he, part, hpart, hq⟩ := hact
    obtain rfl := List.prefix_nil.1 hpart
    exact ⟨he, [], List.nil_prefix, hq⟩
  · obtain rfl : q = p := hact
    exact hf a q s' hp

theorem step_then {f : Unit → Cycle m β} (h : origin.canStep target)
    (hf : Walks target route (f ())) :
    Walks origin (target :: route) (step target >>= f) := by
  intro p s hp
  have hrest := hf ⟨target, target :: p.visited⟩ s rfl
  rw [exec_bind, exec_step, hp, if_pos h]
  dsimp only
  rcases hend : exec (f ()) (⟨target, target :: p.visited⟩, s) with ⟨e | a, q, s'⟩ <;>
    rw [hend] at hrest
  · obtain ⟨he, part, hpart, hq⟩ := hrest
    exact ⟨he, target :: part, List.cons_prefix_cons.2 ⟨rfl, hpart⟩, hq⟩
  · exact hrest

end Walks

theorem walks_file (r : Except IoFault α) : Walks origin [] (file r : Cycle m α) := by
  cases r with
  | ok a => exact .pure a
  | error e => exact .throw nofun

theorem walks_except {r : Except ExecError α} (h : ∀ e, r = .error e → ¬ e.IsRefusal) :
    Walks origin [] (liftM r : Cycle m α) := by
  intro p s _
  rw [exec_except]
  cases r with
  | ok a => rfl
  | error e => exact ⟨h e rfl, [], List.nil_prefix, rfl⟩

theorem walks_ofReport (text : String) :
    Walks origin [] (liftM (CoverageSummary.ofReport text) : Cycle m CoverageSummary) := by
  refine walks_except fun e he => ?_
  rcases CoverageSummary.exists_of_ofReport_error he with rfl | ⟨field, rfl | ⟨value, rfl⟩⟩ <;>
    exact nofun

variable [Host m]

theorem walks_launch (command : Command) :
    Walks origin [] (launch command : Cycle m Outcome) := by
  refine .after (.lift _) fun r => ?_
  cases r with
  | ok o => exact .pure o
  | error e => exact .throw nofun

theorem walks_mustSucceed (command : Command) :
    Walks origin [] (mustSucceed command : Cycle m Outcome) := by
  refine .after (walks_launch command) fun o => ?_
  split
  · exact .pure o
  · exact .throw nofun

theorem walks_openLog (path : String) :
    Walks origin [] (openLog path : Cycle m Unit) :=
  .after (.lift _) fun r => walks_file r

theorem walks_checkRoot (root : String) :
    Walks origin [] (checkRoot root : Cycle m Unit) := by
  refine .after (.lift _) fun b => ?_
  split
  · exact .pure ()
  · exact .throw nofun

theorem walks_resetLogs (c : RunnerConfig) :
    Walks origin [] (resetLogs c : Cycle m Unit) :=
  .after (.lift _) fun made => .after (walks_file made) fun _ =>
    .after (.lift _) fun emptied => .after (walks_file emptied) fun _ =>
      .after (.lift _) fun r => walks_file r

theorem walks_clearDirectory (directory : String) :
    Walks origin [] (clearDirectory directory : Cycle m Unit) := by
  refine .after (.lift _) fun made => .after (walks_file made) fun _ => ?_
  refine .after (.lift _) fun listed => .after (walks_file listed) fun names => ?_
  induction names with
  | nil => exact .pure ()
  | cons name names ih =>
    refine .after (.after (.lift _) fun isFile => ?_) fun _ => ih
    split
    · exact .after (.lift _) fun removed => walks_file removed
    · exact .pure ()

theorem walks_rawProfiles (directory : String) :
    Walks origin [] (rawProfiles directory : Cycle m (List String)) :=
  .after (.lift _) fun listed => .after (walks_file listed) fun _ => .pure _

theorem walks_reportScript (c : RunnerConfig) :
    Walks origin [] (reportScript c : Cycle m String) := by
  unfold reportScript
  split
  · exact .pure _
  · exact .after (.lift _) fun d => .after (walks_file d) fun _ => .pure _

theorem walks_plain (c : RunnerConfig) (root : String) :
    Walks .idle [.collecting, .merging, .reporting, .done]
      (plain c root : Cycle m CoverageSummary) := by
  unfold plain
  refine .after (walks_checkRoot root) fun _ => .after (walks_resetLogs c) fun _ => ?_
  refine .after (walks_clearDirectory _) fun _ => .step_then rfl ?_
  refine .after (walks_openLog _) fun _ => .after (walks_openLog _) fun _ => ?_
  refine .after (walks_mustSucceed _) fun _ => .step_then rfl ?_
  refine .after (walks_rawProfiles _) fun _ => ?_
  refine .after (walks_openLog _) fun _ => .after (walks_openLog _) fun _ => ?_
  refine .after (walks_mustSucceed _) fun _ => .step_then rfl ?_
  refine .after (walks_reportScript c) fun _ => .after (walks_openLog _) fun _ => ?_
  refine .after (walks_mustSucceed _) fun _ => .after (walks_ofReport _) fun _ => ?_
  exact .step_then rfl (.pure _)

end Walks
end Cycle

theorem SourceContainer.refresh_ne_invalidTransition {W : Type} [Host (StateM W)]
    (k : SourceContainer) (w : W) (origin target : RunnerState) :
    ((k.refresh : StateM W _).run w).1 ≠ .error (.invalidTransition origin target) := by
  unfold SourceContainer.refresh
  rw [StateT.run_bind]
  rcases (readText k.sourcePath : StateM W _).run w with ⟨e | source, w'⟩
  · exact nofun
  · change ((Host.writeFile k.sourcePath (k.refreshed source).toUTF8 >>= _ :
      StateM W _).run w').1 ≠ _
    rw [StateT.run_bind]
    rcases (Host.writeFile k.sourcePath _ : StateM W _).run w' with ⟨e | u, w''⟩ <;> exact nofun

namespace TracedCycle

open UnitTestGen.Cycle

variable {W κ σ γ : Type} {origin : RunnerState}

theorem walks_onStore {α : Type} (act : σ → StateM W (Except StoreError α × σ)) :
    Walks origin [] (onStore act : TracedCycle κ σ (StateM W) α) := by
  rintro p ⟨⟨k, store⟩, w⟩ -
  rw [exec_onStore]
  cases ((act store).run w).1.1 with
  | ok a => rfl
  | error e => exact ⟨nofun, [], List.nil_prefix, rfl⟩

variable [Container (StateM W) κ γ]
variable [Host (StateM W)] [TraceStore (StateM W) σ]

theorem walks_judge (c : RunnerConfig) :
    Walks .idle [.instrumentedRun]
      (judge c : TracedCycle κ σ (StateM W) (Option (List UInt64 × Traces))) := by
  have hworkspace (origin : RunnerState) : Walks origin []
      (getThe (Workspace κ σ) : TracedCycle κ σ (StateM W) _) := fun _ _ _ => rfl
  unfold judge
  refine .after (hworkspace _) fun _ => .after (walks_checkRoot _) fun _ => ?_
  refine .after (walks_onStore _) fun _ => .after (walks_resetLogs c) fun _ => .step_then rfl ?_
  refine .after (hworkspace _) fun _ => ?_
  refine .after (.lift _) fun made => .after (walks_file made) fun _ => ?_
  refine .after (walks_launch _) fun built => .after (.lift _) fun _ => ?_
  refine .after (.lift _) fun kept => .after (walks_file kept) fun _ => ?_
  refine .after (walks_openLog _) fun _ => .after (walks_launch _) fun tested => ?_
  refine .after (.lift _) fun _ => .after (.lift _) fun kept => .after (walks_file kept) fun _ => ?_
  split
  · exact .pure none
  · exact .after (walks_onStore _) fun _ => .pure _

variable [Chromosome γ]

/-- A cycle comes to write what is left of its population into the crate, and the container answers
with the error. -/
def RefreshFails (c : RunnerConfig) (s : Workspace κ σ × W) (e : ExecError) : Prop :=
  ∃ ids traces p k store w,
    exec (judge c : TracedCycle κ σ (StateM W) (Option (List UInt64 × Traces))) (.initial, s) =
      (.ok (some (ids, traces)), p, ⟨k, store⟩, w) ∧
    ((Container.refresh (m := StateM W) (Container.withChromosomes (m := StateM W) k
      (surviving ids traces (Container.chromosomes (m := StateM W) k)))).run w).1.1 = .error e

theorem route_traced (c : RunnerConfig) (s : Workspace κ σ × W) :
    match exec (traced c : TracedCycle κ σ (StateM W) (RunStatus γ)) (.initial, s) with
    | (.ok (.ok _), q, _) => q = Progress.initial.along [.instrumentedRun, .done]
    | (.ok .compilationError, q, _) => q = Progress.initial.along [.instrumentedRun]
    | (.error e, q, _) => (e.IsRefusal → RefreshFails c s e) ∧
        ∃ part, part <+: [.instrumentedRun, .done] ∧ q = Progress.initial.along part := by
  -- judging refuses no step, so a refusal can only come from writing the container
  have hjudge := walks_judge (W := W) (κ := κ) (σ := σ) c .initial s rfl
  rw [exec_traced]
  rcases hjudged : exec (judge c : TracedCycle κ σ (StateM W) _) (.initial, s)
    with ⟨e | _ | ⟨ids, traces⟩, q, ⟨k, store⟩, w⟩ <;> rw [hjudged] at hjudge
  · obtain ⟨he, part, hpart, hq⟩ := hjudge
    exact ⟨fun h => absurd h he, part, hpart.trans (List.prefix_append _ [RunnerState.done]), hq⟩
  · exact hjudge
  · obtain rfl : q = Progress.initial.along [.instrumentedRun] := hjudge
    dsimp only
    rw [exec_settle ids traces rfl]
    dsimp only
    rcases hout : (Container.refresh (m := StateM W) (Container.withChromosomes (m := StateM W) k
      (surviving ids traces (Container.chromosomes (m := StateM W) k)))).run w
      with ⟨⟨e | u, k'⟩, w'⟩
    · refine ⟨fun _ => ⟨ids, traces, _, k, store, w, hjudged, ?_⟩, [.instrumentedRun],
        List.prefix_append _ [RunnerState.done], rfl⟩
      rw [hout]
    · rfl

theorem traced_of_refreshFails {c : RunnerConfig} {s : Workspace κ σ × W} {e : ExecError}
    (h : RefreshFails c s e) :
    (exec (traced c : TracedCycle κ σ (StateM W) (RunStatus γ)) (.initial, s)).1 = .error e := by
  obtain ⟨ids, traces, p, k, store, w, hjudged, hrefresh⟩ := h
  have hp : p = Progress.initial.along [.instrumentedRun] := by
    have hjudge := walks_judge (W := W) (κ := κ) (σ := σ) c .initial s rfl
    rwa [hjudged] at hjudge
  rw [exec_traced, hjudged]
  dsimp only
  rw [exec_settle ids traces (by rw [hp]; rfl)]
  dsimp only
  rcases hout : (Container.refresh (m := StateM W) (Container.withChromosomes (m := StateM W) k
    (surviving ids traces (Container.chromosomes (m := StateM W) k)))).run w
    with ⟨⟨e' | u, k'⟩, w'⟩ <;> rw [hout] at hrefresh <;> cases hrefresh
  rfl

end TracedCycle

inductive CycleCall : Type 1 where
  | plain {W : Type} [Host (StateM W)] (root : String) (w : W)
  | traced {W κ σ γ : Type} [Host (StateM W)] [Chromosome γ] [Container (StateM W) κ γ]
    [TraceStore (StateM W) σ] (k : κ) (store : σ) (w : W)

inductive CycleEnd where
  | finished
  | uncompiled
  | failed (e : ExecError)
  deriving DecidableEq

namespace CycleEnd

def ofSummary : Except ExecError CoverageSummary → CycleEnd
  | .ok _ => finished
  | .error e => failed e

def ofStatus {γ : Type} : Except ExecError (RunStatus γ) → CycleEnd
  | .ok (.ok _) => finished
  | .ok .compilationError => uncompiled
  | .error e => failed e

def state : CycleEnd → RunnerState
  | finished => .done
  | uncompiled | failed _ => .idle

end CycleEnd

namespace CycleCall

def route : CycleCall → List RunnerState
  | plain _ _ => [.collecting, .merging, .reporting, .done]
  | traced _ _ _ => [.instrumentedRun, .done]

def RefreshFails (config : RunnerConfig) (e : ExecError) : CycleCall → Prop
  | plain _ _ => False
  | traced k store w => TracedCycle.RefreshFails config (⟨k, store⟩, w) e

def perform (r : Runner) : CycleCall → CycleEnd × Runner
  | plain root w =>
    let out := ((r.runAt root : StateM _ _).run w).1
    (.ofSummary out.1, out.2)
  | traced k store w =>
    let out := ((r.runTraced k store : StateM _ _).run w).1
    (.ofStatus out.1, out.2.1)

end CycleCall

structure Served where
  call : CycleCall
  origin : RunnerState
  ending : CycleEnd
  runner : Runner

namespace Served

def entered (s : Served) : List RunnerState := s.runner.progress.visited.reverse

end Served

namespace Runner

def serve (r : Runner) : List CycleCall → List Served
  | [] => []
  | call :: calls =>
    let out := call.perform r
    ⟨call, r.progress.started.state, out.1, out.2⟩ :: out.2.serve calls

theorem runAt_eq {W : Type} [Host (StateM W)] (r : Runner) (root : String) (w : W) :
    (r.runAt root : StateM W _).run w =
      let out := Cycle.exec (Cycle.plain r.config root : Cycle (StateM W) _) (r.progress.started, w)
      let p := match out.1 with
        | .ok _ => out.2.1
        | .error _ => out.2.1.aborted
      ((out.1, { r with progress := p }), out.2.2) := rfl

structure EndsWell (config : RunnerConfig) (call : CycleCall) (ending : CycleEnd) (r : Runner) :
    Prop where
  config_eq : r.config = config
  state_eq : r.state = ending.state
  visited_prefix : r.progress.visited.reverse <+: call.route
  visited_eq : ending = .finished → r.progress.visited.reverse = call.route
  refused_iff : ∀ e, e.IsRefusal → (ending = .failed e ↔ call.RefreshFails config e)

theorem started_eq_initial {p : Progress} (h : p.started.state = .idle) : p.started = .initial := by
  unfold Progress.started at h ⊢
  dsimp only at h
  rw [h]
  rfl

theorem reverse_visited_along (route : List RunnerState) :
    (Progress.initial.along route).visited.reverse = route := by
  rw [Progress.visited_along]
  simp [Progress.initial]

theorem reverse_visited_prefix {part route : List RunnerState} (h : part <+: route) :
    (Progress.initial.along part).visited.reverse <+: route := by
  rwa [reverse_visited_along]

theorem endsWell_plain {W : Type} [Host (StateM W)] {r : Runner}
    (h : r.progress.started.state = .idle) (root : String) (w : W) :
    EndsWell r.config (.plain root w) ((CycleCall.plain root w).perform r).1
      ((CycleCall.plain root w).perform r).2 := by
  have hwalks := Cycle.walks_plain (m := StateM W) r.config root .initial w rfl
  simp only [CycleCall.perform, runAt_eq, started_eq_initial h]
  rcases hend : Cycle.exec (Cycle.plain r.config root : Cycle (StateM W) _) (.initial, w)
    with ⟨e | summary, q, w'⟩ <;> rw [hend] at hwalks
  · obtain ⟨he, part, hpart, rfl⟩ := hwalks
    refine ⟨rfl, rfl, reverse_visited_prefix hpart, nofun, fun e' he' => ⟨?_, False.elim⟩⟩
    rintro ⟨⟩
    exact he he'
  · obtain rfl := hwalks
    exact ⟨rfl, rfl, reverse_visited_prefix List.prefix_rfl, fun _ => reverse_visited_along _,
      fun _ _ => ⟨nofun, False.elim⟩⟩

theorem endsWell_traced {W κ σ γ : Type} [Host (StateM W)] [Chromosome γ] [Container (StateM W) κ γ]
    [TraceStore (StateM W) σ] {r : Runner} (h : r.progress.started.state = .idle) (k : κ)
    (store : σ) (w : W) :
    EndsWell r.config (.traced k store w) ((CycleCall.traced k store w).perform r).1
      ((CycleCall.traced k store w).perform r).2 := by
  have hroute := TracedCycle.route_traced (γ := γ) r.config (⟨k, store⟩, w)
  have hfails : ∀ e, (CycleCall.traced k store w).RefreshFails r.config e →
      (Cycle.exec (TracedCycle.traced r.config : TracedCycle κ σ (StateM W) (RunStatus γ))
        (.initial, ⟨k, store⟩, w)).1 = .error e := fun _ => TracedCycle.traced_of_refreshFails
  simp only [CycleCall.perform, runTraced_eq, started_eq_initial h]
  generalize Cycle.exec (TracedCycle.traced r.config : TracedCycle κ σ (StateM W) (RunStatus γ))
    (.initial, ⟨k, store⟩, w) = out at hroute hfails ⊢
  rcases out with ⟨e | failed | -, q, s'⟩
  · obtain ⟨he, part, hpart, rfl⟩ := hroute
    refine ⟨rfl, rfl, reverse_visited_prefix hpart, nofun, fun e' he' => ⟨?_, fun hf => ?_⟩⟩
    · rintro ⟨⟩
      exact he he'
    · cases hfails e' hf
      rfl
  · obtain rfl := hroute
    exact ⟨rfl, rfl, reverse_visited_prefix List.prefix_rfl, fun _ => reverse_visited_along _,
      fun e _ => ⟨nofun, fun hf => nomatch hfails e hf⟩⟩
  · obtain rfl := hroute
    exact ⟨rfl, rfl, reverse_visited_prefix (List.prefix_append _ [RunnerState.done]), nofun,
      fun e _ => ⟨nofun, fun hf => nomatch hfails e hf⟩⟩

theorem endsWell_perform {r : Runner} (h : r.progress.started.state = .idle) (call : CycleCall) :
    EndsWell r.config call (call.perform r).1 (call.perform r).2 := by
  cases call with
  | plain root w => exact endsWell_plain h root w
  | traced k store w => exact endsWell_traced h k store w

theorem EndsWell.started {config : RunnerConfig} {call : CycleCall} {ending : CycleEnd} {r : Runner}
    (h : EndsWell config call ending r) : r.progress.started.state = .idle := by
  have hstate : r.progress.state = ending.state := h.state_eq
  unfold Progress.started
  dsimp only
  rw [hstate]
  cases ending <;> rfl

theorem endsWell_of_mem_serve {r : Runner} (h : r.progress.started.state = .idle)
    {calls : List CycleCall} {s : Served} (hs : s ∈ r.serve calls) :
    s.origin = .idle ∧ EndsWell r.config s.call s.ending s.runner := by
  induction calls generalizing r with
  | nil => exact nomatch hs
  | cons call calls ih =>
    have hends := endsWell_perform h call
    rcases List.mem_cons.1 hs with rfl | hs
    · exact ⟨h, hends⟩
    · rw [← hends.config_eq]
      exact ih hends.started hs

/-- Whatever a runner is asked for, each cycle starts in the idle state and goes through the states
of its route, all of them if it finishes; then the runner is done, and otherwise it is idle again. A
step is refused only where the container of the cycle itself says so when the cycle writes it, which
one that is kept in a source file never does. -/
theorem ready_for_next_exact (config : RunnerConfig) (calls : List CycleCall) :
    (∀ s ∈ (Runner.new config).serve calls,
      s.origin = .idle ∧ s.runner.state = s.ending.state ∧ s.entered <+: s.call.route ∧
        (s.ending = .finished → s.entered = s.call.route) ∧
        ∀ origin target, s.ending = .failed (.invalidTransition origin target) ↔
          s.call.RefreshFails config (.invalidTransition origin target)) ∧
    ∀ (W σ : Type) [Host (StateM W)] [TraceStore (StateM W) σ] (k : SourceContainer) (store : σ)
      (w : W) origin target,
      ¬ (CycleCall.traced k store w).RefreshFails config (.invalidTransition origin target) := by
  constructor
  · intro s hs
    obtain ⟨horigin, hends⟩ := endsWell_of_mem_serve (r := .new config) rfl hs
    refine ⟨horigin, hends.state_eq, hends.visited_prefix, hends.visited_eq, ?_⟩
    exact fun origin target => hends.refused_iff _ ⟨origin, target, rfl⟩
  · rintro W σ _ _ - - - origin target ⟨ids, traces, p, k, store, w, -, hrefresh⟩
    exact SourceContainer.refresh_ne_invalidTransition _ w origin target hrefresh

open OneFailure in
def mixedCalls : List CycleCall :=
  [.plain "crate" world, .traced container (FileStore.mk tracesFile) world, .plain "crate" world,
    .traced container (FileStore.mk tracesFile) world]

theorem mixedCalls_served :
    ((Runner.new {}).serve mixedCalls).map (fun s => (s.runner.state, s.entered)) =
      [(.idle, [.collecting]), (.done, [.instrumentedRun, .done]), (.idle, [.collecting]),
        (.done, [.instrumentedRun, .done])] ∧
      ∀ s ∈ (Runner.new {}).serve mixedCalls, s.entered <+: s.call.route := by
  refine ⟨by decide +kernel, fun s hs => ?_⟩
  exact ((ready_for_next_exact {} mixedCalls).1 s hs).2.2.1

/-- A crate that cannot be written and says so as if a runner had refused a step. -/
structure SealedContainer where
  chromosomes : List TestCase

instance {m : Type → Type} [Monad m] : Container m SealedContainer TestCase where
  path _ := "crate"
  name _ := "crate"
  chromosomes k := k.chromosomes
  withChromosomes _ chromosomes := ⟨chromosomes⟩
  refresh k := pure (.error (.invalidTransition .idle .done), k)

open OneFailure in
def sealedCall : CycleCall :=
  .traced (SealedContainer.mk container.chromosomes) (FileStore.mk tracesFile) world

theorem not_forall_unrefused : ¬ ∀ config calls, ∀ s ∈ (Runner.new config).serve calls,
    ∀ origin target, s.ending ≠ .failed (.invalidTransition origin target) := by
  intro h
  have hend : (sealedCall.perform (.new {})).1 = .failed (.invalidTransition .idle .done) := by
    decide +kernel
  exact h {} [sealedCall] _ (.head _) .idle .done hend

end Runner
end UnitTestGen

import Mathlib.Data.String.Basic
import UnitTestGen.Proofs.Exec.ClearedDirectory
import UnitTestGen.Proofs.Exec.StageOrder

/-! What earlier cycles leave behind. A traced cycle clears the store before anything else can see
it. A plain cycle makes the directory of its logs before it clears the coverage directory, and a
file left there can stand in the way of the logs; with this exception nothing that was left changes
its result, and the profiles that are merged are those that its own tests wrote. -/

namespace UnitTestGen

open FileTree

namespace TracedCycle

variable {κ σ γ : Type} {k : κ} {store store' : σ} {s s' : Sandbox}

theorem exec_checkRoot (root : String) (p : Progress) (ws : Workspace κ σ) (s : Sandbox) :
    Cycle.exec (Cycle.checkRoot root : TracedCycle κ σ (StateM Sandbox) Unit) (p, ws, s) =
      if s.files.isDir s.directory root then (.ok (), p, ws, s)
      else (.error (.crateRoot root), p, ws, s) :=
  Cycle.exec_checkRoot rfl p

variable [TraceStore (StateM Sandbox) σ] [Container (StateM Sandbox) κ γ]

theorem exec_judge_of_not_isDir (c : RunnerConfig) (p : Progress)
    (hroot : s.files.isDir s.directory (Container.path (m := StateM Sandbox) k) = false) :
    Cycle.exec (judge c : TracedCycle κ σ (StateM Sandbox) (Option (List UInt64 × Traces)))
        (p, ⟨k, store⟩, s) =
      (.error (.crateRoot (Container.path (m := StateM Sandbox) k)), p, ⟨k, store⟩, s) := by
  have hchecked := exec_checkRoot (Container.path (m := StateM Sandbox) k) p ⟨k, store⟩ s
  rw [hroot] at hchecked
  unfold judge
  rw [Cycle.exec_bind_of_ok (exec_getWorkspace p ⟨k, store⟩ s)]
  exact Cycle.exec_bind_of_error hchecked _

theorem exec_judge_of_clear (c : RunnerConfig) (p : Progress)
    (hclear : (TraceStore.clear store : StateM Sandbox _).run s =
      (TraceStore.clear store' : StateM Sandbox _).run s')
    (hroot : s.files.isDir s.directory (Container.path (m := StateM Sandbox) k) = true)
    (hroot' : s'.files.isDir s'.directory (Container.path (m := StateM Sandbox) k) = true) :
    Cycle.exec (judge c : TracedCycle κ σ (StateM Sandbox) (Option (List UInt64 × Traces)))
        (p, ⟨k, store⟩, s) =
      Cycle.exec (judge c : TracedCycle κ σ (StateM Sandbox) (Option (List UInt64 × Traces)))
        (p, ⟨k, store'⟩, s') := by
  have hchecked := exec_checkRoot (Container.path (m := StateM Sandbox) k) p ⟨k, store⟩ s
  have hchecked' := exec_checkRoot (Container.path (m := StateM Sandbox) k) p ⟨k, store'⟩ s'
  rw [hroot] at hchecked
  rw [hroot'] at hchecked'
  unfold judge
  rw [Cycle.exec_bind_of_ok (exec_getWorkspace p ⟨k, store⟩ s),
    Cycle.exec_bind_of_ok (exec_getWorkspace p ⟨k, store'⟩ s'),
    Cycle.exec_bind_of_ok hchecked, Cycle.exec_bind_of_ok hchecked',
    Cycle.exec_bind, Cycle.exec_bind (onStore _), exec_onStore, exec_onStore, hclear]

end TracedCycle

namespace Runner

section Traced

variable {κ σ γ : Type} [Chromosome γ] [TraceStore (StateM Sandbox) σ]
  [Container (StateM Sandbox) κ γ]

structure TracedAlike (r : Runner) (k : κ) (store store' : σ) (s s' : Sandbox) : Prop where
  result_eq : ((r.runTraced k store : StateM Sandbox _).run s).1.1 =
    ((r.runTraced k store' : StateM Sandbox _).run s').1.1
  runner_eq : ((r.runTraced k store : StateM Sandbox _).run s).1.2.1 =
    ((r.runTraced k store' : StateM Sandbox _).run s').1.2.1
  container_eq : ((r.runTraced k store : StateM Sandbox _).run s).1.2.2.container =
    ((r.runTraced k store' : StateM Sandbox _).run s').1.2.2.container
  eq_of_isDir : s.files.isDir s.directory (Container.path (m := StateM Sandbox) k) = true →
    (r.runTraced k store : StateM Sandbox _).run s =
      (r.runTraced k store' : StateM Sandbox _).run s'

theorem tracedAlike_of_clear (r : Runner) (k : κ) {store store' : σ} {s s' : Sandbox}
    (hclear : (TraceStore.clear store : StateM Sandbox _).run s =
      (TraceStore.clear store' : StateM Sandbox _).run s')
    (hroot : s'.files.isDir s'.directory (Container.path (m := StateM Sandbox) k) =
      s.files.isDir s.directory (Container.path (m := StateM Sandbox) k)) :
    r.TracedAlike k store store' s s' := by
  cases hisDir : s.files.isDir s.directory (Container.path (m := StateM Sandbox) k) with
  | true =>
    have hjudged := TracedCycle.exec_judge_of_clear (k := k) r.config r.progress.started hclear
      hisDir (hroot.trans hisDir)
    have heq : (r.runTraced k store : StateM Sandbox _).run s =
        (r.runTraced k store' : StateM Sandbox _).run s' := by
      rw [runTraced_eq, runTraced_eq]
      dsimp only
      rw [TracedCycle.exec_traced, TracedCycle.exec_traced, hjudged]
    exact ⟨by rw [heq], by rw [heq], by rw [heq], fun _ => heq⟩
  | false =>
    have hend (store : σ) {s : Sandbox}
        (hnot : s.files.isDir s.directory (Container.path (m := StateM Sandbox) k) = false) :
        (r.runTraced k store : StateM Sandbox _).run s =
          ((.error (.crateRoot (Container.path (m := StateM Sandbox) k)),
            { r with progress := r.progress.started.aborted }, ⟨k, store⟩), s) := by
      have hjudged : Cycle.exec (TracedCycle.judge r.config : TracedCycle κ σ (StateM Sandbox) _)
          (r.progress.started, ⟨k, store⟩, s) = _ :=
        TracedCycle.exec_judge_of_not_isDir r.config r.progress.started hnot
      rw [runTraced_eq]
      dsimp only
      rw [TracedCycle.exec_traced, hjudged]
    refine ⟨?_, ?_, ?_, fun htrue => nomatch hisDir.symm.trans htrue⟩ <;>
      rw [hend store hisDir, hend store' (hroot.trans hisDir)]

end Traced

end Runner

namespace FileStore

variable {s : Sandbox} {t u : FileTree} {path : String}

def Clears (s : Sandbox) (path : String) : Prop :=
  ((TraceStore.clear (FileStore.mk path) : StateM Sandbox _).run s).1.1 = .ok ()

theorem run_clear_sandbox (s : Sandbox) (path : String) :
    (TraceStore.clear (FileStore.mk path) : StateM Sandbox _).run s =
      match s.files.remove s.directory path with
      | .ok files => ((.ok (), ⟨path⟩), { s with files })
      | .error .notFound => ((.ok (), ⟨path⟩), s)
      | .error e => ((.error (.io e), ⟨path⟩), s) := by
  have hremove : (Host.removeFile path : StateM Sandbox _).run s = _ :=
    Sandbox.run_change_eq (·.remove · path) s
  have hclear {r : Except StoreError Unit} {s' : Sandbox}
      (h : (FileStore.clear ⟨path⟩ : StateM Sandbox _).run s = (r, s')) :
      (TraceStore.clear (FileStore.mk path) : StateM Sandbox _).run s = ((r, ⟨path⟩), s') :=
    run_bind_of_eq h _
  rcases hr : s.files.remove s.directory path with e | files <;> rw [hr] at hremove
  · cases e <;> exact hclear (run_bind_of_eq hremove _)
  · exact hclear (run_bind_of_eq hremove _)

theorem Clears.eq_notFound {e : IoFault} (h : Clears s path)
    (he : s.files.remove s.directory path = .error e) : e = .notFound := by
  by_contra hne
  have hrun := run_clear_sandbox s path
  rw [he] at hrun
  have hfailed : ((TraceStore.clear (FileStore.mk path) : StateM Sandbox _).run s).1.1 =
      .error (.io e) := by
    rw [hrun]
    cases e <;> first | rfl | exact absurd rfl hne
  rw [Clears, hfailed] at h
  cases h

theorem run_clear_of_clears {dir : List String} {name : String} {slash : Bool}
    (hp : t.locate s.directory path = .ok ⟨dir, some name, slash⟩)
    (h : Clears { s with files := t } path) :
    (TraceStore.clear (FileStore.mk path) : StateM Sandbox _).run { s with files := t } =
      ((.ok (), ⟨path⟩), { s with files := t.erase (dir ++ [name]) }) := by
  have hfound := find_of_locate hp
  rw [run_clear_sandbox]
  rcases hnode : t[dir ++ [name]]? with - | bytes | - <;> rw [hnode] at hfound
  · have hmissing : t.remove s.directory path = .error .notFound := by rw [remove, hfound]
    have herase : t.erase (dir ++ [name]) = t := by
      refine Std.ExtTreeMap.ext_getElem? fun q => ?_
      rw [getElem?_erase_eq]
      split
      · rename_i hq
        rw [hq, hnode]
      · rfl
    rw [hmissing, herase]
  · cases slash with
    | false =>
      have hremoved : t.remove s.directory path = .ok (t.erase (dir ++ [name])) := by
        rw [remove, hfound]
        rfl
      rw [hremoved]
    | true =>
      have hrefused : t.remove s.directory path = .error .notADirectory := by
        rw [remove, hfound]
        rfl
      cases h.eq_notFound hrefused
  · have hrefused : t.remove s.directory path = .error .isADirectory := by rw [remove, hfound]
    cases h.eq_notFound hrefused

theorem run_clear_eq {dir : List String} {name : String} {slash : Bool}
    (hp : t.locate s.directory path = .ok ⟨dir, some name, slash⟩)
    (halike : SameBut (· = dir ++ [name]) t u) (ht : Clears { s with files := t } path)
    (hu : Clears { s with files := u } path) :
    (TraceStore.clear (FileStore.mk path) : StateM Sandbox _).run { s with files := t } =
      (TraceStore.clear (FileStore.mk path) : StateM Sandbox _).run { s with files := u } := by
  have herase : t.erase (dir ++ [name]) = u.erase (dir ++ [name]) := by
    refine Std.ExtTreeMap.ext_getElem? fun q => ?_
    rw [getElem?_erase_eq, getElem?_erase_eq]
    split
    · rfl
    · rename_i hq
      exact (halike q).resolve_right fun hdiffer => hq hdiffer.1
  rw [run_clear_of_clears hp ht, run_clear_of_clears (halike.dirsIn.locate hp) hu, herase]

end FileStore

namespace Sandbox

open UnitTestGen.Cycle

variable {p : Progress} {s : Sandbox} {c : RunnerConfig} {root : String} {full : List String}
  {t : FileTree}

theorem directory_deliver (s : Sandbox) (sink : Sink) (bytes : ByteArray) :
    (s.deliver sink bytes).directory = s.directory := by
  unfold deliver
  split
  · split
    · split <;> rfl
    · rfl
  · rfl

theorem directory_runCommand (command : Command) (s : Sandbox) :
    ((runCommand command).run s).2.directory = s.directory := by
  have hget : (get : StateM Sandbox Sandbox).run s = (s, s) := rfl
  unfold runCommand
  rw [run_bind_of_eq hget]
  split
  · rfl
  split
  · rfl
  split
  · rfl
  · exact (directory_deliver _ _ _).trans (directory_deliver _ _ _)

theorem eq_of_exec_checkRoot {u : Unit} {s' : Progress × Sandbox}
    (h : exec (checkRoot root : Cycle (StateM Sandbox) Unit) (p, s) = (.ok u, s')) :
    s' = (p, s) := by
  rw [exec_checkRoot] at h
  split at h
  · exact (congrArg Prod.snd h).symm
  · exact nomatch congrArg Prod.fst h

theorem Changes.exists_of_exec {act : Cycle (StateM Sandbox) Unit}
    {r : Except IoFault FileTree} (h : Changes act s r) {u : Unit} {s' : Progress × Sandbox}
    (hact : exec act (p, s) = (.ok u, s')) :
    ∃ files, r = .ok files ∧ s' = (p, { s with files }) := by
  cases r with
  | ok files => exact ⟨files, rfl, congrArg Prod.snd (hact.symm.trans (h p))⟩
  | error e =>
    obtain ⟨s'', hs''⟩ := h p
    exact nomatch congrArg Prod.fst (hact.symm.trans hs'')

theorem exists_of_exec_step {target : RunnerState} {u : Unit} {s' : Progress × Sandbox}
    (h : exec (step target : Cycle (StateM Sandbox) Unit) (p, s) = (.ok u, s')) :
    ∃ q, s' = (q, s) := by
  rw [exec_step] at h
  split at h
  · exact ⟨_, (congrArg Prod.snd h).symm⟩
  · exact nomatch congrArg Prod.fst h

/-- What becomes of leftovers until the tests are run: directories for the logs are made, then the
leftovers are removed, and then only logs are written. -/
theorem exists_of_prepared (ht : HoldsLeftovers s.directory (c.coveragePath root) full t)
    {u : Unit} {before : Progress × Sandbox}
    (h : exec (prepared c root : Cycle (StateM Sandbox) Unit) (p, { s with files := t }) =
      (.ok u, before)) :
    ∃ t₁ names t₂ t₃ t₄, Grown logNames t t₁ ∧
      (∀ name, t₁[full ++ [name]]? ≠ none → name ∈ names) ∧
      Sweeps (c.coveragePath root) full names t₁ t₂ ∧ Written logNames t₂ t₃ ∧
      Written logNames t₃ t₄ ∧ before.2 = { s with files := t₄ } := by
  unfold prepared at h
  obtain ⟨_, s₁, hroot, h⟩ := exists_of_exec_bind h
  obtain rfl := eq_of_exec_checkRoot hroot
  obtain ⟨_, s₂, hlogs, h⟩ := exists_of_exec_bind h
  obtain ⟨t₁, ht₁, rfl⟩ := (changes_resetLogs c _).exists_of_exec hlogs
  have hgrown := grown_of_withLogs ht₁
  obtain ⟨names, t₂, hnames, hcleared, hsweeps⟩ := exec_clearLeftovers ht hgrown p
  rw [exec_bind_of_ok hcleared] at h
  obtain ⟨_, s₃, hstep, h⟩ := exists_of_exec_bind h
  obtain ⟨q, rfl⟩ := exists_of_exec_step hstep
  obtain ⟨_, s₄, hopened, h⟩ := exists_of_exec_bind h
  obtain ⟨t₃, ht₃, rfl⟩ := (changes_openLog c.testsLog _).exists_of_exec hopened
  obtain ⟨t₄, ht₄, rfl⟩ := (changes_openLog c.testsError _).exists_of_exec h
  exact ⟨t₁, names, t₂, t₃, t₄, hgrown, hnames, hsweeps, written_testsLog ht₃,
    written_testsError ht₄, rfl⟩

theorem notMem_logNames {name : String} (h : Path.hasExtension name "profraw" = true) :
    name ∉ logNames := by
  intro hmem
  rcases List.mem_pair.1 hmem with rfl | rfl <;> exact absurd h (by decide)

theorem none_or_dir_of_prepared (ht : HoldsLeftovers s.directory (c.coveragePath root) full t)
    {u : Unit} {before : Progress × Sandbox}
    (h : exec (prepared c root : Cycle (StateM Sandbox) Unit) (p, { s with files := t }) =
      (.ok u, before)) {name : String} (hname : Path.hasExtension name "profraw" = true) :
    before.2.files[full ++ [name]]? = none ∨
      before.2.files[full ++ [name]]? = some .dir ∧ t[full ++ [name]]? = none := by
  obtain ⟨t₁, names, t₂, t₃, t₄, hgrown, hnames, hsweeps, hlog, herror, hbefore⟩ :=
    exists_of_prepared ht h
  have hlater : before.2.files[full ++ [name]]? = t₂[full ++ [name]]? := by
    rw [hbefore, herror.getElem?_eq (notMem_logNames hname),
      hlog.getElem?_eq (notMem_logNames hname)]
  rw [hlater]
  -- it was removed, or it is no leftover, and then only the making of directories can explain it
  by_cases hswept : Swept (c.coveragePath root) full names t₁ (full ++ [name])
  · exact .inl ((hsweeps _).1 hswept)
  rw [(hsweeps _).2 hswept]
  rcases hgrown (full ++ [name]) with heq | ⟨parent, last, hq, -, hnew⟩
  · rw [heq]
    rcases hnode : t[full ++ [name]]? with - | node
    · exact .inl rfl
    · obtain ⟨-, hremovable, bytes, hfile⟩ := ht.removable hnode
      have hmem : name ∈ names := hnames name (by rw [heq, hnode]; nofun)
      exact absurd ⟨name, hmem, rfl, hremovable, bytes, heq.trans hfile⟩ hswept
  · obtain ⟨-, rfl⟩ : full = parent ∧ name = last := by simpa using List.append_inj' hq rfl
    rcases hnew with ⟨hnone, hdir⟩ | ⟨hmem, -⟩
    · exact .inr ⟨hdir, hnone⟩
    · exact absurd hmem (notMem_logNames hname)

end Sandbox

theorem Cycle.exists_of_mustSucceed {W : Type} [Host (StateM W)] {command : Command}
    {s s' : Progress × W} {o : Outcome}
    (h : exec (mustSucceed command : Cycle (StateM W) Outcome) s = (.ok o, s')) :
    (Host.run command : StateM W _).run s.2 = (.ok o, s'.2) ∧ o.exitCode = some 0 := by
  obtain ⟨p, w⟩ := s
  obtain ⟨o', between, hlaunched, h⟩ := exists_of_exec_bind h
  obtain ⟨answer, after, hrun, hlaunched⟩ := exists_of_exec_bind hlaunched
  have hlifted := hrun.symm.trans (exec_lift (m := StateM W) (Host.run command) p w)
  have hanswer : (Host.run command : StateM W _).run w = (answer, after.2) := by
    cases hlifted
    rfl
  cases answer with
  | error fault => exact absurd hlaunched exec_throw_ne_ok
  | ok started =>
    obtain ⟨rfl, rfl⟩ := exec_pure_eq_ok_iff.1 hlaunched
    split at h
    · rename_i hsucceeded
      obtain ⟨rfl, rfl⟩ := exec_pure_eq_ok_iff.1 h
      exact ⟨hanswer, beq_iff_eq.1 hsucceeded⟩
    · exact absurd h exec_throw_ne_ok

theorem Sandbox.exists_of_rawProfiles {s s' : Progress × Sandbox} {path : String}
    {profiles : List String}
    (h : Cycle.exec (Cycle.rawProfiles path : Cycle (StateM Sandbox) (List String)) s =
      (.ok profiles, s')) :
    ∃ names, s.2.files.entries s.2.directory path = .ok names ∧
      profiles = ((names.filter (Path.hasExtension · "profraw")).mergeSort).map
        (Path.join path) := by
  obtain ⟨p, s⟩ := s
  obtain ⟨listed, after, hlisted, h⟩ := Cycle.exists_of_exec_bind h
  have heq := hlisted.symm.trans (exec_look (·.entries · path) p s)
  obtain ⟨names, between, hfile, h⟩ := Cycle.exists_of_exec_bind h
  cases listed with
  | error e => exact absurd hfile Cycle.exec_throw_ne_ok
  | ok found =>
    obtain ⟨rfl, rfl⟩ := Cycle.exec_pure_eq_ok_iff.1 hfile
    obtain ⟨rfl, -⟩ := Cycle.exec_pure_eq_ok_iff.1 h
    exact ⟨found, (Except.ok.inj (congrArg Prod.fst heq)).symm, rfl⟩

theorem Path.pairwise_lt_mergeSort {names : List String} (h : names.Nodup) :
    (names.mergeSort).Pairwise (· < ·) := by
  have hsorted : (names.mergeSort).Pairwise (· ≤ ·) := by
    have htrans (a b c : String) (hab : decide (a ≤ b) = true) (hbc : decide (b ≤ c) = true) :
        decide (a ≤ c) = true :=
      decide_eq_true ((of_decide_eq_true hab).trans (of_decide_eq_true hbc))
    have htotal (a b : String) : (decide (a ≤ b) || decide (b ≤ a)) = true := by
      simpa using le_total a b
    exact (List.pairwise_mergeSort htrans htotal names).imp of_decide_eq_true
  have hnodup : (names.mergeSort).Nodup := (List.mergeSort_perm names _).nodup_iff.2 h
  exact (hsorted.and hnodup).imp fun ⟨hle, hne⟩ => lt_of_le_of_ne hle hne

namespace Runner

variable (r : Runner) (root : String) (s : Sandbox) {full : List String} {t : FileTree}

/-- The profiles are, in order, those that the tests of a plain cycle left in the coverage
directory; none stood there before, unless as a directory that the cycle made for its logs. -/
def MergesOwn (full : List String) (profiles : List String) : Prop :=
  ∃ (q : Progress) (before : Sandbox) (o : Outcome) (after : Sandbox) (found : List String),
    Cycle.exec (Cycle.prepared r.config root : Cycle (StateM Sandbox) Unit)
      (r.progress.started, s) = (.ok (), q, before) ∧
    (Host.run (r.config.collectCommand root) : StateM Sandbox _).run before = (.ok o, after) ∧
    o.exitCode = some 0 ∧
    profiles = found.map (Path.join (r.config.coveragePath root)) ∧ found.Pairwise (· < ·) ∧
    (∀ name, name ∈ found ↔
      Path.hasExtension name "profraw" = true ∧ after.files[full ++ [name]]? ≠ none) ∧
    ∀ name, Path.hasExtension name "profraw" = true → before.files[full ++ [name]]? = none ∨
      before.files[full ++ [name]]? = some .dir ∧ s.files[full ++ [name]]? = none

theorem mergesOwn_of_finds
    (ht : HoldsLeftovers s.directory (r.config.coveragePath root) full t) {profiles : List String}
    (h : Cycle.Finds (m := StateM Sandbox) r.config root
      (r.progress.started, { s with files := t }) profiles) :
    r.MergesOwn root { s with files := t } full profiles := by
  obtain ⟨⟨q, before⟩, o, ⟨q', after⟩, s', hprepared, hcollected, hfound⟩ := h
  obtain ⟨hrun, hexit⟩ := Cycle.exists_of_mustSucceed hcollected
  obtain ⟨_, between, hstep, hfound⟩ := Cycle.exists_of_exec_bind hfound
  obtain ⟨q'', rfl⟩ := Sandbox.exists_of_exec_step hstep
  obtain ⟨names, hnames, rfl⟩ := Sandbox.exists_of_rawProfiles hfound
  have hdirectory : after.directory = s.directory := by
    obtain ⟨_, _, _, _, t₄, _, _, _, _, _, hbefore⟩ := Sandbox.exists_of_prepared ht hprepared
    have hkept := Sandbox.directory_runCommand (r.config.collectCommand root) before
    rw [show (Sandbox.runCommand (r.config.collectCommand root)).run before = _ from hrun] at hkept
    rw [hkept, show before = _ from hbefore]
  -- where the coverage directory is does not depend on what the tests made of the files
  have hfull : after.files.findDir s.directory (r.config.coveragePath root) = .ok full := by
    dsimp only at hnames
    rw [hdirectory] at hnames
    obtain ⟨full', hdir, -⟩ := exists_of_bind_eq_ok hnames
    rwa [reach_unique (reach_of_findDir hdir) (reach_of_findDir ht.findDir_eq)] at hdir
  have hentries : after.files.entries s.directory (r.config.coveragePath root) = .ok names := by
    rw [← hdirectory]
    exact hnames
  refine ⟨q, before, o, after, _, hprepared, hrun, hexit, rfl, ?_, fun name => ?_, ?_⟩
  · exact Path.pairwise_lt_mergeSort ((nodup_of_entries hentries).filter _)
  · rw [List.mem_mergeSort, List.mem_filter, mem_of_entries hfull hentries, and_comm]
  · exact fun name hname => Sandbox.none_or_dir_of_prepared ht hprepared hname

theorem profiles_inj {c : RunnerConfig} {root : String} {profiles profiles' : List String}
    (h : c.mergeCommand root profiles = c.mergeCommand root profiles') : profiles = profiles' := by
  have hargs := congrArg Command.args h
  simpa [RunnerConfig.mergeCommand] using hargs

theorem mergesOwn_of_mem_plainJournal
    (ht : HoldsLeftovers s.directory (r.config.coveragePath root) full t) {profiles : List String}
    {answer : Except IoFault Outcome}
    (h : .ran (r.config.mergeCommand root profiles) answer ∈
      r.plainJournal root { s with files := t }) :
    r.MergesOwn root { s with files := t } full profiles := by
  obtain ⟨runs, hjournal, hstaged⟩ := staged_plain r root { s with files := t }
  rw [hjournal] at h
  obtain ⟨⟨command, answer'⟩, hrun, heq⟩ := List.mem_map.1 h
  obtain ⟨rfl, rfl⟩ : command = r.config.mergeCommand root profiles ∧ answer' = answer := by
    simpa [Event.ofRun] using heq
  obtain ⟨profiles', hfinds, hcommand⟩ :=
    hstaged.serves RunnerConfig.Serves.stage_eq _ hrun
  rw [profiles_inj hcommand]
  exact r.mergesOwn_of_finds root s ht hfinds

structure PlainAlike (s s' : Sandbox) : Prop where
  result_eq : ((r.runAt root : StateM Sandbox _).run s).1 =
    ((r.runAt root : StateM Sandbox _).run s').1
  eq_of_ok : ∀ summary, ((r.runAt root : StateM Sandbox _).run s).1.1 = .ok summary →
    (r.runAt root : StateM Sandbox _).run s = (r.runAt root : StateM Sandbox _).run s'

/-- The directory of the logs is there or can be made. -/
def LogsFit (s : Sandbox) : Prop :=
  ∃ t, s.files.makeDirs s.directory (Path.ancestors r.config.outputDir) = .ok t

theorem plainAlike_of_logsFit {u : FileTree}
    (ht : HoldsLeftovers s.directory (r.config.coveragePath root) full t)
    (hu : HoldsLeftovers s.directory (r.config.coveragePath root) full u)
    (hsame : ∀ q : List String, (∀ name, q ≠ full ++ [name]) → t[q]? = u[q]?)
    (hlogs : t.isDir s.directory root = true →
      r.LogsFit { s with files := t } ∧ r.LogsFit { s with files := u }) :
    r.PlainAlike root { s with files := t } { s with files := u } := by
  have halike := Sandbox.endAlike_plain ht hu hsame
    (fun hroot => by
      obtain ⟨⟨t', ht'⟩, u', hu'⟩ := hlogs hroot
      exact ⟨t', u', ht', hu'⟩) r.progress.started
  generalize hout : Cycle.exec (Cycle.plain r.config root : Cycle (StateM Sandbox) CoverageSummary)
    (r.progress.started, { s with files := t }) = out at halike
  generalize hout' : Cycle.exec
    (Cycle.plain r.config root : Cycle (StateM Sandbox) CoverageSummary)
    (r.progress.started, { s with files := u }) = out' at halike
  constructor
  · rw [runAt_eq, runAt_eq, hout, hout']
    rcases halike with out | ⟨e, p, w, w'⟩ <;> rfl
  · intro summary hok
    rw [runAt_eq, hout] at hok
    rw [runAt_eq, runAt_eq, hout, hout']
    rcases halike with out | ⟨e, p, w, w'⟩
    · rfl
    · exact nomatch hok

theorem runAt_of_blocked {e : IoFault} (hroot : s.files.isDir s.directory root = true)
    (hblocked : s.files.makeDirs s.directory (Path.ancestors r.config.outputDir) = .error e) :
    ((r.runAt root : StateM Sandbox _).run s).1.1 = .error (.io e) ∧
      ((r.runAt root : StateM Sandbox _).run s).2 = s := by
  have hchecked := Sandbox.exec_checkRoot root r.progress.started s
  rw [if_pos hroot] at hchecked
  have hmade := Sandbox.exec_createDirs r.config.outputDir r.progress.started s
  rw [hblocked] at hmade
  have hlogs : Cycle.exec (Cycle.resetLogs r.config : Cycle (StateM Sandbox) Unit)
      (r.progress.started, s) = (.error (.io e), r.progress.started, s) :=
    (Cycle.exec_bind_bind _ _ _ _).trans (Cycle.exec_bind_of_error hmade _)
  have hplain : Cycle.exec (Cycle.plain r.config root : Cycle (StateM Sandbox) CoverageSummary)
      (r.progress.started, s) = (.error (.io e), r.progress.started, s) :=
    (Cycle.exec_bind_of_ok hchecked _).trans (Cycle.exec_bind_of_error hlogs _)
  rw [runAt_eq]
  dsimp only
  rw [hplain]
  exact ⟨rfl, rfl⟩

/-- What the store held before does not matter to a traced cycle, and what is left in the coverage
directory does not matter to a plain cycle that can make the directory of its logs. One that cannot
fails with that; and one that comes to merge profiles merges those of its own tests. -/
theorem stale_artifacts_exact (r : Runner) (s : Sandbox) :
    (∀ {κ γ : Type} [Chromosome γ] [Container (StateM Sandbox) κ γ] (k : κ),
      (∀ (path : String) (t u : FileTree) (dir : List String) (name : String) (slash : Bool),
        t.locate s.directory path = .ok ⟨dir, some name, slash⟩ →
        SameBut (· = dir ++ [name]) t u → FileStore.Clears { s with files := t } path →
        FileStore.Clears { s with files := u } path →
        r.TracedAlike k (FileStore.mk path) (FileStore.mk path) { s with files := t }
          { s with files := u }) ∧
      ∀ lines lines' : List String,
        r.TracedAlike k (MemoryStore.mk lines) (MemoryStore.mk lines') s s) ∧
    ∀ (root : String) (full : List String) (t u : FileTree),
      HoldsLeftovers s.directory (r.config.coveragePath root) full t →
      HoldsLeftovers s.directory (r.config.coveragePath root) full u →
      (∀ q : List String, (∀ name, q ≠ full ++ [name]) → t[q]? = u[q]?) →
      ((t.isDir s.directory root = true →
          r.LogsFit { s with files := t } ∧ r.LogsFit { s with files := u }) →
        r.PlainAlike root { s with files := t } { s with files := u }) ∧
      (∀ e, t.isDir s.directory root = true →
        t.makeDirs s.directory (Path.ancestors r.config.outputDir) = .error e →
        ((r.runAt root : StateM Sandbox _).run { s with files := t }).1.1 = .error (.io e) ∧
          ((r.runAt root : StateM Sandbox _).run { s with files := t }).2 =
            { s with files := t }) ∧
      ∀ profiles answer, .ran (r.config.mergeCommand root profiles) answer ∈
          r.plainJournal root { s with files := t } →
        r.MergesOwn root { s with files := t } full profiles := by
  refine ⟨fun k => ⟨fun path t u dir name slash hp halike ht hu => ?_, fun lines lines' => ?_⟩,
    fun root full t u ht hu hsame => ⟨fun hlogs => ?_, fun e hroot hblocked => ?_,
      fun profiles answer hran => ?_⟩⟩
  · have hroot (path : String) : u.isDir s.directory path = t.isDir s.directory path :=
      Bool.eq_iff_iff.2 ⟨halike.symm.dirsIn.isDir, halike.dirsIn.isDir⟩
    exact r.tracedAlike_of_clear k (FileStore.run_clear_eq hp halike ht hu) (hroot _)
  · exact r.tracedAlike_of_clear k rfl rfl
  · exact r.plainAlike_of_logsFit root s ht hu hsame hlogs
  · exact r.runAt_of_blocked root { s with files := t } hroot hblocked
  · exact r.mergesOwn_of_mem_plainJournal root s ht hran

end Runner

/-! A crate with a coverage directory, the tests of which leave a profile that cannot be merged. -/
namespace ProfiledCrate

def tools : Tools := fun started files =>
  if started.command.stage = .collect then
    .ok (⟨some 0, .empty, .empty⟩,
      files.insert ["crate", "coverage", "new.profraw"] (.file .empty))
  else .ok (⟨some 1, .empty, .empty⟩, files)

def world (files : FileTree) : Sandbox :=
  { files, directory := [], clock := 0, tools, started := [] }

def clean : FileTree :=
  (({} : FileTree).insert ["crate"] .dir).insert ["crate", "coverage"] .dir

def leaving (name : String) : FileTree :=
  clean.insert (["crate", "coverage"] ++ [name]) (.file .empty)

theorem holdsLeftovers_clean :
    HoldsLeftovers [] "crate/coverage" ["crate", "coverage"] clean := by
  refine ⟨rfl, fun name node h => ?_⟩
  simp [clean] at h

theorem holdsLeftovers_profile :
    HoldsLeftovers [] "crate/coverage" ["crate", "coverage"] (leaving "old.profraw") := by
  have hname : Path.Proper "old.profraw" := ⟨by decide, by decide, by decide, by decide⟩
  exact holdsLeftovers_clean.insert hname rfl .empty

theorem holdsLeftovers_logs :
    HoldsLeftovers [] "crate/coverage" ["crate", "coverage"] (leaving "logs") := by
  have hname : Path.Proper "logs" := ⟨by decide, by decide, by decide, by decide⟩
  exact holdsLeftovers_clean.insert hname rfl .empty

theorem leaving_eq (name : String) (q : List String)
    (hq : ∀ last, q ≠ ["crate", "coverage"] ++ [last]) : (leaving name)[q]? = clean[q]? :=
  (getElem?_insert_eq ..).trans (if_neg (hq name))

def container : SourceContainer := ⟨"crate", "mycrate", "src/lib.rs", "rusty_tests", []⟩

def newMerge : Command :=
  (Runner.new {}).config.mergeCommand "crate" ["crate/coverage/new.profraw"]

theorem merges_new : ∃ answer, .ran newMerge answer ∈
    (Runner.new {}).plainJournal "crate" (world (leaving "old.profraw")) := by
  have hany : ((Runner.new {}).plainJournal "crate" (world (leaving "old.profraw"))).any
      (fun | .ran command _ => decide (command = newMerge) | _ => false) = true := by
    decide +kernel
  obtain ⟨event, hmem, hevent⟩ := List.any_eq_true.1 hany
  cases event with
  | ran command answer => exact ⟨answer, of_decide_eq_true hevent ▸ hmem⟩
  | drained answer => exact nomatch hevent

end ProfiledCrate

namespace Runner

open ProfiledCrate

theorem old_profile_not_merged :
    (Runner.new {}).PlainAlike "crate" (world (leaving "old.profraw")) (world clean) ∧
      (Runner.new {}).MergesOwn "crate" (world (leaving "old.profraw")) ["crate", "coverage"]
        ["crate/coverage/new.profraw"] ∧
      (Runner.new {}).TracedAlike container (FileStore.mk "traces")
        (FileStore.mk "traces") (world (clean.insert ["traces"] (.file .empty))) (world clean) := by
  obtain ⟨htraced, hplain⟩ := stale_artifacts_exact (Runner.new {}) (world clean)
  obtain ⟨halike, -, hown⟩ := hplain "crate" ["crate", "coverage"] (leaving "old.profraw") clean
    holdsLeftovers_profile holdsLeftovers_clean (leaving_eq _)
  have hbut : SameBut (· = [] ++ ["traces"]) (clean.insert ["traces"] (.file .empty)) clean := by
    intro q
    rw [getElem?_insert_eq]
    split
    · rename_i hq
      exact .inr ⟨hq, nofun, by subst hq; simp [clean]⟩
    · exact .inl rfl
  obtain ⟨answer, hran⟩ := merges_new
  have hfit {t : FileTree} (hdir : t.isDir [] "." = true) :
      t.makeDirs [] (Path.ancestors ".") = .ok t := makeDirs_of_isDir hdir
  refine ⟨halike fun _ => ?_, hown _ answer hran, ?_⟩
  · exact ⟨⟨_, hfit (by decide +kernel)⟩, _, hfit (by decide +kernel)⟩
  · exact (htraced container).1 "traces" _ clean [] "traces" false rfl hbut rfl rfl

def endsWithIo : Except ExecError CoverageSummary → Bool
  | .error (.io _) => true
  | _ => false

/-- A file that stands where the directory of the logs would be made is not cleared before. -/
theorem not_forall_leftovers_alike :
    ¬ ∀ (r : Runner) (s : Sandbox) (root : String) (full : List String) (t u : FileTree),
      HoldsLeftovers s.directory (r.config.coveragePath root) full t →
      HoldsLeftovers s.directory (r.config.coveragePath root) full u →
      (∀ q : List String, (∀ name, q ≠ full ++ [name]) → t[q]? = u[q]?) →
      ((r.runAt root : StateM Sandbox _).run { s with files := t }).1.1 =
        ((r.runAt root : StateM Sandbox _).run { s with files := u }).1.1 := by
  intro h
  have hsame := h (Runner.new { outputDir := "crate/coverage/logs" }) (world clean) "crate"
    ["crate", "coverage"] (leaving "logs") clean holdsLeftovers_logs holdsLeftovers_clean
    (leaving_eq _)
  exact absurd (congrArg endsWithIo hsame) (by decide +kernel)

end Runner
end UnitTestGen

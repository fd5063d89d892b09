import UnitTestGen.Proofs.Exec.Frame
import UnitTestGen.Proofs.Host.Leftovers

/-! The first part of a plain cycle in a file tree: the logs are emptied, then the files in the
coverage directory are removed. If nothing but files that can be removed was left there, no trace of
them is left afterwards, and a cycle goes on as it would have without them. -/

namespace UnitTestGen

namespace FileTree

variable {D : List String → Prop} {c : RunnerConfig} {d : List String} {t t' t₁ u u₁ : FileTree}

def logNames : List String := ["tests.log", "tests.error"]

theorem proper_of_mem_logNames {name : String} (h : name ∈ logNames) : Path.Proper name := by
  rcases List.mem_pair.1 h with rfl | rfl <;> exact ⟨by decide, by decide, by decide, by decide⟩

theorem tests_log_mem : "tests.log" ∈ logNames := .head _

theorem tests_error_mem : "tests.error" ∈ logNames := .tail _ (.head _)

theorem written_testsLog {f : ByteArray → ByteArray} (h : t.update d c.testsLog f = .ok t') :
    Written logNames t t' :=
  written_of_update (proper_of_mem_logNames tests_log_mem) tests_log_mem h

theorem written_testsError {f : ByteArray → ByteArray} (h : t.update d c.testsError f = .ok t') :
    Written logNames t t' :=
  written_of_update (proper_of_mem_logNames tests_error_mem) tests_error_mem h

def withLogs (c : RunnerConfig) (d : List String) (t : FileTree) : Except IoFault FileTree := do
  let t ← t.makeDirs d (Path.ancestors c.outputDir)
  let t ← t.update d c.testsLog fun _ => ByteArray.empty
  t.update d c.testsError fun _ => ByteArray.empty

theorem grown_of_withLogs (h : t.withLogs c d = .ok t') : Grown logNames t t' := by
  obtain ⟨made, hmade, h⟩ := exists_of_bind_eq_ok h
  obtain ⟨logged, hlog, herror⟩ := exists_of_bind_eq_ok h
  have hlogged := (grown_of_makeDirs logNames hmade).trans (written_testsLog hlog).grown
  exact hlogged.trans (written_testsError herror).grown

theorem SameBut.withLogs (h : SameBut D t u)
    (ht : t.makeDirs d (Path.ancestors c.outputDir) = .ok t₁)
    (hu : u.makeDirs d (Path.ancestors c.outputDir) = .ok u₁) :
    (∃ t' u', t.withLogs c d = .ok t' ∧ u.withLogs c d = .ok u' ∧ SameBut D t' u') ∨
      ∃ e, t.withLogs c d = .error e ∧ u.withLogs c d = .error e := by
  have hmade := h.makeDirs ht hu
  obtain ⟨full, hreach⟩ := exists_reach_of_makeDirs ht
  unfold FileTree.withLogs
  rw [ht, hu]
  simp only [bind, Except.bind]
  rcases hmade.write hreach (proper_of_mem_logNames tests_log_mem) ByteArray.empty with
    ⟨t₂, u₂, ht₂, hu₂, hlogged⟩ | ⟨e, ht₂, hu₂⟩
  · have hreach₂ : t₂.reach d c.outputDir = .ok full :=
      (written_testsLog ht₂).grown.dirsIn.reach hreach
    rw [RunnerConfig.testsLog, ht₂, hu₂]
    exact hlogged.write hreach₂ (proper_of_mem_logNames tests_error_mem) ByteArray.empty
  · rw [RunnerConfig.testsLog, ht₂, hu₂]
    exact .inr ⟨e, rfl, rfl⟩

end FileTree

open FileTree

inductive Cycle.EndAlike {α S : Type} :
    Except ExecError α × Progress × S → Except ExecError α × Progress × S → Prop where
  | same (out : Except ExecError α × Progress × S) : EndAlike out out
  | error (e : ExecError) (p : Progress) (s s' : S) : EndAlike (.error e, p, s) (.error e, p, s')

namespace Sandbox

open UnitTestGen.Cycle

variable {α : Type} {p : Progress} {s s' : Sandbox} {full : List String} {path : String}

theorem run_change_eq (f : FileTree → List String → Except IoFault FileTree) (s : Sandbox) :
    (change f).run s = match f s.files s.directory with
      | .ok files => (.ok (), { s with files })
      | .error e => (.error e, s) := by
  have hget : (get : StateM Sandbox Sandbox).run s = (s, s) := rfl
  unfold change
  rw [run_bind_of_eq hget]
  cases f s.files s.directory <;> rfl

theorem exec_change (f : FileTree → List String → Except IoFault FileTree) (p : Progress)
    (s : Sandbox) :
    exec (liftM (change f) >>= file : Cycle (StateM Sandbox) Unit) (p, s) =
      match f s.files s.directory with
      | .ok files => (.ok (), p, { s with files })
      | .error e => (.error (.io e), p, s) := by
  have hexec : Stateful.exec (change f) s = (change f).run s := rfl
  rw [exec_bind, exec_lift, hexec, run_change_eq]
  cases f s.files s.directory with
  | ok files => exact exec_pure _ _
  | error e => exact exec_throw _ _

theorem exec_look (f : FileTree → List String → α) (p : Progress) (s : Sandbox) :
    exec (liftM (look f) : Cycle (StateM Sandbox) α) (p, s) =
      (.ok (f s.files s.directory), p, s) :=
  exec_lift _ _ _

theorem exec_createDirs (path : String) (p : Progress) (s : Sandbox) :
    exec (Host.createDirs path >>= file : Cycle (StateM Sandbox) Unit) (p, s) =
      match s.files.makeDirs s.directory (Path.ancestors path) with
      | .ok files => (.ok (), p, { s with files })
      | .error e => (.error (.io e), p, s) :=
  exec_change _ p s

theorem exec_checkRoot (root : String) (p : Progress) (s : Sandbox) :
    exec (checkRoot root : Cycle (StateM Sandbox) Unit) (p, s) =
      if s.files.isDir s.directory root then (.ok (), p, s)
      else (.error (.crateRoot root), p, s) :=
  Cycle.exec_checkRoot rfl p

def Changes (act : Cycle (StateM Sandbox) Unit) (s : Sandbox) : Except IoFault FileTree → Prop
  | .ok files => ∀ p, exec act (p, s) = (.ok (), p, { s with files })
  | .error e => ∀ p, ∃ s', exec act (p, s) = (.error (.io e), p, s')

theorem changes_change (f : FileTree → List String → Except IoFault FileTree) (s : Sandbox) :
    Changes (liftM (change f) >>= file) s (f s.files s.directory) := by
  have hexec := fun p => exec_change f p s
  cases hf : f s.files s.directory with
  | ok files => exact fun p => (hexec p).trans (by rw [hf])
  | error e => exact fun p => ⟨s, (hexec p).trans (by rw [hf])⟩

theorem Changes.bind {act : Cycle (StateM Sandbox) Unit} {g : Unit → Cycle (StateM Sandbox) Unit}
    {r : Except IoFault FileTree} {rest : FileTree → Except IoFault FileTree}
    (h : Changes act s r) (hrest : ∀ files, Changes (g ()) { s with files } (rest files)) :
    Changes (act >>= g) s (r >>= rest) := by
  cases r with
  | ok files =>
    have hchanges : Changes (g ()) { s with files } (rest files) := hrest files
    have hexec (p : Progress) : exec (act >>= g) (p, s) = exec (g ()) (p, { s with files }) :=
      exec_bind_of_ok (h p) g
    change Changes (act >>= g) s (rest files)
    cases hfiles : rest files <;> rw [hfiles] at hchanges
    · exact fun p => (hchanges p).imp fun s' hs' => (hexec p).trans hs'
    · exact fun p => (hexec p).trans (hchanges p)
  | error e => exact fun p => (h p).imp fun s' hs' => exec_bind_of_error hs' g

theorem changes_resetLogs (c : RunnerConfig) (s : Sandbox) :
    Changes (resetLogs c) s (s.files.withLogs c s.directory) := by
  have hassoc : (resetLogs c : Cycle (StateM Sandbox) Unit) =
      ((Host.createDirs c.outputDir >>= file) >>= fun _ =>
        (Host.writeFile c.testsLog ByteArray.empty >>= file) >>= fun _ =>
          Host.writeFile c.testsError ByteArray.empty >>= file) := rfl
  rw [hassoc]
  exact (changes_change (·.makeDirs · (Path.ancestors c.outputDir)) s).bind fun t =>
    (changes_change (·.update · c.testsLog fun _ => ByteArray.empty) { s with files := t }).bind
      fun t' => changes_change (·.update · c.testsError fun _ => ByteArray.empty)
        { s with files := t' }

theorem changes_openLog (path : String) (s : Sandbox) :
    Changes (openLog path) s (s.files.update s.directory path (· ++ ByteArray.empty)) :=
  changes_change (·.update · path (· ++ ByteArray.empty)) s

theorem exec_removeIfFile (path : String) (p : Progress) (s : Sandbox) :
    exec (do
      if ← Host.isFile path then file (← Host.removeFile path) else pure () :
        Cycle (StateM Sandbox) Unit) (p, s) =
      match s.files.find s.directory path with
      | .ok (q, .file _) => (.ok (), p, { s with files := s.files.erase q })
      | _ => (.ok (), p, s) := by
  rw [exec_bind, show exec (Host.isFile path) (p, s) = _ from exec_look _ p s]
  dsimp only
  rcases hfind : s.files.find s.directory path with e | ⟨q, bytes | -⟩
  · have hnot : s.files.isFile s.directory path = false := by rw [isFile, hfind]
    rw [hnot]
    exact exec_pure _ _
  · have hfile : s.files.isFile s.directory path = true := by rw [isFile, hfind]
    have hremove : s.files.remove s.directory path = .ok (s.files.erase q) := by rw [remove, hfind]
    rw [hfile]
    refine (exec_change (·.remove · path) p s).trans ?_
    rw [hremove]
  · have hnot : s.files.isFile s.directory path = false := by rw [isFile, hfind]
    rw [hnot]
    exact exec_pure _ _

theorem exec_sweep {names : List String} (hnames : ∀ name ∈ names, Path.Proper name)
    (hreach : s.files.reach s.directory path = .ok full) (p : Progress) :
    ∃ files, exec (names.forM fun name => do
        let path := Path.join path name
        if ← Host.isFile path then file (← Host.removeFile path) else pure () :
          Cycle (StateM Sandbox) Unit) (p, s) = (.ok (), p, { s with files }) ∧
      Sweeps path full names s.files files := by
  induction names generalizing s with
  | nil => exact ⟨s.files, exec_pure _ _, .refl path full s.files⟩
  | cons name names ih =>
    obtain ⟨hname, hnames⟩ := List.forall_mem_cons.1 hnames
    have hstep : ∃ files, exec (do
          if ← Host.isFile (Path.join path name) then
            file (← Host.removeFile (Path.join path name)) else pure () :
            Cycle (StateM Sandbox) Unit) (p, s) = (.ok (), p, { s with files }) ∧
        Sweeps path full [name] s.files files := by
      rw [exec_removeIfFile]
      by_cases hfile : Removable full path name ∧
          ∃ bytes, s.files[full ++ [name]]? = some (.file bytes)
      · obtain ⟨hremovable, bytes, hfile⟩ := hfile
        have hfind := (find_join_eq_file_iff hreach hname).2 ⟨hremovable, rfl, hfile⟩
        exact ⟨_, by rw [hfind], sweeps_erase hremovable hfile⟩
      · -- a directory of that name stays, and so does a file whose path is too long
        refine ⟨s.files, ?_, sweeps_of_not_file hfile⟩
        rcases hfind : s.files.find s.directory (Path.join path name) with e | ⟨q, bytes | -⟩
        · rfl
        · obtain ⟨hremovable, -, hnode⟩ := (find_join_eq_file_iff hreach hname).1 hfind
          exact absurd ⟨hremovable, bytes, hnode⟩ hfile
        · rfl
    obtain ⟨files, hexec, hsweeps⟩ := hstep
    obtain ⟨files', hexec', hsweeps'⟩ :=
      ih (s := { s with files }) hnames (hsweeps.dirsIn.reach hreach)
    refine ⟨files', ?_, hsweeps.cons hsweeps'⟩
    exact (exec_bind_of_ok hexec _).trans hexec'

theorem exec_clearDirectory (hfull : s.files.findDir s.directory path = .ok full)
    (hproper : ∀ name, s.files[full ++ [name]]? ≠ none → Path.Proper name) (p : Progress) :
    ∃ names files, (∀ name, s.files[full ++ [name]]? ≠ none → name ∈ names) ∧
      exec (clearDirectory path : Cycle (StateM Sandbox) Unit) (p, s) =
        (.ok (), p, { s with files }) ∧ Sweeps path full names s.files files := by
  have hisDir : s.files.isDir s.directory path = true := isDir_eq_true_iff.2 ⟨full, hfull⟩
  have hmade : s.files.makeDirs s.directory (Path.ancestors path) = .ok s.files := by
    have hne : path.isEmpty = false := by
      by_contra hempty
      obtain rfl : path = "" := by simpa using hempty
      exact nomatch hfull
    simp only [Path.ancestors, hne, Bool.false_eq_true, if_false]
    exact makeDirs_of_isDir hisDir
  obtain ⟨names, hlisted⟩ : ∃ names, s.files.entries s.directory path = .ok names := by
    unfold entries
    rw [hfull]
    exact ⟨_, rfl⟩
  have hmem (name : String) : name ∈ names ↔ s.files[full ++ [name]]? ≠ none :=
    mem_of_entries hfull hlisted
  obtain ⟨files, hexec, hsweeps⟩ :=
    exec_sweep (fun name hname => hproper name ((hmem name).1 hname)) (reach_of_findDir hfull) p
  refine ⟨names, files, fun name => (hmem name).2, ?_, hsweeps⟩
  have hcreated : exec (Host.createDirs path >>= file : Cycle (StateM Sandbox) Unit) (p, s) =
      (.ok (), p, s) := by
    rw [exec_createDirs, hmade]
  have hnames : exec (Host.listDir path >>= file : Cycle (StateM Sandbox) (List String)) (p, s) =
      (.ok names, p, s) := by
    rw [exec_bind, show exec (Host.listDir path) (p, s) = _ from exec_look _ p s, hlisted]
    exact exec_pure _ _
  refine (exec_bind_bind _ _ _ _).trans ((exec_bind_of_ok hcreated _).trans ?_)
  exact (exec_bind_bind _ _ _ _).trans ((exec_bind_of_ok hnames _).trans hexec)

theorem proper_of_grown {t t' : FileTree} {name : String} {node : Node} {d : List String}
    (ht : HoldsLeftovers d path full t) (hgrown : Grown logNames t t')
    (hnode : t'[full ++ [name]]? = some node) : Path.Proper name := by
  rcases hgrown (full ++ [name]) with heq | ⟨parent, last, hq, hlast, -⟩
  · exact (ht.removable (heq ▸ hnode)).1
  · obtain ⟨-, rfl⟩ : full = parent ∧ name = last := by simpa using List.append_inj' hq rfl
    exact hlast

theorem exec_clearLeftovers {t t' : FileTree} (ht : HoldsLeftovers s.directory path full t)
    (hgrown : Grown logNames t t') (p : Progress) :
    ∃ names files, (∀ name, t'[full ++ [name]]? ≠ none → name ∈ names) ∧
      exec (clearDirectory path : Cycle (StateM Sandbox) Unit) (p, { s with files := t' }) =
        (.ok (), p, { s with files }) ∧ Sweeps path full names t' files := by
  refine exec_clearDirectory (s := { s with files := t' })
    (hgrown.dirsIn.findDir ht.findDir_eq) (fun name hname => ?_) p
  obtain ⟨node, hnode⟩ := Option.ne_none_iff_exists'.1 hname
  exact proper_of_grown ht hgrown hnode

/-- If the directory of the logs can be made in both of two trees that differ in leftovers only,
cycles in them end alike. -/
theorem endAlike_plain {c : RunnerConfig} {root : String} {t u : FileTree}
    (ht : HoldsLeftovers s.directory (c.coveragePath root) full t)
    (hu : HoldsLeftovers s.directory (c.coveragePath root) full u)
    (hsame : ∀ q : List String, (∀ name, q ≠ full ++ [name]) → t[q]? = u[q]?)
    (hdirs : t.isDir s.directory root = true →
      ∃ t' u', t.makeDirs s.directory (Path.ancestors c.outputDir) = .ok t' ∧
        u.makeDirs s.directory (Path.ancestors c.outputDir) = .ok u') (p : Progress) :
    EndAlike (exec (plain (m := StateM Sandbox) c root) (p, { s with files := t }))
      (exec (plain (m := StateM Sandbox) c root) (p, { s with files := u })) := by
  have halike := ht.sameBut hu hsame
  have hroot : u.isDir s.directory root = t.isDir s.directory root :=
    Bool.eq_iff_iff.2 ⟨halike.symm.dirsIn.isDir, halike.dirsIn.isDir⟩
  unfold plain
  rw [exec_bind, exec_bind (checkRoot root), exec_checkRoot, exec_checkRoot]
  dsimp only
  rw [hroot]
  cases hisDir : t.isDir s.directory root with
  | false => exact .error _ p _ _
  | true =>
    obtain ⟨t', u', ht', hu'⟩ := hdirs hisDir
    have hlogs := changes_resetLogs c { s with files := t }
    have hlogs' := changes_resetLogs c { s with files := u }
    rw [if_pos rfl, if_pos rfl]
    dsimp only
    rcases halike.withLogs ht' hu' with ⟨t₁, u₁, ht₁, hu₁, halike₁⟩ | ⟨e, ht₁, hu₁⟩
    · rw [ht₁] at hlogs
      rw [hu₁] at hlogs'
      rw [exec_bind_of_ok (hlogs p), exec_bind_of_ok (hlogs' p)]
      have hgrown := grown_of_withLogs ht₁
      have hgrown' := grown_of_withLogs hu₁
      obtain ⟨names, files, hnames, hcleared, hsweeps⟩ := exec_clearLeftovers ht hgrown p
      obtain ⟨names', files', hnames', hcleared', hsweeps'⟩ := exec_clearLeftovers hu hgrown' p
      -- from here on the two worlds are one, so nothing that follows needs to be looked at
      obtain rfl := halike₁.eq_of_sweeps (fun q hq => hq) hnames hnames' hsweeps hsweeps'
      rw [exec_bind_of_ok hcleared, exec_bind_of_ok hcleared']
      exact .same _
    · rw [ht₁] at hlogs
      rw [hu₁] at hlogs'
      obtain ⟨s₁, hs₁⟩ := hlogs p
      obtain ⟨s₁', hs₁'⟩ := hlogs' p
      rw [exec_bind_of_error hs₁, exec_bind_of_error hs₁']
      exact .error _ p _ _

end Sandbox
end UnitTestGen

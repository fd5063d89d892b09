import Mathlib.Data.List.Nodup
import UnitTestGen.Proofs.Host.Paths

/-! Trees that differ only in the files at some places. The same paths lead somewhere in both, and
what makes directories or writes files keeps the trees alike or fails in one of them, where a file
stands in the way. -/

namespace UnitTestGen
namespace FileTree

variable {D : List String → Prop} {t u t' u' : FileTree} {d full : List String} {path : String}

/-- The trees are the same but for some places, at which each holds a file or nothing. -/
def SameBut (D : List String → Prop) (t u : FileTree) : Prop :=
  ∀ q : List String, t[q]? = u[q]? ∨ D q ∧ t[q]? ≠ some .dir ∧ u[q]? ≠ some .dir

def Grown (names : List String) (t t' : FileTree) : Prop :=
  ∀ q : List String, t'[q]? = t[q]? ∨ ∃ parent name, q = parent ++ [name] ∧ Path.Proper name ∧
    (t[q]? = none ∧ t'[q]? = some .dir ∨
      name ∈ names ∧ t[q]? ≠ some .dir ∧ ∃ bytes, t'[q]? = some (.file bytes))

namespace Grown

variable {names : List String}

theorem refl (names : List String) (t : FileTree) : Grown names t t := fun _ => .inl rfl

theorem trans {t'' : FileTree} (h : Grown names t t') (h' : Grown names t' t'') :
    Grown names t t'' := by
  intro q
  rcases h q with heq | ⟨parent, name, rfl, hname, hgrown⟩
  · rw [← heq]
    exact h' q
  rcases h' (parent ++ [name]) with heq | ⟨parent', name', hq, -, hgrown'⟩
  · rw [heq]
    exact .inr ⟨parent, name, rfl, hname, hgrown⟩
  -- what was made stands in the way of a directory, and a directory in that of a file
  obtain ⟨rfl, rfl⟩ : parent = parent' ∧ name = name' := by
    simpa using List.append_inj' hq rfl
  refine .inr ⟨parent, name, rfl, hname, ?_⟩
  rcases hgrown with ⟨-, hdir⟩ | ⟨hmem, hnode, bytes, hfile⟩
  · rcases hgrown' with ⟨hnone, -⟩ | ⟨-, hnode, -⟩
    · exact nomatch hnone.symm.trans hdir
    · exact absurd hdir hnode
  · rcases hgrown' with ⟨hnone, -⟩ | ⟨-, -, hfile'⟩
    · exact nomatch hnone.symm.trans hfile
    · exact .inr ⟨hmem, hnode, hfile'⟩

theorem dirsIn (h : Grown names t t') : DirsIn t t' := by
  intro q hq
  rcases h q with heq | ⟨parent, name, rfl, -, ⟨hnone, hdir⟩ | ⟨-, hnode, -⟩⟩
  · rwa [heq]
  · exact hdir
  · exact absurd hq hnode

theorem insert_dir {p : Place} {name : String} (hp : t.locate d path = .ok p)
    (hname : p.name = some name) (hnone : t[p.directory ++ [name]]? = none) :
    Grown names t (t.insert (p.directory ++ [name]) .dir) := by
  obtain ⟨init, -, hproper, -⟩ := names_of_locate hp hname
  intro q
  rw [getElem?_insert_eq]
  split
  · rename_i hq
    exact .inr ⟨p.directory, name, hq, hproper, .inl ⟨hq ▸ hnone, rfl⟩⟩
  · exact .inl rfl

end Grown

def Written (names : List String) (t t' : FileTree) : Prop :=
  ∀ q : List String, t'[q]? = t[q]? ∨ ∃ parent name, q = parent ++ [name] ∧ Path.Proper name ∧
    name ∈ names ∧ t[q]? ≠ some .dir ∧ ∃ bytes, t'[q]? = some (.file bytes)

theorem Written.grown {names : List String} (h : Written names t t') : Grown names t t' := fun q =>
  (h q).imp_right fun ⟨parent, name, hq, hproper, hrest⟩ =>
    ⟨parent, name, hq, hproper, .inr hrest⟩

theorem Written.getElem?_eq {names : List String} (h : Written names t t') {parent : List String}
    {name : String} (hname : name ∉ names) : t'[parent ++ [name]]? = t[parent ++ [name]]? := by
  rcases h (parent ++ [name]) with heq | ⟨parent', name', hq, -, hmem, -⟩
  · exact heq
  · obtain ⟨-, rfl⟩ : parent = parent' ∧ name = name' := by simpa using List.append_inj' hq rfl
    exact absurd hmem hname

theorem written_insert {names : List String} {p : Place} {name : String}
    (hp : t.locate d path = .ok p) (hname : p.name = some name)
    (hnode : t[p.directory ++ [name]]? ≠ some .dir) (hmem : name ∈ names) (bytes : ByteArray) :
    Written names t (t.insert (p.directory ++ [name]) (.file bytes)) := by
  obtain ⟨init, -, hproper, -⟩ := names_of_locate hp hname
  intro q
  rw [getElem?_insert_eq]
  split
  · rename_i hq
    exact .inr ⟨p.directory, name, hq, hproper, hmem, hq ▸ hnode, bytes, rfl⟩
  · exact .inl rfl

theorem makeDir_of_locate {p : Place} {name : String} (hp : t.locate d path = .ok p)
    (hname : p.name = some name) :
    t.makeDir d path = match t[p.directory ++ [name]]? with
      | none => .ok (t.insert (p.directory ++ [name]) .dir)
      | some _ => .error .alreadyExists := by
  obtain ⟨directory, name', slash⟩ := p
  obtain rfl : name' = some name := hname
  unfold makeDir
  rw [hp]
  change (if t.contains (directory ++ [name]) then _ else _) = _
  rw [Std.ExtTreeMap.contains_eq_isSome_getElem?]
  cases t[directory ++ [name]]? <;> rfl

theorem exists_of_ensureDir (h : t.ensureDir d path = .ok t') :
    t' = t ∧ t.isDir d path = true ∨ ∃ p name, t.locate d path = .ok p ∧ p.name = some name ∧
      t[p.directory ++ [name]]? = none ∧ t' = t.insert (p.directory ++ [name]) .dir := by
  unfold ensureDir at h
  cases hmade : t.makeDir d path with
  | error e =>
    rw [hmade] at h
    by_cases hd : t.isDir d path
    · simp only [hd, if_true] at h
      exact .inl ⟨(Except.ok.inj h).symm, hd⟩
    · simp only [hd] at h
      exact nomatch h
  | ok made =>
    rw [hmade] at h
    obtain rfl : made = t' := Except.ok.inj h
    obtain ⟨p, hp, hplaced⟩ := exists_of_bind_eq_ok hmade
    cases hname : p.name with
    | none =>
      rw [hname] at hplaced
      exact nomatch hplaced
    | some name =>
      rw [makeDir_of_locate hp hname] at hmade
      rcases hnode : t[p.directory ++ [name]]? with - | node <;> rw [hnode] at hmade
      · exact .inr ⟨p, name, hp, hname, hnode, (Except.ok.inj hmade).symm⟩
      · exact nomatch hmade

theorem ensureDir_of_isDir (h : t.isDir d path = true) : t.ensureDir d path = .ok t := by
  obtain ⟨full, hfull⟩ := isDir_eq_true_iff.1 h
  obtain ⟨p, hp, hplace⟩ := exists_place_of_findDir hfull
  have hexists : t.makeDir d path = .error .alreadyExists := by
    rcases hplace with ⟨hname, -⟩ | ⟨name, hname, rfl, hnode⟩
    · obtain ⟨directory, name, slash⟩ := p
      obtain rfl : name = none := hname
      rw [makeDir, hp]
      rfl
    · rw [makeDir_of_locate hp hname, hnode]
  rw [ensureDir, hexists]
  exact if_pos h

theorem ensureDir_of_none {p : Place} {name : String} (hp : t.locate d path = .ok p)
    (hname : p.name = some name) (hnone : t[p.directory ++ [name]]? = none) :
    t.ensureDir d path = .ok (t.insert (p.directory ++ [name]) .dir) := by
  rw [ensureDir, makeDir_of_locate hp hname, hnone]

theorem ensureDir_of_file {p : Place} {name : String} {bytes : ByteArray}
    (hp : t.locate d path = .ok p) (hname : p.name = some name)
    (hfile : t[p.directory ++ [name]]? = some (.file bytes)) :
    t.ensureDir d path = .error .alreadyExists := by
  have hnot : t.isDir d path = false := by
    obtain ⟨directory, name', slash⟩ := p
    obtain rfl : name' = some name := hname
    rw [isDir, find_of_locate hp, hfile]
    cases slash <;> rfl
  rw [ensureDir, makeDir_of_locate hp hname, hfile, hnot]
  rfl

theorem isDir_of_ensureDir (h : t.ensureDir d path = .ok t') : t'.isDir d path = true := by
  rcases exists_of_ensureDir h with ⟨rfl, hd⟩ | ⟨p, name, hp, hname, -, rfl⟩
  · exact hd
  · have hnode : (t.insert (p.directory ++ [name]) .dir)[p.directory ++ [name]]? = some .dir := by
      rw [getElem?_insert_eq, if_pos rfl]
    exact isDir_eq_true_iff.2
      ⟨_, findDir_of_place ((DirsIn.insert_dir _).locate hp) (.inr ⟨name, hname, rfl, hnode⟩)⟩

theorem grown_of_ensureDir (names : List String) (h : t.ensureDir d path = .ok t') :
    Grown names t t' := by
  rcases exists_of_ensureDir h with ⟨rfl, -⟩ | ⟨p, name, hp, hname, hnone, rfl⟩
  · exact .refl names _
  · exact .insert_dir hp hname hnone

theorem exists_of_makeDirs {above : List String} (h : t.makeDirs d (path :: above) = .ok t') :
    t.ensureDir d path = .ok t' ∨ t.ensureDir d path = .error .notFound ∧
      ∃ made, t.makeDirs d above = .ok made ∧ made.ensureDir d path = .ok t' := by
  unfold makeDirs at h
  split at h
  · rename_i hmissing
    exact .inr ⟨hmissing, exists_of_bind_eq_ok h⟩
  · exact .inl h

theorem isDir_of_makeDirs {above : List String} (h : t.makeDirs d (path :: above) = .ok t') :
    t'.isDir d path = true := by
  rcases exists_of_makeDirs h with h | ⟨-, made, -, h⟩
  · exact isDir_of_ensureDir h
  · exact isDir_of_ensureDir h

theorem makeDirs_of_isDir {above : List String} (h : t.isDir d path = true) :
    t.makeDirs d (path :: above) = .ok t := by
  unfold makeDirs
  rw [ensureDir_of_isDir h]

theorem grown_of_makeDirs (names : List String) {paths : List String}
    (h : t.makeDirs d paths = .ok t') : Grown names t t' := by
  induction paths generalizing t t' with
  | nil =>
    cases h
    exact .refl names _
  | cons path above ih =>
    rcases exists_of_makeDirs h with h | ⟨-, made, hmade, h⟩
    · exact grown_of_ensureDir names h
    · exact (ih hmade).trans (grown_of_ensureDir names h)

namespace SameBut

theorem symm (h : SameBut D t u) : SameBut D u t := fun q =>
  (h q).imp Eq.symm fun ⟨hq, ht, hu⟩ => ⟨hq, hu, ht⟩

theorem dirsIn (h : SameBut D t u) : DirsIn t u := by
  intro q hq
  rcases h q with heq | ⟨-, ht, -⟩
  · rwa [← heq]
  · exact absurd hq ht

theorem insert (h : SameBut D t u) (q : List String) (node : Node) :
    SameBut D (t.insert q node) (u.insert q node) := by
  intro r
  rw [getElem?_insert_eq, getElem?_insert_eq]
  split
  · exact .inl rfl
  · exact h r

theorem ensureDir (h : SameBut D t u) (ht : t.ensureDir d path = .ok t') :
    (∃ u', u.ensureDir d path = .ok u' ∧ SameBut D t' u') ∨
      u.ensureDir d path = .error .alreadyExists := by
  rcases exists_of_ensureDir ht with ⟨rfl, hd⟩ | ⟨p, name, hp, hname, hnone, rfl⟩
  · exact .inl ⟨u, ensureDir_of_isDir (h.dirsIn.isDir hd), h⟩
  have hp' := h.dirsIn.locate hp
  rcases hnode : u[p.directory ++ [name]]? with - | bytes | -
  · exact .inl ⟨_, ensureDir_of_none hp' hname hnode, h.insert _ _⟩
  · exact .inr (ensureDir_of_file hp' hname hnode)
  · exact nomatch hnone.symm.trans (h.symm.dirsIn _ hnode)

theorem makeDirs (h : SameBut D t u) {paths : List String} (ht : t.makeDirs d paths = .ok t')
    (hu : u.makeDirs d paths = .ok u') : SameBut D t' u' := by
  induction paths generalizing t u t' u' with
  | nil =>
    cases ht
    cases hu
    exact h
  | cons path above ih =>
    have hmade {t u t' u' : FileTree} (h : SameBut D t u) (ht : t.ensureDir d path = .ok t')
        (hu : u.ensureDir d path = .ok u') : SameBut D t' u' := by
      rcases h.ensureDir ht with ⟨u'', hu'', h'⟩ | hblocked
      · cases hu.symm.trans hu''
        exact h'
      · exact nomatch hu.symm.trans hblocked
    -- where one tree lacks a directory above, so does the other
    have hmissing {t u t' : FileTree} (h : SameBut D t u) (ht : t.ensureDir d path = .ok t')
        (hu : u.ensureDir d path = .error .notFound) : False := by
      rcases h.ensureDir ht with ⟨u', hu', -⟩ | hblocked
      · exact nomatch hu.symm.trans hu'
      · exact nomatch hu.symm.trans hblocked
    rcases exists_of_makeDirs ht with ht | ⟨ht, t'', ht'', ht'⟩ <;>
      rcases exists_of_makeDirs hu with hu | ⟨hu, u'', hu'', hu'⟩
    · exact hmade h ht hu
    · exact (hmissing h ht hu).elim
    · exact (hmissing h.symm hu ht).elim
    · exact hmade (ih h ht'' hu'') ht' hu'

end SameBut

variable {base name : String}

theorem update_join (h : t.reach d base = .ok full) (hname : Path.Proper name)
    (f : ByteArray → ByteArray) :
    t.update d (Path.join base name) f = (do
      let _ ← placeUnder full base name
      match t[full ++ [name]]? with
      | some .dir => .error .isADirectory
      | some (.file bytes) => .ok (t.insert (full ++ [name]) (.file (f bytes)))
      | none => .ok (t.insert (full ++ [name]) (.file (f ByteArray.empty)))) := by
  unfold update
  rw [locate_join h hname]
  cases hp : placeUnder full base name with
  | error e => rfl
  | ok p =>
    obtain rfl := eq_of_placeUnder hp
    rfl

theorem written_of_update {names : List String} (hname : Path.Proper name) (hmem : name ∈ names)
    {f : ByteArray → ByteArray} (h : t.update d (Path.join base name) f = .ok t') :
    Written names t t' := by
  obtain ⟨⟨directory, last, slash⟩, hp, hmade⟩ := exists_of_bind_eq_ok h
  cases last with
  | none => exact nomatch hmade
  | some last =>
    obtain rfl := name_of_locate_join hname.ne_empty hname.slash_notMem hp rfl
    dsimp only at hmade
    split at hmade
    · exact nomatch hmade
    rcases hnode : t[directory ++ [last]]? with - | bytes | - <;> rw [hnode] at hmade
    · cases hmade
      exact written_insert hp rfl (by rw [hnode]; nofun) hmem _
    · cases hmade
      exact written_insert hp rfl (by rw [hnode]; nofun) hmem _
    · exact nomatch hmade

theorem SameBut.write (h : SameBut D t u) (hreach : t.reach d base = .ok full)
    (hname : Path.Proper name) (bytes : ByteArray) :
    (∃ t' u', t.update d (Path.join base name) (fun _ => bytes) = .ok t' ∧
      u.update d (Path.join base name) (fun _ => bytes) = .ok u' ∧ SameBut D t' u') ∨
    ∃ e, t.update d (Path.join base name) (fun _ => bytes) = .error e ∧
      u.update d (Path.join base name) (fun _ => bytes) = .error e := by
  rw [update_join hreach hname, update_join (h.dirsIn.reach hreach) hname]
  cases placeUnder full base name with
  | error e => exact .inr ⟨e, rfl, rfl⟩
  | ok p =>
    have hinsert := h.insert (full ++ [name]) (.file bytes)
    rcases hnode : t[full ++ [name]]? with - | old | - <;>
      rcases hnode' : u[full ++ [name]]? with - | old' | -
    case some.dir.some.dir => exact .inr ⟨_, rfl, rfl⟩
    case none.some.dir => exact nomatch hnode.symm.trans (h.symm.dirsIn _ hnode')
    case some.file.some.dir => exact nomatch hnode.symm.trans (h.symm.dirsIn _ hnode')
    case some.dir.none => exact nomatch hnode'.symm.trans (h.dirsIn _ hnode)
    case some.dir.some.file => exact nomatch hnode'.symm.trans (h.dirsIn _ hnode)
    all_goals exact .inl ⟨_, _, rfl, rfl, hinsert⟩

theorem exists_reach_of_makeDirs (h : t.makeDirs d (Path.ancestors path) = .ok t') :
    ∃ full, t'.reach d path = .ok full := by
  unfold Path.ancestors at h
  by_cases hempty : path = ""
  · subst hempty
    exact ⟨d, rfl⟩
  · have hfalse : path.isEmpty = false := by simpa using hempty
    simp only [hfalse, Bool.false_eq_true, if_false] at h
    obtain ⟨full, hfull⟩ := isDir_eq_true_iff.1 (isDir_of_makeDirs h)
    exact ⟨full, reach_of_findDir hfull⟩

def Removable (full : List String) (base name : String) : Prop :=
  placeUnder full base name = .ok ⟨full, some name, false⟩

theorem find_join_eq_file_iff (h : t.reach d base = .ok full) (hname : Path.Proper name)
    {q : List String} {bytes : ByteArray} :
    t.find d (Path.join base name) = .ok (q, .file bytes) ↔
      Removable full base name ∧ q = full ++ [name] ∧
        t[full ++ [name]]? = some (.file bytes) := by
  unfold find Removable
  rw [locate_join h hname]
  cases hp : placeUnder full base name with
  | error e => simp [bind, Except.bind]
  | ok p =>
    obtain rfl := eq_of_placeUnder hp
    simp only [bind, Except.bind, nodeAt]
    rcases hnode : t[full ++ [name]]? with - | old | -
    · simp
    · simp [eq_comm]
    · simp

theorem nameBelow_eq_some_iff {q : List String} :
    (if q.length = full.length + 1 ∧ q.take full.length = full then q.getLast? else none) =
      some name ↔ q = full ++ [name] := by
  constructor
  · intro hlast
    split at hlast
    · rename_i hbelow
      obtain ⟨init, rfl⟩ := List.getLast?_eq_some_iff.1 hlast
      have hlength : init.length = full.length := by simpa using hbelow.1
      rw [← hbelow.2, ← hlength, List.take_left]
    · exact nomatch hlast
  · rintro rfl
    rw [if_pos ⟨by simp, List.take_left⟩, List.getLast?_concat]

theorem mem_of_entries {names : List String} (hfull : t.findDir d path = .ok full)
    (h : t.entries d path = .ok names) : name ∈ names ↔ t[full ++ [name]]? ≠ none := by
  unfold entries at h
  rw [hfull] at h
  obtain rfl := Except.ok.inj h
  simp only [List.mem_filterMap, nameBelow_eq_some_iff, exists_eq_right,
    Std.ExtTreeMap.mem_keys, Std.ExtTreeMap.mem_iff_isSome_getElem?, Option.isSome_iff_ne_none]

theorem nodup_of_entries {names : List String} (h : t.entries d path = .ok names) :
    names.Nodup := by
  obtain ⟨full, hfull, h⟩ := exists_of_bind_eq_ok h
  obtain rfl := Except.ok.inj h
  have hkeys : t.keys.Nodup := t.distinct_keys.imp fun hne heq => hne (by simp [heq])
  refine List.Nodup.filterMap (fun q q' name hq hq' => ?_) hkeys
  rw [Option.mem_def, nameBelow_eq_some_iff] at hq hq'
  rw [hq, hq']

/-- The directory at a path holds nothing but files to which the path of their names leads. -/
structure HoldsLeftovers (d : List String) (path : String) (full : List String) (t : FileTree) :
    Prop where
  findDir_eq : t.findDir d path = .ok full
  exists_file : ∀ name node, t[full ++ [name]]? = some node →
    ∃ bytes, t.find d (Path.join path name) = .ok (full ++ [name], .file bytes)

theorem HoldsLeftovers.removable (h : HoldsLeftovers d path full t) {node : Node}
    (hnode : t[full ++ [name]]? = some node) :
    Path.Proper name ∧ Removable full path name ∧
      ∃ bytes, t[full ++ [name]]? = some (.file bytes) := by
  obtain ⟨bytes, hfind⟩ := h.exists_file name node hnode
  have hproper : Path.Proper name := by
    obtain ⟨directory, last, hp, hq, -⟩ := exists_place_of_find hfind
    obtain ⟨init, -, hlast, -⟩ := names_of_locate hp rfl
    obtain ⟨-, rfl⟩ : full = directory ∧ name = last := by simpa using List.append_inj' hq rfl
    exact hlast
  have hfile := (find_join_eq_file_iff (reach_of_findDir h.findDir_eq) hproper).1 hfind
  exact ⟨hproper, hfile.1, bytes, hfile.2.2⟩

theorem HoldsLeftovers.insert (h : HoldsLeftovers d path full t) (hname : Path.Proper name)
    (hremovable : Removable full path name) (bytes : ByteArray) :
    HoldsLeftovers d path full (t.insert (full ++ [name]) (.file bytes)) := by
  have hdirs : DirsIn t (t.insert (full ++ [name]) (.file bytes)) := by
    refine .insert_file (fun hdir => ?_) bytes
    obtain ⟨-, -, old, hfile⟩ := h.removable hdir
    exact nomatch hdir.symm.trans hfile
  have hfull := hdirs.findDir h.findDir_eq
  refine ⟨hfull, fun last node hnode => ?_⟩
  by_cases hlast : last = name
  · subst hlast
    have hfile : (t.insert (full ++ [last]) (.file bytes))[full ++ [last]]? =
        some (.file bytes) := by rw [getElem?_insert_eq, if_pos rfl]
    exact ⟨bytes, (find_join_eq_file_iff (reach_of_findDir hfull) hname).2
      ⟨hremovable, rfl, hfile⟩⟩
  · have hother : full ++ [last] ≠ full ++ [name] := by simpa using hlast
    have hkept : (t.insert (full ++ [name]) (.file bytes))[full ++ [last]]? =
        t[full ++ [last]]? := by rw [getElem?_insert_eq, if_neg hother]
    obtain ⟨hproper, hplace, old, hfile⟩ := h.removable (hkept ▸ hnode)
    exact ⟨old, (find_join_eq_file_iff (reach_of_findDir hfull) hproper).2
      ⟨hplace, rfl, hkept.trans hfile⟩⟩

theorem HoldsLeftovers.sameBut (ht : HoldsLeftovers d path full t)
    (hu : HoldsLeftovers d path full u)
    (hsame : ∀ q : List String, (∀ name, q ≠ full ++ [name]) → t[q]? = u[q]?) :
    SameBut (fun q => ∃ name, q = full ++ [name] ∧ Removable full path name) t u := by
  intro q
  by_cases hq : ∃ name, q = full ++ [name]
  · obtain ⟨name, rfl⟩ := hq
    rcases hnode : t[full ++ [name]]? with - | node <;>
      rcases hnode' : u[full ++ [name]]? with - | node'
    · exact .inl rfl
    · obtain ⟨-, hremovable, bytes, hfile⟩ := hu.removable hnode'
      refine .inr ⟨⟨name, rfl, hremovable⟩, nofun, ?_⟩
      rw [← hnode', hfile]
      exact nofun
    · obtain ⟨-, hremovable, bytes, hfile⟩ := ht.removable hnode
      refine .inr ⟨⟨name, rfl, hremovable⟩, ?_, nofun⟩
      rw [← hnode, hfile]
      exact nofun
    · obtain ⟨-, hremovable, bytes, hfile⟩ := ht.removable hnode
      obtain ⟨-, -, bytes', hfile'⟩ := hu.removable hnode'
      refine .inr ⟨⟨name, rfl, hremovable⟩, ?_, ?_⟩
      · rw [← hnode, hfile]
        exact nofun
      · rw [← hnode', hfile']
        exact nofun
  · exact .inl (hsame q (not_exists.1 hq))

def Swept (base : String) (full names : List String) (t : FileTree) (q : List String) : Prop :=
  ∃ name ∈ names, q = full ++ [name] ∧ Removable full base name ∧
    ∃ bytes, t[q]? = some (.file bytes)

def Sweeps (base : String) (full names : List String) (t t' : FileTree) : Prop :=
  ∀ q, (Swept base full names t q → t'[q]? = none) ∧ (¬ Swept base full names t q → t'[q]? = t[q]?)

theorem Sweeps.refl (base : String) (full : List String) (t : FileTree) :
    Sweeps base full [] t t :=
  fun _ => ⟨fun ⟨_, hname, _⟩ => absurd hname List.not_mem_nil, fun _ => rfl⟩

theorem Sweeps.dirsIn {names : List String} (h : Sweeps base full names t t') : DirsIn t t' := by
  intro q hq
  rw [(h q).2, hq]
  rintro ⟨name, -, -, -, bytes, hfile⟩
  exact nomatch hfile.symm.trans hq

theorem Sweeps.cons {names : List String} {t'' : FileTree} (h : Sweeps base full [name] t t')
    (h' : Sweeps base full names t' t'') : Sweeps base full (name :: names) t t'' := by
  intro q
  by_cases hfirst : Swept base full [name] t q
  · have hgone := (h q).1 hfirst
    have hnot : ¬ Swept base full names t' q := fun ⟨_, _, _, _, bytes, hfile⟩ =>
      nomatch hgone.symm.trans hfile
    refine ⟨fun _ => ((h' q).2 hnot).trans hgone, fun hswept => absurd ?_ hswept⟩
    obtain ⟨n, hn, hrest⟩ := hfirst
    exact ⟨n, List.mem_cons.2 (.inl (List.mem_singleton.1 hn)), hrest⟩
  · have hkept := (h q).2 hfirst
    refine ⟨?_, fun hswept => ?_⟩
    · rintro ⟨n, hn, hq, hremovable, bytes, hfile⟩
      rcases List.mem_cons.1 hn with rfl | hn
      · exact absurd ⟨n, List.mem_cons_self, hq, hremovable, bytes, hfile⟩ hfirst
      · exact (h' q).1 ⟨n, hn, hq, hremovable, bytes, hkept ▸ hfile⟩
    · refine ((h' q).2 ?_).trans hkept
      rintro ⟨n, hn, hq, hremovable, bytes, hfile⟩
      exact hswept ⟨n, List.mem_cons_of_mem _ hn, hq, hremovable, bytes, hkept ▸ hfile⟩

theorem sweeps_erase {bytes : ByteArray} (hremovable : Removable full base name)
    (hfile : t[full ++ [name]]? = some (.file bytes)) :
    Sweeps base full [name] t (t.erase (full ++ [name])) := by
  intro q
  rw [getElem?_erase_eq]
  refine ⟨?_, fun hswept => if_neg ?_⟩
  · rintro ⟨n, hn, hq, -⟩
    rw [if_pos (by rw [hq, List.mem_singleton.1 hn])]
  · rintro rfl
    exact hswept ⟨name, List.mem_cons_self, rfl, hremovable, bytes, hfile⟩

theorem sweeps_of_not_file (h : ¬ (Removable full base name ∧
    ∃ bytes, t[full ++ [name]]? = some (.file bytes))) : Sweeps base full [name] t t := by
  refine fun q => ⟨?_, fun _ => rfl⟩
  rintro ⟨n, hn, rfl, hfile⟩
  obtain rfl := List.mem_singleton.1 hn
  exact absurd hfile h

theorem SameBut.eq_of_sweeps {names names' : List String} (h : SameBut D t u)
    (hD : ∀ q, D q → ∃ name, q = full ++ [name] ∧ Removable full base name)
    (hnames : ∀ name, t[full ++ [name]]? ≠ none → name ∈ names)
    (hnames' : ∀ name, u[full ++ [name]]? ≠ none → name ∈ names')
    (ht : Sweeps base full names t t') (hu : Sweeps base full names' u u') : t' = u' := by
  have hswept {names : List String} {t : FileTree}
      (hnames : ∀ name, t[full ++ [name]]? ≠ none → name ∈ names) {q : List String} (hq : D q)
      (hdir : t[q]? ≠ some .dir) (hnot : ¬ Swept base full names t q) : t[q]? = none := by
    obtain ⟨name, rfl, hremovable⟩ := hD q hq
    rcases hnode : t[full ++ [name]]? with - | bytes | -
    · rfl
    · exact absurd ⟨name, hnames name (by rw [hnode]; nofun), rfl, hremovable, bytes, hnode⟩ hnot
    · exact absurd hnode hdir
  have hgone {names : List String} {t t' : FileTree}
      (hnames : ∀ name, t[full ++ [name]]? ≠ none → name ∈ names)
      (ht : Sweeps base full names t t') {q : List String} (hq : D q)
      (hdir : t[q]? ≠ some .dir) : t'[q]? = none := by
    by_cases h : Swept base full names t q
    · exact (ht q).1 h
    · exact ((ht q).2 h).trans (hswept hnames hq hdir h)
  refine Std.ExtTreeMap.ext_getElem? fun q => ?_
  rcases h q with heq | ⟨hq, htq, huq⟩
  · have hiff : Swept base full names t q ↔ Swept base full names' u q := by
      constructor
      · rintro ⟨name, -, rfl, hremovable, bytes, hfile⟩
        rw [heq] at hfile
        exact ⟨name, hnames' name (by rw [hfile]; nofun), rfl, hremovable, bytes, hfile⟩
      · rintro ⟨name, -, rfl, hremovable, bytes, hfile⟩
        rw [← heq] at hfile
        exact ⟨name, hnames name (by rw [hfile]; nofun), rfl, hremovable, bytes, hfile⟩
    by_cases hs : Swept base full names t q
    · rw [(ht q).1 hs, (hu q).1 (hiff.1 hs)]
    · rw [(ht q).2 hs, (hu q).2 fun h => hs (hiff.2 h), heq]
  · rw [hgone hnames ht hq htq, hgone hnames' hu hq huq]

end FileTree
end UnitTestGen

import Mathlib.Data.List.Basic
import UnitTestGen.Proofs.Host.Rewriting
import UnitTestGen.Proofs.Outcomes

/-! Where paths lead. A path that leads somewhere goes through directories only, so trees with the
same directories know the same ways, whatever files they hold. In a directory that a path reaches, a
name leads to its own place or, if the path gets too long, nowhere. -/

namespace UnitTestGen

namespace Text

theorem consHead_append (c : Char) {ps : List (List Char)} (hps : ps ≠ []) (qs : List (List Char)) :
    consHead c (ps ++ qs) = consHead c ps ++ qs := by
  cases ps with
  | nil => exact absurd rfl hps
  | cons p ps => rfl

theorem pieces_ne_nil (separator : Char) (s : List Char) : pieces separator s ≠ [] := by
  induction s with
  | nil => exact List.cons_ne_nil _ _
  | cons c s ih =>
    unfold pieces
    split
    · exact List.cons_ne_nil _ _
    · cases hp : pieces separator s with
      | nil => exact absurd hp ih
      | cons p ps => exact List.cons_ne_nil _ _

theorem pieces_append_cons (separator : Char) (a b : List Char) :
    pieces separator (a ++ separator :: b) = pieces separator a ++ pieces separator b := by
  induction a with
  | nil => simp [pieces]
  | cons c a ih =>
    simp only [List.cons_append, pieces, ih]
    split
    · rfl
    · exact consHead_append c (pieces_ne_nil separator a) _

theorem pieces_of_notMem {separator : Char} {s : List Char} (h : separator ∉ s) :
    pieces separator s = [s] := by
  induction s with
  | nil => rfl
  | cons c s ih =>
    have hc : c ≠ separator := (List.ne_of_not_mem_cons h).symm
    rw [pieces, if_neg hc, ih (List.not_mem_of_not_mem_cons h)]
    rfl

theorem notMem_of_mem_pieces {separator : Char} {s p : List Char} (hp : p ∈ pieces separator s) :
    separator ∉ p := by
  induction s generalizing p with
  | nil =>
    obtain rfl := List.mem_singleton.1 hp
    exact List.not_mem_nil
  | cons c s ih =>
    unfold pieces at hp
    split at hp
    · rcases List.mem_cons.1 hp with rfl | hp
      · exact List.not_mem_nil
      · exact ih hp
    · rename_i hc
      cases hps : pieces separator s with
      | nil => exact absurd hps (pieces_ne_nil separator s)
      | cons q qs =>
        rw [hps] at hp ih
        rcases List.mem_cons.1 hp with rfl | hp
        · exact List.not_mem_cons_of_ne_of_not_mem (Ne.symm hc) (ih List.mem_cons_self)
        · exact ih (List.mem_cons_of_mem _ hp)

end Text

namespace Path

structure Proper (name : String) : Prop where
  ne_empty : name ≠ ""
  slash_notMem : '/' ∉ name.toList
  ne_dot : name ≠ "."
  ne_dots : name ≠ ".."

theorem mem_names {path name : String} (h : name ∈ names path) :
    name ≠ "" ∧ '/' ∉ name.toList := by
  obtain ⟨piece, hpiece, rfl⟩ := List.mem_map.1 h
  obtain ⟨hpiece, hne⟩ := List.mem_filter.1 hpiece
  refine ⟨fun hempty => ?_, ?_⟩
  · obtain rfl : piece = [] := by simpa using hempty
    exact nomatch hne
  · rw [String.toList_ofList]
    exact Text.notMem_of_mem_pieces hpiece

theorem names_of_notMem {name : String} (hne : name ≠ "") (h : '/' ∉ name.toList) :
    names name = [name] := by
  have hlist : name.toList.isEmpty = false := by simpa using hne
  simp [names, Text.pieces_of_notMem h, hlist]

theorem names_append_slash (a b : List Char) :
    names (String.ofList (a ++ '/' :: b)) = names (String.ofList a) ++ names (String.ofList b) := by
  simp [names, Text.pieces_append_cons]

variable {base name : String}

theorem not_isAbsolute_of_notMem (h : '/' ∉ name.toList) : isAbsolute name = false := by
  unfold isAbsolute
  cases hname : name.toList with
  | nil => rfl
  | cons c s =>
    rw [hname] at h
    have hc : c ≠ '/' := fun hc => h (hc ▸ List.mem_cons_self)
    simpa using hc

theorem join_empty (path : String) : join "" path = path := by
  simp [join]

theorem toList_join (hbase : base ≠ "") (h : '/' ∉ name.toList) :
    ∃ stem, (join base name).toList = stem ++ '/' :: name.toList ∧
      names base = names (String.ofList stem) ∧
      (stem.head? = some '/' ∨ stem = [] ↔ isAbsolute base = true) := by
  have hempty : base.isEmpty = false := by simpa using hbase
  have hne : base.toList ≠ [] := by simpa using hbase
  unfold join
  simp only [not_isAbsolute_of_notMem h, hempty, Bool.or_false, Bool.false_eq_true, if_false]
  split
  · rename_i hlast
    have hlast : base.toList.getLast? = some '/' := by simpa using hlast
    obtain ⟨stem, hstem⟩ := List.getLast?_eq_some_iff.1 hlast
    refine ⟨stem, by simp [hstem], ?_, ?_⟩
    · have hnames := names_append_slash stem []
      rw [← hstem, String.ofList_toList] at hnames
      rw [hnames]
      exact List.append_nil _
    · unfold isAbsolute
      rw [hstem]
      cases stem <;> simp
  · refine ⟨base.toList, by simp, by rw [String.ofList_toList], ?_⟩
    unfold isAbsolute
    simp [hne]

theorem names_join (hname : name ≠ "") (h : '/' ∉ name.toList) :
    names (join base name) = names base ++ [name] := by
  by_cases hbase : base = ""
  · subst hbase
    rw [join_empty, names_of_notMem hname h]
    rfl
  · obtain ⟨stem, hjoin, hnames, -⟩ := toList_join hbase h
    rw [← String.ofList_toList (s := join base name), hjoin, names_append_slash, hnames,
      String.ofList_toList, names_of_notMem hname h]

theorem isAbsolute_join (h : '/' ∉ name.toList) :
    isAbsolute (join base name) = isAbsolute base := by
  by_cases hbase : base = ""
  · rw [hbase, join_empty, not_isAbsolute_of_notMem h]
    rfl
  obtain ⟨stem, hjoin, -, habs⟩ := toList_join hbase h
  have hhead : isAbsolute (join base name) = true ↔ stem.head? = some '/' ∨ stem = [] := by
    unfold isAbsolute
    rw [hjoin]
    cases stem <;> simp
  rw [Bool.eq_iff_iff, hhead, habs]

theorem getLast?_join (hname : name ≠ "") (h : '/' ∉ name.toList) :
    (join base name).toList.getLast? ≠ some '/' := by
  have hlast : name.toList.getLast? ≠ some '/' := fun hl => h (List.mem_of_getLast? hl)
  by_cases hbase : base = ""
  · rwa [hbase, join_empty]
  · obtain ⟨stem, hjoin, -⟩ := toList_join hbase h
    have hne : name.toList ≠ [] := by simpa using hname
    obtain ⟨c, s, hcs⟩ := List.exists_cons_of_ne_nil hne
    rw [hjoin, List.getLast?_append_cons, hcs, List.getLast?_cons_cons, ← hcs]
    exact hlast

theorem join_ne_empty (hname : name ≠ "") : join base name ≠ "" := by
  unfold join
  split
  · exact hname
  · split <;> simp [hname]

end Path

namespace FileTree

variable {t u : FileTree} {d full : List String} {path : String}

theorem getElem?_insert_eq (t : FileTree) (q r : List String) (node : Node) :
    (t.insert q node)[r]? = if r = q then some node else t[r]? := by
  rw [Std.ExtTreeMap.getElem?_insert]
  exact if_congr (Std.compare_eq_iff_eq.trans eq_comm) rfl rfl

theorem getElem?_erase_eq (t : FileTree) (q r : List String) :
    (t.erase q)[r]? = if r = q then none else t[r]? := by
  rw [Std.ExtTreeMap.getElem?_erase]
  exact if_congr (Std.compare_eq_iff_eq.trans eq_comm) rfl rfl

def DirsIn (t u : FileTree) : Prop := ∀ q : List String, t[q]? = some .dir → u[q]? = some .dir

def reach (t : FileTree) (d : List String) (path : String) : Except IoFault (List String) :=
  (Path.names path).foldlM t.enter (if Path.isAbsolute path then [] else d)

namespace DirsIn

theorem insert_dir (q : List String) : DirsIn t (t.insert q .dir) := by
  intro r hr
  rw [getElem?_insert_eq]
  split
  · rfl
  · exact hr

theorem insert_file {q : List String} (hq : t[q]? ≠ some .dir) (bytes : ByteArray) :
    DirsIn t (t.insert q (.file bytes)) := by
  intro r hr
  rw [getElem?_insert_eq, if_neg, hr]
  rintro rfl
  exact hq hr

theorem enter (h : DirsIn t u) {name : String} {x : List String} (hx : t.enter d name = .ok x) :
    u.enter d name = .ok x := by
  unfold FileTree.enter at hx ⊢
  split <;> rename_i hdot
  · rwa [if_pos hdot] at hx
  rw [if_neg hdot] at hx
  split <;> rename_i hdots
  · rwa [if_pos hdots] at hx
  rw [if_neg hdots] at hx
  split <;> rename_i hlimit
  · rw [if_pos hlimit] at hx
    exact nomatch hx
  rw [if_neg hlimit] at hx
  cases hnode : t[d ++ [name]]? with
  | none =>
    rw [hnode] at hx
    exact nomatch hx
  | some node =>
    rw [hnode] at hx
    cases node with
    | file bytes => exact nomatch hx
    | dir => rwa [h _ hnode]

theorem foldlM_enter (h : DirsIn t u) {names : List String} {x : List String}
    (hx : names.foldlM t.enter d = .ok x) : names.foldlM u.enter d = .ok x := by
  induction names generalizing d with
  | nil => exact hx
  | cons name names ih =>
    rw [List.foldlM_cons] at hx ⊢
    obtain ⟨d', hname, hx⟩ := exists_of_bind_eq_ok hx
    rw [h.enter hname]
    exact ih hx

theorem reach (h : DirsIn t u) (hx : t.reach d path = .ok full) : u.reach d path = .ok full :=
  h.foldlM_enter hx

end DirsIn

theorem walk_concat_of_dots {init : List String} {last : String} (h : last = "." ∨ last = "..") :
    t.walk d (init ++ [last]) = ((init ++ [last]).foldlM t.enter d).map (·, none) := by
  unfold walk
  rw [List.getLast?_concat]
  exact if_pos h

theorem walk_concat_of_not_dots {init : List String} {last : String}
    (h : ¬ (last = "." ∨ last = "..")) :
    t.walk d (init ++ [last]) = (do
      let dir ← init.foldlM t.enter d
      if nameLimit < last.utf8ByteSize then .error .invalidFilename else .ok (dir, some last)) := by
  unfold walk
  rw [List.getLast?_concat, List.dropLast_concat]
  exact if_neg h

theorem DirsIn.walk (h : DirsIn t u) {names : List String} {r : List String × Option String}
    (hr : t.walk d names = .ok r) : u.walk d names = .ok r := by
  rcases List.eq_nil_or_concat' names with rfl | ⟨init, last, rfl⟩
  · exact hr
  by_cases hdots : last = "." ∨ last = ".."
  · rw [walk_concat_of_dots hdots] at hr ⊢
    obtain ⟨x, hx, rfl⟩ := exists_of_map_eq_ok hr
    rw [h.foldlM_enter hx]
    rfl
  · rw [walk_concat_of_not_dots hdots] at hr ⊢
    obtain ⟨x, hx, hr⟩ := exists_of_bind_eq_ok hr
    rw [h.foldlM_enter hx]
    exact hr

theorem DirsIn.locate (h : DirsIn t u) {p : Place} (hp : t.locate d path = .ok p) :
    u.locate d path = .ok p := by
  unfold FileTree.locate at hp ⊢
  split <;> rename_i hnul
  · rwa [if_pos hnul] at hp
  rw [if_neg hnul] at hp
  split <;> rename_i hempty
  · rwa [if_pos hempty] at hp
  rw [if_neg hempty] at hp
  split <;> rename_i hlimit
  · rwa [if_pos hlimit] at hp
  rw [if_neg hlimit] at hp
  obtain ⟨r, hr, hp⟩ := exists_of_bind_eq_ok hp
  rw [h.walk hr]
  exact hp

theorem enter_unique {name : String} {x y : List String} (hx : t.enter d name = .ok x)
    (hy : u.enter d name = .ok y) : x = y := by
  have hvalue {t : FileTree} {x : List String} (hx : t.enter d name = .ok x) :
      x = if name = "." then d else if name = ".." then d.dropLast else d ++ [name] := by
    unfold enter at hx
    split at hx <;> rename_i hdot
    · rw [if_pos hdot, Except.ok.inj hx]
    rw [if_neg hdot]
    split at hx <;> rename_i hdots
    · rw [if_pos hdots, Except.ok.inj hx]
    rw [if_neg hdots]
    split at hx
    · exact nomatch hx
    split at hx
    · exact (Except.ok.inj hx).symm
    · exact nomatch hx
    · exact nomatch hx
  rw [hvalue hx, hvalue hy]

theorem reach_unique {x y : List String} (hx : t.reach d path = .ok x)
    (hy : u.reach d path = .ok y) : x = y := by
  unfold reach at hx hy
  generalize (if Path.isAbsolute path then [] else d) = start, Path.names path = names at hx hy
  induction names generalizing start with
  | nil =>
    cases hx
    cases hy
    rfl
  | cons name names ih =>
    rw [List.foldlM_cons] at hx hy
    obtain ⟨x', htx, hx⟩ := exists_of_bind_eq_ok hx
    obtain ⟨y', huy, hy⟩ := exists_of_bind_eq_ok hy
    obtain rfl := enter_unique htx huy
    exact ih x' hx hy

theorem findDir_eq_ok_iff : t.findDir d path = .ok full ↔ t.find d path = .ok (full, .dir) := by
  unfold findDir
  rcases t.find d path with e | ⟨q, bytes | -⟩ <;> simp

theorem isDir_eq_true_iff : t.isDir d path = true ↔ ∃ full, t.findDir d path = .ok full := by
  unfold isDir findDir
  rcases t.find d path with e | ⟨q, bytes | -⟩ <;> simp

theorem find_of_locate {directory : List String} {name : String} {slash : Bool}
    (hp : t.locate d path = .ok ⟨directory, some name, slash⟩) :
    t.find d path = match t[directory ++ [name]]? with
      | some (.file bytes) =>
        if slash then .error .notADirectory else .ok (directory ++ [name], .file bytes)
      | some .dir => .ok (directory ++ [name], .dir)
      | none => .error .notFound := by
  unfold find
  rw [hp]
  rfl

theorem exists_place_of_findDir (h : t.findDir d path = .ok full) :
    ∃ p, t.locate d path = .ok p ∧ (p.name = none ∧ p.directory = full ∨
      ∃ name, p.name = some name ∧ p.directory ++ [name] = full ∧ t[full]? = some .dir) := by
  rw [findDir_eq_ok_iff] at h
  obtain ⟨⟨directory, name, slash⟩, hp, h⟩ := exists_of_bind_eq_ok h
  refine ⟨_, hp, ?_⟩
  cases name with
  | none =>
    cases h
    exact .inl ⟨rfl, rfl⟩
  | some name =>
    dsimp only [nodeAt] at h
    rcases hnode : t[directory ++ [name]]? with - | bytes | - <;> rw [hnode] at h
    · exact nomatch h
    · cases slash <;> exact nomatch h
    · cases h
      exact .inr ⟨name, rfl, rfl, hnode⟩

theorem exists_place_of_find {q : List String} {bytes : ByteArray}
    (h : t.find d path = .ok (q, .file bytes)) :
    ∃ directory name, t.locate d path = .ok ⟨directory, some name, false⟩ ∧
      q = directory ++ [name] ∧ t[q]? = some (.file bytes) := by
  obtain ⟨⟨directory, name, slash⟩, hp, h⟩ := exists_of_bind_eq_ok h
  cases name with
  | none => cases h
  | some name =>
    dsimp only [nodeAt] at h
    rcases hnode : t[directory ++ [name]]? with - | old | - <;> rw [hnode] at h
    · exact nomatch h
    · cases slash with
      | true => exact nomatch h
      | false =>
        cases h
        exact ⟨directory, name, hp, rfl, hnode⟩
    · cases h

theorem findDir_of_place {p : Place} (hp : t.locate d path = .ok p)
    (h : p.name = none ∧ p.directory = full ∨
      ∃ name, p.name = some name ∧ p.directory ++ [name] = full ∧ t[full]? = some .dir) :
    t.findDir d path = .ok full := by
  obtain ⟨directory, name, slash⟩ := p
  rw [findDir_eq_ok_iff]
  rcases h with ⟨rfl, rfl⟩ | ⟨name, rfl, rfl, hnode⟩
  · rw [find, hp]
    rfl
  · rw [find_of_locate hp, hnode]

theorem DirsIn.findDir (h : DirsIn t u) (hd : t.findDir d path = .ok full) :
    u.findDir d path = .ok full := by
  obtain ⟨p, hp, hplace⟩ := exists_place_of_findDir hd
  refine findDir_of_place (h.locate hp) ?_
  exact hplace.imp_right fun ⟨name, hname, hfull, hnode⟩ => ⟨name, hname, hfull, h _ hnode⟩

theorem DirsIn.isDir (h : DirsIn t u) (hd : t.isDir d path = true) : u.isDir d path = true := by
  obtain ⟨full, hd⟩ := isDir_eq_true_iff.1 hd
  exact isDir_eq_true_iff.2 ⟨full, h.findDir hd⟩

theorem walk_of_locate {p : Place} (h : t.locate d path = .ok p) :
    t.walk (if Path.isAbsolute path then [] else d) (Path.names path) =
      .ok (p.directory, p.name) := by
  unfold locate at h
  split at h
  · exact nomatch h
  split at h
  · exact nomatch h
  split at h
  · exact nomatch h
  obtain ⟨⟨directory, name⟩, hr, h⟩ := exists_of_bind_eq_ok h
  obtain rfl := Except.ok.inj h
  exact hr

theorem exists_of_walk {names dir : List String} {name : Option String}
    (h : t.walk d names = .ok (dir, name)) :
    name = none ∧ names.foldlM t.enter d = .ok dir ∨
      ∃ init last, names = init ++ [last] ∧ name = some last ∧ ¬ (last = "." ∨ last = "..") ∧
        last.utf8ByteSize ≤ nameLimit ∧ init.foldlM t.enter d = .ok dir := by
  rcases List.eq_nil_or_concat' names with rfl | ⟨init, last, rfl⟩
  · cases h
    exact .inl ⟨rfl, rfl⟩
  by_cases hdots : last = "." ∨ last = ".."
  · rw [walk_concat_of_dots hdots] at h
    obtain ⟨x, hx, hend⟩ := exists_of_map_eq_ok h
    cases hend
    exact .inl ⟨rfl, hx⟩
  · rw [walk_concat_of_not_dots hdots] at h
    obtain ⟨x, hx, h⟩ := exists_of_bind_eq_ok h
    split at h
    · exact nomatch h
    · rename_i hlimit
      cases h
      exact .inr ⟨init, last, rfl, rfl, hdots, Nat.le_of_not_lt hlimit, hx⟩

theorem names_of_locate {p : Place} {name : String} (h : t.locate d path = .ok p)
    (hname : p.name = some name) :
    ∃ init, Path.names path = init ++ [name] ∧ Path.Proper name ∧ name.utf8ByteSize ≤ nameLimit ∧
      init.foldlM t.enter (if Path.isAbsolute path then [] else d) = .ok p.directory := by
  rcases exists_of_walk (walk_of_locate h) with
    ⟨hnone, -⟩ | ⟨init, last, hnames, hsome, hdots, hlimit, hinit⟩
  · exact nomatch hname.symm.trans hnone
  · obtain rfl : name = last := Option.some.inj (hname.symm.trans hsome)
    have hmem : name ∈ Path.names path := hnames ▸ List.mem_append_right _ List.mem_cons_self
    obtain ⟨hne, hslash⟩ := Path.mem_names hmem
    exact ⟨init, hnames, ⟨hne, hslash, fun h => hdots (.inl h), fun h => hdots (.inr h)⟩, hlimit,
      hinit⟩

theorem reach_of_findDir (h : t.findDir d path = .ok full) : t.reach d path = .ok full := by
  obtain ⟨p, hp, ⟨hname, rfl⟩ | ⟨name, hname, rfl, hnode⟩⟩ := exists_place_of_findDir h
  · rcases exists_of_walk (walk_of_locate hp) with ⟨-, hreach⟩ | ⟨_, last, -, hsome, -⟩
    · exact hreach
    · exact nomatch hname.symm.trans hsome
  · obtain ⟨init, hnames, hproper, hlimit, hinit⟩ := names_of_locate hp hname
    have henter : t.enter p.directory name = .ok (p.directory ++ [name]) := by
      unfold enter
      rw [if_neg hproper.ne_dot, if_neg hproper.ne_dots, if_neg (Nat.not_lt.2 hlimit), hnode]
    unfold reach
    rw [hnames, List.foldlM_append, hinit]
    simp only [bind, Except.bind, List.foldlM_cons, List.foldlM_nil, henter]
    rfl

def placeUnder (full : List String) (base name : String) : Except IoFault Place :=
  if Path.holdsNul (Path.join base name) then .error .invalidInput
  else if pathLimit ≤ (Path.join base name).utf8ByteSize ∨ nameLimit < name.utf8ByteSize then
    .error .invalidFilename
  else .ok ⟨full, some name, false⟩

variable {base name : String}

theorem locate_join (h : t.reach d base = .ok full) (hname : Path.Proper name) :
    t.locate d (Path.join base name) = placeUnder full base name := by
  have hdots : ¬ (name = "." ∨ name = "..") := not_or.2 ⟨hname.ne_dot, hname.ne_dots⟩
  have hempty : (Path.join base name).isEmpty = false := by
    simpa using Path.join_ne_empty hname.ne_empty
  have hlast : ((Path.join base name).toList.getLast? == some '/') = false :=
    beq_eq_false_iff_ne.2 (Path.getLast?_join hname.ne_empty hname.slash_notMem)
  unfold reach at h
  unfold locate placeUnder
  rw [Path.names_join hname.ne_empty hname.slash_notMem, Path.isAbsolute_join hname.slash_notMem,
    walk_concat_of_not_dots hdots, h, hempty, hlast]
  by_cases hnul : Path.holdsNul (Path.join base name)
  · rw [if_pos hnul, if_pos hnul]
  rw [if_neg hnul, if_neg hnul, if_neg Bool.false_ne_true]
  by_cases hlong : pathLimit ≤ (Path.join base name).utf8ByteSize
  · rw [if_pos hlong, if_pos (.inl hlong)]
  rw [if_neg hlong]
  by_cases hlimit : nameLimit < name.utf8ByteSize
  · simp [bind, Except.bind, hlimit]
  · simp [bind, Except.bind, hlimit, hlong]

theorem eq_of_placeUnder {p : Place} (h : placeUnder full base name = .ok p) :
    p = ⟨full, some name, false⟩ := by
  unfold placeUnder at h
  split at h
  · exact nomatch h
  split at h
  · exact nomatch h
  · exact (Except.ok.inj h).symm

theorem name_of_locate_join {p : Place} {last : String} (hne : name ≠ "")
    (hslash : '/' ∉ name.toList) (h : t.locate d (Path.join base name) = .ok p)
    (hlast : p.name = some last) : last = name := by
  obtain ⟨init, hnames, -⟩ := names_of_locate h hlast
  rw [Path.names_join hne hslash] at hnames
  exact (List.singleton_inj.1 (List.append_inj_right' hnames rfl)).symm

end FileTree
end UnitTestGen

import UnitTestGen.Host.FileTree

/-! Files that keep what is written over them. Reading such a file gives its text and changes
nothing of it; in the file tree every file is of this kind, since a file that is written over stays
where it is and no way to it changes. -/

namespace UnitTestGen

theorem run_bind_of_eq {W α β : Type} {x : StateM W α} {a : α} {w w' : W}
    (hx : x.run w = (a, w')) (f : α → StateM W β) : (x >>= f).run w = (f a).run w' := by
  rw [StateT.run_bind, hx]
  rfl

theorem run_readText_of_eq {W : Type} [Host (StateM W)] {path text : String} {w w' : W}
    (h : (Host.readFile path : StateM W _).run w = (.ok text.toUTF8, w')) :
    (readText path : StateM W _).run w = (.ok text, w') := by
  have hutf8 : String.fromUTF8? text.toUTF8 = some text := by
    unfold String.fromUTF8?
    rw [String.toUTF8_eq_toByteArray, dif_pos text.isValidUTF8]
    rfl
  unfold readText
  rw [run_bind_of_eq h]
  dsimp only
  rw [hutf8]
  rfl

namespace Host

structure RewritesFile {W : Type} [Host (StateM W)] (path : String) (Holds : W → String → Prop) :
    Prop where
  readFile {w : W} {text : String} : Holds w text →
    ∃ w', (Host.readFile path : StateM W _).run w = (.ok text.toUTF8, w') ∧ Holds w' text
  writeFile {w : W} {text : String} (new : String) : Holds w text →
    ∃ w', (Host.writeFile path new.toUTF8 : StateM W _).run w = (.ok (), w') ∧ Holds w' new

end Host

namespace FileTree

variable {t : FileTree} {full : List String} {bytes : ByteArray}

theorem enter_insert_file (h : t[full]? = some (.file bytes)) (new : ByteArray) :
    enter (t.insert full (.file new)) = enter t := by
  funext d name
  unfold enter
  rw [Std.ExtTreeMap.getElem?_insert]
  by_cases hd : full = d ++ [name]
  · subst hd
    simp [h]
  · simp [hd]

theorem locate_insert_file (h : t[full]? = some (.file bytes)) (new : ByteArray) (d : List String)
    (path : String) : locate (t.insert full (.file new)) d path = t.locate d path := by
  unfold locate walk
  rw [enter_insert_file h]

theorem exists_place_of_read {d : List String} {path : String} (h : t.read d path = .ok bytes) :
    ∃ directory name, t.locate d path = .ok ⟨directory, some name, false⟩ ∧
      t[directory ++ [name]]? = some (.file bytes) := by
  unfold read find at h
  cases hp : t.locate d path with
  | error e =>
    rw [hp] at h
    cases h
  | ok p =>
    obtain ⟨directory, name, slash⟩ := p
    rw [hp] at h
    cases name with
    | none => cases h
    | some name =>
      simp only [bind, Except.bind, nodeAt] at h
      refine ⟨directory, name, ?_⟩
      cases hnode : t[directory ++ [name]]? with
      | none =>
        rw [hnode] at h
        cases h
      | some node =>
        rw [hnode] at h
        cases node with
        | dir => cases h
        | file content =>
          cases slash <;> cases h
          exact ⟨rfl, rfl⟩

theorem read_update {d : List String} {path : String} (h : t.read d path = .ok bytes)
    (f : ByteArray → ByteArray) :
    ∃ t', t.update d path f = .ok t' ∧ t'.read d path = .ok (f bytes) := by
  obtain ⟨directory, name, hp, hnode⟩ := exists_place_of_read h
  refine ⟨t.insert (directory ++ [name]) (.file (f bytes)), ?_, ?_⟩
  · unfold update
    rw [hp]
    simp [bind, Except.bind, hnode]
  · unfold read find nodeAt
    rw [locate_insert_file hnode, hp]
    simp [bind, Except.bind]

end FileTree

namespace Sandbox

theorem run_change {f : FileTree → List String → Except IoFault FileTree} {s : Sandbox}
    {files : FileTree} (h : f s.files s.directory = .ok files) :
    (change f).run s = (.ok (), { s with files }) := by
  have hget : (get : StateM Sandbox Sandbox).run s = (s, s) := rfl
  unfold change
  rw [run_bind_of_eq hget, h]
  rfl

theorem rewritesFile (path : String) : Host.RewritesFile path
    fun (s : Sandbox) text => s.files.read s.directory path = .ok text.toUTF8 where
  readFile {s text} h := ⟨s, congrArg (·, s) h, h⟩
  writeFile {s text} new h := by
    obtain ⟨files, hupdate, hread⟩ := FileTree.read_update h fun _ => new.toUTF8
    exact ⟨{ s with files }, run_change hupdate, hread⟩

end Sandbox
end UnitTestGen

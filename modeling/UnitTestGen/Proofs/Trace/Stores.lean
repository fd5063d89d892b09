import Mathlib.Data.List.Chain
import UnitTestGen.Proofs.Host.Rewriting
import UnitTestGen.Proofs.Trace.Lines
import UnitTestGen.Trace.Store

/-! The two stores under the same operations. As long as no drain fails they hold the same lines. A
drain that fails empties the store in memory but leaves the file, which fails in the same way until
it is cleared, whatever is added to it. So the drains agree exactly if a failed one is followed by a
clear or by a drain that fails in the same way in memory too. -/

namespace UnitTestGen

inductive StoreOp where
  | clear
  | publish (fact : TraceFact)
  | append (line : String)
  | drain

inductive StoreEvent where
  | cleared
  | drained (result : Except StoreError Traces)

namespace StoreEvent

def result? : StoreEvent → Option (Except StoreError Traces)
  | cleared => none
  | drained result => some result

/-- Nothing but a clear or the same failure comes after a drain that fails. -/
def Recovers : StoreEvent → StoreEvent → Prop
  | drained (.error e), next => next = cleared ∨ next = drained (.error e)
  | _, _ => True

end StoreEvent

namespace StoreOp

def IsLine : StoreOp → Prop
  | publish fact => '\n' ∉ fact.block.globalId.toList
  | append line => '\n' ∉ line.toList
  | clear | drain => True

instance : DecidablePred IsLine
  | publish fact => inferInstanceAs (Decidable ('\n' ∉ fact.block.globalId.toList))
  | append line => inferInstanceAs (Decidable ('\n' ∉ line.toList))
  | clear | drain => .isTrue trivial

section Perform

variable {m : Type → Type} {σ : Type} [Monad m] [TraceStore m σ] (appendLine : σ → String → m σ)

def perform (s : σ) : StoreOp → m (List StoreEvent × σ)
  | clear => do
    let (_, s) ← TraceStore.clear s
    pure ([.cleared], s)
  | publish fact => do
    let (_, s) ← TraceStore.publish s fact
    pure ([], s)
  | append line => do
    let s ← appendLine s line
    pure ([], s)
  | drain => do
    let (result, s) ← TraceStore.drain s
    pure ([.drained result], s)

def performAll (s : σ) : List StoreOp → m (List StoreEvent)
  | [] => pure []
  | op :: ops => do
    let (seen, s) ← op.perform appendLine s
    let rest ← performAll s ops
    pure (seen ++ rest)

end Perform
end StoreOp

namespace MemoryStore

def events (s : MemoryStore) (ops : List StoreOp) : List StoreEvent :=
  Id.run (StoreOp.performAll (fun s line => pure (s.pushLine line)) s ops)

theorem drained_append_error {ks : List String} {e : StoreError} (h : drained ⟨ks⟩ = .error e)
    (ls : List String) : drained ⟨ks ++ ls⟩ = .error e := by
  unfold drained at h ⊢
  cases hk : Traces.ofLines ks with
  | ok traces =>
    rw [hk] at h
    nomatch h
  | error e' =>
    rw [hk] at h
    rw [Traces.ofLines_append_error hk]
    exact h

end MemoryStore

namespace Host

structure KeepsFile {W : Type} [Host (StateM W)] (path : String)
    (Holds : W → Option ByteArray → Prop) : Prop where
  pathExists {w : W} {content : Option ByteArray} : Holds w content →
    ∃ w', (Host.pathExists path : StateM W _).run w = (content.isSome, w') ∧ Holds w' content
  readFile {w : W} {bytes : ByteArray} : Holds w (some bytes) →
    ∃ w', (Host.readFile path : StateM W _).run w = (.ok bytes, w') ∧ Holds w' (some bytes)
  appendFile {w : W} {content : Option ByteArray} (bytes : ByteArray) : Holds w content →
    ∃ w', (Host.appendFile path bytes : StateM W _).run w = (.ok (), w') ∧
      Holds w' (some (content.getD .empty ++ bytes))
  removeFile {w : W} {content : Option ByteArray} : Holds w content →
    ∃ w', (Host.removeFile path : StateM W _).run w =
      (if content.isSome then .ok () else .error .notFound, w') ∧ Holds w' none

end Host

namespace FileStore

variable {W : Type} [Host (StateM W)]

def appendLine (s : FileStore) (line : String) : StateM W FileStore := do
  let _ ← Host.appendFile s.path (line ++ "\n").toUTF8
  pure s

def events (s : FileStore) (w : W) (ops : List StoreOp) : List StoreEvent :=
  ((StoreOp.performAll appendLine s ops).run w).1

theorem events_cons {s : FileStore} {op : StoreOp} {seen : List StoreEvent} {w w' : W}
    (hop : (op.perform appendLine s).run w = ((seen, s), w')) (ops : List StoreOp) :
    s.events w (op :: ops) = seen ++ s.events w' ops := by
  unfold events
  rw [StoreOp.performAll, run_bind_of_eq hop]
  rfl

def fileOf : List String → Option ByteArray
  | [] => none
  | l :: ls => some (Traces.written (l :: ls)).toUTF8

def leftover (ls : List String) : List String :=
  if (MemoryStore.drained ⟨ls⟩).isOk then [] else ls

theorem leftover_subset (ls : List String) : leftover ls ⊆ ls := by
  unfold leftover
  split
  · exact List.nil_subset ls
  · exact List.Subset.refl ls

theorem getD_fileOf (ls : List String) : (fileOf ls).getD .empty = (Traces.written ls).toUTF8 := by
  cases ls <;> rfl

theorem fileOf_concat (ls : List String) (l : String) :
    fileOf (ls ++ [l]) = some ((fileOf ls).getD .empty ++ (l ++ "\n").toUTF8) := by
  rw [getD_fileOf]
  have hw : (Traces.written (ls ++ [l])).toUTF8 =
      (Traces.written ls).toUTF8 ++ (l ++ "\n").toUTF8 := by
    unfold Traces.written
    rw [List.map_append, String.join_append]
    simp [String.toUTF8_eq_toByteArray]
  rw [← hw]
  cases ls <;> rfl

variable {s : FileStore} {Holds : W → Option ByteArray → Prop} {w : W} {ls : List String}
  (h : Host.KeepsFile s.path Holds)
include h

theorem run_clear {content : Option ByteArray} (hw : Holds w content) :
    ∃ w', (s.clear : StateM W _).run w = (.ok (), w') ∧ Holds w' none := by
  obtain ⟨w', hr, hw'⟩ := h.removeFile hw
  refine ⟨w', ?_, hw'⟩
  unfold clear
  rw [run_bind_of_eq hr]
  cases content <;> rfl

theorem run_publish (hw : Holds w (fileOf ls)) (fact : TraceFact) :
    ∃ w', (s.publish fact : StateM W _).run w = (.ok (), w') ∧
      Holds w' (fileOf (ls ++ [fact.line])) := by
  obtain ⟨w', hr, hw'⟩ := h.appendFile (fact.line ++ "\n").toUTF8 hw
  rw [fileOf_concat]
  refine ⟨w', ?_, hw'⟩
  unfold publish
  rw [run_bind_of_eq hr]
  rfl

theorem run_appendLine (hw : Holds w (fileOf ls)) (line : String) :
    ∃ w', (s.appendLine line).run w = (s, w') ∧ Holds w' (fileOf (ls ++ [line])) := by
  obtain ⟨w', hr, hw'⟩ := h.appendFile (line ++ "\n").toUTF8 hw
  rw [fileOf_concat]
  refine ⟨w', ?_, hw'⟩
  unfold appendLine
  rw [run_bind_of_eq hr]
  rfl

theorem run_readText {text : String} (hw : Holds w (some text.toUTF8)) :
    ∃ w', (readText s.path : StateM W _).run w = (.ok text, w') ∧
      Holds w' (some text.toUTF8) := by
  obtain ⟨w', hr, hw'⟩ := h.readFile hw
  exact ⟨w', run_readText_of_eq hr, hw'⟩

theorem run_drain (hw : Holds w (fileOf ls)) (hls : ∀ l ∈ ls, '\n' ∉ l.toList) :
    ∃ w', (s.drain : StateM W _).run w = (MemoryStore.drained ⟨ls⟩, w') ∧
      Holds w' (fileOf (leftover ls)) := by
  obtain ⟨w₁, hexists, hw₁⟩ := h.pathExists hw
  unfold drain
  rw [run_bind_of_eq hexists]
  cases ls with
  | nil => exact ⟨w₁, rfl, hw₁⟩
  | cons l ls =>
    obtain ⟨w₂, hread, hw₂⟩ := run_readText h hw₁
    have htext : Traces.ofText (Traces.written (l :: ls)) = Traces.ofLines (l :: ls) :=
      Traces.ofText_written hls
    unfold leftover MemoryStore.drained
    have hsome : (fileOf (l :: ls)).isSome = true := rfl
    rw [if_pos hsome, run_bind_of_eq hread]
    dsimp only
    rw [htext]
    cases Traces.ofLines (l :: ls) with
    | error e =>
      -- the error is returned before the file is removed
      exact ⟨w₂, rfl, hw₂⟩
    | ok traces =>
      obtain ⟨w₃, hclear, hw₃⟩ := run_clear h hw₂
      refine ⟨w₃, ?_, hw₃⟩
      dsimp only
      rw [run_bind_of_eq hclear]
      rfl

theorem events_clear {content : Option ByteArray} (hw : Holds w content) (ops : List StoreOp) :
    ∃ w', s.events w (.clear :: ops) = .cleared :: s.events w' ops ∧ Holds w' none := by
  obtain ⟨w', hr, hw'⟩ := run_clear h hw
  have hclear : (TraceStore.clear s : StateM W _).run w = ((.ok (), s), w') :=
    run_bind_of_eq hr _
  have hop : (StoreOp.clear.perform appendLine s).run w = (([.cleared], s), w') :=
    run_bind_of_eq hclear _
  exact ⟨w', events_cons hop ops, hw'⟩

theorem events_publish (hw : Holds w (fileOf ls)) (fact : TraceFact) (ops : List StoreOp) :
    ∃ w', s.events w (.publish fact :: ops) = s.events w' ops ∧
      Holds w' (fileOf (ls ++ [fact.line])) := by
  obtain ⟨w', hr, hw'⟩ := run_publish h hw fact
  have hpublish : (TraceStore.publish s fact : StateM W _).run w = ((.ok (), s), w') :=
    run_bind_of_eq hr _
  have hop : ((StoreOp.publish fact).perform appendLine s).run w = (([], s), w') :=
    run_bind_of_eq hpublish _
  exact ⟨w', events_cons hop ops, hw'⟩

theorem events_append (hw : Holds w (fileOf ls)) (line : String) (ops : List StoreOp) :
    ∃ w', s.events w (.append line :: ops) = s.events w' ops ∧
      Holds w' (fileOf (ls ++ [line])) := by
  obtain ⟨w', hr, hw'⟩ := run_appendLine h hw line
  have hop : ((StoreOp.append line).perform appendLine s).run w = (([], s), w') :=
    run_bind_of_eq hr _
  exact ⟨w', events_cons hop ops, hw'⟩

theorem events_drain (hw : Holds w (fileOf ls)) (hls : ∀ l ∈ ls, '\n' ∉ l.toList)
    (ops : List StoreOp) :
    ∃ w', s.events w (.drain :: ops) =
        .drained (MemoryStore.drained ⟨ls⟩) :: s.events w' ops ∧
      Holds w' (fileOf (leftover ls)) := by
  obtain ⟨w', hr, hw'⟩ := run_drain h hw hls
  have hdrain : (TraceStore.drain s : StateM W _).run w = ((MemoryStore.drained ⟨ls⟩, s), w') :=
    run_bind_of_eq hr _
  have hop : (StoreOp.drain.perform appendLine s).run w =
      (([.drained (MemoryStore.drained ⟨ls⟩)], s), w') :=
    run_bind_of_eq hdrain _
  exact ⟨w', events_cons hop ops, hw'⟩

end FileStore

namespace StoreEvent

def Leaves : StoreEvent → List String → Prop
  | drained (.error e), ks => MemoryStore.drained ⟨ks⟩ = .error e
  | _, ks => ks = []

theorem leaves_drained (ls : List String) :
    (drained (MemoryStore.drained ⟨ls⟩)).Leaves (FileStore.leftover ls) := by
  unfold FileStore.leftover
  cases hr : MemoryStore.drained ⟨ls⟩ with
  | ok traces => rfl
  | error e => exact hr

theorem recovers_cleared (last : StoreEvent) : last.Recovers cleared := by
  cases last with
  | cleared => trivial
  | drained result =>
    cases result with
    | ok traces => trivial
    | error e => exact .inl rfl

theorem Leaves.drained_append_iff {last : StoreEvent} {ks : List String} (h : last.Leaves ks)
    (ls : List String) :
    MemoryStore.drained ⟨ks ++ ls⟩ = MemoryStore.drained ⟨ls⟩ ↔
      last.Recovers (drained (MemoryStore.drained ⟨ls⟩)) := by
  cases last with
  | cleared =>
    obtain rfl : ks = [] := h
    exact ⟨fun _ => trivial, fun _ => rfl⟩
  | drained result =>
    cases result with
    | ok traces =>
      obtain rfl : ks = [] := h
      exact ⟨fun _ => trivial, fun _ => rfl⟩
    | error e =>
      rw [MemoryStore.drained_append_error h]
      constructor
      · intro he
        exact .inr (congrArg drained he.symm)
      · rintro (hc | he)
        · nomatch hc
        · exact (drained.inj he).symm

end StoreEvent

def drains (events : List StoreEvent) : List (Except StoreError Traces) :=
  events.filterMap StoreEvent.result?

variable {W : Type} [Host (StateM W)] {s : FileStore} {Holds : W → Option ByteArray → Prop}

theorem drains_eq_iff_isChain (h : Host.KeepsFile s.path Holds) (ops : List StoreOp)
    (hops : ∀ op ∈ ops, op.IsLine) (last : StoreEvent) (ks ls : List String)
    (hls : ∀ l ∈ ks ++ ls, '\n' ∉ l.toList) (hlast : last.Leaves ks) {w : W}
    (hw : Holds w (FileStore.fileOf (ks ++ ls))) :
    drains (s.events w ops) = drains (MemoryStore.events ⟨ls⟩ ops) ↔
      (last :: MemoryStore.events ⟨ls⟩ ops).IsChain StoreEvent.Recovers := by
  -- the file holds what a failed drain has left and then the lines of the store in memory
  induction ops generalizing last ks ls w with
  | nil => exact ⟨fun _ => .singleton _, fun _ => rfl⟩
  | cons op ops ih =>
    have ih := ih fun op hop => hops op (List.mem_cons_of_mem _ hop)
    have hop := hops op List.mem_cons_self
    have hadded {line : String} (hline : '\n' ∉ line.toList) :
        ∀ l ∈ ks ++ (ls ++ [line]), '\n' ∉ l.toList := by
      intro l hl
      rw [← List.append_assoc, List.mem_append, List.mem_singleton] at hl
      rcases hl with hl | rfl
      · exact hls l hl
      · exact hline
    cases op with
    | clear =>
      obtain ⟨w', hev, hw'⟩ := FileStore.events_clear h hw ops
      have hmem : MemoryStore.events ⟨ls⟩ (.clear :: ops) =
        .cleared :: MemoryStore.events ⟨[]⟩ ops := rfl
      rw [hev, hmem, List.isChain_cons_cons, and_iff_right last.recovers_cleared]
      exact ih .cleared [] [] (fun _ hl => absurd hl List.not_mem_nil) rfl hw'
    | publish fact =>
      obtain ⟨w', hev, hw'⟩ := FileStore.events_publish h hw fact ops
      rw [hev]
      rw [List.append_assoc] at hw'
      exact ih last ks _ (hadded (TraceFact.newline_notMem_line hop)) hlast hw'
    | append line =>
      obtain ⟨w', hev, hw'⟩ := FileStore.events_append h hw line ops
      rw [hev]
      rw [List.append_assoc] at hw'
      exact ih last ks _ (hadded hop) hlast hw'
    | drain =>
      obtain ⟨w', hev, hw'⟩ := FileStore.events_drain h hw hls ops
      have hmem : MemoryStore.events ⟨ls⟩ (.drain :: ops) =
        .drained (MemoryStore.drained ⟨ls⟩) :: MemoryStore.events ⟨[]⟩ ops := rfl
      have hcons (r : Except StoreError Traces) (seen : List StoreEvent) :
          drains (.drained r :: seen) = r :: drains seen := rfl
      rw [hev, hmem, List.isChain_cons_cons, ← hlast.drained_append_iff ls, hcons, hcons,
        List.cons.injEq]
      refine and_congr_right fun heq => ?_
      rw [← heq]
      rw [← List.append_nil (FileStore.leftover _)] at hw'
      refine ih _ _ [] (fun l hl => ?_) (StoreEvent.leaves_drained (ks ++ ls)) hw'
      rw [List.append_nil] at hl
      exact hls l (FileStore.leftover_subset _ hl)

/-- From a file that does not exist and an empty store in memory, the drains agree exactly if in
memory nothing but a clear or the same failure comes after a drain that fails. -/
theorem drains_agree_exact (h : Host.KeepsFile s.path Holds) {w : W} (hw : Holds w none)
    (ops : List StoreOp) (hops : ∀ op ∈ ops, op.IsLine) :
    drains (s.events w ops) = drains (MemoryStore.empty.events ops) ↔
      (MemoryStore.empty.events ops).IsChain StoreEvent.Recovers := by
  have hnone : ∀ l ∈ ([] : List String) ++ [], '\n' ∉ l.toList :=
    fun _ hl => absurd hl List.not_mem_nil
  refine (drains_eq_iff_isChain h ops hops .cleared [] [] hnone rfl hw).trans ?_
  rw [List.isChain_cons]
  exact and_iff_right fun _ _ => trivial

structure Files where
  content : String → Option ByteArray

namespace Files

def none : Files := ⟨fun _ => .none⟩

def read (w : Files) (path : String) : Except IoFault ByteArray :=
  match w.content path with
  | some bytes => .ok bytes
  | .none => .error .notFound

def set (w : Files) (path : String) (content : Option ByteArray) : Files :=
  ⟨fun p => if p = path then content else w.content p⟩

theorem content_set (w : Files) (path : String) (content : Option ByteArray) :
    (w.set path content).content path = content := if_pos rfl

instance : Host (StateM Files) where
  readFile path := fun w => (w.read path, w)
  writeFile path bytes := fun w => (.ok (), w.set path (some bytes))
  appendFile path bytes := fun w =>
    (.ok (), w.set path (some ((w.content path).getD .empty ++ bytes)))
  removeFile path := fun w =>
    (if (w.content path).isSome then .ok () else .error .notFound, w.set path .none)
  createDirs _ := pure (.ok ())
  listDir _ := pure (.ok [])
  isDir _ := pure false
  isFile path := fun w => ((w.content path).isSome, w)
  pathExists path := fun w => ((w.content path).isSome, w)
  currentDir := pure (.ok "/")
  now := pure 0
  run _ := pure (.error .notFound)

theorem keepsFile (path : String) : Host.KeepsFile path fun w : Files => (w.content path = ·) where
  pathExists {w _} hw := by
    subst hw
    exact ⟨w, rfl, rfl⟩
  readFile {w bytes} hw := by
    have hread : w.read path = .ok bytes := by
      unfold read
      rw [hw]
    exact ⟨w, congrArg (·, w) hread, hw⟩
  appendFile {w _} bytes hw := by
    subst hw
    exact ⟨_, rfl, content_set w path _⟩
  removeFile {w _} hw := by
    subst hw
    exact ⟨_, rfl, content_set w path .none⟩

end Files

def brokenLine : String := "1 $a$ jump[1 1.0]"

theorem drains_agree_brokenLine_cleared :
    let ops : List StoreOp :=
      [.append brokenLine, .drain, .clear, .append "1 $a$ root", .drain]
    drains ((FileStore.mk "traces").events Files.none ops) = drains (MemoryStore.empty.events ops) ∧
      (drains (MemoryStore.empty.events ops)).map Except.isOk = [false, true] := by
  refine ⟨?_, by decide +kernel⟩
  refine (drains_agree_exact (Files.keepsFile "traces") rfl _ (by decide)).2 ?_
  exact .cons_cons (StoreEvent.recovers_cleared _) (.cons_cons trivial (.singleton _))

theorem not_forall_drains_agree :
    ¬ ∀ (W : Type) [Host (StateM W)] (s : FileStore) (Holds : W → Option ByteArray → Prop)
      (w : W) (ops : List StoreOp), Host.KeepsFile s.path Holds → Holds w none →
      (∀ op ∈ ops, op.IsLine) →
        drains (s.events w ops) = drains (MemoryStore.empty.events ops) := by
  intro h
  have heq := h Files ⟨"traces"⟩ _ Files.none [.append brokenLine, .drain, .drain]
    (Files.keepsFile "traces") rfl (by decide)
  have hok := congrArg (List.map Except.isOk) heq
  exact absurd hok (by decide +kernel)

end UnitTestGen

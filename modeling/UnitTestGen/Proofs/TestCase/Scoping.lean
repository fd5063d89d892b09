import Mathlib.Data.List.Nodup
import UnitTestGen.Proofs.TestCase.Growth
import UnitTestGen.Proofs.TestCase.PrintedLets
import UnitTestGen.Proofs.TestCase.Upkeep
import UnitTestGen.Proofs.Text.Search

/-! The scopes of printed test functions. The id of a variable stands at the end of its name behind
an underscore, so names are as different as ids are, although a stem may itself end in an underscore
and digits. In a test case made by appending no id is used twice. If what is printed besides the
variables holds no text of a statement, every `let` in the function is that of a result, and there is
one for each name. -/

namespace UnitTestGen

open Text

theorem Var.id_eq_of_name_eq {v w : Var} (h : v.name = w.name) : v.id = w.id := by
  have hdigits (n : Nat) : '_' ∉ decimal n := fun hn =>
    absurd (isDigit_of_mem_decimal hn) (by decide)
  have hlast (u : Var) : cutLast ['_'] u.name.toList = some (u.ty.varPrefix, decimal u.id) := by
    rw [toList_name]
    exact cutLast_singleton (hdigits u.id) u.ty.varPrefix
  have hid : decimal v.id = decimal w.id := by
    have hparts := hlast v
    rw [h, hlast w] at hparts
    exact (congrArg Prod.snd (Option.some.inj hparts)).symm
  rw [← digitsValue_decimal v.id, hid, digitsValue_decimal]

/-- The text for that many arguments is the same whatever the arguments, but for their names, which
stand in it in order. -/
def Spliced (n : Nat) (text : List Var → String) : Prop :=
  ∃ opening heads closing, heads.length = n ∧ ∀ args : List Var, args.length = n →
    text args =
      opening ++ String.join (List.zipWith (fun head a => head ++ a.name) heads args) ++ closing

namespace Spliced

theorem zero (text : List Var → String) : Spliced 0 text := by
  refine ⟨text [], [], "", rfl, fun args hargs => ?_⟩
  rw [List.length_eq_zero_iff.1 hargs]
  simp

theorem enclose {n : Nat} {text : List Var → String} (h : Spliced n text) (before after : String) :
    Spliced n fun args => before ++ text args ++ after := by
  obtain ⟨opening, heads, closing, hlen, htext⟩ := h
  refine ⟨before ++ opening, heads, closing ++ after, hlen, fun args hargs => ?_⟩
  simp only [htext args hargs, String.append_assoc]

theorem congr {n : Nat} {text text' : List Var → String} (h : Spliced n text)
    (heq : ∀ args : List Var, args.length = n → text' args = text args) : Spliced n text' := by
  obtain ⟨opening, heads, closing, hlen, htext⟩ := h
  exact ⟨opening, heads, closing, hlen, fun args hargs => (heq args hargs).trans (htext args hargs)⟩

theorem cons {n : Nat} {text : List Var → String} (h : Spliced n text) :
    Spliced (n + 1) fun args => (args.map Var.name).headD "" ++ text args.tail := by
  obtain ⟨opening, heads, closing, rfl, htext⟩ := h
  cases heads with
  | nil =>
    refine ⟨"", [""], opening ++ closing, rfl, fun args hargs => ?_⟩
    obtain ⟨a, rfl⟩ := List.length_eq_one_iff.1 hargs
    simp [htext [] rfl]
  | cons head heads =>
    refine ⟨"", "" :: (opening ++ head) :: heads, closing, rfl, fun args hargs => ?_⟩
    match args, hargs with
    | a :: b :: args, hargs =>
      have htail := htext (b :: args) (Nat.succ.inj hargs)
      simp [htail, String.append_assoc]

theorem commaSeparated (labels : List String) : Spliced labels.length fun args =>
    commaSeparated (List.zipWith (fun label a => label ++ a.name) labels args) := by
  have hjoin (x : String) (xs : List String) :
      UnitTestGen.commaSeparated (x :: xs) = x ++ String.join (xs.map (", " ++ ·)) := by
    induction xs generalizing x with
    | nil => simp [UnitTestGen.commaSeparated]
    | cons y ys ih =>
      rw [UnitTestGen.commaSeparated, String.intercalate_cons_cons, ← UnitTestGen.commaSeparated, ih]
      simp [String.append_assoc]
  cases labels with
  | nil => exact zero _
  | cons label labels =>
    refine ⟨"", label :: labels.map (", " ++ ·), "", by simp, fun args hargs => ?_⟩
    obtain ⟨a, args, rfl⟩ := List.exists_cons_of_length_eq_add_one hargs
    simp [hjoin, List.map_zipWith, List.zipWith_map_left, String.append_assoc]

theorem names (n : Nat) : Spliced n fun args => UnitTestGen.commaSeparated (args.map Var.name) := by
  have hlabels (args : List Var) :
      List.zipWith (fun label a => label ++ a.name) (List.replicate args.length "") args =
        args.map Var.name := by
    induction args with
    | nil => rfl
    | cons a args ih => simp [List.replicate_succ, ih]
  have h := commaSeparated (List.replicate n "")
  rw [List.length_replicate] at h
  refine h.congr fun args hargs => ?_
  rw [← hlabels args, hargs]

end Spliced

theorem Callable.spliced_text (c : Callable) :
    Spliced c.params.length fun args => Call.text ⟨c, args⟩ := by
  have plain (path : String) : Spliced c.params.length fun args =>
      path ++ "(" ++ commaSeparated (args.map Var.name) ++ ")" :=
    (Spliced.names _).enclose (path ++ "(") ")"
  rcases hparams : c.params with _ | ⟨p, ps⟩
  · exact .zero _
  rw [← hparams]
  have hargs {args : List Var} (hlen : args.length = c.params.length) : args ≠ [] := by
    rintro rfl
    rw [hparams] at hlen
    cases hlen
  cases hkind : c.kind with
  | function | staticMethod =>
    cases hparent : c.parentPath with
    | none =>
      refine (plain c.name).congr fun args _ => ?_
      simp [Call.text, hkind, hparent]
    | some parent =>
      refine (plain (parent ++ "::" ++ c.name)).congr fun args _ => ?_
      simp [Call.text, hkind, hparent]
  | method =>
    rw [hparams]
    have rest := (Spliced.names ps.length).enclose ("." ++ c.name ++ "(") ")"
    refine rest.cons.congr fun args hlen => ?_
    obtain ⟨a, args, rfl⟩ := List.exists_cons_of_length_eq_add_one hlen
    simp [Call.text, hkind, String.append_assoc]
  | structInit =>
    cases hparent : c.parentPath with
    | none =>
      refine (plain c.name).congr fun args _ => ?_
      simp [Call.text, hkind, hparent]
    | some parent =>
      by_cases hnamed : c.params.all (·.name.isSome)
      · have fields := Spliced.commaSeparated (c.params.map fun p => p.name.getD "" ++ ": ")
        rw [List.length_map] at fields
        refine (fields.enclose (parent ++ " \x7b ") " \x7d").congr fun args _ => ?_
        have hfields : (c.params.all (·.name.isSome) && !c.params.isEmpty) = true := by
          rw [hnamed, hparams]
          rfl
        simp only [Call.text, hkind, hparent, hfields, if_true, List.map_zip_eq_zipWith,
          List.zipWith_map_left, List.zipWith_map_right]
        rfl
      · refine (plain parent).congr fun args hlen => ?_
        simp [Call.text, hkind, hparent, hnamed, hargs hlen]
  | enumInit variant =>
    cases hparent : c.parentPath with
    | none =>
      refine (plain c.name).congr fun args _ => ?_
      simp [Call.text, hkind, hparent]
    | some parent =>
      refine (plain (parent ++ "::" ++ variant)).congr fun args hlen => ?_
      simp [Call.text, hkind, hparent, hargs hlen]

def Statement.withArgs (s : Statement) (args : List Var) : Statement :=
  match s.action, args with
  | .borrow _ mutable v, [target] => { s with action := .borrow target mutable v }
  | .call c v, _ => { s with action := .call { c with args } v }
  | _, _ => s

theorem Statement.withArgs_args (s : Statement) : s.withArgs s.args = s := by
  obtain ⟨sid, owner, action⟩ := s
  cases action <;> rfl

namespace TestCase

variable {tc : TestCase}

/-- A statement takes a mutable reference of the variable, or passes the variable, which is not a
reference itself, where a mutable reference is expected. -/
def TakenMutably (tc : TestCase) (v : Var) : Prop :=
  ∃ s ∈ tc.stmts, (∃ result, s.action = .borrow v true result) ∨
    ¬ v.ty.isRef ∧ ∃ c, s.asCall = some c ∧ ∃ p, (p, v) ∈ c.bindings ∧ ∃ ty, p.ty = .ref ty true

theorem isMutable_iff {p : Param} : p.isMutable ↔ ∃ ty, p.ty = .ref ty true := by
  obtain ⟨_, t⟩ := p
  rcases t with _ | _ | _ | _ | _ | ⟨_, _ | _⟩ | _ | _ | _ <;> simp [Param.isMutable, Param.mode]

theorem isMutable_iff_takenMutably {v : Var} :
    tc.isMutable v ↔ tc.TakenMutably v := by
  unfold isMutable TakenMutably
  rw [List.any_eq_true]
  refine exists_congr fun s => and_congr_right fun _ => ?_
  obtain ⟨sid, owner, action⟩ := s
  cases action with
  | literal value w => simp [needsMut, Statement.asCall]
  | borrow target mutable w => simp [needsMut, Statement.asCall, and_comm]
  | call c w =>
    simp [needsMut, Statement.asCall, Call.mutates, isMutable_iff]

theorem functionLines_get (tc : TestCase) {i : Nat} {s : Statement} (hs : tc.stmts[i]? = some s) :
    tc.functionLines[i + 2]? = some ("        " ++ tc.statementText s) := by
  obtain ⟨hlt, rfl⟩ := List.getElem?_eq_some_iff.1 hs
  simp [functionLines, List.getElem?_append_left, hlt]

theorem spliced_statementText (tc : TestCase) {s : Statement} (hs : s.WellFormed) :
    Spliced s.args.length fun args => tc.statementText (s.withArgs args) := by
  obtain ⟨sid, owner, action⟩ := s
  cases action with
  | literal value v => exact .zero _
  | borrow target mutable v =>
    have hname := ((Spliced.zero fun _ => "").cons).enclose
      (tc.definitionText v ++ " = " ++ (if mutable then "&mut " else "&")) ";"
    refine hname.congr fun args hlen => ?_
    obtain ⟨a, rfl⟩ := List.length_eq_one_iff.1 hlen
    simp [statementText, Statement.withArgs]
  | call c v =>
    have hcall := c.callable.spliced_text
    rw [← show c.args.length = c.callable.params.length from hs] at hcall
    cases v with
    | none =>
      refine (hcall.enclose "" ";").congr fun args _ => ?_
      simp [statementText, Statement.withArgs]
    | some v =>
      refine (hcall.enclose (tc.definitionText v ++ " = ") ";").congr fun args _ => ?_
      simp [statementText, Statement.withArgs]

/-- No name that is printed besides those of variables holds text of a statement. -/
def PlainNames (tc : TestCase) : Prop := ∀ s ∈ tc.stmts, ∀ n ∈ s.names, isPlain n

theorem declares_line (h : tc.PlainNames) {s : Statement} (hs : s ∈ tc.stmts) :
    Declares ("        " ++ tc.statementText s)
      (s.result.toList.map fun v => (tc.isMutable v, v.name)) :=
  (declares_statementText (h s hs)).before "        " (by decide)

theorem declares_signature (id : UInt64) :
    Declares ("    fn " ++ testFunctionName id ++ "() \x7b") [] := by
  have hname : Declares (testFunctionName id) [] := by
    refine .name (fun c hc => ?_) (by simp [testFunctionName])
    rw [testFunctionName, String.toList_append] at hc
    rcases List.mem_append.1 hc with hc | hc
    · have hstem : "case_".toList.all isNameChar := by decide
      exact List.all_eq_true.1 hstem c hc
    · exact isNameChar_of_isDigit (isDigit_of_mem_toString hc)
  exact (hname.before "    fn " (by decide)).after "() \x7b" (by decide)

theorem lets_text (h : tc.PlainNames) :
    lets tc.text = tc.definedVars.map fun v => (tc.isMutable v, v.name) := by
  have hattribute : Declares "    #[test]" [] := .of_isSilent (by decide)
  have hsignature := declares_signature tc.id
  have hclose : Declares "    \x7d" [] := .of_isSilent (by decide)
  have hline (s : Statement) (hs : s ∈ tc.stmts) := declares_line h hs
  have hlines : ∀ l ∈ tc.functionLines, Declares l (lets l) := by
    simp only [functionLines, List.mem_append, List.mem_cons, List.mem_map, List.not_mem_nil,
      or_false]
    rintro l (((rfl | rfl) | ⟨s, hs, rfl⟩) | rfl)
    · rwa [hattribute.lets_eq]
    · rwa [hsignature.lets_eq]
    · rw [(hline s hs).lets_eq]
      exact hline s hs
    · rwa [hclose.lets_eq]
  have hstmts : (tc.stmts.map fun s => "        " ++ tc.statementText s).flatMap lets =
      tc.definedVars.map fun v => (tc.isMutable v, v.name) := by
    rw [definedVars, List.flatMap_map, List.filterMap_eq_flatMap_toList, List.map_flatMap]
    exact List.flatMap_congr fun s hs => (hline s hs).lets_eq
  rw [text, (declares_unlines hlines).lets_eq, functionLines, List.flatMap_append,
    List.flatMap_append, hstmts]
  simp [hattribute.lets_eq, hsignature.lets_eq, hclose.lets_eq]

structure WellScoped (tc : TestCase) : Prop where
  distinct {i j : Nat} {v w : Var} : tc.DefinedAt v i → tc.DefinedAt w j → v.name = w.name → i = j
  resolved {i : Nat} {s : Statement} : tc.stmts[i]? = some s → ∀ a ∈ s.args,
    ∃ j < i, tc.DefinedAt a j ∧ ∀ k w, tc.DefinedAt w k → w.name = a.name → k = j
  lets_eq : lets tc.text = tc.definedVars.map fun v => (tc.isMutable v, v.name)
  unshadowed : ((lets tc.text).map Prod.snd).Nodup
  /-- A result is declared by its line under its name, as mutable just if something needs it so. -/
  declared {i : Nat} {v : Var} : tc.DefinedAt v i → ∃ line mutable,
    tc.functionLines[i + 2]? = some line ∧ lets line = [(mutable, v.name)] ∧
      (mutable ↔ tc.TakenMutably v)
  /-- The line of a statement is a text in which the names of what it uses stand in order, and each
  of these is declared by one printed `let`. -/
  printed {i : Nat} {s : Statement} : tc.stmts[i]? = some s →
    tc.functionLines[i + 2]? = some ("        " ++ tc.statementText (s.withArgs s.args)) ∧
      (Spliced s.args.length fun args => tc.statementText (s.withArgs args)) ∧
      ∀ a ∈ s.args, ((lets tc.text).map Prod.snd).count a.name = 1

theorem Built.composed (hb : Built tc) : Composed tc := by
  induction hb with
  | new id => exact .new id
  | literal sid value h ih => exact ih.pushLiteral sid value
  | borrow sid target mutable h ht ih => exact ih.pushBorrow sid target mutable
  | call sid callable args h ha hout ih => exact ih.pushCall sid callable args hout

theorem Built.nodup_names (hb : Built tc) : (tc.definedVars.map Var.name).Nodup := by
  rw [definedVars, List.map_filterMap, List.nodup_iff_pairwise_ne, List.pairwise_filterMap,
    List.pairwise_iff_getElem]
  intro i j hi hj hij x hx y hy hxy
  obtain ⟨v, hv, rfl⟩ := Option.map_eq_some_iff.1 hx
  obtain ⟨w, hw, rfl⟩ := Option.map_eq_some_iff.1 hy
  have hij' : i = j := hb.eq_of_id_eq ⟨_, List.getElem?_eq_getElem hi, hv⟩
    ⟨_, List.getElem?_eq_getElem hj, hw⟩ (Var.id_eq_of_name_eq hxy)
  exact absurd hij' (Nat.ne_of_lt hij)

/-- A test case made by appending is printed well scoped if no name holds text of a statement. -/
theorem scoping_exact (hb : Built tc) (hn : tc.PlainNames) : tc.WellScoped where
  distinct hv hw hname := hb.eq_of_id_eq hv hw (Var.id_eq_of_name_eq hname)
  resolved hs a ha := by
    obtain ⟨j, hj, hdef⟩ := hb.arg_definedAt hs ha
    refine ⟨j, hj, hdef, fun k w hw hname => ?_⟩
    exact hb.eq_of_id_eq hw hdef (Var.id_eq_of_name_eq hname)
  lets_eq := lets_text hn
  unshadowed := by
    rw [lets_text hn, List.map_map]
    exact hb.nodup_names
  declared {i v} hv := by
    obtain ⟨s, hs, hres⟩ := hv
    refine ⟨_, tc.isMutable v, tc.functionLines_get hs, ?_, isMutable_iff_takenMutably⟩
    rw [(declares_line hn (List.mem_of_getElem? hs)).lets_eq, hres]
    rfl
  printed {i s} hs := by
    have hwell := (hb.composed.consistent s (List.mem_of_getElem? hs)).2
    refine ⟨?_, tc.spliced_statementText hwell, fun a ha => ?_⟩
    · rw [s.withArgs_args]
      exact tc.functionLines_get hs
    · obtain ⟨j, -, hdef⟩ := hb.arg_definedAt hs ha
      rw [lets_text hn, List.map_map]
      exact List.count_eq_one_of_mem hb.nodup_names
        (List.mem_map_of_mem (mem_definedVars.2 ⟨j, hdef⟩))

theorem built_toggled : Built toggled := by
  have referred := ((Built.new 1).literal 0 (.bool true)).borrow 1 flag true (by decide)
  exact referred.call 2 toggle [flagRef, flag] (by decide)
    (show TestCase.pushCall _ 2 toggle [flagRef, flag] = .ok (none, toggled) from rfl)

theorem wellScoped_toggled : Built toggled ∧ toggled.PlainNames ∧ toggled.WellScoped := by
  have hplain : toggled.PlainNames := by
    unfold PlainNames
    decide
  exact ⟨built_toggled, hplain, scoping_exact built_toggled hplain⟩

example : lets toggled.text = [(true, "bool_0"), (false, "bool_ref_1")] := by decide +kernel

def redefine : Callable :=
  ⟨"let bool_0 = f", .function, none, [], none, [], .pub, none, none⟩

def inspect : Callable :=
  ⟨"g", .function, none, [⟨none, .prim .bool⟩], none, [], .pub, none, none⟩

def redefined : TestCase where
  id := 1
  stmts := [⟨0, 1, .literal (.bool true) flag⟩, ⟨1, 1, .call ⟨redefine, []⟩ none⟩,
    ⟨2, 1, .call ⟨inspect, [flag]⟩ none⟩]
  nextVar := 1
  fails := false
  coverage := ∅

theorem not_forall_wellScoped : ¬ ∀ tc, Built tc → tc.WellScoped := by
  intro h
  have hredefined := ((Built.new 1).literal 0 (.bool true)).call 1 redefine [] (by decide) rfl
  have hb : Built redefined := hredefined.call 2 inspect [flag] (by decide)
    (show TestCase.pushCall _ 2 inspect [flag] = .ok (none, redefined) from rfl)
  have hlets : (lets redefined.text).map Prod.snd = ["bool_0", "bool_0"] := by decide +kernel
  have hnodup := (h redefined hb).unshadowed
  rw [hlets] at hnodup
  exact absurd hnodup (by decide)

end TestCase
end UnitTestGen

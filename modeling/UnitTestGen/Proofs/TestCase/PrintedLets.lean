import UnitTestGen.Proofs.Binary64.RoundTrip
import UnitTestGen.Proofs.Text.Declarations
import UnitTestGen.Proofs.Ty.Parts
import UnitTestGen.TestCase.Render

/-! The `let`s of printed test functions. A literal closes what it opens, the name of a variable is
one word with an underscore in it, and any other name is asked to hold no text of a statement. So a
statement that defines a variable declares this one, and no other statement declares any. -/

namespace UnitTestGen

open Text

theorem Prim.isPlain_name (p : Prim) : isPlain p.name := by cases p <;> decide

namespace Ty

theorem declares_textList {ts : List Ty} (h : ∀ t ∈ ts, Declares t.text []) :
    Declares (textList ts) [] := by
  induction ts with
  | nil => exact .of_isSilent (by decide)
  | cons t ts ih =>
    obtain ⟨ht, hts⟩ := List.forall_mem_cons.1 h
    cases ts with
    | nil => exact ht
    | cons u us => exact ht.between ", " (by decide) (ih hts)

theorem declares_toString (n : Nat) : Declares (toString n) [] := by
  refine .of_notMem (c := 'l') (by decide)
    (fun h => absurd (isDigit_of_mem_toString h) (by decide)) fun d hd => ?_
  exact not_isQuote_of_isNameChar (isNameChar_of_isDigit (isDigit_of_mem_toString hd))

theorem declares_text {t : Ty} (h : ∀ u ∈ t.nodes, ∀ n ∈ u.name, isPlain n) :
    Declares t.text [] := by
  have hself {u : Ty} (hu : ∀ v ∈ u.nodes, ∀ n ∈ v.name, isPlain n) : ∀ n ∈ u.name, isPlain n :=
    hu u u.self_mem_nodes
  have hpart {u p : Ty} (hp : p ∈ u.parts) (hu : ∀ v ∈ u.nodes, ∀ n ∈ v.name, isPlain n) :
      ∀ v ∈ p.nodes, ∀ n ∈ v.name, isPlain n := fun v hv => hu v (nodes_subset hp hv)
  induction t using Ty.induction with
  | prim p => exact .of_isPlain (hself h _ rfl)
  | adt k n gs tr ih =>
    have hname : Declares n [] := .of_isPlain (hself h n rfl)
    have hgs : Declares (textList gs) [] := declares_textList fun t ht =>
      ih t ht (hpart (u := .adt k n gs tr) ht h)
    cases gs with
    | nil => exact hname
    | cons g gs => exact (hname.between "<" (by decide) hgs).after ">" (by decide)
  | tuple ts ih =>
    have hts : Declares (textList ts) [] := declares_textList fun t ht =>
      ih t ht (hpart (u := .tuple ts) ht h)
    match ts, hts with
    | [t], ht => exact (ht.before "(" (by decide)).after ",)" (by decide)
    | [], ht => exact (ht.before "(" (by decide)).after ")" (by decide)
    | t :: u :: ts, ht =>
      exact (ht.before "(" (by decide)).after ")" (by decide)
  | array t n ih =>
    have ht := (ih (hpart (.head _) h)).before "[" (by decide)
    exact (ht.between "; " (by decide) (declares_toString _)).after "]" (by decide)
  | slice t ih =>
    exact ((ih (hpart (.head _) h)).before "[" (by decide)).after "]" (by decide)
  | ref t m ih =>
    have ht := ih (hpart (.head _) h)
    cases m with
    | true => exact ht.before "&mut " (by decide)
    | false => exact ht.before "&" (by decide)
  | generic n b => exact .of_isPlain (hself h n rfl)
  | traitObj n b =>
    have hname : Declares n [] := .of_isPlain (hself h n rfl)
    exact hname.before "dyn " (by decide)
  | fn ps r ihp ihr =>
    have hps : Declares (textList ps) [] := declares_textList fun p hp =>
      ihp p hp (hpart (List.mem_append_left _ hp) h)
    have hopen := hps.before "fn(" (by decide)
    cases r with
    | none => exact hopen.after ")" (by decide)
    | some r =>
      have hr := ihr r rfl (hpart (List.mem_append_right _ List.mem_cons_self) h)
      exact hopen.between ") -> " (by decide) hr

end Ty

namespace Literal

open Binary64 (numberMarks)

theorem declares_numeral {s : String} (hs : ∀ c ∈ s.toList, c.isDigit ∨ c ∈ numberMarks)
    (p : Prim) : Declares (s ++ p.name) [] := by
  -- no numeral and no name of a type has all three letters
  have hletter : ∃ c ∈ "let".toList, ¬ c.isDigit ∧ c ∉ numberMarks ∧ c ∉ p.name.toList := by
    cases p with
    | str => exact ⟨'l', by decide, by decide, by decide, by decide⟩
    | _ => exact ⟨'t', by decide, by decide, by decide, by decide⟩
  obtain ⟨c, hc, hdigit, hmark, hname⟩ := hletter
  refine .of_notMem hc ?_ fun d hd => ?_
  · rw [String.toList_append]
    exact fun h => (List.mem_append.1 h).elim (fun h => (hs c h).elim hdigit hmark) hname
  · rw [String.toList_append] at hd
    rcases List.mem_append.1 hd with hd | hd
    · rcases hs d hd with hd | hd
      · exact not_isQuote_of_isNameChar (isNameChar_of_isDigit hd)
      · have hmarks : ∀ e ∈ numberMarks, ¬ isQuote e := by simp [numberMarks, isQuote]
        exact hmarks d hd
    · exact not_isQuote_of_isPlain p.isPlain_name hd

theorem declares_text (value : Literal) : Declares value.text [] := by
  cases value with
  | bool b => cases b <;> exact .of_isSilent (by decide)
  | char c =>
    have hquote : isQuote '\'' := by decide
    simpa [text, quotedChar] using Declares.literal hquote [c]
  | str s => exact Declares.literal (by decide) s.toList
  | int v p =>
    refine declares_numeral (fun c hc => ?_) p
    exact (mem_toString_int hc).imp_right fun h => by simp [h, numberMarks]
  | uint v p =>
    exact declares_numeral (fun c hc => .inl (isDigit_of_mem_toString hc)) p
  | float v p =>
    have hname : Declares p.name [] := .of_isPlain p.isPlain_name
    unfold text
    dsimp only
    split
    · exact hname.after "::NAN" (by decide)
    split
    · split
      · exact hname.after "::NEG_INFINITY" (by decide)
      · exact hname.after "::INFINITY" (by decide)
    · refine declares_numeral (fun c hc => ?_) p
      rw [Binary64.text, if_neg ‹_›, if_neg ‹_›, String.toList_ofList] at hc
      split at hc
      · rcases List.mem_cons.1 hc with rfl | hc
        · exact .inr (by decide)
        · exact Binary64.mem_sizeText hc
      · exact Binary64.mem_sizeText hc

end Literal

namespace Var

theorem toList_name (v : Var) : v.name.toList = v.ty.varPrefix ++ '_' :: decimal v.id := by
  simp [name, decimal]

theorem isNameChar_of_mem_name {v : Var} {c : Char} (hc : c ∈ v.name.toList) : isNameChar c := by
  rw [toList_name] at hc
  rcases List.mem_append.1 hc with hc | hc
  · exact Ty.isNameChar_of_mem_varPrefix hc
  · rcases List.mem_cons.1 hc with rfl | hc
    · decide
    · exact isNameChar_of_isDigit (isDigit_of_mem_decimal hc)

theorem underscore_mem_name (v : Var) : '_' ∈ v.name.toList := by simp [toList_name]

theorem declares_name (v : Var) : Declares v.name [] :=
  .name (fun _ => isNameChar_of_mem_name) v.underscore_mem_name

end Var

theorem declares_commaSeparated {xs : List String} (h : ∀ x ∈ xs, Declares x []) :
    Declares (commaSeparated xs) [] := by
  induction xs with
  | nil => exact .of_isSilent (by decide)
  | cons x xs ih =>
    obtain ⟨hx, hxs⟩ := List.forall_mem_cons.1 h
    cases xs with
    | nil => simpa [commaSeparated] using hx
    | cons y ys =>
      have hjoin : commaSeparated (x :: y :: ys) = x ++ ", " ++ commaSeparated (y :: ys) := by
        simp [commaSeparated, String.intercalate_cons_cons]
      rw [hjoin]
      exact hx.between ", " (by decide) (ih hxs)

theorem declares_applied {path : String} {args : List String} (hpath : Declares path [])
    (hargs : ∀ x ∈ args, Declares x []) :
    Declares (path ++ "(" ++ commaSeparated args ++ ")") [] :=
  (hpath.between "(" (by decide) (declares_commaSeparated hargs)).after ")" (by decide)

/-- The names in the text of a call, except those of variables. -/
def Call.names (c : Call) : List String :=
  match c.callable.kind, c.callable.parentPath, c.args.map Var.name with
  | .method, _, _ :: _ => [c.callable.name]
  | .structInit, some parent, _ =>
    if c.callable.params.all (·.name.isSome) then parent :: c.callable.params.filterMap (·.name)
    else [parent]
  | .enumInit variant, some parent, _ => [parent, variant]
  | _, some parent, _ => [parent, c.callable.name]
  | _, none, _ => [c.callable.name]

theorem Call.declares_text {c : Call} (h : ∀ n ∈ c.names, isPlain n) : Declares c.text [] := by
  have hplain {n : String} (hn : n ∈ c.names) : Declares n [] := .of_isPlain (h n hn)
  have hargs : ∀ x ∈ c.args.map Var.name, Declares x [] := by
    intro x hx
    obtain ⟨a, -, rfl⟩ := List.mem_map.1 hx
    exact a.declares_name
  have hunder {parent n : String} (hparent : Declares parent []) (hn : Declares n []) :
      Declares (parent ++ "::" ++ n) [] :=
    hparent.between "::" (by decide) hn
  unfold text
  dsimp only
  -- the cases of the printer; the last two are what the others leave
  split
  · rename_i receiver rest hkind hcons
    have hname := hplain (n := c.callable.name) (by simp [names, hkind, hcons])
    rw [hcons] at hargs
    obtain ⟨hreceiver, hrest⟩ := List.forall_mem_cons.1 hargs
    exact declares_applied (hreceiver.between "." (by decide) hname) hrest
  · rename_i parent hkind hpath
    have hparent := hplain (n := parent) (by simp only [names, hkind, hpath]; split <;> simp)
    split
    · rename_i hall
      obtain ⟨hall, -⟩ := Bool.and_eq_true_iff.1 hall
      have hnames : c.names = parent :: c.callable.params.filterMap (·.name) := by
        simp only [names, hkind, hpath, hall, if_true]
      refine ((hparent.between " \x7b " (by decide)
        (declares_commaSeparated fun x hx => ?_)).after " \x7d" (by decide))
      obtain ⟨⟨p, a⟩, hpa, rfl⟩ := List.mem_map.1 hx
      obtain ⟨hp, ha⟩ := List.of_mem_zip hpa
      obtain ⟨field, hfield⟩ := Option.isSome_iff_exists.1 (List.all_eq_true.1 hall p hp)
      have hlabel : Declares field [] := by
        refine hplain ?_
        rw [hnames]
        exact List.mem_cons_of_mem _ (List.mem_filterMap.2 ⟨p, hp, hfield⟩)
      rw [hfield]
      exact hlabel.between ": " (by decide) (hargs a ha)
    split
    · exact hparent
    · exact declares_applied hparent hargs
  · rename_i variant parent hkind hpath
    have hpath := hunder (hplain (n := parent) (by simp [names, hkind, hpath]))
      (hplain (n := variant) (by simp [names, hkind, hpath]))
    split
    · exact hpath
    · exact declares_applied hpath hargs
  · rename_i parent _ _ _ _
    have hnames : c.names = [parent, c.callable.name] := by
      unfold names
      split <;> simp_all
    exact declares_applied (hunder (hplain (by simp [hnames])) (hplain (by simp [hnames]))) hargs
  · have hnames : c.names = [c.callable.name] := by
      unfold names
      split <;> simp_all
    exact declares_applied (hplain (by simp [hnames])) hargs

/-- The names in the text of a statement, except those of variables. A type that is not settled is
not printed. -/
def Statement.names (s : Statement) : List String :=
  ((s.result.toList.filter (!·.ty.hasGenericParams)).flatMap fun v => v.ty.nodes.filterMap Ty.name)
    ++ s.asCall.toList.flatMap Call.names

namespace TestCase

variable {tc : TestCase}

theorem declares_definitionText {v : Var}
    (h : ¬ v.ty.hasGenericParams → ∀ u ∈ v.ty.nodes, ∀ n ∈ u.name, isPlain n) :
    Declares (tc.definitionText v) [(tc.isMutable v, v.name)] := by
  have hdefinition := Declares.definition (w := v.name) (fun _ => Var.isNameChar_of_mem_name)
    v.underscore_mem_name (tc.isMutable v)
  unfold definitionText
  dsimp only
  split
  · exact hdefinition
  · exact hdefinition.between ": " (by decide) (Ty.declares_text (h ‹_›))

theorem declares_statementText {s : Statement} (h : ∀ n ∈ s.names, isPlain n) :
    Declares (tc.statementText s) (s.result.toList.map fun v => (tc.isMutable v, v.name)) := by
  have hresult {v : Var} (hv : s.result = some v) :
      Declares (tc.definitionText v) [(tc.isMutable v, v.name)] := by
    refine declares_definitionText fun hsettled u hu n hn => h n (List.mem_append_left _ ?_)
    refine List.mem_flatMap.2 ⟨v, by simpa [hv] using hsettled, ?_⟩
    exact List.mem_filterMap.2 ⟨u, hu, hn⟩
  obtain ⟨sid, owner, action⟩ := s
  cases action with
  | literal value v =>
    exact ((hresult rfl).between " = " (by decide) value.declares_text).after ";" (by decide)
  | borrow target mutable v =>
    have hopen := (hresult rfl).after " = " (by decide)
    cases mutable with
    | true =>
      exact (hopen.between "&mut " (by decide) target.declares_name).after ";" (by decide)
    | false =>
      exact (hopen.between "&" (by decide) target.declares_name).after ";" (by decide)
  | call c v =>
    have hcall : Declares c.text [] := c.declares_text fun n hn =>
      h n (List.mem_append_right _ (by simpa [Statement.asCall] using hn))
    cases v with
    | none => exact hcall.after ";" (by decide)
    | some v =>
      exact ((hresult rfl).between " = " (by decide) hcall).after ";" (by decide)

end TestCase

theorem declares_unlines {lines : List String} (h : ∀ l ∈ lines, Declares l (lets l)) :
    Declares (unlines lines) (lines.flatMap lets) := by
  induction lines with
  | nil => exact .of_isSilent (by decide)
  | cons l ls ih =>
    obtain ⟨hl, hls⟩ := List.forall_mem_cons.1 h
    have htext : unlines (l :: ls) = l ++ "\n" ++ unlines ls := by simp [unlines]
    rw [htext]
    exact hl.between "\n" (by decide) (ih hls)

end UnitTestGen

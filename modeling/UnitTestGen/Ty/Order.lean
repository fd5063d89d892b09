import UnitTestGen.Ty.Basic

/-! The order of types and their equality. A type is spelled as a sequence of symbols, lists closed
by a mark smaller than the one before each element, and types are ordered as their spellings are.
No spelling begins another, so equal spellings have equal types. -/

namespace UnitTestGen

inductive Symbol where
  | mark (n : Nat)
  | text (s : String)
  deriving DecidableEq

namespace Symbol

def cmp : Symbol → Symbol → Ordering
  | mark m, mark n => compare m n
  | mark _, text _ => .lt
  | text _, mark _ => .gt
  | text s, text t => compare s t

instance : Ord Symbol := ⟨cmp⟩

theorem compare_self : ∀ a : Symbol, cmp a a = .eq
  | mark n => show compare n n = .eq from Std.ReflCmp.compare_self
  | text s => show compare s s = .eq from Std.ReflCmp.compare_self

theorem eq_of_compare : ∀ {a b : Symbol}, cmp a b = .eq → a = b
  | mark m, mark n, h =>
    congrArg mark (Std.LawfulEqCmp.eq_of_compare (show compare m n = .eq from h))
  | text s, text t, h =>
    congrArg text (Std.LawfulEqCmp.eq_of_compare (show compare s t = .eq from h))

theorem compare_swap : ∀ a b : Symbol, cmp a b = (cmp b a).swap
  | mark m, mark n => show compare m n = (compare n m).swap from Std.OrientedCmp.eq_swap
  | text s, text t => show compare s t = (compare t s).swap from Std.OrientedCmp.eq_swap
  | mark _, text _ => rfl
  | text _, mark _ => rfl

theorem compare_trans : ∀ {a b c : Symbol}, (cmp a b).isLE → (cmp b c).isLE → (cmp a c).isLE
  | mark m, mark n, mark k, h, h' =>
    show (compare m k).isLE from
      Std.TransCmp.isLE_trans (show (compare m n).isLE from h) (show (compare n k).isLE from h')
  | text s, text t, text u, h, h' =>
    show (compare s u).isLE from
      Std.TransCmp.isLE_trans (show (compare s t).isLE from h) (show (compare t u).isLE from h')
  | mark _, _, text _, _, _ => rfl

instance : Std.LawfulEqOrd Symbol where
  compare_self := compare_self _
  eq_of_compare := eq_of_compare

instance : Std.TransOrd Symbol where
  eq_swap := compare_swap _ _
  isLE_trans := compare_trans

end Symbol

namespace Prim

def index : Prim → Nat
  | bool => 0 | char => 1 | str => 2
  | i8 => 3 | i16 => 4 | i32 => 5 | i64 => 6 | i128 => 7 | isize => 8
  | u8 => 9 | u16 => 10 | u32 => 11 | u64 => 12 | u128 => 13 | usize => 14
  | f32 => 15 | f64 => 16

theorem index_inj {p q : Prim} (h : p.index = q.index) : p = q := by
  cases p <;> cases q <;> first | rfl | simp [index] at h

end Prim

namespace TraitSet

def spell (traits : TraitSet) : List Symbol := traits.toList.map .text ++ [.mark 0]

theorem spell_append_inj {a b : TraitSet} {r s : List Symbol}
    (h : a.spell ++ r = b.spell ++ s) : a = b ∧ r = s := by
  have go : ∀ xs ys : List String,
      xs.map Symbol.text ++ [.mark 0] ++ r = ys.map Symbol.text ++ [.mark 0] ++ s →
        xs = ys ∧ r = s := by
    intro xs
    induction xs with
    | nil => intro ys h; cases ys <;> simp_all
    | cons x xs ih =>
      intro ys h
      cases ys with
      | nil => simp at h
      | cons y ys =>
        simp only [List.map_cons, List.cons_append, List.cons.injEq, Symbol.text.injEq] at h
        obtain ⟨rfl, h⟩ := h
        obtain ⟨rfl, hrs⟩ := ih ys h
        exact ⟨rfl, hrs⟩
  obtain ⟨hl, hr⟩ := go _ _ h
  exact ⟨Std.ExtTreeSet.toList_inj.1 hl, hr⟩

end TraitSet

namespace Ty

mutual

def spell : Ty → List Symbol
  | prim p => [.mark 0, .mark p.index]
  | adt .struct n gs tr => .mark 1 :: .text n :: (spellAll gs ++ TraitSet.spell tr)
  | adt .enum n gs tr => .mark 2 :: .text n :: (spellAll gs ++ TraitSet.spell tr)
  | tuple ts => .mark 3 :: spellAll ts
  | array t n => .mark 4 :: (t.spell ++ [.mark n.toNat])
  | slice t => .mark 5 :: t.spell
  | ref t m => .mark 6 :: (t.spell ++ [.mark m.toNat])
  | generic n b => .mark 7 :: .text n :: TraitSet.spell b
  | traitObj n b => .mark 8 :: .text n :: TraitSet.spell b
  | fn ps none => .mark 9 :: (spellAll ps ++ [.mark 0])
  | fn ps (some r) => .mark 9 :: (spellAll ps ++ .mark 1 :: r.spell)

def spellAll : List Ty → List Symbol
  | [] => [.mark 0]
  | t :: ts => .mark 1 :: (t.spell ++ spellAll ts)

end

theorem spellAll_append_inj {ts us : List Ty} {r s : List Symbol}
    (ih : ∀ t ∈ ts, ∀ u r s, spell t ++ r = spell u ++ s → t = u ∧ r = s)
    (h : spellAll ts ++ r = spellAll us ++ s) : ts = us ∧ r = s := by
  induction ts generalizing us with
  | nil =>
    cases us with
    | nil => simpa [spellAll] using h
    | cons u us => simp [spellAll] at h
  | cons t ts iht =>
    cases us with
    | nil => simp [spellAll] at h
    | cons u us =>
      simp only [spellAll, List.cons_append, List.append_assoc, List.cons.injEq, true_and] at h
      obtain ⟨rfl, h₁⟩ := ih t (by simp) u _ _ h
      obtain ⟨rfl, h₂⟩ := iht (fun t' ht' => ih t' (by simp [ht'])) h₁
      exact ⟨rfl, h₂⟩

theorem spell_append_inj (t : Ty) :
    ∀ (u : Ty) (r s : List Symbol), spell t ++ r = spell u ++ s → t = u ∧ r = s := by
  induction t using Ty.induction with
  | prim p =>
    rintro (_ | ⟨_ | _⟩ | _ | _ | _ | _ | _ | _ | ⟨_, _ | _⟩) r s h <;> simp [spell] at h
    exact ⟨congrArg _ (Prim.index_inj h.1), h.2⟩
  | adt k n gs tr ih =>
    rintro (_ | ⟨_ | _⟩ | _ | _ | _ | _ | _ | _ | ⟨_, _ | _⟩) r s h <;> cases k <;>
      simp [spell] at h
    all_goals
      obtain ⟨rfl, h₁⟩ := h
      obtain ⟨rfl, h₂⟩ := spellAll_append_inj ih h₁
      obtain ⟨rfl, h₃⟩ := TraitSet.spell_append_inj h₂
      exact ⟨rfl, h₃⟩
  | tuple ts ih =>
    rintro (_ | ⟨_ | _⟩ | _ | _ | _ | _ | _ | _ | ⟨_, _ | _⟩) r s h <;> simp [spell] at h
    obtain ⟨rfl, h₁⟩ := spellAll_append_inj ih h
    exact ⟨rfl, h₁⟩
  | array t n ih =>
    rintro (_ | ⟨_ | _⟩ | _ | _ | _ | _ | _ | _ | ⟨_, _ | _⟩) r s h <;> simp [spell] at h
    obtain ⟨rfl, h₁⟩ := ih _ _ _ h
    simp only [List.cons.injEq, Symbol.mark.injEq] at h₁
    exact ⟨by rw [UInt64.toNat_inj.1 h₁.1], h₁.2⟩
  | slice t ih =>
    rintro (_ | ⟨_ | _⟩ | _ | _ | _ | _ | _ | _ | ⟨_, _ | _⟩) r s h <;> simp [spell] at h
    obtain ⟨rfl, h₁⟩ := ih _ _ _ h
    exact ⟨rfl, h₁⟩
  | ref t m ih =>
    rintro (_ | ⟨_ | _⟩ | _ | _ | _ | ⟨u, m'⟩ | _ | _ | ⟨_, _ | _⟩) r s h <;> simp [spell] at h
    obtain ⟨rfl, h₁⟩ := ih _ _ _ h
    simp only [List.cons.injEq, Symbol.mark.injEq] at h₁
    refine ⟨?_, h₁.2⟩
    cases m <;> cases m' <;> simp_all
  | generic n b =>
    rintro (_ | ⟨_ | _⟩ | _ | _ | _ | _ | _ | _ | ⟨_, _ | _⟩) r s h <;> simp [spell] at h
    obtain ⟨rfl, h₁⟩ := h
    obtain ⟨rfl, h₂⟩ := TraitSet.spell_append_inj h₁
    exact ⟨rfl, h₂⟩
  | traitObj n b =>
    rintro (_ | ⟨_ | _⟩ | _ | _ | _ | _ | _ | _ | ⟨_, _ | _⟩) r s h <;> simp [spell] at h
    obtain ⟨rfl, h₁⟩ := h
    obtain ⟨rfl, h₂⟩ := TraitSet.spell_append_inj h₁
    exact ⟨rfl, h₂⟩
  | fn ps ret ihp ihr =>
    rintro (_ | ⟨_ | _⟩ | _ | _ | _ | _ | _ | _ | ⟨_, _ | _⟩) r s h <;>
      cases ret <;> simp [spell] at h
    all_goals
      obtain ⟨rfl, h₁⟩ := spellAll_append_inj ihp h
      simp at h₁
    · exact ⟨rfl, h₁⟩
    · obtain ⟨rfl, h₂⟩ := ihr _ rfl _ _ _ h₁
      exact ⟨rfl, h₂⟩

theorem spell_inj {t u : Ty} : t.spell = u.spell ↔ t = u :=
  ⟨fun h => (spell_append_inj t u [] [] (by rw [h])).1, fun h => h ▸ rfl⟩

instance : DecidableEq Ty := fun _ _ => decidable_of_iff _ spell_inj

instance : Ord Ty := ⟨fun t u => compare t.spell u.spell⟩

theorem compare_def (t u : Ty) : compare t u = compare t.spell u.spell := rfl

instance : Std.LawfulEqOrd Ty where
  compare_self := by simp [compare_def]
  eq_of_compare h := spell_inj.1 (Std.LawfulEqCmp.eq_of_compare h)

instance : Std.TransOrd Ty where
  eq_swap {a b} := @Std.OrientedCmp.eq_swap (List Symbol) compare _ a.spell b.spell
  isLE_trans {a b c} hab hbc :=
    @Std.TransCmp.isLE_trans (List Symbol) compare _ a.spell b.spell c.spell hab hbc

end Ty
end UnitTestGen

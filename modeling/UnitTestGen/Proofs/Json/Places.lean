import UnitTestGen.Json.Canonical
import UnitTestGen.Proofs.Lookup
import UnitTestGen.Proofs.Pointwise

/-! Places in a value as it is written and in its plain value. The parts of the plain value are the
plain values of the parts, under the same keys and at the same places, if the last one counts under
a repeated key. So a path leads to a part of the one exactly if it leads to a part of the other, and
the second part is the plain value of the first. -/

namespace UnitTestGen.Json

def lastPart? (j : Json) (token : String) : Option Json :=
  match j with
  | .obj members => part? (.obj members.reverse) token
  | j => part? j token

/-- The part that a sequence of keys and places leads to, the last one under each repeated key. -/
def lastPointer? (path : List String) (j : Json) : Option Json := path.foldlM lastPart? j

def Alike (depth : Nat) : Option Json → Option Json → Prop :=
  Option.Rel fun w c => canonical depth w = some c

theorem part?_ofList (ms : List (String × Json)) (token : String) :
    part? (.obj (Std.ExtTreeMap.ofList ms).toList) token = part? (.obj ms.reverse) token :=
  (find?_toList _ _).trans (getElem?_ofList ms token)

theorem alike_part? {depth : Nat} {j c : Json} (h : canonical (depth + 1) j = some c)
    (token : String) : Alike depth (lastPart? j token) (part? c token) := by
  cases j with
  | null | bool | str =>
    cases h
    exact .none
  | number n =>
    obtain ⟨v, -, rfl⟩ := Option.map_eq_some_iff.1 h
    exact .none
  | valueless => cases h
  | arr elems =>
    obtain ⟨cs, hcs, rfl⟩ := Option.map_eq_some_iff.1 h
    change Option.Rel _ ((index? token.toList).bind (elems[·]?)) ((index? token.toList).bind (cs[·]?))
    cases index? token.toList with
    | none => exact .none
    | some i => exact rel_getElem?_of_forall₂ (forall₂_of_mapM_eq_some hcs) i
  | obj members =>
    obtain ⟨ms, hms, h⟩ := Option.bind_eq_some_iff.1 h
    cases h
    have hmembers : List.Forall₂ (fun m m' : String × Json => m.1 = m'.1 ∧
        canonical depth m.2 = some m'.2) members ms := by
      apply (forall₂_of_mapM_eq_some hms).imp
      rintro ⟨k, v⟩ m' hm
      obtain ⟨c, hc, rfl⟩ := Option.map_eq_some_iff.1 hm
      exact ⟨rfl, hc⟩
    have hfound := rel_find?_of_forall₂ (p := (·.1 == token)) (q := (·.1 == token))
      (fun m m' hm => by rw [hm.1]) (List.forall₂_reverse_iff.2 hmembers)
    rw [part?_ofList]
    change Option.Rel _ ((members.reverse.find? (·.1 == token)).map (·.2))
      ((ms.reverse.find? (·.1 == token)).map (·.2))
    generalize members.reverse.find? (·.1 == token) = m, ms.reverse.find? (·.1 == token) = m'
      at hfound ⊢
    cases hfound with
    | none => exact .none
    | some hm => exact .some hm.2

theorem alike_pointer? {path : List String} {depth : Nat} {j c : Json}
    (h : canonical (depth + path.length) j = some c) :
    Alike depth (lastPointer? path j) (pointer? path c) := by
  induction path generalizing j c with
  | nil => exact .some h
  | cons token path ih =>
    have hpart := alike_part? h token
    rw [lastPointer?, pointer?, List.foldlM_cons, List.foldlM_cons]
    generalize lastPart? j token = w, part? c token = c' at hpart ⊢
    cases hpart with
    | none => exact .none
    | some hw => exact ih hw

end UnitTestGen.Json

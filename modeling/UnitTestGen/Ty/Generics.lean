import UnitTestGen.Ty.Text

/-! Other generic arguments for a struct or an enum, as many as before. -/

namespace UnitTestGen

inductive TypeError where
  | unsupported (operation : String) (ty : Ty)
  | arityMismatch (ty : Ty) (expected actual : Nat)

namespace TypeError

def message : TypeError → String
  | unsupported operation t =>
    operation ++ " is not defined for " ++ t.kind ++ " type `" ++ t.text ++ "`"
  | arityMismatch t expected actual =>
    "generic arity mismatch for `" ++ t.text ++ "`: expected " ++ toString expected ++ ", got " ++
      toString actual

end TypeError

namespace Ty

def withGenerics (t : Ty) (generics : List Ty) : Except TypeError Ty :=
  match t with
  | adt kind name old traits =>
    if old.length = generics.length then .ok (adt kind name generics traits)
    else .error (.arityMismatch t old.length generics.length)
  | _ => .error (.unsupported "with_generics" t)

end Ty
end UnitTestGen

import UnitTestGen.Registry.Basic

/-! Questions to a registry about the callables that make or take a type. Each has a match condition
of its own; of the matches visible from a file the local ones are given if there are any, and all of
them otherwise. -/

namespace UnitTestGen

namespace Callable

def visibleFrom? (c : Callable) (file : Option String) : Bool := file.all c.isVisibleFrom

def takes (c : Callable) (t : Ty) (onlyBorrowing : Bool) : Bool :=
  (c.params.find? (·.ty.accepts t)).any fun p => !onlyBorrowing || p.isByReference

def generates (c : Callable) (t : Ty) : Bool :=
  c.returnsValue && c.returnType.any fun ret =>
    !ret.isGeneric && ret.name.isSome && ret.name == t.name

def generatesWrapped (c : Callable) (t : Ty) : Bool :=
  c.returnsValue && c.returnType.any fun ret => (ret.wraps t).isSome

def ownerGenerates (c : Callable) (owner t : Ty) : Bool :=
  c.parent.any (·.sameStructure owner) && c.returnsValue &&
    c.returnType.any (·.acceptsIndirectly t)

end Callable

namespace Registry

def preferLocal (cs : List Callable) : List Callable :=
  if cs.any Callable.isLocal then cs.filter Callable.isLocal else cs

def visibleMatches (r : Registry) (file : Option String) (holds : Callable → Bool) :
    List Callable :=
  r.callables.filter fun c => holds c && c.visibleFrom? file

def typesImplementing (r : Registry) (bounds : List String) : List Ty := r.table.implementing bounds

def visibleCallables (r : Registry) (file : Option String) (localOnly : Bool) : List Callable :=
  r.visibleMatches file fun c => !localOnly || c.isLocal

def callablesWithParam (r : Registry) (t : Ty) (file : Option String)
    (onlyBorrowing onlyLocal : Bool) : List Callable :=
  preferLocal (r.visibleMatches file fun c => c.takes t onlyBorrowing && (!onlyLocal || c.isLocal))

def generatorsOf (r : Registry) (t : Ty) (file : Option String) : List Callable :=
  preferLocal (r.visibleMatches file (·.generates t))

def wrappingGeneratorsOf (r : Registry) (t : Ty) (file : Option String) : List Callable :=
  preferLocal (r.visibleMatches file (·.generatesWrapped t))

def ownerGeneratorsOf (r : Registry) (owner t : Ty) (file : Option String) : List Callable :=
  preferLocal (r.visibleMatches file (·.ownerGenerates owner t))

end Registry
end UnitTestGen

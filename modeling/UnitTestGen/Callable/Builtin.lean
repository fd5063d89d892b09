import UnitTestGen.Callable.Basic
import UnitTestGen.Ty.Table

/-! Callables and types that are at hand whatever the crate under test declares. -/

namespace UnitTestGen.Builtin

open TraitPath

def optionPath : String := "std::option::Option"
def vecPath : String := "std::vec::Vec"
def stringPath : String := "std::string::String"
def stepRngPath : String := "rand::rngs::mock::StepRng"
def defaultHasherPath : String := "std::collections::hash_map::DefaultHasher"

def containerTraits : TraitSet :=
  .ofList [sized, clone, debug, TraitPath.default, partialEq]

def optionOf (elem : Ty) : Ty := .adt .enum optionPath [elem] containerTraits

def vecOf (elem : Ty) : Ty := .adt .struct vecPath [elem] containerTraits

def string : Ty :=
  .adt .struct stringPath []
    (.ofList [sized, clone, debug, display, TraitPath.default, partialEq, eq, partialOrd, ord,
      hash])

def stepRng : Ty :=
  .adt .struct stepRngPath [] (.ofList [sized, clone, debug, partialEq, eq, rngCore])

def defaultHasher : Ty :=
  .adt .struct defaultHasherPath [] (.ofList [sized, clone, debug, TraitPath.default, hasher])

def seedTypes : List Ty := [stepRng, defaultHasher]

def seededTable : TypeTable := TypeTable.empty.discoverAll seedTypes

def typeParam : Ty := .generic "T" ∅

def none : Callable where
  name := "None"
  kind := .enumInit "None"
  parent := some (optionOf typeParam)
  params := []
  returnType := some (optionOf typeParam)
  generics := [typeParam]
  visibility := .pub
  srcFile := Option.none
  ofTrait := Option.none

def some : Callable where
  name := "Some"
  kind := .enumInit "Some"
  parent := Option.some (optionOf typeParam)
  params := [⟨Option.none, typeParam⟩]
  returnType := Option.some (optionOf typeParam)
  generics := [typeParam]
  visibility := .pub
  srcFile := Option.none
  ofTrait := Option.none

def stepRngNew : Callable where
  name := "new"
  kind := .staticMethod
  parent := Option.some stepRng
  params := [⟨Option.some "initial", .prim .u64⟩, ⟨Option.some "increment", .prim .u64⟩]
  returnType := Option.some stepRng
  generics := []
  visibility := .pub
  srcFile := Option.none
  ofTrait := Option.none

def stringFrom : Callable where
  name := "from"
  kind := .staticMethod
  parent := Option.some string
  params := [⟨Option.some "s", .ref (.prim .str) false⟩]
  returnType := Option.some string
  generics := []
  visibility := .pub
  srcFile := Option.none
  ofTrait := Option.none

def callables : List Callable := [none, some, stepRngNew, stringFrom]

end UnitTestGen.Builtin

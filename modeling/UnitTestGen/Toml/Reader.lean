import UnitTestGen.Toml.Scalar

/-! Reading a TOML document line by line. Values nest within a bound, as do the parts of dotted
keys; an array may be spread over lines and hold comments, an inline table may not. -/

namespace UnitTestGen.Toml

def depthLimit : Nat := 80

def isBareKey (c : Char) : Bool := c.isAlphanum || c == '_' || c == '-'

def readKeyPart (s : List Char) : Option (String × List Char) :=
  match s with
  | [] => none
  | c :: rest =>
    if c = '"' ∨ c = '\'' then
      (readLineBody c s.length rest).map fun (cs, rest) => (String.ofList cs, rest)
    else
      let key := s.takeWhile isBareKey
      if key.isEmpty then none else some (String.ofList key, s.dropWhile isBareKey)

def readKeyParts : Nat → List Char → Option (List String × List Char)
  | 0, _ => none
  | fuel + 1, s => do
    let (part, rest) ← readKeyPart (skipSpace s)
    match skipSpace rest with
    | '.' :: rest =>
      let (parts, rest) ← readKeyParts fuel rest
      some (part :: parts, rest)
    | rest => some ([part], rest)

def readKey (s : List Char) : Option ((List String × String) × List Char) := do
  let (parts, rest) ← readKeyParts (depthLimit - 1) s
  let last ← parts.getLast?
  some ((parts.dropLast, last), rest)

def skipBetween : Nat → List Char → Option (List Char)
  | 0, _ => none
  | fuel + 1, s =>
    match skipSpace s with
    | '#' :: rest => skipBetween fuel (rest.dropWhile isPlain)
    | rest =>
      match lineEnd? rest with
      | some rest => skipBetween fuel rest
      | none => some rest

def readElems (read : List Char → Option (Toml × List Char)) :
    Nat → List Char → Option (List Toml × List Char)
  | 0, _ => none
  | fuel + 1, s => do
    match ← skipBetween (s.length + 1) s with
    | ']' :: rest => some ([], rest)
    | s =>
      let (v, rest) ← read s
      match ← skipBetween (rest.length + 1) rest with
      | ']' :: rest => some ([v], rest)
      | ',' :: rest =>
        let (vs, rest) ← readElems read fuel rest
        some (v :: vs, rest)
      | _ => none

def readMembers (read : List Char → Option (Toml × List Char)) :
    Nat → Members → List Char → Option (Members × List Char)
  | 0, _, _ => none
  | fuel + 1, members, s => do
    let ((path, key), rest) ← readKey s
    match rest with
    | '=' :: rest =>
      let (v, rest) ← read (skipSpace rest)
      let members ← members.define path key v .inline
      match skipSpace rest with
      | '\x7d' :: rest => some (members, rest)
      | ',' :: rest => readMembers read fuel members rest
      | _ => none
    | _ => none

def readValue : Nat → List Char → Option (Toml × List Char)
  | depth, s =>
    match depth, s with
    | _, 't' :: 'r' :: 'u' :: 'e' :: rest => some (.boolean true, rest)
    | _, 'f' :: 'a' :: 'l' :: 's' :: 'e' :: rest => some (.boolean false, rest)
    | depth + 1, '[' :: rest =>
      (readElems (readValue depth) s.length rest).map fun (vs, rest) => (.array vs, rest)
    | depth + 1, '\x7b' :: rest =>
      match skipSpace rest with
      | '\x7d' :: rest => some (.table .inline [], rest)
      | rest =>
        (readMembers (readValue depth) s.length [] rest).map fun (ms, rest) =>
          (.table .inline ms, rest)
    | _, s =>
      if s.head? = some '"' ∨ s.head? = some '\'' then
        (readString s).map fun (cs, rest) => (.string (String.ofList cs), rest)
      else
        match afterMoment? s with
        | some rest => some (.moment, rest)
        | none => readNumber s

def finishLine (s : List Char) : Option (List Char) :=
  let rest := match skipSpace s with
    | '#' :: rest => rest.dropWhile isPlain
    | rest => rest
  if rest.isEmpty then some [] else lineEnd? rest

structure Document where
  members : Members
  header : List String

namespace Document

def empty : Document := ⟨[], []⟩

def define (d : Document) (path : List String) (key : String) (value : Toml) : Option Document :=
  (d.members.descend false (Members.define path key value) d.header .header).map
    fun members => { d with members }

def openTable (d : Document) (path : List String) (key : String) : Option Document :=
  (d.members.openTable path key .header).map fun members => ⟨members, path ++ [key]⟩

def openElement (d : Document) (path : List String) (key : String) : Option Document :=
  (d.members.openElement path key .header).map fun members => ⟨members, path ++ [key]⟩

def readLine (d : Document) : List Char → Option (Document × List Char)
  | '[' :: '[' :: s => do
    let ((path, key), rest) ← readKey s
    match rest with
    | ']' :: ']' :: rest =>
      let d ← d.openElement path key
      some (d, ← finishLine rest)
    | _ => none
  | '[' :: s => do
    let ((path, key), rest) ← readKey s
    match rest with
    | ']' :: rest =>
      let d ← d.openTable path key
      some (d, ← finishLine rest)
    | _ => none
  | s => do
    let ((path, key), rest) ← readKey s
    match rest with
    | '=' :: rest =>
      let (v, rest) ← readValue (depthLimit - 1) (skipSpace rest)
      let d ← d.define path key v
      some (d, ← finishLine rest)
    | _ => none

def readLines : Nat → Document → List Char → Option Document
  | 0, _, _ => none
  | fuel + 1, d, s =>
    match skipSpace s with
    | [] => some d
    | '#' :: rest => (finishLine ('#' :: rest)).bind (readLines fuel d)
    | rest =>
      match lineEnd? rest with
      | some rest => readLines fuel d rest
      | none => (d.readLine rest).bind fun (d, rest) => readLines fuel d rest

end Document

def ofText (text : String) : Option Toml :=
  let s := match text.toList with
    | '\uFEFF' :: s => s
    | s => s
  (Document.readLines (s.length + 1) .empty s).map fun d => .table .header d.members

end UnitTestGen.Toml

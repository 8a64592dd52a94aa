import MetricRelay.Toml.Scalar

namespace MetricRelay.Toml

mutual

def value? : Nat → Nat → List Char → Option (Value × List Char)
  | _, 0, _ => none
  | depth, fuel + 1, s =>
    match s, depth with
    | '"' :: _, _ => (string? s).map fun (text, s) => (.string text, s)
    | '\'' :: _, _ => (string? s).map fun (text, s) => (.string text, s)
    | '[' :: _, 0 => none
    | '[' :: s, depth + 1 => (items? depth fuel s).map fun (l, s) => (.array l, s)
    | '\x7b' :: _, 0 => none
    | '\x7b' :: s, depth + 1 =>
      match skipSpaces s with
      | '\x7d' :: s => some (.table .inline [], s)
      | s => (fields? depth fuel [] s).map fun (e, s) => (.table .inline e, s)
    | s, _ => scalar? s

def items? : Nat → Nat → List Char → Option (List Value × List Char)
  | _, 0, _ => none
  | depth, fuel + 1, s =>
    match skipBlanks s.length s with
    | ']' :: s => some ([], s)
    | s => do
      let (v, s) ← value? depth fuel s
      match skipBlanks s.length s with
      | ',' :: s =>
        let (rest, s) ← items? depth fuel s
        return (v :: rest, s)
      | ']' :: s => return ([v], s)
      | _ => none

def fields? : Nat → Nat → Entries → List Char → Option (Entries × List Char)
  | _, 0, _, _ => none
  | depth, fuel + 1, e, s => do
    let (path, s) ← key? s
    match s with
    | '=' :: s =>
      let (v, s) ← value? depth fuel (skipSpaces s)
      let e ← e.putDotted v path.dropLast (path.getLast?.getD "") .inline true
      match skipSpaces s with
      | ',' :: s => fields? depth fuel e s
      | '\x7d' :: s => return (e, s)
      | _ => none
    | _ => none

end

structure Document where
  root : Entries
  header : List String

namespace Document

def put (d : Document) (path : List String) (v : Value) : Option Document := do
  let last ← path.getLast?
  let root ← d.root.underHeader d.header (Entries.putDotted v path.dropLast last .header true)
  return { d with root }

def open? (d : Document) (path : List String) (f : String → Entries → Option Entries) :
    Option Document := do
  let last ← path.getLast?
  let root ← d.root.underHeader path.dropLast (f last)
  return ⟨root, path⟩

end Document

def line? (d : Document) (s : List Char) : Option (Document × List Char) :=
  let s := skipSpaces s
  match s with
  | '[' :: '[' :: s => do
    let (path, s) ← key? s
    match s with
    | ']' :: ']' :: s => return (← d.open? path Entries.append, ← endLine? s)
    | _ => none
  | '[' :: s => do
    let (path, s) ← key? s
    match s with
    | ']' :: s => return (← d.open? path Entries.declare, ← endLine? s)
    | _ => none
  | s =>
    match endLine? s with
    | some s => some (d, s)
    | none => do
      let (path, s) ← key? s
      match s with
      | '=' :: s =>
        let (v, s) ← value? (depthLimit - 1) (2 * s.length + 2) (skipSpaces s)
        return (← d.put path v, ← endLine? s)
      | _ => none

def lines? : Nat → Document → List Char → Option Document
  | _, d, [] => some d
  | 0, _, _ => none
  | fuel + 1, d, s => do
    let (d, s) ← line? d s
    lines? fuel d s

def parse (text : String) : Option Entries :=
  let s :=
    match text.toList with
    | '\ufeff' :: s => s
    | s => s
  (lines? (s.length + 1) ⟨[], []⟩ s).map (·.root)

end MetricRelay.Toml

/-!
TOML documents: tables of values, and how headers and dotted keys build them up.
-/
namespace MetricRelay.Toml

/-- How a table came to be, which decides what may still be put into it. -/
inductive Origin
  | inline
  | header
  | implied
  | dotted
  deriving DecidableEq, Repr

inductive Value
  | string (s : String)
  | integer (n : Int)
  | boolean (b : Bool)
  | float (text : String)
  | time (text : String)
  | array (l : List Value)
  | table (origin : Origin) (entries : List (String × Value))
  | tables (l : List (List (String × Value)))

abbrev Entries := List (String × Value)

namespace Entries

def set (e : Entries) (k : String) (v : Value) : Entries :=
  match e with
  | [] => [(k, v)]
  | (k', v') :: rest => if k' = k then (k, v) :: rest else (k', v') :: set rest k v

def updateLast (f : Entries → Option Entries) : List Entries → Option (List Entries)
  | [] => none
  | [e] => (f e).map ([·])
  | e :: rest => (updateLast f rest).map (e :: ·)

def underHeader : List String → (Entries → Option Entries) → Entries → Option Entries
  | [], f, e => f e
  | k :: path, f, e => do
    match e.lookup k with
    | none => return set e k (.table .implied (← underHeader path f []))
    | some (.table .inline _) => none
    | some (.table origin inner) => return set e k (.table origin (← underHeader path f inner))
    | some (.tables l) => return set e k (.tables (← updateLast (underHeader path f) l))
    | some _ => none

/-- Puts in a value under a dotted key. `origin` is that of the table `e`; dotted keys only end in
tables that dotted keys have made. -/
def putDotted (v : Value) : List String → String → Origin → Bool → Entries → Option Entries
  | [], k, origin, top, e =>
    if !top && origin != .dotted then none
    else
      match e.lookup k with
      | none => some (set e k v)
      | some _ => none
  | k :: path, last, _, _, e => do
    match e.lookup k with
    | none => return set e k (.table .dotted (← putDotted v path last .dotted false []))
    | some (.table .inline _) => none
    | some (.table .header _) => none
    | some (.table origin inner) =>
      return set e k (.table origin (← putDotted v path last origin false inner))
    | some (.tables l) =>
      return set e k (.tables (← updateLast (putDotted v path last .header false) l))
    | some _ => none

def declare (k : String) (e : Entries) : Option Entries :=
  match e.lookup k with
  | none => some (set e k (.table .header []))
  | some (.table .implied inner) => some (set e k (.table .header inner))
  | some _ => none

def append (k : String) (e : Entries) : Option Entries :=
  match e.lookup k with
  | none => some (set e k (.tables [[]]))
  | some (.tables l) => some (set e k (.tables (l ++ [[]])))
  | some _ => none

end Entries

end MetricRelay.Toml

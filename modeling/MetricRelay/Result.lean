namespace MetricRelay

inductive Panic
  | capacityOverflow
  | multiplyOverflow
  | zeroChunkSize
  deriving DecidableEq, Repr

def Panic.message : Panic → String
  | capacityOverflow => "capacity overflow"
  | multiplyOverflow => "attempt to multiply with overflow"
  | zeroChunkSize => "chunk size must be non-zero"

/-- The most bytes that can be made room for in memory at once. -/
def memoryLimit : Nat := Nat.pow 2 63 - 1

inductive Result (ε α : Type)
  | ok (a : α)
  | error (e : ε)
  | panicked (p : Panic)
  deriving DecidableEq, Repr

namespace Result

variable {ε α β : Type}

def map (f : α → β) : Result ε α → Result ε β
  | ok a => ok (f a)
  | error e => error e
  | panicked p => panicked p

def toOption : Result ε α → Option α
  | ok a => some a
  | _ => none

def panic? : Result ε α → Option Panic
  | panicked p => some p
  | _ => none

def isOk (r : Result ε α) : Bool := r.toOption.isSome

def ofExcept : Except ε α → Result ε α
  | .ok a => ok a
  | .error e => error e

theorem eq_ok_of_toOption {r : Result ε α} {a : α} (h : r.toOption = some a) : r = ok a := by
  cases r with
  | ok b => exact congrArg _ (Option.some.inj h)
  | error e => cases h
  | panicked p => cases h

end Result

end MetricRelay

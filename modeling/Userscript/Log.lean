import Userscript.Text.Basic

/-!
Records of what happened. A computation that reports as it goes is a value together with its records,
in the order in which they were made.
-/

namespace Userscript

namespace Log

inductive Level where
  | error
  | warn
  | info
  | debug
  deriving DecidableEq, Repr

def Level.name : Level → Text
  | error => "ERROR".toList
  | warn => "WARN".toList
  | info => "INFO".toList
  | debug => "DEBUG".toList

structure Record where
  level : Level
  message : Text
  deriving DecidableEq, Repr

end Log

/-- A value and the records made on the way to it. -/
structure Logged (α : Type) where
  value : α
  records : List Log.Record
  deriving DecidableEq, Repr

namespace Logged

def silent {α : Type} (a : α) : Logged α := ⟨a, []⟩

/-- Goes on with a value; the records of both parts follow each other. -/
def andThen {α β : Type} (x : Logged α) (f : α → Logged β) : Logged β :=
  let y := f x.value
  ⟨y.value, x.records ++ y.records⟩

instance : Monad Logged where
  pure := silent
  bind := andThen

def record (level : Log.Level) (message : Text) : Logged Unit := ⟨(), [⟨level, message⟩]⟩

section Laws

variable {α β : Type}

@[simp] theorem value_pure (a : α) : (pure a : Logged α).value = a := rfl

@[simp] theorem records_pure (a : α) : (pure a : Logged α).records = [] := rfl

@[simp] theorem value_bind (x : Logged α) (f : α → Logged β) :
    (x >>= f).value = (f x.value).value := rfl

@[simp] theorem records_bind (x : Logged α) (f : α → Logged β) :
    (x >>= f).records = x.records ++ (f x.value).records := rfl

@[simp] theorem records_record (level : Log.Level) (message : Text) :
    (record level message).records = [⟨level, message⟩] := rfl

end Laws

end Logged

end Userscript

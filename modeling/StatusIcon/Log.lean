/-
# StatusIcon.Log -- results with the lines noted on the way

What the library has to say while it works is part of its results: a `Logged` value carries the
lines, first one first.  Whoever runs the work decides what becomes of them.  Levels are listed from
the most urgent one down.
-/

set_option autoImplicit false

namespace StatusIcon

inductive Level where
  | error
  | warn
  | info
  | debug
  | trace
  deriving DecidableEq, Repr

def Level.name : Level → String
  | .error => "ERROR"
  | .warn => "WARN"
  | .info => "INFO"
  | .debug => "DEBUG"
  | .trace => "TRACE"

/-- Lines of this level are for everyone; the others are for whoever looks for a fault. -/
def Level.isLoud : Level → Bool
  | .error | .warn | .info => true
  | .debug | .trace => false

structure LogLine where
  level : Level
  text : String
  deriving DecidableEq, Repr

/-- A value and the lines noted before it was there. -/
structure Logged (α : Type) where
  lines : List LogLine
  value : α

namespace Logged

variable {α β : Type}

instance : Monad Logged where
  pure a := ⟨[], a⟩
  bind a f :=
    let b := f a.value
    ⟨a.lines ++ b.lines, b.value⟩

/-- Notes one line. -/
def note (level : Level) (text : String) : Logged Unit := ⟨[⟨level, text⟩], ()⟩

@[simp] theorem lines_pure (a : α) : (pure a : Logged α).lines = [] := rfl

@[simp] theorem value_pure (a : α) : (pure a : Logged α).value = a := rfl

@[simp] theorem lines_bind (a : Logged α) (f : α → Logged β) :
    (a >>= f).lines = a.lines ++ (f a.value).lines := rfl

@[simp] theorem value_bind (a : Logged α) (f : α → Logged β) :
    (a >>= f).value = (f a.value).value := rfl

@[simp] theorem lines_note (level : Level) (text : String) :
    (note level text).lines = [⟨level, text⟩] := rfl

end Logged

end StatusIcon

import ClassLift.Failure

/-!
# Traced computations

A conversion reports what it does as it goes. A traced computation carries the
records of its run in order, also of a run that failed, and the outcome does
not depend on them.
-/

namespace ClassLift

inductive LogLevel where
  | debug
  | info
  | warning
deriving DecidableEq

def LogLevel.name : LogLevel → String
  | .debug => "DEBUG"
  | .info => "INFO"
  | .warning => "WARNING"

/-- The part of a conversion that a record comes from. -/
inductive LogSource where
  | namespaces
  | classShell
  | memberTable
  | staticMembers
  | instanceMembers
  | conversion
  | program
deriving DecidableEq

def LogSource.name : LogSource → String
  | .namespaces => "classmorph.generator.namespace"
  | .classShell => "classmorph.generator.class_shell"
  | .memberTable => "classmorph.generator.classifier"
  | .staticMembers => "classmorph.generator.static_members"
  | .instanceMembers => "classmorph.generator.instance_members"
  | .conversion => "classmorph.generator.program"
  | .program => "classmorph.locator"

structure LogRecord where
  level : LogLevel
  source : LogSource
  message : String
deriving DecidableEq

/-- The records of a run and how it ended. -/
structure Traced (α : Type) where
  log : List LogRecord
  outcome : Except Failure α

namespace Traced

variable {α β : Type}

def ofExcept (outcome : Except Failure α) : Traced α :=
  ⟨[], outcome⟩

def record (level : LogLevel) (source : LogSource) (message : String) : Traced Unit :=
  ⟨[⟨level, source, message⟩], .ok ()⟩

/-- Runs the second computation after the first, if that succeeds. -/
def andThen (first : Traced α) (second : α → Traced β) : Traced β :=
  match first.outcome with
  | .ok value =>
      let rest := second value
      ⟨first.log ++ rest.log, rest.outcome⟩
  | .error failure => ⟨first.log, .error failure⟩

instance : Monad Traced where
  pure value := ⟨[], .ok value⟩
  bind := andThen

instance : MonadLift (Except Failure) Traced where
  monadLift := ofExcept

@[simp]
theorem outcome_pure (value : α) : (pure value : Traced α).outcome = .ok value :=
  rfl

@[simp]
theorem log_pure (value : α) : (pure value : Traced α).log = [] :=
  rfl

@[simp]
theorem outcome_ofExcept (outcome : Except Failure α) : (ofExcept outcome).outcome = outcome :=
  rfl

@[simp]
theorem outcome_liftM (outcome : Except Failure α) : (liftM outcome : Traced α).outcome = outcome :=
  rfl

@[simp]
theorem outcome_record (level : LogLevel) (source : LogSource) (message : String) :
    (record level source message).outcome = .ok () :=
  rfl

/-- The outcome of a sequence is the sequence of the outcomes. -/
@[simp]
theorem outcome_bind (first : Traced α) (second : α → Traced β) :
    (first >>= second).outcome = first.outcome >>= fun value => (second value).outcome := by
  cases first with
  | mk log outcome => cases outcome <;> rfl

end Traced

end ClassLift

import SyntaxGraph.Disk.Lookup
import SyntaxGraph.Message

/-!
# Actions

An action reads and changes the disk, leaves messages, and ends with a value or a failure.  A failure
keeps the actions after it from happening; what was done and said before it stays.

## What is here

* `Action` — actions, as a monad.
* `Action.say`, `Action.fail`, `Action.look` — the actions that only speak, only fail, only look.
* `Action.attempt` — an action whose failure is its value.
-/

set_option autoImplicit false
namespace SyntaxGraph

/-- What an action comes to. -/
structure Outcome (α : Type) where
  /-- The value, or why there is none. -/
  result : Except Failure α
  /-- The disk as it is left. -/
  disk : Disk
  /-- The messages, in order. -/
  log : List Message

/-- Something done on a disk. -/
def Action (α : Type) : Type :=
  Disk → Outcome α

namespace Action

variable {α β : Type}

/-- Does nothing. -/
def done (a : α) : Action α := fun d =>
  ⟨.ok a, d, []⟩

/-- Does one thing after the other, unless the first fails. -/
def andThen (a : Action α) (f : α → Action β) : Action β := fun d =>
  match a d with
  | ⟨.error e, d, log⟩ => ⟨.error e, d, log⟩
  | ⟨.ok x, d, log⟩ => ⟨(f x d).result, (f x d).disk, log ++ (f x d).log⟩

instance : Monad Action where
  pure := done
  bind := andThen

/-- Leaves a message. -/
def say (m : Message) : Action Unit := fun d =>
  ⟨.ok (), d, [m]⟩

/-- Fails. -/
def fail (f : Failure) : Action α := fun d =>
  ⟨.error f, d, []⟩

/-- Looks at the disk. -/
def look (f : Disk → α) : Action α := fun d =>
  ⟨.ok (f d), d, []⟩

/-- An action that always ends with a value: the result of the given one. -/
def attempt (a : Action α) : Action (Except Failure α) := fun d =>
  ⟨.ok (a d).result, (a d).disk, (a d).log⟩

/-- Changes the disk, or fails with what the change says.  A failed change may have been made in
part. -/
def change (f : Disk → Except Failure α × Disk) : Action α := fun d =>
  ⟨(f d).1, (f d).2, []⟩

@[simp] theorem pure_apply (a : α) (d : Disk) : (pure a : Action α) d = ⟨.ok a, d, []⟩ := rfl

theorem bind_apply (a : Action α) (f : α → Action β) (d : Disk) :
    (a >>= f) d =
      match a d with
      | ⟨.error e, d, log⟩ => ⟨.error e, d, log⟩
      | ⟨.ok x, d, log⟩ => ⟨(f x d).result, (f x d).disk, log ++ (f x d).log⟩ := rfl

@[simp] theorem say_apply (m : Message) (d : Disk) : say m d = ⟨.ok (), d, [m]⟩ := rfl

@[simp] theorem fail_apply (f : Failure) (d : Disk) :
    (fail f : Action α) d = ⟨.error f, d, []⟩ := rfl

@[simp] theorem look_apply (f : Disk → α) (d : Disk) : look f d = ⟨.ok (f d), d, []⟩ := rfl

end Action
end SyntaxGraph

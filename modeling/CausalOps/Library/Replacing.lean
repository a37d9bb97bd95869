import Mathlib.Logic.Basic
import Mathlib.Tactic.Cases

set_option autoImplicit false

/-! A file that is replaced in one step: its content is written to a temporary file beside it,
which is then renamed over it. Every operation may raise, and nothing need follow it. -/

namespace Replacing

section Replacement

variable {ν κ ε : Type} [DecidableEq ν]

abbrev Files (ν κ : Type) := ν → Option κ

def Files.put (files : Files ν κ) (name : ν) (content : κ) : Files ν κ :=
  fun other => if other = name then some content else files other

def Files.remove (files : Files ν κ) (name : ν) : Files ν κ :=
  fun other => if other = name then none else files other

structure Job (ν κ : Type) where
  temporary : ν
  target : ν
  content : κ

inductive Phase (ε : Type) where
  | writing
  | placing
  | unlinking (e : ε)
  | replaced
  | raised (e : ε)

/-- An operation that raises, with what it has written of a new file by then. -/
structure Fault (κ ε : Type) where
  error : ε
  written : Option κ

/-- The next operation. A rename without the temporary file raises `missing`. -/
def Job.act (job : Job ν κ) (missing : ε) (files : Files ν κ) :
    Phase ε → Option (Fault κ ε) → Phase ε × Files ν κ
  | .writing, none => (.placing, files.put job.temporary job.content)
  | .writing, some fault =>
      (.unlinking fault.error, match fault.written with
        | none => files
        | some part => files.put job.temporary part)
  | .placing, none =>
      match files job.temporary with
      | none => (.unlinking missing, files)
      | some content => (.replaced, (files.remove job.temporary).put job.target content)
  | .placing, some fault => (.unlinking fault.error, files)
  | .unlinking e, none => (.raised e, files.remove job.temporary)
  | .unlinking _, some fault => (.raised fault.error, files)
  | .replaced, _ => (.replaced, files)
  | .raised e, _ => (.raised e, files)

/-- Where a replacement is, when the target was as `before` at its start. -/
def Job.Stands (job : Job ν κ) (before : Option κ) (files : Files ν κ) : Phase ε → Prop
  | .placing => files job.target = before ∧ files job.temporary = some job.content
  | .replaced => files job.target = some job.content
  | .writing | .unlinking _ | .raised _ => files job.target = before

/-- The error that a replacement is about to raise, or has raised. -/
def Phase.Errs {ε : Type} (condition : ε → Prop) : Phase ε → Prop
  | .unlinking e | .raised e => condition e
  | .writing | .placing | .replaced => True

end Replacement

section Files

variable {ν κ : Type} [DecidableEq ν] {files : Files ν κ} {name other : ν} {content : κ}

@[simp] theorem put_self : files.put name content name = some content := if_pos rfl

theorem put_of_ne (h : other ≠ name) : files.put name content other = files other := if_neg h

theorem remove_of_ne (h : other ≠ name) : files.remove name other = files other := if_neg h

end Files

section Acts

variable {ν κ ε : Type} [DecidableEq ν] {job : Job ν κ} {missing : ε} {files : Files ν κ}
  {before : Option κ} {phase : Phase ε}

/-- The target holds what it held before, until it holds the whole new content. -/
theorem Job.Stands.act (hne : job.target ≠ job.temporary) (h : job.Stands before files phase)
    (fault : Option (Fault κ ε)) :
    job.Stands before (job.act missing files phase fault).2
      (job.act missing files phase fault).1 := by
  cases phase with
  | writing =>
      have hkept : files job.target = before := h
      cases fault with
      | none =>
          have hput : files.put job.temporary job.content job.target = before := by
            rw [put_of_ne hne, hkept]
          exact ⟨hput, put_self⟩
      | some fault =>
          obtain ⟨error, written⟩ := fault
          cases written with
          | none => exact h
          | some part =>
              have hput : files.put job.temporary part job.target = before := by
                rw [put_of_ne hne, hkept]
              exact hput
  | placing =>
      obtain ⟨htarget, htemporary⟩ := h
      cases fault with
      | none =>
          simp only [Job.act, htemporary]
          exact put_self
      | some fault => exact htarget
  | unlinking e =>
      cases fault with
      | none =>
          have hkept : files job.target = before := h
          have hremoved : files.remove job.temporary job.target = before := by
            rw [remove_of_ne hne, hkept]
          exact hremoved
      | some fault => exact h
  | replaced => exact h
  | raised e => exact h

theorem Job.act_other {name : ν} (htarget : name ≠ job.target)
    (htemporary : name ≠ job.temporary) (fault : Option (Fault κ ε)) :
    (job.act missing files phase fault).2 name = files name := by
  cases phase with
  | writing =>
      cases fault with
      | none => exact put_of_ne htemporary
      | some fault =>
          obtain ⟨error, written⟩ := fault
          cases written with
          | none => rfl
          | some part => exact put_of_ne htemporary
  | placing =>
      cases fault with
      | none =>
          simp only [Job.act]
          cases files job.temporary with
          | none => rfl
          | some content => exact (put_of_ne htarget).trans (remove_of_ne htemporary)
      | some fault => rfl
  | unlinking e =>
      cases fault with
      | none => exact remove_of_ne htemporary
      | some fault => rfl
  | replaced => rfl
  | raised e => rfl

theorem Phase.Errs.act {condition : ε → Prop} (h : phase.Errs condition)
    (hmissing : condition missing) {fault : Option (Fault κ ε)}
    (hfault : ∀ f ∈ fault, condition f.error) :
    (job.act missing files phase fault).1.Errs condition := by
  cases phase with
  | writing =>
      cases fault with
      | none => trivial
      | some f => exact hfault f rfl
  | placing =>
      cases fault with
      | none =>
          simp only [Job.act]
          cases files job.temporary with
          | none => exact hmissing
          | some content => trivial
      | some f => exact hfault f rfl
  | unlinking e =>
      cases fault with
      | none => exact h
      | some f => exact hfault f rfl
  | replaced => trivial
  | raised e => exact h

end Acts

end Replacing

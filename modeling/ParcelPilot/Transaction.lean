import ParcelPilot.Raising
import ParcelPilot.Script

namespace ParcelPilot

-- A database file behind one connection: what a later connection reads of it,
-- and what the open transaction has made of that. An exception closes the
-- connection and the open transaction is lost.
structure Disk (σ : Type) where
  file : Option σ
  pending : Option σ := none

-- What the connection itself sees.
def Disk.contents (disk : Disk σ) : Option σ := disk.pending <|> disk.file

-- The tables as a schema creates them, and what one INSERT makes of a database.
structure Engine (σ ρ ε : Type) where
  fresh : σ
  add : ρ → σ → Except ε σ
  tableExists : ε
  noSuchTable : ε

inductive DiskOp (ρ : Type) where
  | exists_
  | unlink
  | executescript
  | insert (row : ρ)
  | commit

def DiskOp.Answer (ε : Type) : DiskOp ρ → Type
  | .exists_ => Bool
  | .unlink => Unit
  | .executescript => Except ε Unit
  | .insert _ => Except ε Unit
  | .commit => Unit

namespace Engine

variable {σ ρ ε : Type} (engine : Engine σ ρ ε)

-- A script commits what is open and runs outside a transaction; the first INSERT
-- opens one. A refused INSERT leaves the transaction as it was.
def step : (op : DiskOp ρ) → Disk σ → op.Answer ε × Disk σ
  | .exists_,disk => (disk.file.isSome,disk)
  | .unlink,_ => ((),⟨none,none⟩)
  | .executescript,disk =>
      match disk.contents with
      | some seen => (.error engine.tableExists,⟨some seen,none⟩)
      | none => (.ok (),⟨some engine.fresh,none⟩)
  | .insert row,disk =>
      match disk.contents with
      | none => (.error engine.noSuchTable,disk)
      | some seen =>
          match engine.add row seen with
          | .error error => (.error error,disk)
          | .ok after => (.ok (),{disk with pending := some after})
  | .commit,disk => ((),⟨disk.contents,none⟩)

-- The rows one after the other; the first that is refused ends it.
def addAll (rows : List ρ) (seen : σ) : Except ε σ :=
  rows.foldlM (fun seen row => engine.add row seen) seen

theorem addAll_cons (row : ρ) (rows : List ρ) (seen : σ) :
    engine.addAll (row :: rows) seen = (engine.add row seen).bind (engine.addAll rows) := rfl

theorem addAll_appends (view : σ → List τ) (part : ρ → List τ) {rows : List ρ} {seen after : σ}
    (each : ∀ row seen after, engine.add row seen = .ok after → view after = view seen ++ part row)
    (added : engine.addAll rows seen = .ok after) : view after = view seen ++ rows.flatMap part := by
  induction rows generalizing seen with
  | nil =>
      cases added
      simp
  | cons row rows ih =>
      rw [addAll_cons] at added
      cases first : engine.add row seen with
      | error error =>
          rw [first] at added
          cases added
      | ok middle =>
          rw [first] at added
          rw [ih added,each row seen middle first,List.flatMap_cons,List.append_assoc]

end Engine

theorem foldlM_keeps {α β ε : Type} {step : β → α → Except ε β} {items : List α} {inv : β → Prop}
    {first last : β}
    (initial : inv first)
    (kept : ∀ item ∈ items, ∀ seen after, inv seen → step seen item = .ok after → inv after)
    (ran : items.foldlM step first = .ok last) : inv last := by
  induction items generalizing first with
  | nil =>
      cases ran
      exact initial
  | cons item items ih =>
      rw [List.foldlM_cons] at ran
      obtain ⟨middle,began,ran⟩ := except_bind_ok.mp ran
      apply ih (kept item List.mem_cons_self first middle initial began) _ ran
      exact fun other member => kept other (List.mem_cons_of_mem item member)

theorem Engine.addAll_keeps {σ ρ ε : Type} {engine : Engine σ ρ ε} {inv : σ → Prop} {rows : List ρ}
    {seen after : σ} (initial : inv seen)
    (kept : ∀ row seen after, inv seen → engine.add row seen = .ok after → inv after)
    (added : engine.addAll rows seen = .ok after) : inv after :=
  foldlM_keeps initial (fun row _ => kept row) added

abbrev DiskScript (ε ρ α : Type) := Fallible ε (DiskOp ρ) (DiskOp.Answer ε) α

namespace DiskScript

variable {σ ρ ε : Type}

-- A step whose result is known already
def orFail (result : Except ε α) : DiskScript ε ρ α := ExceptT.mk (.ret result)

def present : DiskScript ε ρ Bool := Fallible.ask (DiskOp.exists_ : DiskOp ρ)

def unlink : DiskScript ε ρ Unit := Fallible.ask (DiskOp.unlink : DiskOp ρ)

def commit : DiskScript ε ρ Unit := Fallible.ask (DiskOp.commit : DiskOp ρ)

-- Operations that may fail: the answer is the outcome.
def executescript : DiskScript ε ρ Unit := ExceptT.mk (.exec .executescript .ret)

def insert (row : ρ) : DiskScript ε ρ Unit := ExceptT.mk (.exec (.insert row) .ret)

def insertAll : List ρ → DiskScript ε ρ Unit
  | [] => pure ()
  | row :: rows => do
      insert row
      insertAll rows

variable {engine : Engine σ ρ ε}

@[simp] theorem perform_orFail (result : Except ε α) (disk : Disk σ) :
    Fallible.perform engine.step (orFail result : DiskScript ε ρ α) disk = (result,disk) := rfl

@[simp] theorem perform_commit (disk : Disk σ) :
    Fallible.perform engine.step commit disk = (.ok (),⟨disk.contents,none⟩) := rfl

theorem insert_refused {disk : Disk σ} {seen : σ} {row : ρ} (open_ : disk.contents = some seen)
    (refused : engine.add row seen = .error error) :
    Fallible.perform engine.step (insert row) disk = (.error error,disk) := by
  have answer : engine.step (.insert row) disk = (.error error,disk) := by
    simp only [Engine.step,open_,refused]
  exact answer

theorem insert_added {disk : Disk σ} {seen after : σ} {row : ρ} (open_ : disk.contents = some seen)
    (added : engine.add row seen = .ok after) :
    Fallible.perform engine.step (insert row) disk = (.ok (),{disk with pending := some after}) := by
  have answer : engine.step (.insert row) disk = (.ok (),{disk with pending := some after}) := by
    simp only [Engine.step,open_,added]
  exact answer

-- Inserts change what the connection sees, and leave the file alone.
theorem insertAll_refused {rows : List ρ} {disk : Disk σ} {seen : σ} (open_ : disk.contents = some seen)
    (refused : engine.addAll rows seen = .error error) :
    ∃ pending, Fallible.perform engine.step (insertAll rows) disk = (.error error,⟨disk.file,pending⟩) := by
  induction rows generalizing disk seen with
  | nil => cases refused
  | cons row rows ih =>
      rw [Engine.addAll_cons] at refused
      unfold insertAll
      cases first : engine.add row seen with
      | error failure =>
          rw [first] at refused
          cases refused
          rw [Fallible.perform_bind,insert_refused open_ first]
          exact ⟨disk.pending,rfl⟩
      | ok after =>
          rw [first] at refused
          rw [Fallible.perform_bind,insert_added open_ first]
          exact ih rfl refused

theorem insertAll_added {rows : List ρ} {disk : Disk σ} {seen after : σ}
    (open_ : disk.contents = some seen) (added : engine.addAll rows seen = .ok after) :
    ∃ pending, Fallible.perform engine.step (insertAll rows) disk = (.ok (),⟨disk.file,pending⟩) ∧
      Disk.contents ⟨disk.file,pending⟩ = some after := by
  induction rows generalizing disk seen with
  | nil =>
      cases added
      exact ⟨disk.pending,rfl,open_⟩
  | cons row rows ih =>
      rw [Engine.addAll_cons] at added
      unfold insertAll
      cases first : engine.add row seen with
      | error failure =>
          rw [first] at added
          cases added
      | ok middle =>
          rw [first] at added
          rw [Fallible.perform_bind,insert_added open_ first]
          exact ih rfl added

end DiskScript

end ParcelPilot

import Scenarist.Files.Disk
import Scenarist.Files.Trouble

/-!
# Courses of File Operations

What a command does to the files of a tree may end in trouble. This module inverts the courses
that **succeed** (`Disk.Succeeds`): a sequence succeeds exactly when its parts succeed one after
another, a list of courses exactly when each of them does, in order, and a change that is
reported under a headline exactly when the tree allows it.

## Main results

* `Disk.succeeds_bind_iff`, `Disk.succeeds_mapM_cons_iff`: inversion of sequences.
* `Disk.succeeds_changing_iff`: inversion of a change of the tree.
-/

namespace Scenarist.Disk

variable {α β : Type} {t u : FileTree}

/-- The course, begun with the tree `t`, **succeeds**: it gives a value and leaves the tree
`u`. -/
def Succeeds (x : ExceptT Trouble (StateM FileTree) α) (t : FileTree) (a : α) (u : FileTree) :
    Prop :=
  x.run.run t = (.ok a, u)

theorem succeeds_pure_iff {a b : α} : Succeeds (pure a) t b u ↔ b = a ∧ u = t := by
  change (Except.ok a, t) = (Except.ok b, u) ↔ _
  simp only [Prod.mk.injEq, Except.ok.injEq, eq_comm]

/-- A course that begins with an operation on the tree goes on from what it leaves. -/
theorem run_step_bind {x : StateM FileTree α} {a : α} (h : x t = (a, u))
    (f : α → ExceptT Trouble (StateM FileTree) β) :
    (liftM x >>= f).run.run t = (f a).run.run u := by
  have hstep :
      (ExceptT.run (liftM x : ExceptT Trouble (StateM FileTree) α)).run t = (.ok a, u) := by
    change (Except.ok (x t).1, (x t).2) = _
    rw [h]
  rw [ExceptT.run_bind, StateT.run_bind, hstep]
  rfl

/-- An operation on the tree gives what it gives, and leaves the tree it leaves. -/
theorem succeeds_step_iff {x : StateM FileTree α} {a : α} :
    Succeeds (liftM x) t a u ↔ x t = (a, u) := by
  change ((Except.ok (x t).1 : Except Trouble α), (x t).2) = (.ok a, u) ↔ _
  rw [Prod.mk.injEq, Except.ok.injEq, Prod.ext_iff]

/-- A result that is there succeeds without touching the tree. -/
theorem succeeds_result_iff {r : Except Trouble α} {a : α} :
    Succeeds (liftM r) t a u ↔ r = .ok a ∧ u = t := by
  change (r, t) = (.ok a, u) ↔ _
  rw [Prod.mk.injEq, eq_comm (a := t)]

/-- **Inversion of a sequence**: it succeeds exactly when its first part does, and the second
part does from there. -/
theorem succeeds_bind_iff {x : ExceptT Trouble (StateM FileTree) α}
    {f : α → ExceptT Trouble (StateM FileTree) β} {b : β} :
    Succeeds (x >>= f) t b u ↔ ∃ a v, Succeeds x t a v ∧ Succeeds (f a) v b u := by
  simp only [Succeeds]
  rw [ExceptT.run_bind, StateT.run_bind]
  rcases h : x.run.run t with ⟨_ | a, v⟩
  · constructor
    · intro h'
      cases h'
    · rintro ⟨_, _, ha, -⟩
      cases ha
  · constructor
    · exact fun h' => ⟨a, v, rfl, h'⟩
    · rintro ⟨_, _, ha, h'⟩
      cases ha
      exact h'

/-- **Inversion of a list of courses**: the first succeeds, and the others from there. -/
theorem succeeds_mapM_cons_iff {f : α → ExceptT Trouble (StateM FileTree) β} {a : α}
    {rest : List α} {bs : List β} :
    Succeeds ((a :: rest).mapM f) t bs u ↔
      ∃ b v bs', Succeeds (f a) t b v ∧ Succeeds (rest.mapM f) v bs' u ∧ bs = b :: bs' := by
  rw [List.mapM_cons]
  constructor
  · intro h
    obtain ⟨b, v, hb, h⟩ := succeeds_bind_iff.1 h
    obtain ⟨bs', w, hrest, h⟩ := succeeds_bind_iff.1 h
    obtain ⟨rfl, rfl⟩ := succeeds_pure_iff.1 h
    exact ⟨b, v, bs', hb, hrest, rfl⟩
  · rintro ⟨b, v, bs', hb, hrest, rfl⟩
    exact succeeds_bind_iff.2 ⟨b, v, hb, succeeds_bind_iff.2
      ⟨bs', u, hrest, succeeds_pure_iff.2 ⟨rfl, rfl⟩⟩⟩

/-- A change gives a result only if the tree allows it. -/
theorem changing_eq_ok_iff {f : FileTree → Except FileError FileTree} :
    changing f t = (.ok (), u) ↔ f t = .ok u := by
  rw [changing]
  cases f t with
  | error e => exact iff_of_false nofun nofun
  | ok v => rw [Prod.mk.injEq, Except.ok.injEq, eq_self_iff_true, true_and, Except.ok.injEq]

/-- **Inversion of a change**: the tree allows it, and what follows succeeds with the changed
tree. -/
theorem succeeds_changing_iff {f : FileTree → Except FileError FileTree} {headline : String}
    {k : Unit → ExceptT Trouble (StateM FileTree) β} {b : β} :
    Succeeds (do
      let r ← (changing f : StateM FileTree (Except FileError Unit))
      let x ← Trouble.ofFile headline r
      k x) t b u ↔ ∃ v, f t = .ok v ∧ Succeeds (k ()) v b u := by
  simp only [succeeds_bind_iff]
  constructor
  · rintro ⟨r, v, hr, x, w, hx, hk⟩
    have hf : (Except.ok (changing f t).1, (changing f t).2) = (Except.ok r, v) := hr
    cases hft : f t with
    | error e =>
        simp only [changing, hft, Prod.mk.injEq, Except.ok.injEq] at hf
        obtain ⟨rfl, rfl⟩ := hf
        cases hx
    | ok v' =>
        simp only [changing, hft, Prod.mk.injEq, Except.ok.injEq] at hf
        obtain ⟨rfl, rfl⟩ := hf
        cases hx
        exact ⟨_, rfl, hk⟩
  · rintro ⟨v, hv, hk⟩
    refine ⟨.ok (), v, ?_, (), v, rfl, hk⟩
    change (Except.ok (changing f t).1, (changing f t).2) = _
    simp only [changing, hv]

end Scenarist.Disk

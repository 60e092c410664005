import BlobVault.Proofs.Operation

/-! Histories of operations that draw from one random source. A turn begins where the turns before it have
left the source, so the draws of different encryptions never overlap. -/
namespace BlobVault

/-- An operation that draws from the shared source, with the replies that servers give to it. -/
structure Turn where
  operation : Operation
  replies : List Reply

def Turn.step (t : Turn) : Step Outcome := ⟨t.operation.run, t.replies, none⟩

/-- A turn takes from the shared source as many draws as it counts. -/
theorem Turn.draws_after (t : Turn) (w : Workspace) :
    (t.step.after w (t.step.run w).2).draws = w.draws.drop (t.step.run w).2.drawSizes.length := by
  have account := t.operation.accounts (t.step.world w)
  change (t.step.run w).2.draws = _
  cases found : t.operation.plaintext? (t.step.world w).files with
  | none =>
    obtain ⟨draws, sizes⟩ := account.idle found
    have none : (t.step.run w).2.drawSizes = [] := sizes
    rw [none]
    exact draws
  | some plaintext =>
    have sealed := account.seals plaintext found
    have two : (t.step.run w).2.drawSizes = [keySize, nonceSize] := sealed.sizes
    rw [two]
    exact sealed.draws

namespace Workspace

def afterAll (w : Workspace) (steps : List (Step α)) : Workspace :=
  steps.foldl (fun w step => step.after w (step.run w).2) w

/-- Each step is run in the workspace that the steps before it leave. -/
theorem perform_getElem? (w : Workspace) (steps : List (Step α)) (i : Nat) :
    (w.perform steps)[i]? = steps[i]?.map fun step => step.run (w.afterAll (steps.take i)) := by
  induction steps generalizing w i with
  | nil => rfl
  | cons step rest ih =>
    cases i with
    | zero => rfl
    | succ i => exact ih (step.after w (step.run w).2) i

section Turns

variable (w : Workspace) (turns : List Turn)

def ran : List (Except Failure Outcome × World) := w.perform (turns.map Turn.step)

def before (i : Nat) : Workspace := w.afterAll ((turns.take i).map Turn.step)

/-- The position in the source at which a turn begins: as many draws were taken before. -/
def position (i : Nat) : Nat := (((w.ran turns).take i).flatMap fun turn => turn.2.drawSizes).length

def encrypted? (i : Nat) : Option Bytes :=
  turns[i]?.bind fun t => t.operation.plaintext? (w.before turns i).files

variable {turns} {i : Nat} {t : Turn}

theorem ran_getElem? (here : turns[i]? = some t) :
    (w.ran turns)[i]? = some (t.step.run (w.before turns i)) := by
  rw [ran, perform_getElem?, List.getElem?_map, here, ← List.map_take]
  rfl

theorem before_succ (here : turns[i]? = some t) :
    w.before turns (i + 1) = t.step.after (w.before turns i) (t.step.run (w.before turns i)).2 := by
  unfold before afterAll
  rw [List.take_add_one, here, Option.toList_some, List.map_append, List.foldl_append]
  rfl

theorem position_succ (here : turns[i]? = some t) :
    w.position turns (i + 1) =
      w.position turns i + (t.step.run (w.before turns i)).2.drawSizes.length := by
  unfold position
  rw [List.take_add_one, ran_getElem? w here, Option.toList_some, List.flatMap_append, List.length_append,
    List.flatMap_singleton]

theorem position_mono {j : Nat} (ordered : i ≤ j) : w.position turns i ≤ w.position turns j := by
  induction ordered with
  | refl => exact Nat.le_refl _
  | @step j _ ih =>
    refine ih.trans ?_
    unfold position
    rw [List.take_add_one, List.flatMap_append, List.length_append]
    exact Nat.le_add_right _ _

/-- The draws that are left when a turn begins are those from its position on. -/
theorem draws_before (reached : i ≤ turns.length) :
    (w.before turns i).draws = w.draws.drop (w.position turns i) := by
  induction i with
  | zero => rfl
  | succ i ih =>
    have here : turns[i]? = some turns[i] := List.getElem?_eq_getElem reached
    rw [before_succ w here, Turn.draws_after, ih (Nat.le_of_succ_le reached), List.drop_drop,
      position_succ w here]

theorem position_encrypted {plaintext : Bytes} (found : w.encrypted? turns i = some plaintext) :
    w.position turns (i + 1) = w.position turns i + 2 := by
  obtain ⟨t, here, content⟩ := Option.bind_eq_some_iff.mp found
  have sealed := (t.operation.accounts (t.step.world (w.before turns i))).seals plaintext content
  have two : (t.step.run (w.before turns i)).2.drawSizes = [keySize, nonceSize] := sealed.sizes
  rw [position_succ w here, two]
  rfl

/-- The draws of different encryptions have no position in common. -/
theorem position_disjoint {i j : Nat} {first second : Bytes} (one : w.encrypted? turns i = some first)
    (other : w.encrypted? turns j = some second) (different : i ≠ j) :
    List.Disjoint [w.position turns i, w.position turns i + 1]
      [w.position turns j, w.position turns j + 1] := by
  -- An encryption moves the position on by two, and no turn moves it back.
  have apart {i j : Nat} {plaintext : Bytes} (found : w.encrypted? turns i = some plaintext)
      (earlier : i < j) : w.position turns i + 2 ≤ w.position turns j :=
    position_encrypted w found ▸ position_mono w earlier
  have spread : w.position turns i + 2 ≤ w.position turns j ∨ w.position turns j + 2 ≤ w.position turns i :=
    (Nat.lt_or_gt_of_ne different).imp (apart one) (apart other)
  intro k inFirst inSecond
  simp only [List.mem_cons, List.not_mem_nil, or_false] at inFirst inSecond
  omega

end Turns

/-- Key material is never used twice. Every turn begins at its position in the source and takes from there the
two draws of its encryption or none at all, and its uploads are one body. The pairs of draws of different
encryptions have no position in common, so different plaintexts are encrypted under different pairs. -/
theorem turns_draw_afresh (w : Workspace) (turns : List Turn) :
    (∀ i t, turns[i]? = some t → ∃ result left,
      (w.ran turns)[i]? = some (result, left) ∧
      (w.before turns i).draws = w.draws.drop (w.position turns i) ∧
      t.operation.Accounts (t.step.world (w.before turns i)) result left) ∧
    ∀ i j first second, w.encrypted? turns i = some first → w.encrypted? turns j = some second →
      (i ≠ j → List.Disjoint [w.position turns i, w.position turns i + 1]
        [w.position turns j, w.position turns j + 1]) ∧
      (w.position turns i = w.position turns j → first = second) := by
  constructor
  · intro i t here
    obtain ⟨reached, -⟩ := List.getElem?_eq_some_iff.mp here
    exact ⟨_, _, ran_getElem? w here, draws_before w reached.le, t.operation.accounts _⟩
  · intro i j first second one other
    refine ⟨position_disjoint w one other, fun same => ?_⟩
    by_cases turn : i = j
    · subst turn
      exact Option.some.inj (one.symm.trans other)
    · have shared := position_disjoint w one other turn List.mem_cons_self
      exact absurd (same ▸ List.mem_cons_self) shared

/-- Two encryptions with another operation between them. -/
theorem turns_draw_afresh_twice :
    let w : Workspace := ⟨⟨[], []⟩,
      [some (List.replicate 32 0), some (List.replicate 12 0), none, some (List.replicate 12 1)]⟩
    let turns : List Turn :=
      [⟨.encrypt none [1], []⟩, ⟨.reportBanner, []⟩, ⟨.encrypt none [2], []⟩]
    w.encrypted? turns 0 = some [1] ∧ w.encrypted? turns 1 = none ∧ w.encrypted? turns 2 = some [2] ∧
      List.Disjoint [w.position turns 0, w.position turns 0 + 1]
        [w.position turns 2, w.position turns 2 + 1] := by
  intro w turns
  obtain ⟨-, apart⟩ := turns_draw_afresh w turns
  exact ⟨rfl, rfl, rfl, (apart 0 2 [1] [2] rfl rfl).1 (by decide)⟩

end Workspace
end BlobVault

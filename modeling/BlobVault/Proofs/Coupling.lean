import BlobVault.Proofs.Action
import Mathlib.Data.List.Forall2

/-! Two runs side by side. From worlds that look alike, coupled actions lead to worlds that look alike, with
related values or by the same failure. Draws do not show, and of a payload only its length does. -/
namespace BlobVault

structure Request.Matches (a b : Request) : Prop where
  parts : b = { a with payload := b.payload }
  sizes : a.payload.map List.length = b.payload.map List.length

theorem Request.Matches.refl (a : Request) : a.Matches a := ⟨rfl, rfl⟩

theorem Request.Matches.url {a b : Request} (matching : a.Matches b) : b.url = a.url := by
  have same := congrArg Request.url matching.parts
  exact same

theorem Request.matches_refl (requests : List Request) : List.Forall₂ Matches requests requests :=
  List.forall₂_same.mpr fun a _ => .refl a

def AnyDraws (_ _ : List Draw) : Prop := True

/-- Worlds that look alike. What is known of their draws is stated apart, since draws do not show. -/
structure World.Alike (known : List Draw → List Draw → Prop) (w v : World) : Prop where
  draws : known w.draws v.draws
  files : w.files = v.files
  drawSizes : w.drawSizes = v.drawSizes
  replies : w.replies = v.replies
  requests : List.Forall₂ Request.Matches w.requests v.requests
  output : w.output = v.output
  diagnostics : w.diagnostics = v.diagnostics

namespace World.Alike

variable {known : List Draw → List Draw → Prop} {w v : World}

theorem forget (alike : Alike known w v) : Alike AnyDraws w v := { alike with draws := trivial }

theorem tell (alike : Alike known w v) (shown : Text) : Alike known (w.tell shown) (v.tell shown) :=
  { alike with diagnostics := congrArg (· ++ shown) alike.diagnostics }

theorem drawn (alike : Alike known w v) (sizes : List Nat) : Alike AnyDraws (w.drawn sizes) (v.drawn sizes) :=
  { alike with draws := trivial, drawSizes := congrArg (· ++ sizes) alike.drawSizes }

theorem sent (alike : Alike known w v) {a b : Request} (matching : a.Matches b) :
    Alike known (w.sent [a]) (v.sent [b]) :=
  { alike with
    replies := congrArg (List.drop 1) alike.replies
    requests := List.rel_append alike.requests (.cons matching .nil) }

theorem nextReply (alike : Alike known w v) : w.nextReply = v.nextReply := by
  rw [World.nextReply, World.nextReply, alike.replies]

end World.Alike

namespace Action

/-- Both come to values that are related, or to the same failure. -/
inductive Agree (same : α → β → Prop) : Except Failure α → Except Failure β → Prop
  | ok {x : α} {y : β} : same x y → Agree same (.ok x) (.ok y)
  | error (cause : Failure) : Agree same (.error cause) (.error cause)

theorem Agree.refl (result : Except Failure α) : Agree Eq result result := by
  cases result with
  | error cause => exact .error cause
  | ok value => exact .ok rfl

/-- Actions whose runs look alike when their worlds do, whatever becomes of them. -/
def Couples (known later : List Draw → List Draw → Prop) (same : α → β → Prop) (a : Action α)
    (b : Action β) : Prop :=
  ∀ w v, World.Alike known w v →
    Agree same (a.run w).1 (b.run v).1 ∧ World.Alike later (a.run w).2 (b.run v).2

namespace Couples

variable {known later : List Draw → List Draw → Prop} {same : α → β → Prop}

/-- Coupled actions in a sequence are coupled. What is known of the draws in the middle has to hold in the end
too if the first part fails. -/
theorem bind_of {last : List Draw → List Draw → Prop} {related : γ → δ → Prop} {a : Action α} {b : Action β}
    {next : α → Action γ} {other : β → Action δ} (first : Couples known later same a b)
    (rest : ∀ x y, same x y → Couples later last related (next x) (other y))
    (kept : ∀ {w v}, World.Alike later w v → World.Alike last w v) :
    Couples known last related (a >>= next) (b >>= other) := by
  intro w v alike
  obtain ⟨agree, between⟩ := first w v alike
  rw [run_bind, run_bind]
  generalize a.run w = left at agree between
  generalize b.run v = right at agree between
  obtain ⟨result, w'⟩ := left
  obtain ⟨otherResult, v'⟩ := right
  cases agree with
  | ok values => exact rest _ _ values w' v' between
  | error cause => exact ⟨.error cause, kept between⟩

theorem bind {related : γ → δ → Prop} {a : Action α} {b : Action β} {next : α → Action γ}
    {other : β → Action δ} (first : Couples known later same a b)
    (rest : ∀ x y, same x y → Couples later AnyDraws related (next x) (other y)) :
    Couples known AnyDraws related (a >>= next) (b >>= other) :=
  bind_of first rest World.Alike.forget

theorem pure {x : α} {y : β} (values : same x y) :
    Couples known known same (pure x : Action α) (pure y : Action β) :=
  fun _ _ alike => ⟨.ok values, alike⟩

theorem throw (cause : Failure) :
    Couples known known same (throw cause : Action α) (throw cause : Action β) :=
  fun _ _ alike => ⟨.error cause, alike⟩

theorem ofExcept {x : Except Failure α} {y : Except Failure β} (agree : Agree same x y) :
    Couples known known same (ofExcept x) (ofExcept y) := by
  intro w v alike
  rw [run_ofExcept, run_ofExcept]
  exact ⟨agree, alike⟩

theorem report (message : Text) : Couples known known Eq (report message) (report message) := by
  intro w v alike
  rw [run_report, run_report]
  exact ⟨.ok rfl, alike.tell _⟩

theorem detail (verbosity : Verbosity) (message : Text) :
    Couples known known Eq (verbosity.detail message) (verbosity.detail message) := by
  intro w v alike
  rw [run_detail, run_detail]
  exact ⟨.ok rfl, alike.tell _⟩

theorem send {a b : Request} (matching : a.Matches b) : Couples known known Eq (send a) (send b) := by
  intro w v alike
  rw [run_send, run_send]
  exact ⟨.ok alike.nextReply, alike.sent matching⟩

end Couples
end Action
end BlobVault

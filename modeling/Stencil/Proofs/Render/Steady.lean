import Stencil.Proofs.Render.Concatenation

/-! Bindings without accessors that change: what an expression gives does not depend on what was expanded
before it, so the parts of a template can be rendered apart. -/

namespace Stencil

open Run Segment

section

variable {expand : Text → Run (Text × List Diagnostic)} {world : World}

def worldAfter (expand : Text → Run (Text × List Diagnostic)) (world : World) (earlier : List Text) :
    World :=
  earlier.foldl (fun world expression => ((expand expression).outcome world).2) world

/-- Each expression gives the same, or fails alike, whatever was expanded before it. -/
def Steady (expand : Text → Run (Text × List Diagnostic)) (world : World) : Prop :=
  ∀ earlier expression,
    ((expand expression).outcome (worldAfter expand world earlier)).1 =
      ((expand expression).outcome world).1

def Reached (expand : Text → Run (Text × List Diagnostic)) (world : World) :
    Throughout → World → World → Prop :=
  fun _ left right =>
    (∃ earlier, left = worldAfter expand world earlier) ∧
      ∃ earlier, right = worldAfter expand world earlier

theorem reached_self : Reached expand world .always world world :=
  ⟨⟨[], rfl⟩, [], rfl⟩

theorem renderAllWith_steady (steady : Steady expand world) (segments : List Segment) :
    Alike (Reached expand world) .always (renderAllWith expand segments)
      (renderAllWith expand segments) := by
  apply renderAllWith_alike
  rintro _ _ expression _ _ ⟨⟨earlier, rfl⟩, others, rfl⟩
  refine ⟨.always, le_refl _, ⟨⟨earlier ++ [expression], ?_⟩, others ++ [expression], ?_⟩, ?_⟩
  · simp [worldAfter]
  · simp [worldAfter]
  · rw [steady earlier expression, steady others expression]
    exact Corresponds.refl (fun _ => rfl) _

def textOf (expand : Text → Run (Text × List Diagnostic)) (world : World) (segments : List Segment) :
    Except Failure Text :=
  ((renderAllWith expand segments).outcome world).1.map Prod.fst

theorem textOf_append (steady : Steady expand world) (left right : List Segment) :
    textOf expand world (left ++ right) = (do
      let text ← textOf expand world left
      let others ← textOf expand world right
      return text ++ others) := by
  obtain ⟨_, _, reached, _⟩ := renderAllWith_steady steady left _ _ reached_self
  unfold textOf
  rw [renderAllWith_append, outcome_bind]
  generalize (renderAllWith expand left).outcome world = first at *
  obtain ⟨result, after⟩ := first
  cases result with
  | error failure => rfl
  | ok rendered =>
      obtain ⟨_, _, _, same⟩ := renderAllWith_steady steady right after world
        ⟨reached.1, reached_self.2⟩
      dsimp only
      rw [outcome_bind, ← same.eq]
      generalize (renderAllWith expand right).outcome after = second
      obtain ⟨result, last⟩ := second
      cases result <;> rfl

theorem textOf_literal (text : Text) : textOf expand world [.literal text] = .ok text := by
  simp [textOf, renderAllWith, renderWith, Except.map]

end

end Stencil

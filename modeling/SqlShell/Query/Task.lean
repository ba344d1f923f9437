import SqlShell.Database.Basic

namespace SqlShell

/-- Work that is done in stretches. Between two of them others go first, and may change the
world. -/
inductive Task (σ α : Type) where
  | done (outcome : α) (w : World σ)
  | paused (w : World σ) (resume : World σ → Task σ α)

namespace Task

def andThen (next : α → World σ → Task σ β) : Task σ α → Task σ β
  | done a w => next a w
  | paused w resume => paused w fun v => (resume v).andThen next

def map (f : α → β) : Task σ α → Task σ β := andThen fun a w => done (f a) w

/-- What comes of it if nobody does anything meanwhile. -/
def finish : Task σ α → α × World σ
  | done a w => (a, w)
  | paused w resume => (resume w).finish

/-- This may come of it, whatever others do meanwhile. -/
inductive Ends : Task σ α → α → World σ → Prop
  | done : Ends (.done a w) a w
  | paused (v : World σ) (h : Ends (resume v) a u) : Ends (.paused w resume) a u

theorem finish_andThen (t : Task σ α) (next : α → World σ → Task σ β) :
    (t.andThen next).finish = (next t.finish.1 t.finish.2).finish := by
  induction t with
  | done a w => rfl
  | paused w resume ih => exact ih w

theorem finish_map (t : Task σ α) (f : α → β) :
    (t.map f).finish = (f t.finish.1, t.finish.2) := finish_andThen t _

theorem ends_finish (t : Task σ α) : t.Ends t.finish.1 t.finish.2 := by
  induction t with
  | done a w => exact .done
  | paused w resume ih => exact .paused w (ih w)

theorem ends_andThen {t : Task σ α} {next : α → World σ → Task σ β} :
    (t.andThen next).Ends b u ↔ ∃ a w, t.Ends a w ∧ (next a w).Ends b u := by
  induction t with
  | done a w =>
    constructor
    · intro h
      exact ⟨a, w, .done, h⟩
    · rintro ⟨_, _, ⟨⟩, h⟩
      exact h
  | paused w resume ih =>
    constructor
    · rintro (_ | ⟨v, h⟩)
      obtain ⟨a, x, ha, hb⟩ := (ih v).mp h
      exact ⟨a, x, .paused v ha, hb⟩
    · rintro ⟨a, x, _ | ⟨v, ha⟩, hb⟩
      exact .paused v ((ih v).mpr ⟨a, x, ha, hb⟩)

theorem ends_map {t : Task σ α} {f : α → β} :
    (t.map f).Ends b u ↔ ∃ a, t.Ends a u ∧ f a = b := by
  rw [map, ends_andThen]
  constructor
  · rintro ⟨a, _, ha, ⟨⟩⟩
    exact ⟨a, ha, rfl⟩
  · rintro ⟨a, ha, rfl⟩
    exact ⟨a, u, ha, .done⟩

end Task

end SqlShell

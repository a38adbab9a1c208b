import DocSite.Project.ThemeFile

/-!
# How loading ends

  A computation that loads something writes a log on its way, but what it ends in
  never depends on what was logged before. `Ends` is that result, and it composes:
  one rule for each way of putting computations together.
-/

namespace DocSite

/-- Whatever was logged before, the computation ends in a result. -/
def Ends {α : Type} (action : Loading α) (result : Except Failure α) : Prop :=
  ∀ log, (action.run.run log).1 = result

section
variable {α β : Type}

theorem ends_pure (x : α) : Ends (pure x) (.ok x) := fun _ => rfl

theorem ends_throw (failure : Failure) : Ends (throw failure : Loading α) (.error failure) :=
  fun _ => rfl

theorem ends_logText (text : String) : Ends (logText text) (.ok ()) := fun _ => rfl

theorem ends_logDetail (verbose : Bool) (part message : String) :
    Ends (logDetail verbose part message) (.ok ()) := by
  cases verbose with
  | false => exact ends_pure ()
  | true => exact ends_logText _

theorem Ends.bind_ok {action : Loading α} {next : α → Loading β} {x : α} {r : Except Failure β}
    (h : Ends action (.ok x)) (hnext : Ends (next x) r) : Ends (action >>= next) r := by
  intro log
  obtain ⟨log', hrun⟩ : ∃ log', action.run.run log = (.ok x, log') := ⟨_, Prod.ext (h log) rfl⟩
  rw [ExceptT.run_bind, StateT.run_bind, hrun]
  exact hnext log'

theorem Ends.bind_error {action : Loading α} {next : α → Loading β} {failure : Failure}
    (h : Ends action (.error failure)) : Ends (action >>= next) (.error failure) := by
  intro log
  obtain ⟨log', hrun⟩ : ∃ log', action.run.run log = (.error failure, log') :=
    ⟨_, Prod.ext (h log) rfl⟩
  rw [ExceptT.run_bind, StateT.run_bind, hrun]
  rfl

/-- A context changes failures and nothing else. -/
theorem Ends.inContext {action : Loading α} {r : Except Failure α} (wrap : Failure → Failure)
    (h : Ends action r) : Ends (inContext wrap action) (r.mapError wrap) := by
  intro log
  obtain ⟨log', hrun⟩ : ∃ log', action.run.run log = (r, log') := ⟨_, Prod.ext (h log) rfl⟩
  rw [DocSite.inContext, ExceptT.run_tryCatch, StateT.run_bind, hrun]
  cases r with
  | ok x => rfl
  | error failure => rfl

end

theorem ends_refuseUnknown_nil (file : Path) (failure : Failure) :
    Ends (refuseUnknown file [] failure) (.ok ()) := ends_pure ()

theorem ends_refuseUnknown {keys : List String} (h : keys ≠ []) (file : Path) (failure : Failure) :
    Ends (refuseUnknown file keys failure) (.error failure) := by
  rw [refuseUnknown, if_neg (by simpa using h)]
  exact (ends_logText _).bind_ok (ends_throw failure)

end DocSite

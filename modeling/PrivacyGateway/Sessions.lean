/-!
Computations that change a state and may raise, and what each way of writing them does
to the state. An exception keeps the state as it is where it is raised, and `finally`
runs on either way out.
-/
namespace PrivacyGateway.Sessions

/-- The state stays as it is when an exception is raised. -/
abbrev Session (ε σ α : Type) := ExceptT ε (StateM σ) α

variable {ε σ α β : Type}

/-- Result or exception, and the state afterwards. -/
def Session.on (m : Session ε σ α) (s : σ) : Except ε α × σ := StateT.run (ExceptT.run m) s

@[simp] theorem pure_on (a : α) (s : σ) : Session.on (pure a : Session ε σ α) s = (.ok a,s) := rfl

@[simp] theorem throw_on (e : ε) (s : σ) : Session.on (throw e : Session ε σ α) s = (.error e,s) := rfl

@[simp] theorem get_on (s : σ) : Session.on (get : Session ε σ σ) s = (.ok s,s) := rfl

@[simp] theorem modify_on (f : σ → σ) (s : σ) : Session.on (modify f : Session ε σ PUnit) s = (.ok ⟨⟩,f s) := rfl

theorem bind_on (m : Session ε σ α) (k : α → Session ε σ β) (s : σ) :
    Session.on (m >>= k) s =
      match m.on s with
      | (.ok a,t) => (k a).on t
      | (.error e,t) => (.error e,t) := by
  show StateT.run (ExceptT.run m >>= ExceptT.bindCont k) s = _
  rw [StateT.run_bind]
  unfold Session.on
  rcases StateT.run (ExceptT.run m) s with ⟨_ | _,t⟩ <;> rfl

theorem tryCatch_on (m : Session ε σ α) (handle : ε → Session ε σ α) (s : σ) :
    Session.on (tryCatch m handle) s =
      match m.on s with
      | (.ok a,t) => (.ok a,t)
      | (.error e,t) => (handle e).on t := by
  simp only [Session.on,tryCatch,tryCatchThe,MonadExceptOf.tryCatch,ExceptT.tryCatch,ExceptT.run,ExceptT.mk,StateT.run,
    bind,StateT.bind]
  rcases m s with ⟨_ | _,t⟩ <;> rfl

theorem tryFinally_on (m : Session ε σ α) (finalizer : Session ε σ β) (s : σ) :
    Session.on (tryFinally m finalizer) s =
      match m.on s with
      | (result,t) =>
        match finalizer.on t with
        | (.ok _,last) => (result,last)
        | (.error e,last) => (.error e,last) := by
  simp only [Session.on,tryFinally,MonadFinally.tryFinally',Functor.map,ExceptT.map,ExceptT.run,ExceptT.mk,StateT.run,
    bind,StateT.bind]
  rcases m s with ⟨_ | _,t⟩
  all_goals
    dsimp only [pure,StateT.pure]
    rcases finalizer t with ⟨_ | _,last⟩ <;> rfl

end PrivacyGateway.Sessions

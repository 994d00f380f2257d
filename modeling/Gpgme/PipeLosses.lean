import Gpgme.EngineGpg.StartFailures
import Gpgme.EngineSpawn

/-! When a start that fails loses pipes, for the two engines that make a table of them. -/

namespace Gpgme

/-- At the end of an engine every pipe end was closed exactly once, with no use of a table that
was freed, unless the table was freed with pipes in it: by a call of `build_argv` that fails behind
one that has made a pipe, or by a pipe of `build_fd_data_map` that fails behind the first one.
-/
theorem starts_lose_no_pipe_iff (user : Bool) (others : Descriptors Unit)
    : (∀ p answers,
        ((Lifecycle.World.prepared user others p).life p answers).NoneLost
        ↔ ¬p.LosesPipes answers)
      ∧ ∀ arglist answers,
          ((EngineSpawn.World.new user others).life arglist answers).NoneLost
          ↔ ¬EngineSpawn.LosesPipes arglist answers :=
  ⟨Lifecycle.life_noneLost_iff user others, EngineSpawn.life_noneLost_iff user others⟩

/-- An operation with two data objects. -/
def twoObjects : Lifecycle.Prepared where
  options := { arglist := [.data 0 false (-1) true, .data 1 true 1 false] }
  pgmname := []
  command := by simp

/-- Two data objects, of which only the first one gets its pipe. -/
theorem second_pipe_failure_loses_first
    : ¬((Lifecycle.World.prepared false .empty twoObjects).life twoObjects
          { pipe := fun k => k == 0 }).NoneLost
      ∧ ¬((EngineSpawn.World.new false .empty).life [⟨0, false, -1⟩, ⟨1, true, 1⟩]
            { pipe := fun k => k == 0 }).NoneLost := by
  constructor
  · intro noneLost
    exact absurd noneLost.1 (by decide)
  · intro noneLost
    exact absurd noneLost.1 (by decide)

end Gpgme

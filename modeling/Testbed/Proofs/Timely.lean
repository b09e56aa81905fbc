import Testbed.Proofs.Costs
import Testbed.Scripted.World

/-!
# Timely worlds

A scripted world keeps time as a host should, but for a script that gives a call a negative length.
The worlds whose scripts hold no such length are a host of their own, that is punctual.
-/

set_option autoImplicit false

namespace Testbed.Scripted

/-- A script that gives no call a negative length. -/
def Script.IsTimely (s : Script Rat) : Prop := s.Each fun took _ => 0 ≤ took

instance (s : Script Rat) : Decidable s.IsTimely :=
  inferInstanceAs (Decidable (∀ e ∈ s, ∀ t ∈ e.2, 0 ≤ t.took))

namespace World

variable {w : World Rat}

theorem script_standard (w : World Rat) (call : Call Rat) :
    (w.standard call).2.script = w.script := by
  cases call <;> rfl

theorem script_told (w : World Rat) (v : Value) (call : Call Rat) :
    (w.told v call).script = w.script ∧ (w.told v call).clock = w.clock := by
  cases call <;> exact ⟨rfl, rfl⟩

/-- How a call is answered changes neither what is left of the script nor the time. -/
theorem answer_spares (w : World Rat) (effect : Effect Rat) (call : Call Rat) :
    (w.answer effect call).2.script = w.script ∧ (w.answer effect call).2.clock = w.clock := by
  have hstandard := And.intro (w.script_standard call) (w.clock_standard call)
  unfold answer
  split
  · exact ⟨rfl, rfl⟩
  · exact hstandard
  · split
    · exact w.script_told _ call
    · exact hstandard

/-- A call leaves the script timely, and takes no negative time. -/
theorem reply_timely (h : w.script.IsTimely) (call : Call Rat) :
    (World.reply call w).2.script.IsTimely ∧ w.clock ≤ (World.reply call w).2.clock := by
  obtain ⟨hturn, hscript⟩ := Script.take_each h call.name
  unfold World.reply
  rcases htake : w.script.take call.name with ⟨_ | turn, script⟩
  · rw [w.script_standard call, w.clock_standard call]
    exact ⟨h, le_rfl⟩
  · rw [htake] at hturn hscript
    obtain ⟨hleft, hclock⟩ :=
      answer_spares { w with script, clock := w.clock + turn.took } turn.effect call
    dsimp only
    rw [hleft, hclock]
    exact ⟨hscript, le_add_of_nonneg_right (hturn turn rfl)⟩

end World

/-- A scripted world whose script is timely. -/
def Timely : Type := { w : World Rat // w.script.IsTimely }

namespace Timely

/-- A timely world in which nothing has happened. -/
def start (script : Script Rat) (h : script.IsTimely) : Timely := ⟨World.start 0 script [], h⟩

instance : Host Rat Timely where
  now w := Host.now w.1
  sleep length w := ⟨Host.sleep length w.1, w.2⟩
  freshId w := ((Host.freshId w.1).1, ⟨(Host.freshId w.1).2, w.2⟩)
  randomBits w := ((Host.randomBits w.1).1, ⟨(Host.randomBits w.1).2, w.2⟩)
  reply call w := ((Host.reply call w.1).1,
    ⟨(Host.reply call w.1).2, (World.reply_timely w.2 call).1⟩)

/-- Timely worlds keep time. -/
theorem punctual : Punctual Timely where
  sleeps _ _ _ := rfl
  freshId _ := rfl
  reply call w := (World.reply_timely w.2 call).2

end Timely

end Testbed.Scripted

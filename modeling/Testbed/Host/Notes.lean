import Testbed.Host.Site

/-!
# Notes beside a host

A procedure may note things as it goes, for the one that runs it to read afterwards. Notes lie
beside the host: no call sees them, and the history does not tell of them. They are there until the
procedure is over, also if a fault is absorbed in between.
-/

set_option autoImplicit false

namespace Testbed

/-- A host with notes beside it, the latest one last. -/
structure Noting (ν ω : Type) where
  world : ω
  notes : List ν

variable {τ ω ν : Type}

instance [Host τ ω] : Host τ (Noting ν ω) where
  now n := Host.now n.world
  sleep length n := { n with world := Host.sleep length n.world }
  freshId n :=
    match Host.freshId n.world with
    | (id, w) => (id, { n with world := w })
  randomBits n :=
    match Host.randomBits n.world with
    | (bits, w) => (bits, { n with world := w })
  reply c n :=
    match Host.reply c n.world with
    | (r, w) => (r, { n with world := w })

namespace Site

/-- A site with these notes beside its host. -/
def withNotes (s : Site τ ω) (notes : List ν) : Site τ (Noting ν ω) := ⟨⟨s.world, notes⟩, s.history⟩

/-- A site without the notes beside its host. -/
def withoutNotes (s : Site τ (Noting ν ω)) : Site τ ω := ⟨s.world.world, s.history⟩

/-- Notes something. -/
def note (item : ν) : SiteM τ (Noting ν ω) Unit :=
  Proc.modify fun s => { s with world := { s.world with notes := s.world.notes ++ [item] } }

/-- The notes that a procedure leaves which starts without any. -/
def noted (x : SiteM τ (Noting ν ω) Unit) : SiteM τ ω (List ν) :=
  Proc.focus (fun s => s.withNotes []) (fun t _ => t.withoutNotes) do
    x
    return (← Proc.get).world.notes

/-! Notes make no difference to what a host is asked. -/

variable [Host τ ω]

theorem run_call_withNotes (c : Call τ) (s : Site τ ω) (notes : List ν) :
    (call c).run (s.withNotes notes) =
      (((call c).run s).1, ((call c).run s).2.withNotes notes) := rfl

theorem run_pause_withNotes (length : τ) (s : Site τ ω) (notes : List ν) :
    (pause length).run (s.withNotes notes) =
      (.ok (), ((pause length).run s).2.withNotes notes) := rfl

theorem run_now_withNotes (s : Site τ ω) (notes : List ν) :
    now.run (s.withNotes notes) = (.ok (Host.now s.world), s.withNotes notes) := rfl

end Site

end Testbed

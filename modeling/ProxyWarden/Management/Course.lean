import ProxyWarden.Management.Surface

/-!
# All that can happen to the management surface

Operators call, the core writes lines, the supervisor and the cache of snapshots take turns, and
time passes. Other programs may change the disk at any time. `Surface.step` is what an event does;
calls that only look at the surface change nothing and are left out.
-/
namespace ProxyWarden.Surface

inductive Event where
  | restart
  | upload (data : String) (restart : Bool)
  | rotate
  /-- The core writes a line, at a moment of the wall clock. -/
  | line (text : String) (moment : Nat)
  /-- A turn of the supervisor. -/
  | supervise
  /-- A run of the core returns. -/
  | finish (attempt : Nat) (result : Except DispatchError Unit)
  /-- The whole program is told to stop. -/
  | cancel
  | abandon
  | cache (e : Traffic.Cache.Event)
  | tick (ms : Nat)
  /-- Something else changes the disk. -/
  | disk (d : Disk)

/-- Whether an event can happen. Time passes for all parts at once. -/
def Event.Enabled (s : Surface) : Event → Prop
  | .finish attempt result => Supervisor.Event.Enabled s.supervisor (.finish attempt result)
  | .cache e => Traffic.Cache.Event.Enabled s.cache e ∧ ∀ ms, e ≠ .tick ms
  | _ => True

def step (s : Surface) : Event → Surface
  | .restart => s.restart.2
  | .upload data restart => (s.upload data restart).2
  | .rotate => s.rotate.2
  | .line text moment =>
    let e := s.journals.forward text moment s.disk
    { s with journals := e.journal, disk := e.disk }
  | .supervise => { s with supervisor := s.supervisor.poll s.load }
  | .finish attempt result => { s with supervisor := s.supervisor.finish attempt result }
  | .cancel => { s with supervisor := s.supervisor.cancel, cache := s.cache.step .cancelLoop }
  | .abandon => { s with supervisor := s.supervisor.abandon }
  | .cache e => { s with cache := s.cache.step e }
  | .tick ms =>
    { s with supervisor := s.supervisor.step (.tick ms), cache := s.cache.step (.tick ms) }
  | .disk d => { s with disk := d }

/-- A surface that was just opened. -/
def Opened (s : Surface) : Prop :=
  ∃ settings accessLog coreLog cache before after,
    open? settings accessLog coreLog cache before = (.ok s, after)

/-- The states to which events lead, the latest event first. -/
inductive Leads (s : Surface) : List Event → Surface → Prop where
  | refl : Leads s [] s
  | step {es : List Event} {t : Surface} {e : Event} :
      Leads s es t → e.Enabled t → Leads s (e :: es) (t.step e)

end ProxyWarden.Surface

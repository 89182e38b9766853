import Portproxy.SocketRoles
import Portproxy.TurnSemantics

/-! When mappings expire. `ctx_timeout_get` never lets `select` sleep past the
deadline of a mapping, so the sweep after it finds every mapping in time, and
what it leaves has time to live. -/
namespace Portproxy.ExpiryTiming
open StepMachine SocketRoles TurnSemantics

variable {host : Host} {p p₀ : Proxy} {t : Turn} {m : Mapping} {mappings : List Mapping} {now : Int}

/-! ## The wait -/

/-- Among live mappings the loop of `ctx_timeout_get` computes a minimum: what it
was given, or the remaining life of a mapping. -/
theorem timeout_loop_bounds (past : 0 ≤ now) (start : Int) (positive : 1 ≤ start)
    (live : ∀ m ∈ mappings, now < m.timeout ∧ m.timeout < 2147483648) :
    1 ≤ timeoutLoop now mappings start ∧ timeoutLoop now mappings start ≤ start ∧
      ∀ m ∈ mappings, timeoutLoop now mappings start ≤ m.timeout - now := by
  induction mappings generalizing start with
  | nil => simp [timeoutLoop, positive]
  | cons m rest ih =>
    obtain ⟨⟨alive, bounded⟩, later⟩ := List.forall_mem_cons.mp live
    have deadline : uint32 m.timeout = m.timeout := uint32_of_range (by omega) (by omega)
    have remaining : uint32 (m.timeout - now) = m.timeout - now := uint32_of_range (by omega) (by omega)
    have notExpired : ¬ m.timeout < now := by omega
    simp only [timeoutLoop, deadline, remaining, notExpired, ↓reduceIte, List.forall_mem_cons]
    split
    · obtain ⟨least, most, each⟩ := ih (m.timeout - now) (by omega) later
      exact ⟨least, by omega, most, each⟩
    · obtain ⟨least, most, each⟩ := ih start positive later
      exact ⟨least, most, by omega, each⟩

/-- While every mapping is live, the wait is at least a second, and the clamp to
it never delays an expiry. -/
theorem timeout_get_bounds (past : 0 ≤ now)
    (live : ∀ m ∈ mappings, now < m.timeout ∧ m.timeout < 2147483648) (range : now < 2147483648) :
    1 ≤ ctxTimeoutGet now mappings ∧ ctxTimeoutGet now mappings ≤ 3600 ∧
      ∀ m ∈ mappings, ctxTimeoutGet now mappings ≤ m.timeout - now := by
  have unsigned : uint32 now = now := uint32_of_range past (by omega)
  obtain ⟨least, most, each⟩ := timeout_loop_bounds past 3600 (by omega) live
  have unclamped : ctxTimeoutGet now mappings = timeoutLoop now mappings 3600 := by
    simp only [ctxTimeoutGet, unsigned]
    rw [if_neg (by omega)]
  rw [unclamped]
  exact ⟨least, most, each⟩

/-! ## Loop heads -/

/-- A pass in which the clock only advances while `select` waits, and `select`
waits no longer than it was told. All its times leave room for a lifetime. -/
structure Timely (p : Proxy) (t : Turn) : Prop where
  head : t.headTime = p.kernel.clock
  forward : t.headTime ≤ t.sweepTime
  woken : t.sweepTime ≤ t.headTime + ctxTimeoutGet t.headTime p.ctx.mappings
  still : t.addTime = t.sweepTime
  range : t.sweepTime + p.ctx.timeout < 2147483648

instance (p : Proxy) (t : Turn) : Decidable (Timely p t) :=
  decidable_of_iff (t.headTime = p.kernel.clock ∧ t.headTime ≤ t.sweepTime ∧
      t.sweepTime ≤ t.headTime + ctxTimeoutGet t.headTime p.ctx.mappings ∧
      t.addTime = t.sweepTime ∧ t.sweepTime + p.ctx.timeout < 2147483648)
    ⟨fun ⟨head, forward, woken, still, range⟩ => ⟨head, forward, woken, still, range⟩,
      fun ⟨head, forward, woken, still, range⟩ => ⟨head, forward, woken, still, range⟩⟩

/-- Mappings and wait at a loop head, where the time is that of the last sweep. -/
structure OnTime (p : Proxy) : Prop where
  live : ∀ m ∈ p.ctx.mappings,
    p.kernel.clock < m.timeout ∧ m.timeout ≤ p.kernel.clock + p.ctx.timeout
  wait : 1 ≤ ctxTimeoutGet p.kernel.clock p.ctx.mappings ∧
    ctxTimeoutGet p.kernel.clock p.ctx.mappings ≤ 3600
  inTime : ∀ m ∈ p.ctx.mappings,
    ctxTimeoutGet p.kernel.clock p.ctx.mappings ≤ m.timeout - p.kernel.clock

/-- A mapping that `mapping_find` gives to the handler of a packet, after
`select`, is not past its deadline. -/
def UsesLive (p : Proxy) (t : Turn) : Prop :=
  ∀ sock pkt noted m, Receives p t sock pkt noted → mappingFind p.ctx.mappings pkt = some m →
    t.sweepTime ≤ m.timeout

/-- What a timely run keeps. -/
structure Ticking (p : Proxy) : Prop where
  nodes : Nodes p
  lifetime : 1 ≤ p.ctx.timeout
  past : 0 ≤ p.kernel.clock
  range : p.kernel.clock + p.ctx.timeout < 2147483648
  live : ∀ m ∈ p.ctx.mappings,
    p.kernel.clock < m.timeout ∧ m.timeout ≤ p.kernel.clock + p.ctx.timeout

namespace Ticking

theorem on_time (ticking : Ticking p) : OnTime p := by
  have lifetime := ticking.lifetime
  have range := ticking.range
  have live : ∀ m ∈ p.ctx.mappings, p.kernel.clock < m.timeout ∧ m.timeout < 2147483648 := by
    intro m member
    obtain ⟨alive, bounded⟩ := ticking.live m member
    exact ⟨alive, by omega⟩
  obtain ⟨least, most, each⟩ := timeout_get_bounds ticking.past live (by omega)
  exact ⟨ticking.live, ⟨least, most⟩, each⟩

/-- No deadline passes while `select` waits. -/
theorem deadline_ahead (ticking : Ticking p) (timely : Timely p t) (member : m ∈ p.ctx.mappings) :
    t.sweepTime ≤ m.timeout := by
  have wait := ticking.on_time.inTime m member
  have woken := timely.woken
  rw [timely.head] at woken
  omega

theorem run_turn (ticking : Ticking p) (timely : Timely p t) : Ticking (runTurn host p t).1 := by
  have settings := run_turn_settings host p t
  obtain ⟨config, -⟩ := Context.of_settings settings
  have lifetime : (runTurn host p t).1.ctx.timeout = p.ctx.timeout := congrArg Config.timeout config
  have clock : (runTurn host p t).1.kernel.clock = t.sweepTime := rfl
  have forward := timely.forward
  rw [timely.head] at forward
  have past := ticking.past
  have range := timely.range
  constructor
  · exact run_turn_nodes host t ticking.nodes
  · rw [lifetime]
    exact ticking.lifetime
  · rw [clock]
    omega
  · rw [clock, lifetime]
    exact range
  · intro m member
    rw [clock, lifetime]
    obtain ⟨alive, old | ⟨sock, pkt, noted, -, -, -, -, rfl⟩⟩ := run_turn_origin host t ticking.nodes member
    · refine ⟨alive, ?_⟩
      have bounded := (ticking.live m old).2
      omega
    · refine ⟨alive, ?_⟩
      change int32 (t.addTime + p.ctx.timeout) ≤ _
      have least := ticking.lifetime
      rw [timely.still, int32_of_range (by omega) range]

end Ticking

/-- In every timely run mappings expire on time: at each loop head they are live
for as long as configured at most and the wait ends before any of them expires,
and none is used past its deadline. -/
theorem mappings_expire_on_time (host : Host) (p₀ : Proxy) (empty : p₀.ctx.mappings = [])
    (lifetime : 1 ≤ p₀.ctx.timeout) (past : 0 ≤ p₀.kernel.clock)
    (range : p₀.kernel.clock + p₀.ctx.timeout < 2147483648) (turns : List Turn)
    (timely : (run host).Along Timely p₀ turns) :
    OnTime ((run host).after p₀ turns) ∧
      (run host).Along (fun p t => OnTime p ∧ UsesLive p t) p₀ turns := by
  have initially : Ticking p₀ := ⟨no_nodes empty, lifetime, past, range, by simp [empty]⟩
  have keeps (p : Proxy) (t : Turn) (ticking : Ticking p) (timely : Timely p t) :
      Ticking ((run host).step p t).1 := ticking.run_turn timely
  constructor
  · exact ((run host).invariant_after Ticking keeps initially timely).on_time
  · refine (run host).along_of_invariant Ticking keeps ?_ initially timely
    intro p t ticking timely
    refine ⟨ticking.on_time, ?_⟩
    intro sock pkt noted m _ found
    exact ticking.deadline_ahead timely (mapping_find_some found).1

/-- A query waits, and its answer comes in the last second. -/
theorem household_expires_on_time :
    let turns : List Turn := [
      { headTime := 0, ready := [3], sent := 2, addTime := 100, sweepTime := 100
        recv := some { src := ⟨192, 168, 1, 7⟩, srcPort := 4000, dst := ⟨192, 168, 1, 1⟩, payload := [0, 0] } },
      { headTime := 100, ready := [6], sent := 12, addTime := 130, sweepTime := 130
        recv := some { src := ⟨192, 0, 0, 1⟩, srcPort := 5351, dst := ⟨10, 0, 0, 2⟩, payload := [0, 128] } }]
    OnTime ((run littleHost).after household turns) ∧
      (run littleHost).Along (fun p t => OnTime p ∧ UsesLive p t) household turns :=
  mappings_expire_on_time littleHost household rfl (by decide) (by decide) (by decide) _ (by decide)

/-! ## Any clock -/

/-- The test `m->timeout < now` of `ctx_timeout_get`, which compares unsigned
numbers. -/
def TimedOut (now : Int) (m : Mapping) : Prop := uint32 m.timeout < uint32 now

/-- A mapping that passes the test ends the wait at once. -/
theorem timed_out_wait (member : m ∈ mappings) (late : TimedOut now m) : ctxTimeoutGet now mappings = 1 := by
  have none (start : Int) : timeoutLoop (uint32 now) mappings start = 0 := by
    induction mappings generalizing start with
    | nil => cases member
    | cons other rest ih =>
      rw [timeoutLoop]
      by_cases past : uint32 other.timeout < uint32 now
      · rw [if_pos past]
      · rw [if_neg past]
        have later : m ∈ rest := by
          rcases List.mem_cons.mp member with rfl | later
          · exact absurd late past
          · exact later
        split <;> exact ih later _
  simp [ctxTimeoutGet, none]

/-- A mapping that `mapping_add` adds at time `now` lives as long as configured:
every sweep from then on keeps it until its lifetime is over and removes it
afterwards, and `ctx_timeout_get` finds it expired, and so waits for the least time,
only when a sweep would. -/
structure Lives (ctx : Context) (now : Int) : Prop where
  kept : ∀ (m : Mapping) mappings t, DistinctNodes mappings → m.stamped ctx now ∈ mappings → now ≤ t →
    t < now + ctx.timeout → m.stamped ctx now ∈ (ctxMappingsRemoveExpired t mappings).1
  removed : ∀ (m : Mapping) mappings t, DistinctNodes mappings → now + ctx.timeout ≤ t →
    m.stamped ctx now ∉ (ctxMappingsRemoveExpired t mappings).1
  agrees : ∀ (m : Mapping) mappings t, DistinctNodes mappings → 0 ≤ t → TimedOut t (m.stamped ctx now) →
    m.stamped ctx now ∉ (ctxMappingsRemoveExpired t mappings).1
  woken : ∀ (m : Mapping) mappings t, m.stamped ctx now ∈ mappings → TimedOut t (m.stamped ctx now) →
    ctxTimeoutGet t mappings = 1

/-- A sweep keeps of the list what is not expired. -/
theorem survives_iff (distinct : DistinctNodes mappings) :
    m ∈ (ctxMappingsRemoveExpired now mappings).1 ↔ m ∈ mappings ∧ now < m.timeout := by
  rw [remove_expired_filters distinct, List.mem_filter, decide_eq_true_iff]

/-- The deadline is the sum of clock and lifetime, cut to an `int`. Mappings
live as configured exactly as long as the sum fits. -/
theorem lives_as_configured_iff (ctx : Context) (now : Int) (past : 0 ≤ now) (lifetime : 1 ≤ ctx.timeout)
    (accepted : ctx.timeout ≤ 2147483647) : Lives ctx now ↔ now + ctx.timeout < 2147483648 := by
  constructor
  · intro lives
    have single : DistinctNodes [({} : Mapping).stamped ctx now] := by simp [KeyedList.Distinct]
    have survives := lives.kept {} _ now single (List.mem_singleton.mpr rfl) le_rfl (by omega)
    have alive : now < int32 (now + ctx.timeout) := ((survives_iff single).mp survives).2
    -- a sum that does not fit loses at least 2 ^ 32, which is more than a lifetime
    unfold int32 at alive
    omega
  · intro fits
    have deadline (m : Mapping) : (m.stamped ctx now).timeout = now + ctx.timeout :=
      int32_of_range (by omega) fits
    constructor
    case kept =>
      intro m mappings t distinct member _ early
      rw [survives_iff distinct, deadline]
      exact ⟨member, early⟩
    case removed =>
      intro m mappings t distinct late
      rw [survives_iff distinct, deadline]
      omega
    case agrees =>
      intro m mappings t distinct since late
      rw [TimedOut, deadline, uint32_of_range (by omega) (by omega)] at late
      rw [survives_iff distinct, deadline]
      have cut : uint32 t ≤ t := by unfold uint32; omega
      omega
    case woken => exact fun m mappings t member late => timed_out_wait member late

/-- With the default lifetime, in the year 2024. -/
theorem household_lives_as_configured :
    Lives { household.ctx with timeout := 10 } 1704067200 ↔ (1704067200 : Int) + 10 < 2147483648 :=
  lives_as_configured_iff { household.ctx with timeout := 10 } 1704067200 (by decide) (by decide) (by decide)

/-- With the longest lifetime a mapping is removed as soon as it is added. -/
theorem longest_lifetime_expires_at_once :
    ¬ Lives { household.ctx with timeout := 2147483647 } 1704067200 := by
  intro lives
  have survives := lives.kept {} [({} : Mapping).stamped _ 1704067200] 1704067200
    (by simp [KeyedList.Distinct]) (List.mem_singleton.mpr rfl) le_rfl (by decide)
  exact absurd survives (by decide)

end Portproxy.ExpiryTiming

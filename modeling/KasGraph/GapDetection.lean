import KasGraph.Subscription

set_option autoImplicit false

/-! What the driver's log says about the gaps it announces, read off the log
alone: the highest score forwarded, whether a reconnect still waits for its
first fresh notification, and the scores a fresh notification jumps over. -/

namespace KasGraph

open MachineInt

namespace ChainNotification

/-- The scores a notification carries. -/
def daaScores : ChainNotification → List UInt64
  | .blockAdded block => [block.daaScore]
  | .virtualChainChanged _ added => added.map (·.daaScore)
  | .recoveryRequired .. => []

end ChainNotification

theorem firstDaaOf_isSome (notification : ChainNotification) :
    (firstDaaOf notification).isSome = true ↔ notification.daaScores ≠ [] := by
  cases notification with
  | blockAdded block => simp [firstDaaOf, ChainNotification.daaScores]
  | virtualChainChanged removed added =>
      rw [firstDaaOf, ChainNotification.daaScores, ← Option.ne_none_iff_isSome, ne_eq,
        List.min?_eq_none_iff]
  | recoveryRequired => simp [firstDaaOf, ChainNotification.daaScores]

theorem maxDaaOf_eq (notification : ChainNotification) :
    maxDaaOf notification = notification.daaScores.max? := by
  cases notification <;> rfl

theorem nextDaaAfter_eq (notification : ChainNotification) (threshold : UInt64) :
    nextDaaAfter notification threshold =
      (notification.daaScores.filter (threshold < ·)).min? := by
  cases notification with
  | blockAdded block =>
      by_cases fresh : threshold < block.daaScore
      · simp [nextDaaAfter, ChainNotification.daaScores, fresh]
      · simp [nextDaaAfter, ChainNotification.daaScores, fresh]
  | virtualChainChanged removed added => rfl
  | recoveryRequired => rfl

/-! ## Reading the log -/

namespace DriverEntry

/-- The scores an entry forwards. -/
def daaScores : DriverEntry → List UInt64
  | .forwarded notification => notification.daaScores
  | _ => []

def forwarded? : DriverEntry → Option ChainNotification
  | .forwarded notification => some notification
  | _ => none

/-- An entry that marks a reconnect. -/
def IsReconnect : DriverEntry → Prop
  | .event (.reconnectScheduled ..) => True
  | _ => False

/-- An entry that only reports. -/
def IsEvent : DriverEntry → Prop
  | .event _ => True
  | _ => False

end DriverEntry

/-- The highest score forwarded so far. -/
def highest (log : List DriverEntry) : Option UInt64 :=
  (log.flatMap DriverEntry.daaScores).max?

/-- A notification that carries a score above the highest one forwarded. -/
def Fresh (highest : Option UInt64) (notification : ChainNotification) : Prop :=
  ∃ score ∈ notification.daaScores, ∀ last, highest = some last → last < score

/-- Since some reconnect nothing fresh was forwarded. -/
def Awaits (log : List DriverEntry) : Prop :=
  ∃ before reconnect since, log = before ++ reconnect :: since ∧ reconnect.IsReconnect ∧
    ∀ notification, .forwarded notification ∈ since → ¬ Fresh (highest before) notification

/-- The scores missing in front of a notification: the first fresh one after a
reconnect, whose lowest fresh score is not the one right after the highest forwarded. -/
structure GapAt (log : List DriverEntry) (notification : ChainNotification)
    (last next : UInt64) : Prop where
  awaits : Awaits log
  reached : highest log = some last
  carried : next ∈ notification.daaScores
  above : last < next
  lowest : ∀ score ∈ notification.daaScores, last < score → next ≤ score
  missing : last.toNat + 1 < next.toNat

@[simp] theorem highest_nil : highest [] = none := rfl

theorem highest_append_quiet (log : List DriverEntry) {entry : DriverEntry}
    (quiet : entry.daaScores = []) : highest (log ++ [entry]) = highest log := by
  unfold highest
  rw [List.flatMap_append, List.flatMap_singleton, quiet, List.append_nil]

/-- The greatest element of two lists is the greater of theirs. -/
private theorem max?_append (xs ys : List UInt64) :
    (xs ++ ys).max? =
      ys.max?.elim xs.max? fun y => some (xs.max?.elim y fun x => max x y) := by
  cases last : ys.max? with
  | none =>
      rw [List.max?_eq_none_iff] at last
      simp [last]
  | some y =>
      obtain ⟨inside, least⟩ := List.max?_eq_some_iff.mp last
      cases first : xs.max? with
      | none =>
          rw [List.max?_eq_none_iff] at first
          simp [first, last]
      | some x =>
          obtain ⟨member, bound⟩ := List.max?_eq_some_iff.mp first
          rw [Option.elim_some, Option.elim_some, List.max?_eq_some_iff]
          constructor
          · rcases Std.max_eq_or (a := x) (b := y) with left | right
            · simp [left, member]
            · simp [right, inside]
          · intro z present
            rcases List.mem_append.mp present with here | here
            · exact Std.le_trans (bound z here) Std.left_le_max
            · exact Std.le_trans (least z here) Std.right_le_max

theorem highest_append_forwarded (log : List DriverEntry) (notification : ChainNotification) :
    highest (log ++ [.forwarded notification]) =
      (maxDaaOf notification).elim (highest log) fun daa =>
        some ((highest log).elim daa fun prev => max prev daa) := by
  unfold highest
  rw [List.flatMap_append, List.flatMap_singleton, maxDaaOf_eq]
  exact max?_append _ _

/-- The highest score never falls as the log grows. -/
theorem highest_append_le (before after : List DriverEntry) {last : UInt64}
    (reached : highest before = some last) :
    ∃ later, highest (before ++ after) = some later ∧ last ≤ later := by
  unfold highest at reached ⊢
  rw [List.flatMap_append, max?_append, reached]
  cases (after.flatMap DriverEntry.daaScores).max? with
  | none => exact ⟨last, rfl, Std.le_refl last⟩
  | some daa => exact ⟨max last daa, rfl, Std.left_le_max⟩

/-! ## What one entry adds -/

/-- Where an entry of a log with one more entry stands. -/
private theorem snoc_eq {log before after : List DriverEntry} {added entry : DriverEntry}
    (same : log ++ [added] = before ++ entry :: after) :
    (after = [] ∧ log = before ∧ added = entry) ∨
      ∃ rest, after = rest ++ [added] ∧ log = before ++ entry :: rest := by
  rcases List.eq_nil_or_concat after with none | ⟨rest, final, some⟩
  · subst none
    obtain ⟨logs, entries⟩ := List.append_inj' same rfl
    exact Or.inl ⟨rfl, logs, List.head_eq_of_cons_eq entries⟩
  · rw [List.concat_eq_append] at some
    subst some
    rw [← List.cons_append, ← List.append_assoc] at same
    obtain ⟨logs, entries⟩ := List.append_inj' same rfl
    exact Or.inr ⟨rest, by rw [List.head_eq_of_cons_eq entries], logs⟩

theorem DriverEntry.IsReconnect.daaScores {entry : DriverEntry} (reconnect : entry.IsReconnect) :
    entry.daaScores = [] := by
  cases entry with
  | event => rfl
  | requested | forwarded | refused => exact reconnect.elim

/-- Without fresh notifications the highest score stays. -/
theorem highest_of_stale {before since : List DriverEntry} {reconnect : DriverEntry}
    (marks : reconnect.IsReconnect)
    (stale : ∀ notification, .forwarded notification ∈ since →
      ¬ Fresh (highest before) notification) :
    highest (before ++ reconnect :: since) = highest before := by
  change ((before ++ reconnect :: since).flatMap DriverEntry.daaScores).max? =
    (before.flatMap DriverEntry.daaScores).max?
  rw [List.flatMap_append, List.flatMap_cons, marks.daaScores, List.nil_append, max?_append]
  cases top : (since.flatMap DriverEntry.daaScores).max? with
  | none => rfl
  | some daa =>
      obtain ⟨inside, -⟩ := List.max?_eq_some_iff.mp top
      obtain ⟨entry, member, carries⟩ := List.mem_flatMap.mp inside
      cases entry with
      | event | requested | refused => cases carries
      | forwarded notification =>
          have bound := stale notification member
          unfold Fresh at bound
          push Not at bound
          obtain ⟨last, known, below⟩ := bound daa carries
          change (before.flatMap DriverEntry.daaScores).max? = some last at known
          rw [known]
          have least : max last daa = last := by
            change (if last ≤ daa then daa else last) = last
            rw [UInt64.not_lt] at below
            split
            · rename_i above
              exact UInt64.le_antisymm below above
            · rfl
          rw [Option.elim_some, Option.elim_some, least]

theorem awaits_append_quiet (log : List DriverEntry) {entry : DriverEntry}
    (stays : ¬ entry.IsReconnect)
    (sends : ∀ notification, entry ≠ .forwarded notification) :
    Awaits (log ++ [entry]) ↔ Awaits log := by
  constructor
  · rintro ⟨before, reconnect, since, same, marks, stale⟩
    rcases snoc_eq same with ⟨-, -, equal⟩ | ⟨rest, longer, shorter⟩
    · rw [equal] at stays
      exact absurd marks stays
    · refine ⟨before, reconnect, rest, shorter, marks, fun notification member => ?_⟩
      exact stale notification (longer ▸ List.mem_append_left _ member)
  · rintro ⟨before, reconnect, since, same, marks, stale⟩
    refine ⟨before, reconnect, since ++ [entry], ?_, marks, fun notification member => ?_⟩
    · rw [same, List.append_assoc, List.cons_append]
    · rcases List.mem_append.mp member with earlier | here
      · exact stale notification earlier
      · exact absurd (List.mem_singleton.mp here).symm (sends notification)

theorem awaits_append_reconnect (log : List DriverEntry) {entry : DriverEntry}
    (reconnect : entry.IsReconnect) : Awaits (log ++ [entry]) :=
  ⟨log, entry, [], rfl, reconnect, nofun⟩

theorem awaits_append_forwarded (log : List DriverEntry) (notification : ChainNotification) :
    Awaits (log ++ [.forwarded notification]) ↔
      Awaits log ∧ ¬ Fresh (highest log) notification := by
  constructor
  · rintro ⟨before, reconnect, since, same, marks, stale⟩
    rcases snoc_eq same with ⟨-, -, equal⟩ | ⟨rest, longer, shorter⟩
    · rw [← equal] at marks
      exact marks.elim
    · have earlier : ∀ other, .forwarded other ∈ rest → ¬ Fresh (highest before) other :=
        fun other member => stale other (longer ▸ List.mem_append_left _ member)
      refine ⟨⟨before, reconnect, rest, shorter, marks, earlier⟩, ?_⟩
      rw [shorter, highest_of_stale marks earlier]
      exact stale notification (longer ▸ List.mem_append_right _ (List.mem_singleton_self _))
  · rintro ⟨⟨before, reconnect, since, same, marks, stale⟩, old⟩
    refine ⟨before, reconnect, since ++ [.forwarded notification], ?_, marks,
      fun other member => ?_⟩
    · rw [same, List.append_assoc, List.cons_append]
    · rcases List.mem_append.mp member with earlier | here
      · exact stale other earlier
      · cases List.mem_singleton.mp here
        rwa [same, highest_of_stale marks stale] at old

/-- The gap in front of a notification is one. -/
theorem GapAt.unique {log : List DriverEntry} {notification : ChainNotification}
    {last next last' next' : UInt64} (gap : GapAt log notification last next)
    (other : GapAt log notification last' next') : last' = last ∧ next' = next := by
  have sameLast : last' = last := Option.some.inj (other.reached.symm.trans gap.reached)
  subst sameLast
  exact ⟨rfl, UInt64.le_antisymm (other.lowest next gap.carried gap.above)
    (gap.lowest next' other.carried other.above)⟩

/-! ## The state of the driver and its log -/

theorem gapAt_append_quiet {log : List DriverEntry} {entry : DriverEntry}
    {notification : ChainNotification} {last next : UInt64} (stays : ¬ entry.IsReconnect)
    (sends : ∀ notification, entry ≠ .forwarded notification) :
    GapAt (log ++ [entry]) notification last next ↔ GapAt log notification last next := by
  have quiet : entry.daaScores = [] := by
    cases entry with
    | forwarded notification => exact absurd rfl (sends notification)
    | event | requested | refused => rfl
  have awaits := awaits_append_quiet log stays sends
  have kept := highest_append_quiet log quiet
  constructor
  · intro gap
    exact ⟨awaits.mp gap.awaits, kept ▸ gap.reached, gap.carried, gap.above, gap.lowest,
      gap.missing⟩
  · intro gap
    exact ⟨awaits.mpr gap.awaits, kept.trans gap.reached, gap.carried, gap.above, gap.lowest,
      gap.missing⟩

/-! ## The announcements of a log -/

/-- What follows a request: the notification it stands for, or its refusal and
nothing but reports. -/
def FollowedBy (notification : ChainNotification) (after : List DriverEntry) : Prop :=
  (∃ later, after = .forwarded notification :: later) ∨
    ∃ later, after = .refused notification :: later ∧ ∀ entry ∈ later, entry.IsEvent

/-- Every request stands right in front of the notification it is about, and
every notification behind a gap has its request. -/
structure Announces (log : List DriverEntry) : Prop where
  requests : ∀ before request after, log = before ++ .requested request :: after →
    ∃ notification last next, request = gapRequest last next ∧
      GapAt before notification last next ∧ FollowedBy notification after
  complete : ∀ before notification after, log = before ++ .forwarded notification :: after →
    ∀ last next, GapAt before notification last next →
      ∃ earlier, before = earlier ++ [.requested (gapRequest last next)]

theorem FollowedBy.append {notification : ChainNotification} {after : List DriverEntry}
    {entry : DriverEntry} (followed : FollowedBy notification after)
    (ends : entry.IsEvent ∨ ∀ other, .refused other ∉ after) :
    FollowedBy notification (after ++ [entry]) := by
  rcases followed with ⟨later, same⟩ | ⟨later, same, reports⟩
  · exact Or.inl ⟨later ++ [entry], by rw [same, List.cons_append]⟩
  · rcases ends with event | unrefused
    · refine Or.inr ⟨later ++ [entry], by rw [same, List.cons_append], fun other member => ?_⟩
      rcases List.mem_append.mp member with earlier | here
      · exact reports other earlier
      · rw [List.mem_singleton.mp here]
        exact event
    · exact absurd (same ▸ List.mem_cons_self) (unrefused notification)

/-- One more entry that is no request. -/
theorem Announces.snoc {log : List DriverEntry} {entry : DriverEntry} (announces : Announces log)
    (ends : entry.IsEvent ∨ ∀ other, .refused other ∉ log)
    (sends : ∀ request, entry ≠ .requested request)
    (announced : ∀ notification, entry = .forwarded notification →
      ∀ last next, ¬ GapAt log notification last next) :
    Announces (log ++ [entry]) where
  requests before request after same := by
    rcases snoc_eq same with ⟨-, -, equal⟩ | ⟨rest, longer, shorter⟩
    · exact absurd equal (sends request)
    · obtain ⟨notification, last, next, for', gap, followed⟩ :=
        announces.requests before request rest shorter
      refine ⟨notification, last, next, for', gap, longer ▸ followed.append ?_⟩
      refine ends.imp id fun unrefused other member => unrefused other ?_
      rw [shorter]
      exact List.mem_append_right _ (List.mem_cons_of_mem _ member)
  complete before notification after same last next gap := by
    rcases snoc_eq same with ⟨-, whole, equal⟩ | ⟨rest, -, shorter⟩
    · rw [← whole] at gap
      exact absurd gap (announced notification equal last next)
    · exact announces.complete before notification rest shorter last next gap

/-- One more request, with the notification it is about sent or refused. -/
theorem Announces.pair {log : List DriverEntry} {entry : DriverEntry} (announces : Announces log)
    (unrefused : ∀ other, .refused other ∉ log) {notification : ChainNotification}
    {last next : UInt64} (gap : GapAt log notification last next)
    (sent : entry = .forwarded notification ∨ entry = .refused notification) :
    Announces (log ++ [.requested (gapRequest last next)] ++ [entry]) where
  requests before request after same := by
    have sends : ∀ request, entry ≠ .requested request := by
      rcases sent with rfl | rfl <;> exact nofun
    rcases snoc_eq same with ⟨-, -, equal⟩ | ⟨rest, longer, shorter⟩
    · exact absurd equal (sends request)
    · rcases snoc_eq shorter with ⟨none, whole, equal⟩ | ⟨rest', longer', shorter'⟩
      · cases equal
        subst none
        refine ⟨notification, last, next, rfl, whole ▸ gap, ?_⟩
        rw [longer, List.nil_append]
        exact sent.imp (fun forwarded => ⟨[], by rw [forwarded]⟩)
          fun refused => ⟨[], by rw [refused], nofun⟩
      · have earlier : ∀ other, .refused other ∉ rest' := fun other member => unrefused other <| by
          rw [shorter']
          exact List.mem_append_right _ (List.mem_cons_of_mem _ member)
        obtain ⟨about, low, high, for', jump, followed⟩ :=
          announces.requests before request rest' shorter'
        refine ⟨about, low, high, for', jump, ?_⟩
        rw [longer, longer']
        refine (followed.append (Or.inr earlier)).append (Or.inr fun other member => ?_)
        rcases List.mem_append.mp member with inside | here
        · exact earlier other inside
        · cases List.mem_singleton.mp here
  complete before other after same low high jump := by
    rcases snoc_eq same with ⟨-, whole, equal⟩ | ⟨rest, -, shorter⟩
    · rcases sent with forwarded | refused
      · rw [forwarded] at equal
        cases equal
        rw [← whole] at jump
        have stood : GapAt log notification low high :=
          (gapAt_append_quiet (by simp [DriverEntry.IsReconnect]) (by simp)).mp jump
        obtain ⟨sameLast, sameNext⟩ := gap.unique stood
        exact ⟨log, by rw [← whole, sameLast, sameNext]⟩
      · rw [refused] at equal
        cases equal
    · rcases snoc_eq shorter with ⟨-, -, equal⟩ | ⟨rest', -, shorter'⟩
      · cases equal
      · exact announces.complete before other rest' shorter' low high jump

/-! ## The state of the driver and its log -/

/-- The driver's state says what its log says, as long as nothing was refused. -/
structure Tracks (session : Session) : Prop where
  last : session.state.lastEmittedDaa = highest session.log
  pending : session.state.pendingGapCheck = true ↔ Awaits session.log
  unrefused : ∀ notification, .refused notification ∉ session.log
  announces : Announces session.log

/-- The driver has found the receiver gone. -/
structure Halted (session : Session) : Prop where
  closed : session.receiver = some 0
  announces : Announces session.log

/-- The notifications a driver has forwarded. -/
def Session.forwards (session : Session) : List ChainNotification :=
  session.log.filterMap DriverEntry.forwarded?

theorem fresh_iff_next {last : UInt64} {notification : ChainNotification} :
    Fresh (some last) notification ↔ (nextDaaAfter notification last).isSome = true := by
  rw [nextDaaAfter_eq, ← Option.ne_none_iff_isSome, ne_eq, List.min?_eq_none_iff,
    List.filter_eq_nil_iff]
  simp [Fresh]

theorem fresh_iff_first {notification : ChainNotification} :
    Fresh none notification ↔ (firstDaaOf notification).isSome = true := by
  rw [firstDaaOf_isSome]
  constructor
  · rintro ⟨score, carried, -⟩
    exact List.ne_nil_of_mem carried
  · intro some
    obtain ⟨score, carried⟩ := List.exists_mem_of_ne_nil _ some
    exact ⟨score, carried, nofun⟩

theorem nextDaaAfter_eq_some {notification : ChainNotification} {last next : UInt64} :
    nextDaaAfter notification last = some next ↔
      next ∈ notification.daaScores ∧ last < next ∧
        ∀ score ∈ notification.daaScores, last < score → next ≤ score := by
  rw [nextDaaAfter_eq, List.min?_eq_some_iff]
  simp only [List.mem_filter, decide_eq_true_eq]
  constructor
  · rintro ⟨⟨carried, above⟩, least⟩
    exact ⟨carried, above, fun score member fresh => least score ⟨member, fresh⟩⟩
  · rintro ⟨carried, above, least⟩
    exact ⟨⟨carried, above⟩, fun score member => least score member.1 member.2⟩

theorem missing_iff {last next : UInt64} (above : last < next) :
    saturatingAddU64 last 1 < next ↔ last.toNat + 1 < next.toNat := by
  have bound := next.toNat_lt
  rw [UInt64.lt_iff_toNat_lt] at above
  have one : (1 : UInt64).toNat = 1 := rfl
  rw [UInt64.lt_iff_toNat_lt, toNat_saturatingAddU64 (by omega), one]

/-- The condition the code checks in front of a notification. -/
theorem gapAt_iff {session : Session} (tracks : Tracks session)
    {notification : ChainNotification} {last next : UInt64} :
    GapAt session.log notification last next ↔
      session.state.pendingGapCheck = true ∧ session.state.lastEmittedDaa = some last ∧
        nextDaaAfter notification last = some next ∧ saturatingAddU64 last 1 < next := by
  rw [tracks.pending, tracks.last, nextDaaAfter_eq_some]
  constructor
  · intro gap
    exact ⟨gap.awaits, gap.reached, ⟨gap.carried, gap.above, gap.lowest⟩,
      (missing_iff gap.above).mpr gap.missing⟩
  · rintro ⟨awaits, reached, ⟨carried, above, lowest⟩, missing⟩
    exact ⟨awaits, reached, carried, above, lowest, (missing_iff above).mp missing⟩

/-- The event that goes with a request. -/
def Session.gapEvent (url : String) (session : Session) (last next : UInt64) :
    SubscriptionDriverEvent :=
  .gapDetected url session.state.reconnectCount (saturatingAddU64 last 1)
    (saturatingSubU64 next 1)

/-- What the check in front of a notification does. -/
inductive Checked (url : String) (session : Session) (notification : ChainNotification) :
    Bool × Session → Prop where
  | passed (after : Session) (kept : after.log = session.log)
      (whole : ∀ last next, ¬ GapAt session.log notification last next)
      (last : after.state.lastEmittedDaa = session.state.lastEmittedDaa)
      (pending : after.state.pendingGapCheck = true ↔
        Awaits session.log ∧ ¬ Fresh (highest session.log) notification) :
      Checked url session notification (true, after)
  | announced (after : Session) (last next : UInt64)
      (gap : GapAt session.log notification last next)
      (grown : after.log = session.log ++ [.event (session.gapEvent url last next)] ++
        [.requested (gapRequest last next)])
      (kept : after.state.lastEmittedDaa = session.state.lastEmittedDaa)
      (pending : after.state.pendingGapCheck = true ↔
        Awaits session.log ∧ ¬ Fresh (highest session.log) notification) :
      Checked url session notification (true, after)
  | refused (after : Session) (last next : UInt64)
      (grown : after.log = session.log ++ [.event (session.gapEvent url last next)] ++
        [.refused (gapRequest last next)])
      (closed : after.receiver = some 0) :
      Checked url session notification (false, after)

/-- A report that is no reconnect keeps state and log in step. -/
theorem Tracks.reported {session : Session} (tracks : Tracks session)
    (event : SubscriptionDriverEvent) (stays : ¬ (DriverEntry.event event).IsReconnect) :
    Tracks (session.report event) where
  last := tracks.last.trans (highest_append_quiet session.log rfl).symm
  pending := tracks.pending.trans (awaits_append_quiet session.log stays (by simp)).symm
  unrefused other member := by
    rcases List.mem_append.mp member with earlier | here
    · exact tracks.unrefused other earlier
    · cases List.mem_singleton.mp here
  announces := tracks.announces.snoc (Or.inl trivial) nofun nofun

theorem Tracks.withReceiver {session : Session} (tracks : Tracks session)
    (receiver : Option Nat) : Tracks { session with receiver } :=
  ⟨tracks.last, tracks.pending, tracks.unrefused, tracks.announces⟩

theorem Halted.reported {session : Session} (halted : Halted session)
    (event : SubscriptionDriverEvent) : Halted (session.report event) :=
  ⟨halted.closed, halted.announces.snoc (Or.inl trivial) nofun nofun⟩

theorem Tracks.reconnect {session : Session} (tracks : Tracks session) (url : String)
    (delayMs : UInt64) (reason : String) :
    Tracks (session.scheduleReconnect url delayMs reason) where
  last := tracks.last.trans (highest_append_quiet session.log rfl).symm
  pending := ⟨fun _ => awaits_append_reconnect session.log trivial, fun _ => rfl⟩
  unrefused other member := by
    rcases List.mem_append.mp member with earlier | here
    · exact tracks.unrefused other earlier
    · cases List.mem_singleton.mp here
  announces := tracks.announces.snoc (Or.inl trivial) nofun nofun

theorem Halted.reconnect {session : Session} (halted : Halted session) (url : String)
    (delayMs : UInt64) (reason : String) :
    Halted (session.scheduleReconnect url delayMs reason) :=
  ⟨halted.closed, halted.announces.snoc (Or.inl trivial) nofun nofun⟩

namespace Session

/-- A send either adds its entry or finds the receiver gone. -/
theorem send_cases (session : Session) (entry : ChainNotification → DriverEntry)
    (notification : ChainNotification) :
    (∃ receiver, session.send entry notification =
      (true, { session with receiver, log := session.log ++ [entry notification] })) ∨
      session.send entry notification =
        (false, { session with
          receiver := some 0
          log := session.log ++ [.refused notification] }) := by
  unfold send isClosed
  cases present : session.receiver with
  | none => exact Or.inl ⟨none, by simp [present]⟩
  | some left =>
      cases left with
      | zero => exact Or.inr (by simp [present])
      | succ left => exact Or.inl ⟨some left, by simp⟩

theorem announceGap_cases (url : String) (session : Session) (last next : UInt64) :
    (∃ receiver, session.announceGap url last next =
      (true, { session with
        receiver
        log := session.log ++ [.event (session.gapEvent url last next)] ++
          [.requested (gapRequest last next)] })) ∨
      session.announceGap url last next =
        (false, { session with
          receiver := some 0
          log := session.log ++ [.event (session.gapEvent url last next)] ++
            [.refused (gapRequest last next)] }) :=
  send_cases _ _ _

theorem checkGap_checked {url : String} {session : Session} (tracks : Tracks session)
    (notification : ChainNotification) :
    Checked url session notification (session.checkGap url notification) := by
  unfold checkGap
  by_cases pending : session.state.pendingGapCheck = true
  · have awaits : Awaits session.log := tracks.pending.mp pending
    rw [if_pos pending]
    cases emitted : session.state.lastEmittedDaa with
    | none =>
        have whole : ∀ last next, ¬ GapAt session.log notification last next := by
          intro last next gap
          have reached := ((gapAt_iff tracks).mp gap).2.1
          rw [emitted] at reached
          cases reached
        have stale := @fresh_iff_first notification
        rw [← emitted, tracks.last] at stale
        by_cases some : (firstDaaOf notification).isSome = true
        · simp only [some]
          refine .passed _ rfl whole rfl ?_
          simp [clearGapCheck, stale, some]
        · simp only [some]
          refine .passed _ rfl whole rfl ?_
          simp [pending, awaits, stale, some]
    | some last =>
        have stale := @fresh_iff_next last notification
        rw [← emitted, tracks.last] at stale
        cases found : nextDaaAfter notification last with
        | none =>
            have whole : ∀ last next, ¬ GapAt session.log notification last next := by
              intro other above gap
              obtain ⟨-, reached, carried, -⟩ := (gapAt_iff tracks).mp gap
              rw [emitted] at reached
              cases reached
              rw [found] at carried
              cases carried
            simp only [found]
            refine .passed _ rfl whole rfl ?_
            simp [pending, awaits, stale, found]
        | some next =>
            have fresh : Fresh (highest session.log) notification := stale.mpr (by simp [found])
            simp only [found]
            by_cases missing : saturatingAddU64 last 1 < next
            · have gap : GapAt session.log notification last next :=
                (gapAt_iff tracks).mpr ⟨pending, emitted, found, missing⟩
              rw [if_pos missing]
              rcases announceGap_cases url session last next with ⟨receiver, sent⟩ | refused
              · rw [sent]
                refine .announced _ last next gap rfl rfl ?_
                simp [clearGapCheck, fresh]
              · rw [refused]
                exact .refused _ last next rfl rfl
            · have whole : ∀ other above, ¬ GapAt session.log notification other above := by
                intro other above gap
                obtain ⟨-, reached, carried, jumps⟩ := (gapAt_iff tracks).mp gap
                rw [emitted] at reached
                cases reached
                rw [found] at carried
                cases carried
                exact missing jumps
              rw [if_neg missing]
              refine .passed _ rfl whole rfl ?_
              simp [clearGapCheck, fresh]
  · have settled : ¬ Awaits session.log := fun awaits => pending (tracks.pending.mpr awaits)
    rw [if_neg pending]
    refine .passed _ rfl (fun last next gap => settled gap.awaits) rfl ?_
    simp [pending, settled]

theorem emitDaa_log (session : Session) (notification : ChainNotification) :
    (session.emitDaa notification).log = session.log := by
  unfold emitDaa
  cases maxDaaOf notification <;> rfl

theorem emitDaa_pending (session : Session) (notification : ChainNotification) :
    (session.emitDaa notification).state.pendingGapCheck = session.state.pendingGapCheck := by
  unfold emitDaa
  cases maxDaaOf notification <;> rfl

theorem emitDaa_last (session : Session) (notification : ChainNotification) :
    (session.emitDaa notification).state.lastEmittedDaa =
      (maxDaaOf notification).elim session.state.lastEmittedDaa fun daa =>
        some (session.state.lastEmittedDaa.elim daa fun prev => max prev daa) := by
  unfold emitDaa
  cases maxDaaOf notification <;> rfl

/-- A forwarded notification keeps state and log in step. -/
private theorem tracks_forwarded {session after : Session} (tracks : Tracks session)
    (notification : ChainNotification) (receiver : Option Nat)
    (last : after.state.lastEmittedDaa = session.state.lastEmittedDaa)
    (pending : after.state.pendingGapCheck = true ↔
      Awaits session.log ∧ ¬ Fresh (highest session.log) notification)
    (reached : highest after.log = highest session.log)
    (awaits : Awaits after.log ↔ Awaits session.log)
    (unrefused : ∀ other, .refused other ∉ after.log)
    (announces : Announces (after.log ++ [.forwarded notification])) :
    Tracks { after.emitDaa notification with
      receiver
      log := after.log ++ [.forwarded notification] } where
  last := by
    change (after.emitDaa notification).state.lastEmittedDaa = _
    rw [emitDaa_last, highest_append_forwarded, last, tracks.last, reached]
  pending := by
    change (after.emitDaa notification).state.pendingGapCheck = true ↔ _
    rw [emitDaa_pending, pending, awaits_append_forwarded, awaits, reached]
  unrefused other member := by
    rcases List.mem_append.mp member with earlier | here
    · exact unrefused other earlier
    · cases List.mem_singleton.mp here
  announces

/-- Handling a notification forwards it, or finds the receiver gone. -/
theorem handle_spec {url : String} {session : Session} (tracks : Tracks session)
    (notification : ChainNotification) :
    let handled := session.handle url notification
    if handled.1 then
      Tracks handled.2 ∧ handled.2.forwards = session.forwards ++ [notification]
    else
      Halted handled.2 ∧ handled.2.forwards = session.forwards := by
  unfold handle
  have checked := @checkGap_checked url _ tracks notification
  generalize session.checkGap url notification = result at checked ⊢
  cases checked with
  | passed after kept whole last pending =>
      have quiet : ∀ other, DriverEntry.forwarded notification = .forwarded other →
          ∀ low high, ¬ GapAt after.log other low high := by
        intro other same low high
        cases same
        exact kept ▸ whole low high
      have unrefused : ∀ other, .refused other ∉ after.log := kept ▸ tracks.unrefused
      have announces : Announces after.log := kept ▸ tracks.announces
      rcases send_cases (after.emitDaa notification) .forwarded notification with
        ⟨receiver, sent⟩ | refused
      · simp only [if_true, sent]
        rw [emitDaa_log]
        refine ⟨tracks_forwarded tracks notification receiver last pending (by rw [kept])
          (by rw [kept]) unrefused (announces.snoc (Or.inr unrefused) nofun quiet), ?_⟩
        simp [forwards, kept, DriverEntry.forwarded?]
      · simp only [if_true, refused]
        rw [emitDaa_log]
        refine ⟨⟨rfl, announces.snoc (Or.inr unrefused) nofun nofun⟩, ?_⟩
        simp [forwards, kept, DriverEntry.forwarded?]
  | announced after low high gap grown kept pending =>
      have reported := tracks.reported (session.gapEvent url low high) not_false
      have stands : GapAt (session.report (session.gapEvent url low high)).log notification low
          high :=
        (@gapAt_append_quiet _ (.event (session.gapEvent url low high)) _ _ _ not_false
          (by simp)).mpr gap
      have reached : highest after.log = highest session.log := by
        rw [grown, highest_append_quiet _ rfl, highest_append_quiet _ rfl]
      have awaits : Awaits after.log ↔ Awaits session.log := by
        rw [grown, @awaits_append_quiet _ (.requested (gapRequest low high)) not_false (by simp),
          @awaits_append_quiet _ (.event (session.gapEvent url low high)) not_false (by simp)]
      have unrefused : ∀ other, .refused other ∉ after.log := by
        intro other member
        rw [grown] at member
        rcases List.mem_append.mp member with earlier | here
        · exact reported.unrefused other earlier
        · cases List.mem_singleton.mp here
      rcases send_cases (after.emitDaa notification) .forwarded notification with
        ⟨receiver, sent⟩ | refused
      · simp only [if_true, sent]
        rw [emitDaa_log]
        refine ⟨tracks_forwarded tracks notification receiver kept pending reached awaits unrefused
          ?_, ?_⟩
        · rw [grown]
          exact reported.announces.pair reported.unrefused stands (Or.inl rfl)
        · simp only [forwards, grown, List.append_assoc, List.filterMap_append]
          rfl
      · simp only [if_true, refused]
        rw [emitDaa_log]
        refine ⟨⟨rfl, ?_⟩, ?_⟩
        · rw [grown]
          exact reported.announces.pair reported.unrefused stands (Or.inr rfl)
        · simp [forwards, grown, DriverEntry.forwarded?]
  | refused after low high grown closed =>
      have reported := tracks.reported (session.gapEvent url low high) not_false
      change Halted after ∧ after.forwards = session.forwards
      refine ⟨⟨closed, ?_⟩, ?_⟩
      · rw [grown]
        exact reported.announces.snoc (Or.inr reported.unrefused) nofun nofun
      · simp [forwards, grown, DriverEntry.forwarded?]

theorem isClosed_cases (session : Session) :
    (session.isClosed = (true, session) ∧ session.receiver = some 0) ∨
      ∃ receiver, session.isClosed = (false, { session with receiver }) := by
  unfold isClosed
  cases present : session.receiver with
  | none => exact Or.inr ⟨none, by simp [← present]⟩
  | some left =>
      cases left with
      | zero => exact Or.inl ⟨rfl, rfl⟩
      | succ left => exact Or.inr ⟨some left, rfl⟩

theorem handleEach_spec {url : String} {session : Session} (tracks : Tracks session)
    (notifications : List ChainNotification) :
    let handled := session.handleEach url notifications
    if handled.1 then
      Tracks handled.2 ∧ handled.2.forwards = session.forwards ++ notifications
    else
      Halted handled.2 ∧
        ∃ read, read <+: notifications ∧ handled.2.forwards = session.forwards ++ read := by
  induction notifications generalizing session with
  | nil =>
      change Tracks session ∧ session.forwards = session.forwards ++ []
      exact ⟨tracks, (List.append_nil _).symm⟩
  | cons notification rest ih =>
      have first := @handle_spec url _ tracks notification
      unfold handleEach
      generalize session.handle url notification = handled at first ⊢
      obtain ⟨sent, after⟩ := handled
      cases sent with
      | false =>
          obtain ⟨halted, kept⟩ := first
          exact ⟨halted, [], List.nil_prefix, kept.trans (List.append_nil _).symm⟩
      | true =>
          obtain ⟨still, grown⟩ := first
          have later := ih still
          simp only [if_true] at later ⊢
          split at later
          · rename_i all
            rw [if_pos all]
            refine ⟨later.1, ?_⟩
            rw [later.2, grown, List.append_assoc, List.singleton_append]
          · rename_i some
            rw [if_neg some]
            obtain ⟨halted, read, front, forwarded⟩ := later
            refine ⟨halted, notification :: read, List.prefix_cons_inj _ |>.mpr front, ?_⟩
            rw [forwarded, grown, List.append_assoc, List.singleton_append]

/-- A connection is read to its end, or to where the receiver is found gone. -/
theorem readEach_spec {url : String} {ending : Except String Unit} {session : Session}
    (tracks : Tracks session) (batches : List (List ChainNotification)) :
    let run := session.readEach url ending batches
    (run.1 = ending ∧ Tracks run.2 ∧ run.2.forwards = session.forwards ++ batches.flatten) ∨
      (run.1 = .ok () ∧ Halted run.2 ∧
        ∃ read, read <+: batches.flatten ∧ run.2.forwards = session.forwards ++ read) := by
  induction batches generalizing session with
  | nil =>
      unfold readEach
      rcases session.isClosed_cases with ⟨closed, gone⟩ | ⟨receiver, there⟩
      · rw [closed]
        exact Or.inr ⟨rfl, ⟨gone, tracks.announces⟩, [], List.nil_prefix,
          (List.append_nil _).symm⟩
      · rw [there]
        exact Or.inl ⟨rfl, tracks.withReceiver receiver, (List.append_nil _).symm⟩
  | cons batch rest ih =>
      unfold readEach
      rcases session.isClosed_cases with ⟨closed, gone⟩ | ⟨receiver, there⟩
      · rw [closed]
        exact Or.inr ⟨rfl, ⟨gone, tracks.announces⟩, [], List.nil_prefix,
          (List.append_nil _).symm⟩
      · simp only [there, Bool.false_eq_true, if_false]
        have first := @handleEach_spec url _ (tracks.withReceiver receiver) batch
        generalize handleEach url { session with receiver } batch = handled at first ⊢
        obtain ⟨sent, after⟩ := handled
        cases sent with
        | false =>
            obtain ⟨halted, read, front, forwarded⟩ := first
            refine Or.inr ⟨rfl, halted, read, ?_, forwarded⟩
            exact front.trans (List.prefix_append _ _)
        | true =>
            obtain ⟨still, grown⟩ := first
            change after.forwards = session.forwards ++ batch at grown
            rcases ih still with ⟨ended, tracked, forwarded⟩ | ⟨ended, halted, read, front, forwarded⟩
            · refine Or.inl ⟨ended, tracked, forwarded.trans ?_⟩
              rw [grown, List.append_assoc, List.flatten_cons]
            · refine Or.inr ⟨ended, halted, batch ++ read, ?_, forwarded.trans ?_⟩
              · rw [List.flatten_cons]
                exact (List.prefix_append_right_inj batch).mpr front
              · rw [grown, List.append_assoc]

end Session

/-! ## The whole run -/

theorem runSubscriptionOnce_spec (url : String) {session : Session} (tracks : Tracks session)
    (connection : Connection) :
    let run := session.runSubscriptionOnce url connection
    (run.1 = connection.ending ∧ Tracks run.2 ∧
        run.2.forwards = session.forwards ++ connection.received) ∨
      (run.1 = .ok () ∧ Halted run.2 ∧
        ∃ read, read <+: connection.received ∧ run.2.forwards = session.forwards ++ read) :=
  Session.readEach_spec tracks connection.batches

/-- The connections a driver no longer made. -/
def DriverOutcome.unmade : DriverOutcome → List Connection
  | .gaveUp unmade => unmade
  | _ => []

/-- A driver that has found the receiver gone sends nothing more. -/
theorem runDriver_halted {url : String} {backoff : SubscriptionBackoff} {attempt : UInt32}
    {delay : UInt64} {session : Session} (halted : Halted session)
    (connections : List Connection) :
    let run := runDriver url backoff attempt delay session connections
    run.1.unmade = [] ∧ Halted run.2 ∧ run.2.forwards = session.forwards := by
  cases connections with
  | nil => exact ⟨rfl, halted, rfl⟩
  | cons connection rest =>
      have closed : session.isClosed = (true, session) := by
        unfold Session.isClosed
        rw [halted.closed]
      unfold runDriver
      rw [closed]
      refine ⟨rfl, halted.reported _, ?_⟩
      simp [Session.forwards, Session.stop, Session.report, DriverEntry.forwarded?]

private theorem forwards_report (session : Session) (event : SubscriptionDriverEvent) :
    (session.report event).forwards = session.forwards := by
  simp [Session.forwards, Session.report, DriverEntry.forwarded?]

private theorem forwards_reconnect (url : String) (session : Session) (delayMs : UInt64)
    (reason : String) :
    (session.scheduleReconnect url delayMs reason).forwards = session.forwards := by
  simp [Session.forwards, Session.scheduleReconnect, Session.report, DriverEntry.forwarded?]

/-- What the driver has read and forwarded over the connections it made. -/
def Forwarded (session : Session) (connections : List Connection)
    (run : DriverOutcome × Session) : Prop :=
  ∃ made read, connections = made ++ run.1.unmade ∧
    run.2.forwards = session.forwards ++ read ∧
    ((Tracks run.2 ∧ read = made.flatMap Connection.received) ∨
      (Halted run.2 ∧ read <+: made.flatMap Connection.received))

/-- The rest of a run, behind one connection read to its end. -/
private theorem Forwarded.behind {session after : Session} {connection : Connection}
    {rest : List Connection} {run : DriverOutcome × Session}
    (grown : after.forwards = session.forwards ++ connection.received)
    (later : Forwarded after rest run) : Forwarded session (connection :: rest) run := by
  obtain ⟨made, read, split, forwarded, ends⟩ := later
  refine ⟨connection :: made, connection.received ++ read, by rw [split, List.cons_append], ?_, ?_⟩
  · rw [forwarded, grown, List.append_assoc]
  · rw [List.flatMap_cons]
    exact ends.imp (fun whole => ⟨whole.1, by rw [whole.2]⟩)
      fun cut => ⟨cut.1, (List.prefix_append_right_inj _).mpr cut.2⟩

theorem runDriver_spec {url : String} {backoff : SubscriptionBackoff} {attempt : UInt32}
    {delay : UInt64} {session : Session} (tracks : Tracks session)
    (connections : List Connection) :
    Forwarded session connections (runDriver url backoff attempt delay session connections) := by
  induction connections generalizing attempt delay session with
  | nil => exact ⟨[], [], rfl, (List.append_nil _).symm, Or.inl ⟨tracks, rfl⟩⟩
  | cons connection rest ih =>
      unfold runDriver
      rcases session.isClosed_cases with ⟨closed, gone⟩ | ⟨receiver, there⟩
      · rw [closed]
        have stopped : Halted (session.stop url "downstream receiver closed") :=
          Halted.reported ⟨gone, tracks.announces⟩ _
        exact ⟨connection :: rest, [], (List.append_nil _).symm,
          (forwards_report _ _).trans (List.append_nil _).symm,
          Or.inr ⟨stopped, List.nil_prefix⟩⟩
      · simp only [there, Bool.false_eq_true, if_false]
        have opened : Tracks (Session.report { session with receiver }
            (.connected url session.state.reconnectCount)) :=
          (tracks.withReceiver receiver).reported _ not_false
        have kept := forwards_report { session with receiver }
          (.connected url session.state.reconnectCount)
        generalize Session.report { session with receiver } _ = fresh at opened kept ⊢
        have reads := runSubscriptionOnce_spec url opened connection
        generalize fresh.runSubscriptionOnce url connection = run at reads ⊢
        obtain ⟨ended, after⟩ := run
        rcases reads with ⟨-, tracked, grown⟩ | ⟨same, halted, read, front, grown⟩
        · change after.forwards = fresh.forwards ++ connection.received at grown
          rw [kept] at grown
          cases ended with
          | ok =>
              refine Forwarded.behind ?_ (ih (tracked.reconnect url 0 "stream ended cleanly"))
              exact (forwards_reconnect ..).trans grown
          | error err =>
              simp only
              split
              · refine ⟨[connection], connection.received, rfl, ?_, ?_⟩
                · exact (forwards_report ..).trans grown
                · exact Or.inl ⟨Tracks.reported tracked _ not_false, by simp⟩
              · refine Forwarded.behind ?_ (ih (tracked.reconnect url delay err))
                exact (forwards_reconnect ..).trans grown
        · cases same
          obtain ⟨all, still, quiet⟩ := @runDriver_halted url backoff 0 backoff.initialDelayMs _
            (halted.reconnect url 0 "stream ended cleanly") rest
          refine ⟨connection :: rest, read, ?_, ?_, Or.inr ⟨still, ?_⟩⟩
          · rw [all, List.append_nil]
          · rw [quiet, forwards_reconnect, grown, kept]
            rfl
          · rw [List.flatMap_cons]
            exact front.trans (List.prefix_append _ _)

/-- Between two requests lies a reconnect: the notification behind the first
request is fresh, and the second waits for one since its reconnect. -/
theorem Announces.reconnect_between {log : List DriverEntry} (announces : Announces log)
    {before between after : List DriverEntry} {first second : ChainNotification}
    (split : log = before ++ .requested first :: between ++ .requested second :: after) :
    ∃ entry ∈ between, entry.IsReconnect := by
  obtain ⟨_, _, _, _, late, _⟩ :=
    announces.requests (before ++ .requested first :: between) second after split
  rw [List.append_assoc, List.cons_append] at split
  obtain ⟨notification, last, next, -, gap, followed⟩ :=
    announces.requests before first (between ++ .requested second :: after) split
  obtain ⟨head, reconnect, since, same, marks, stale⟩ := late.awaits
  rcases List.append_eq_append_iff.mp same with ⟨inner, -, behind⟩ | ⟨inner, shorter, behind⟩
  · cases inner with
    | nil =>
        cases behind
        exact marks.elim
    | cons _ inner =>
        have tail := List.tail_eq_of_cons_eq behind
        exact ⟨reconnect, tail ▸ List.mem_append_right _ List.mem_cons_self, marks⟩
  · exfalso
    cases inner with
    | nil =>
        cases behind
        exact marks.elim
    | cons _ inner =>
        have tail := List.tail_eq_of_cons_eq behind
        rcases followed with ⟨later, sent⟩ | ⟨later, sent, reports⟩
        · cases between with
          | nil => cases sent
          | cons entry between =>
              cases List.head_eq_of_cons_eq sent
              refine stale notification ?_ ⟨next, gap.carried, fun low reached => ?_⟩
              · rw [tail]
                exact List.mem_append_right _ (List.mem_cons_of_mem _ List.mem_cons_self)
              · obtain ⟨top, known, below⟩ := highest_append_le head _ reached
                rw [← shorter, gap.reached] at known
                cases known
                exact UInt64.lt_of_le_of_lt below gap.above
        · cases between with
          | nil => cases sent
          | cons entry between =>
              have last := List.tail_eq_of_cons_eq sent
              exact reports (.requested second)
                (last ▸ List.mem_append_right _ List.mem_cons_self)

/-- A gap stands behind a score that was forwarded. -/
theorem GapAt.forwarded {log : List DriverEntry} {notification : ChainNotification}
    {last next : UInt64} (gap : GapAt log notification last next) :
    ∃ earlier, .forwarded earlier ∈ log ∧ earlier.daaScores ≠ [] := by
  have reached := gap.reached
  unfold highest at reached
  obtain ⟨inside, -⟩ := List.max?_eq_some_iff.mp reached
  obtain ⟨entry, member, carries⟩ := List.mem_flatMap.mp inside
  cases entry with
  | forwarded earlier => exact ⟨earlier, member, List.ne_nil_of_mem carries⟩
  | event | requested | refused => cases carries

/-- The request for a gap names exactly the scores in between, and there are some. -/
theorem GapAt.request {log : List DriverEntry} {notification : ChainNotification}
    {last next : UInt64} (gap : GapAt log notification last next) :
    ∃ fromDaa toDaa, gapRequest last next = .recoveryRequired fromDaa toDaa (gapReason last next) ∧
      fromDaa.toNat = last.toNat + 1 ∧ toDaa.toNat + 1 = next.toNat ∧
      fromDaa.toNat ≤ toDaa.toNat := by
  have missing := gap.missing
  have bound := next.toNat_lt
  have one : (1 : UInt64).toNat = 1 := rfl
  have low : (saturatingAddU64 last 1).toNat = last.toNat + 1 :=
    toNat_saturatingAddU64 (by omega)
  have high : (saturatingSubU64 next 1).toNat + 1 = next.toNat :=
    toNat_saturatingSubU64 (by omega)
  exact ⟨_, _, rfl, low, high, by omega⟩

/-- Gap detection over every sequence of connections. What is read is forwarded
once and in order, all of it while the receiver is there. A request stands right
in front of a notification exactly when that is the first fresh one after a
reconnect and jumps over scores; it covers exactly these. Between two requests
there is a reconnect, before a request some score was forwarded, and the highest
score forwarded, which the driver holds, never falls. -/
theorem gap_detection (url : String) (backoff : SubscriptionBackoff) (receiver : Option Nat)
    (connections : List Connection) :
    let run := runContinuousSubscription url backoff receiver connections
    let log := run.2.log
    (∃ made, connections = made ++ run.1.unmade ∧
      run.2.forwards <+: made.flatMap Connection.received ∧
      (run.2.receiver ≠ some 0 → run.2.forwards = made.flatMap Connection.received ∧
        run.2.state.lastEmittedDaa = highest log)) ∧
    (∀ before notification after, log = before ++ .forwarded notification :: after →
      ((∃ last next, GapAt before notification last next) ↔
        ∃ earlier request, before = earlier ++ [.requested request])) ∧
    (∀ before request after, log = before ++ .requested request :: after →
      ∃ notification last next fromDaa toDaa,
        request = .recoveryRequired fromDaa toDaa (gapReason last next) ∧
        fromDaa.toNat = last.toNat + 1 ∧ toDaa.toNat + 1 = next.toNat ∧
        fromDaa.toNat ≤ toDaa.toNat ∧
        GapAt before notification last next ∧ FollowedBy notification after) ∧
    (∀ before first between second after,
      log = before ++ .requested first :: between ++ .requested second :: after →
        ∃ entry ∈ between, entry.IsReconnect) ∧
    (∀ before request after, log = before ++ .requested request :: after →
      ∃ earlier, .forwarded earlier ∈ before ∧ earlier.daaScores ≠ []) ∧
    (∀ before after, log = before ++ after → ∀ last, highest before = some last →
      ∃ later, highest log = some later ∧ last ≤ later) := by
  intro run log
  have fresh : Tracks (.start receiver) :=
    ⟨rfl, ⟨nofun, fun awaits => by
      obtain ⟨before, reconnect, since, same, -⟩ := awaits
      exact absurd same (by simp [Session.start])⟩, nofun, ⟨by simp [Session.start], by
      simp [Session.start]⟩⟩
  obtain ⟨made, read, split, forwarded, ends⟩ :=
    @runDriver_spec url backoff 0 backoff.initialDelayMs _ fresh connections
  change run.2.forwards = [] ++ read at forwarded
  rw [List.nil_append] at forwarded
  have announces : Announces log := ends.elim (fun whole => whole.1.announces)
    fun cut => cut.1.announces
  refine ⟨⟨made, split, ?_, fun there => ?_⟩, fun before notification after same => ?_,
    fun before request after same => ?_, fun before first between second after same => ?_,
    fun before request after same => ?_, fun before after same last reached => ?_⟩
  · rw [forwarded]
    exact ends.elim (fun whole => whole.2 ▸ List.prefix_rfl) And.right
  · rcases ends with ⟨tracks, whole⟩ | ⟨halted, -⟩
    · exact ⟨forwarded.trans whole, tracks.last⟩
    · exact absurd halted.closed there
  · constructor
    · rintro ⟨last, next, gap⟩
      obtain ⟨earlier, ends⟩ := announces.complete before notification after same last next gap
      exact ⟨earlier, gapRequest last next, ends⟩
    · rintro ⟨earlier, request, ends⟩
      rw [ends, List.append_assoc] at same
      obtain ⟨about, last, next, -, gap, followed⟩ :=
        announces.requests earlier request (.forwarded notification :: after) same
      have right : about = notification := by
        rcases followed with ⟨later, sent⟩ | ⟨later, sent, -⟩
        · cases sent
          rfl
        · cases sent
      refine ⟨last, next, ?_⟩
      rw [ends, @gapAt_append_quiet _ (.requested request) _ _ _ not_false (by simp)]
      exact right ▸ gap
  · obtain ⟨notification, last, next, same', gap, followed⟩ :=
      announces.requests before request after same
    obtain ⟨fromDaa, toDaa, names, low, high, some⟩ := gap.request
    exact ⟨notification, last, next, fromDaa, toDaa, same'.trans names, low, high, some, gap,
      followed⟩
  · exact announces.reconnect_between same
  · obtain ⟨notification, last, next, -, gap, -⟩ := announces.requests before request after same
    exact gap.forwarded
  · rw [same]
    exact highest_append_le before after reached

end KasGraph

import Mathlib.Order.Monotone.Basic
import WordGame.Proofs.Server.Clock
import WordGame.Proofs.Server.Countdowns
import WordGame.Proofs.Server.Elsewhere

/-!
Which names are in use. A server gives epochs, numbers of turns and numbers of alarms in ascending
order, so names that have yet to be given can be changed without any effect on what there is to see.
-/

namespace WordGame

/-- The names that a server gives next. -/
structure Extent where
  epochs : Nat
  turns : Nat
  alarms : Nat

def Server.extent (server : Server) : Extent :=
  ⟨server.store.epochs, server.turns.toNat + 1, server.timers.count⟩

/-! ### Names within an extent -/

def Ticket.Within (extent : Extent) (ticket : Ticket) : Prop :=
  ticket.epoch < extent.epochs ∧ ticket.number.toNat < extent.turns

def Callback.Within (extent : Extent) : Callback → Prop
  | start _ epoch => epoch < extent.epochs
  | expire _ ticket => ticket.Within extent

theorem Callback.Within.epoch_lt {extent : Extent} {callback : Callback}
    (within : callback.Within extent) : callback.epoch < extent.epochs := by
  cases callback with
  | start => exact within
  | expire => exact within.1

structure View.Within (extent : Extent) (view : View) : Prop where
  room : ∀ room, view.room = some room →
    room.epoch < extent.epochs ∧ room.turnNumber.toNat < extent.turns
  turn : ∀ timer, view.timers.turn = some timer → timer.number.toNat < extent.turns
  armed : ∀ armed ∈ view.timers.armed, armed.id < extent.alarms
  alarms : ∀ alarm ∈ view.alarms, alarm.id < extent.alarms ∧ alarm.call.Within extent
  handed : ∀ callback ∈ view.handed, callback.Within extent

namespace Names

/-- The order of names is kept, and rooms without a turn are told as such. -/
structure Ascending (names : Names) : Prop where
  epoch : StrictMono names.epoch
  number : StrictMono names.number
  alarm : StrictMono names.alarm
  zero : names.number 0 = 0

/-- The numbers of turns are renamed in their order, up to the latest turn of a server. -/
def InOrder (names : Names) (server : Server) : Prop :=
  ∀ first second : UInt64, first < second → second ≤ server.turns →
    names.turn first < names.turn second

/-- Two renamings agree on all names within an extent. -/
structure Agree (names : Names) (extent : Extent) (others : Names) : Prop where
  epoch : ∀ epoch < extent.epochs, names.epoch epoch = others.epoch epoch
  number : ∀ number < extent.turns, names.number number = others.number number
  alarm : ∀ alarm < extent.alarms, names.alarm alarm = others.alarm alarm

/-- The names that one server gives next are new names for those that the other gives next. -/
structure Lead (names : Names) (other one : Extent) : Prop where
  epoch : ∀ more, names.epoch (other.epochs + more) = one.epochs + more
  number : ∀ more, names.number (other.turns + more) = one.turns + more
  alarm : ∀ more, names.alarm (other.alarms + more) = one.alarms + more

end Names

section Agreement

variable {extent : Extent} {names others : Names}

theorem Names.Agree.turn (agree : names.Agree extent others) {number : UInt64}
    (within : number.toNat < extent.turns) : names.turn number = others.turn number :=
  congrArg UInt64.ofNat (agree.number _ within)

theorem Ticket.rename_of_agree (agree : names.Agree extent others) {ticket : Ticket}
    (within : ticket.Within extent) : ticket.rename names = ticket.rename others := by
  unfold rename
  rw [agree.epoch _ within.1, agree.turn within.2]

theorem Callback.rename_of_agree (agree : names.Agree extent others) {callback : Callback}
    (within : callback.Within extent) : callback.rename names = callback.rename others := by
  cases callback with
  | start room epoch => exact congrArg (start room) (agree.epoch _ within)
  | expire room ticket => exact congrArg (expire room) (ticket.rename_of_agree agree within)

theorem Armed.rename_of_agree (agree : names.Agree extent others) {armed : Armed}
    (within : armed.id < extent.alarms) : armed.rename names = armed.rename others := by
  unfold rename
  rw [agree.alarm _ within]

theorem RoomTimers.rename_of_agree (agree : names.Agree extent others) {entry : RoomTimers}
    (armed : ∀ armed ∈ entry.armed, armed.id < extent.alarms)
    (turn : ∀ timer, entry.turn = some timer → timer.number.toNat < extent.turns) :
    entry.rename names = entry.rename others := by
  obtain ⟨countdown, timer⟩ := entry
  have countdowns : countdown.map (Armed.rename names) = countdown.map (Armed.rename others) := by
    refine Option.map_congr fun first recorded => Armed.rename_of_agree agree ?_
    exact armed first (List.mem_append_left _ (Option.mem_toList.mpr recorded))
  have turns : timer.map (TurnTimer.rename names) = timer.map (TurnTimer.rename others) := by
    refine Option.map_congr fun running recorded => ?_
    have within : running.armed.id < extent.alarms := by
      refine armed running.armed (List.mem_append_right _ ?_)
      exact Option.mem_toList.mpr (Option.mem_map_of_mem TurnTimer.armed recorded)
    unfold TurnTimer.rename
    rw [agree.turn (turn running recorded), Armed.rename_of_agree agree within]
  unfold rename
  dsimp only
  rw [countdowns, turns]

/-- Renamings that agree on all names of a view make the same of it. -/
theorem View.rename_of_agree (agree : names.Agree extent others) {view : View}
    (within : view.Within extent) : view.rename names = view.rename others := by
  have rooms : view.room.map (Room.rename names) = view.room.map (Room.rename others) := by
    refine Option.map_congr fun room present => ?_
    have bounds := within.room room present
    unfold Room.rename
    rw [agree.epoch _ bounds.1, agree.turn bounds.2]
  have alarms : view.alarms.map (Alarm.rename names) = view.alarms.map (Alarm.rename others) := by
    refine List.map_congr_left fun alarm member => ?_
    have bounds := within.alarms alarm member
    unfold Alarm.rename
    rw [agree.alarm _ bounds.1, Callback.rename_of_agree agree bounds.2]
  have handed : view.handed.map (Callback.rename names) =
      view.handed.map (Callback.rename others) :=
    List.map_congr_left fun callback member =>
      Callback.rename_of_agree agree (within.handed callback member)
  unfold rename Site.rename
  rw [rooms, alarms, handed, RoomTimers.rename_of_agree agree within.armed within.turn]

end Agreement

namespace Names

/-- Keeps the names below a bound, and lets those from the bound on begin at a new value. -/
def redirect (given : Nat → Nat) (bound value name : Nat) : Nat :=
  if name < bound then given name else value + (name - bound)

theorem redirect_of_lt {given : Nat → Nat} {bound value name : Nat} (below : name < bound) :
    redirect given bound value name = given name := if_pos below

theorem redirect_add (given : Nat → Nat) (bound value more : Nat) :
    redirect given bound value (bound + more) = value + more := by
  unfold redirect
  rw [if_neg (Nat.not_lt_of_le (Nat.le_add_right bound more)), Nat.add_sub_cancel_left]

theorem redirect_strictMono {given : Nat → Nat} {bound value : Nat} (ascending : StrictMono given)
    (above : given bound ≤ value) : StrictMono (redirect given bound value) := by
  intro first second less
  unfold redirect
  by_cases second_below : second < bound
  · rw [if_pos second_below, if_pos (Nat.lt_trans less second_below)]
    exact ascending less
  · rw [if_neg second_below]
    by_cases first_below : first < bound
    · rw [if_pos first_below]
      have up := ascending first_below
      omega
    · rw [if_neg first_below]
      omega

theorem le_redirect_zero {given : Nat → Nat} {bound value : Nat} (above : given bound ≤ value) :
    given 0 ≤ redirect given bound value 0 := by
  unfold redirect
  split
  · exact Nat.le_refl _
  · rename_i unbounded
    rw [Nat.eq_zero_of_not_pos unbounded] at above
    exact Nat.le_trans above (Nat.le_add_right _ _)

/-- New names for those that are given next. -/
def lead (names : Names) (other one : Extent) : Names where
  epoch := redirect names.epoch other.epochs one.epochs
  number := redirect names.number other.turns one.turns
  alarm := redirect names.alarm other.alarms one.alarms

variable {names : Names} {other one later : Extent}

theorem lead_lead (names : Names) (other one : Extent) : (names.lead other one).Lead other one :=
  ⟨redirect_add _ _ _, redirect_add _ _ _, redirect_add _ _ _⟩

theorem agree_lead (names : Names) (other one : Extent) :
    names.Agree other (names.lead other one) :=
  ⟨fun _ below => (redirect_of_lt below).symm, fun _ below => (redirect_of_lt below).symm,
    fun _ below => (redirect_of_lt below).symm⟩

theorem Agree.refl (names : Names) (extent : Extent) : names.Agree extent names :=
  ⟨fun _ _ => rfl, fun _ _ => rfl, fun _ _ => rfl⟩

end Names

structure Extent.Below (first second : Extent) : Prop where
  epochs : first.epochs ≤ second.epochs
  turns : first.turns ≤ second.turns
  alarms : first.alarms ≤ second.alarms

theorem View.Within.mono {view : View} {first second : Extent} (within : view.Within first)
    (below : first.Below second) : view.Within second := by
  have ticket : ∀ ticket : Ticket, ticket.Within first → ticket.Within second :=
    fun _ bounds =>
      ⟨Nat.lt_of_lt_of_le bounds.1 below.epochs, Nat.lt_of_lt_of_le bounds.2 below.turns⟩
  have called : ∀ callback : Callback, callback.Within first → callback.Within second := by
    intro callback bounds
    cases callback with
    | start room epoch => exact Nat.lt_of_lt_of_le bounds below.epochs
    | expire room issued => exact ticket issued bounds
  constructor
  · intro room present
    have bounds := within.room room present
    exact ⟨Nat.lt_of_lt_of_le bounds.1 below.epochs, Nat.lt_of_lt_of_le bounds.2 below.turns⟩
  · exact fun timer recorded => Nat.lt_of_lt_of_le (within.turn timer recorded) below.turns
  · exact fun armed recorded => Nat.lt_of_lt_of_le (within.armed armed recorded) below.alarms
  · intro alarm member
    have bounds := within.alarms alarm member
    exact ⟨Nat.lt_of_lt_of_le bounds.1 below.alarms, called alarm.call bounds.2⟩
  · exact fun callback member => called callback (within.handed callback member)

namespace Names

variable {names : Names} {other one later : Extent}

theorem Ascending.lead (ascending : names.Ascending) (leads : names.Lead other one)
    (below : one.Below later) (begun : 0 < other.turns) : (names.lead other later).Ascending where
  epoch := redirect_strictMono ascending.epoch (leads.epoch 0 ▸ below.epochs)
  number := redirect_strictMono ascending.number (leads.number 0 ▸ below.turns)
  alarm := redirect_strictMono ascending.alarm (leads.alarm 0 ▸ below.alarms)
  zero := (redirect_of_lt begun).trans ascending.zero

end Names

/-! ### The names of a server -/

namespace Server

/-- The latest turn of a room has a number that was given, and so have the rooms whose turns timers
call for. -/
structure Known (server : Server) : Prop where
  latest : ∀ id room, server.store.get? id = some room →
    room.turnNumber.toNat ≤ server.turns.toNat
  dated : ∀ id ticket, server.Calls id ticket → ticket.epoch < server.store.epochs

variable {rules : Rules} {fragment : Nat → String} {server later : Server}

theorem initial_known (config : GameConfig) : (initial config).Known where
  latest _ _ present := nomatch present
  dated _ _ called := nomatch called

theorem Step.epochs_le {occurrence : Occurrence}
    (step : server.Step rules fragment occurrence later) :
    server.store.epochs ≤ later.store.epochs := by
  cases step with
  | idle store => exact Nat.le_of_eq (congrArg RoomStore.epochs store.symm)
  | founded => exact Nat.le_succ _
  | entered | emptied | parted | strayed | answered | started | expired | outlived =>
    exact Nat.le_refl _

/-- A server has a room with the number and the epoch that something is meant for. -/
def Houses (server : Server) (callback : Callback) : Prop :=
  ∃ found, server.store.get? callback.room = some found ∧ callback.epoch = found.epoch

theorem mem_callbacks_of_played {room : RoomId} {found : Room} {move : Move} {callback : Callback}
    (called : callback ∈ (server.played rules fragment room found move).callbacks) :
    callback ∈ server.callbacks ∨
      (server.played rules fragment room found move).Houses callback := by
  rcases mem_callbacks_played called with before | ⟨ticket, issued, rfl⟩
  · exact .inl before
  · obtain ⟨running, _⟩ := running_of_issued issued
    have genuine := ((Room.runningTicket?_eq_some_iff _ _).mp running).1
    refine .inr ⟨_, get?_played server rules fragment room found move, ?_⟩
    exact ((Room.isRunning_iff _ _).mp genuine).1.symm

/-- Nothing new is called for but by the timers of a room that exists. -/
theorem Step.mem_callbacks {occurrence : Occurrence}
    (step : server.Step rules fragment occurrence later) {callback : Callback}
    (called : callback ∈ later.callbacks) :
    callback ∈ server.callbacks ∨ later.Houses callback := by
  cases step with
  | idle _ _ _ _ callbacks => exact .inl (callbacks.subset called)
  | @founded connection room =>
    rcases List.mem_append.mp called with pending | handed
    · have armed := (server.timers.calls_startCountdown _ _ _).subset pending
      rcases List.mem_append.mp armed with before | new
      · exact .inl (List.mem_append_left _ before)
      · cases List.mem_singleton.mp new
        refine .inr ⟨_, (server.store.get?_create room room _ _).trans (if_pos rfl), rfl⟩
    · exact .inl (List.mem_append_right _ handed)
  | entered | strayed => exact .inl called
  | @emptied _ room =>
    rcases List.mem_append.mp called with pending | handed
    · exact .inl (List.mem_append_left _ ((server.timers.calls_cancelRoom room).subset pending))
    · exact .inl (List.mem_append_right _ handed)
  | parted | answered => exact mem_callbacks_of_played called
  | @started index =>
    refine (mem_callbacks_of_played called).imp_left fun before => ?_
    exact (server.callbacks_eraseIdx index).subset before
  | expired => exact (mem_callbacks_of_played called).imp_left mem_callbacks_of_cleared
  | outlived => exact .inl (mem_callbacks_of_cleared called)

/-- Each room has had its latest turn before, or is the one where a move was made. -/
theorem latest_played (latest : ∀ id room, server.store.get? id = some room →
      room.turnNumber.toNat ≤ server.turns.toNat) {room : RoomId} {found : Room} {move : Move}
    (present : server.store.get? room = some found)
    (counts : server.Counts (server.played rules fragment room found move)) (id : RoomId)
    (other : Room)
    (stored : (server.played rules fragment room found move).store.get? id = some other) :
    other.turnNumber.toNat ≤ (server.played rules fragment room found move).turns.toNat := by
  by_cases here : id = room
  · rw [here, get?_played] at stored
    cases stored
    rw [Room.turnNumber_perform]
    unfold Server.played Outcome.turnsAfter
    dsimp only
    split
    · exact Nat.le_refl _
    · exact latest room found present
  · rw [server.get?_played_of_ne rules fragment found move here] at stored
    exact Nat.le_trans (latest id other stored) counts.le

theorem Step.latest {occurrence : Occurrence} (step : server.Step rules fragment occurrence later)
    (counts : server.Counts later) (latest : ∀ id room, server.store.get? id = some room →
      room.turnNumber.toNat ≤ server.turns.toNat) (id : RoomId) (room : Room)
    (present : later.store.get? id = some room) : room.turnNumber.toNat ≤ later.turns.toNat := by
  cases step with
  | idle store _ turns =>
    rw [store] at present
    rw [turns]
    exact latest id room present
  | founded =>
    rw [RoomStore.get?_create] at present
    split at present
    · cases present
      exact Nat.zero_le _
    · exact latest id room present
  | @entered connection _ registry _ _ listed =>
    exact @latest_played rules fragment { server with registry := registry } latest _ _
      (.add connection.identity.id rules.config.initialLives) listed counts id room present
  | emptied =>
    rw [RoomStore.get?_remove] at present
    split at present
    · cases present
    · exact latest id room present
  | strayed | outlived => exact latest id room present
  | @parted _ _ registry _ _ _ listed =>
    exact @latest_played rules fragment { server with registry := registry } latest _ _ _ listed
      counts id room present
  | answered listed | started _ listed | expired _ listed =>
    exact latest_played latest listed counts id room present

theorem Step.known {occurrence : Occurrence} (step : server.Step rules fragment occurrence later)
    (counts : server.Counts later) (counted : server.Counted) (known : server.Known) :
    later.Known where
  latest := step.latest counts known.latest
  dated id ticket called := by
    rcases step.mem_callbacks called with before | ⟨found, present, same⟩
    · exact Nat.lt_of_lt_of_le (known.dated id ticket before) step.epochs_le
    · change ticket.epoch = _ at same
      rw [same]
      exact (step.counted counted).founded _ found present

theorem callback_within (counted : server.Counted) (known : server.Known)
    {callback : Callback} (numbered : server.Numbered callback.room)
    (called : callback ∈ server.callbacks) : callback.Within server.extent := by
  cases callback with
  | start room epoch =>
    by_contra unknown
    have none := counted.unfounded room epoch (Nat.le_of_not_lt unknown)
    exact absurd (List.count_pos_iff.mpr called) (none ▸ Nat.lt_irrefl 0)
  | expire room ticket =>
    exact ⟨known.dated room ticket called, Nat.lt_succ_of_le (numbered.called ticket called)⟩

/-- All names that are to be seen of a room were given before. -/
theorem view_within (orderly : server.timers.Orderly) (counted : server.Counted)
    (known : server.Known) {id : RoomId} (numbered : server.Numbered id) (since : Epoch) :
    (server.view id since).Within server.extent := by
  have called : ∀ callback ∈ server.callbacks, callback.room = id →
      callback.Within server.extent := by
    rintro callback member rfl
    exact callback_within counted known numbered member
  constructor
  · intro room present
    exact ⟨counted.founded id room present, Nat.lt_succ_of_le (known.latest id room present)⟩
  · exact fun timer recorded => Nat.lt_succ_of_le (numbered.recorded timer recorded)
  · exact orderly.recorded id
  · intro alarm member
    obtain ⟨pending, concerned⟩ := List.mem_filter.mp member
    have here := (Callback.concerns_iff.mp concerned).1
    refine ⟨orderly.pending alarm pending, called alarm.call ?_ here⟩
    exact List.mem_append_left _ (List.mem_map_of_mem pending)
  · intro callback member
    obtain ⟨handed, concerned⟩ := List.mem_filter.mp member
    exact called callback (List.mem_append_right _ handed) (Callback.concerns_iff.mp concerned).1

end Server

end WordGame

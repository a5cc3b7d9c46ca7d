import WordGame.Proofs.Server.Step

/-!
What the server has on one room: its state, its members and the record of its timers.

A step of the server is a step at the site of the room that it is about, and leaves every other site
alone. What holds at every site can therefore be shown for one of them.
-/

namespace WordGame

structure Site where
  room : Option Room
  members : Table PlayerId Connection
  timers : RoomTimers

def Server.site (server : Server) (id : RoomId) : Site :=
  ⟨server.store.get? id, server.registry.members id, server.timers.entry id⟩

/-- The record of a room after the outcome of a move in it. -/
def Outcome.followed (outcome : Outcome) (entry : RoomTimers) (armed : Armed) : RoomTimers :=
  if outcome.gameOver then { entry with turn := none }
  else
    match outcome.turn with
    | some ticket =>
      if entry.isOutdated ticket.number then entry
      else { entry with turn := some ⟨ticket.number, armed⟩ }
    | none => entry

namespace Outcome

variable {outcome : Outcome}

theorem followed_of_unreported (entry : RoomTimers) (armed : Armed)
    (unreported : outcome.gameOver = false) (ticketless : outcome.turn = none) :
    outcome.followed entry armed = entry := by
  unfold followed
  rw [unreported, ticketless, if_neg Bool.false_ne_true]

theorem followed_of_reported (entry : RoomTimers) (armed : Armed)
    (reported : outcome.gameOver = true) :
    outcome.followed entry armed = { entry with turn := none } := by
  unfold followed
  rw [reported, if_pos rfl]

theorem followed_of_issued {ticket : Ticket} {entry : RoomTimers} (armed : Armed)
    (unreported : outcome.gameOver = false) (issued : outcome.turn = some ticket)
    (newer : entry.isOutdated ticket.number = false) :
    outcome.followed entry armed = { entry with turn := some ⟨ticket.number, armed⟩ } := by
  unfold followed
  rw [unreported, issued, if_neg Bool.false_ne_true]
  dsimp only
  rw [newer, if_neg Bool.false_ne_true]

theorem countdown_followed (entry : RoomTimers) (armed : Armed) :
    (outcome.followed entry armed).countdown = entry.countdown := by
  unfold followed
  split
  · rfl
  · split
    · split
      · rfl
      · rfl
    · rfl

end Outcome

theorem Outcome.entry_follow (outcome : Outcome) (room : RoomId) (timers : Timers Callback) :
    ∃ armed, (outcome.follow room timers).entry room =
      outcome.followed (timers.entry room) armed := by
  unfold follow followed
  cases outcome.gameOver with
  | true =>
    refine ⟨⟨timers.count, timers.now⟩, ?_⟩
    rw [if_pos rfl, if_pos rfl, Timers.entry_stopTurn, if_pos rfl]
  | false =>
    rw [if_neg Bool.false_ne_true]
    cases outcome.turn with
    | none => exact ⟨⟨timers.count, timers.now⟩, by rw [if_neg Bool.false_ne_true]⟩
    | some ticket =>
      refine ⟨⟨timers.count, timers.now + ticket.duration⟩, ?_⟩
      rw [if_neg Bool.false_ne_true]
      dsimp only
      rw [Timers.entry_scheduleTurn]
      cases (timers.entry room).isOutdated ticket.number with
      | false => simp
      | true => simp

theorem Outcome.entry_follow_of_ne (outcome : Outcome) {room query : RoomId}
    (timers : Timers Callback) (other : query ≠ room) :
    (outcome.follow room timers).entry query = timers.entry query := by
  unfold follow
  split
  · rw [Timers.entry_stopTurn, if_neg other]
  · split
    · rw [Timers.entry_scheduleTurn, if_neg (fun both => other both.1)]
    · rfl

namespace Site

inductive Step (rules : Rules) (capacity : Nat) (site : Site) : Site → Prop
  | away : Step rules capacity site site
  | founded (connection : Connection) (id : RoomId) (epoch : Epoch) (armed : Armed)
      (absent : site.room = none)
      (place : site.members.contains connection.identity.id = true ∨ site.members.size < capacity) :
      Step rules capacity site
        { room := some (Room.new id epoch connection.identity.id rules.config.initialLives)
          members := site.members.insert connection.identity.id connection
          timers := { site.timers with countdown := some armed } }
  | entered (connection : Connection) (found : Room) (present : site.room = some found)
      (place : site.members.contains connection.identity.id = true ∨ site.members.size < capacity) :
      Step rules capacity site
        { site with
          room := some (found.addPlayer connection.identity.id rules.config.initialLives).1
          members := site.members.insert connection.identity.id connection }
  | emptied (player : PlayerId) (last : (site.members.erase player).size = 0) :
      Step rules capacity site ⟨none, site.members.erase player, .none⟩
  | parted (player : PlayerId) (found : Room) (supply : Supply) (armed : Armed)
      (present : site.room = some found) (others : 0 < (site.members.erase player).size) :
      Step rules capacity site
        { room := some (found.perform rules supply (.remove player)).room
          members := site.members.erase player
          timers :=
            (found.perform rules supply (.remove player)).outcome.followed site.timers armed }
  | strayed (player : PlayerId) (absent : site.room = none)
      (others : 0 < (site.members.erase player).size) :
      Step rules capacity site { site with members := site.members.erase player }
  | answered (player : PlayerId) (text : String) (found : Room) (supply : Supply) (armed : Armed)
      (present : site.room = some found) :
      Step rules capacity site
        { site with
          room := some (found.perform rules supply (.answer player text)).room
          timers :=
            (found.perform rules supply (.answer player text)).outcome.followed site.timers armed }
  | started (found : Room) (supply : Supply) (armed : Armed) (present : site.room = some found) :
      Step rules capacity site
        { site with
          room := some (found.perform rules supply .start).room
          timers :=
            (found.perform rules supply .start).outcome.followed
              { site.timers with countdown := none } armed }
  | expired (ticket : Ticket) (found : Room) (supply : Supply) (armed : Armed)
      (present : site.room = some found) :
      Step rules capacity site
        { site with
          room := some (found.perform rules supply (.expire ticket)).room
          timers :=
            (found.perform rules supply (.expire ticket)).outcome.followed
              (site.timers.cleared ticket.number) armed }
  | outlived (number : UInt64) (absent : site.room = none) :
      Step rules capacity site { site with timers := site.timers.cleared number }

end Site

namespace Server

variable {rules : Rules} {fragment : Nat → String} {server later : Server}

theorem site_of_same {id : RoomId} (store : later.store.get? id = server.store.get? id)
    (members : later.registry.members id = server.registry.members id)
    (entry : later.timers.entry id = server.timers.entry id) : later.site id = server.site id := by
  unfold site
  rw [store, members, entry]

theorem entry_of_recorded (recorded : later.timers.recorded = server.timers.recorded)
    (id : RoomId) : later.timers.entry id = server.timers.entry id := by
  unfold Timers.entry
  rw [recorded]

theorem site_played_of_ne (server : Server) (rules : Rules) (fragment : Nat → String)
    {room id : RoomId} (found : Room) (move : Move) (other : id ≠ room) :
    (server.played rules fragment room found move).site id = server.site id := by
  refine site_of_same ?_ rfl ?_
  · unfold played
    dsimp only
    rw [RoomStore.get?_put, if_neg other]
  · exact Outcome.entry_follow_of_ne _ _ other

theorem site_played (server : Server) (rules : Rules) (fragment : Nat → String) (room : RoomId)
    (found : Room) (move : Move) :
    ∃ armed, (server.played rules fragment room found move).site room =
      { room := some (found.perform rules ⟨server.turns + 1, fragment⟩ move).room
        members := server.registry.members room
        timers :=
          (found.perform rules ⟨server.turns + 1, fragment⟩ move).outcome.followed
            (server.timers.entry room) armed } := by
  obtain ⟨armed, followed⟩ :=
    (found.perform rules ⟨server.turns + 1, fragment⟩ move).outcome.entry_follow room server.timers
  refine ⟨armed, ?_⟩
  unfold site played
  dsimp only
  rw [RoomStore.get?_put, if_pos rfl, followed]

theorem site_of_site_played {start : Server} {room id : RoomId} {found : Room} {move : Move}
    (same : id ≠ room → start.site id = server.site id)
    (here : id = room → ∀ armed, (server.site room).Step rules server.registry.capacity
      { room := some (found.perform rules ⟨start.turns + 1, fragment⟩ move).room
        members := start.registry.members room
        timers :=
          (found.perform rules ⟨start.turns + 1, fragment⟩ move).outcome.followed
            (start.timers.entry room) armed }) :
    (server.site id).Step rules server.registry.capacity
      ((start.played rules fragment room found move).site id) := by
  by_cases atRoom : id = room
  · subst atRoom
    obtain ⟨armed, site⟩ := site_played start rules fragment id found move
    rw [site]
    exact here rfl armed
  · rw [site_played_of_ne start rules fragment found move atRoom, same atRoom]
    exact .away

/-- A step of the server is a step, or none, at every site. -/
theorem Step.site {occurrence : Occurrence} (step : server.Step rules fragment occurrence later)
    (id : RoomId) :
    (server.site id).Step rules server.registry.capacity (later.site id) := by
  cases step with
  | idle store registry _ recorded =>
    have same : later.site id = server.site id := by
      refine site_of_same ?_ ?_ (entry_of_recorded recorded id)
      · rw [store]
      · rw [registry]
    rw [same]
    exact .away
  | @founded connection room registry registers absent =>
    unfold Server.site
    dsimp only
    rw [RoomStore.get?_create, registers.members, Timers.entry_startCountdown]
    by_cases here : id = room
    · subst here
      rw [if_pos rfl, if_pos rfl, if_pos rfl]
      exact .founded connection id server.store.epochs _ absent registers.place
    · rw [if_neg here, if_neg here, if_neg here]
      exact .away
  | @entered connection room registry found registers present =>
    unfold Server.site
    dsimp only
    rw [RoomStore.get?_put, registers.members]
    by_cases here : id = room
    · subst here
      rw [if_pos rfl, if_pos rfl]
      exact .entered connection found present registers.place
    · rw [if_neg here, if_neg here]
      exact .away
  | @emptied connection room registry unregisters =>
    unfold Server.site
    dsimp only
    rw [RoomStore.get?_remove, unregisters.members, Timers.entry_cancelRoom]
    by_cases here : id = room
    · subst here
      rw [if_pos rfl, if_pos rfl, if_pos rfl]
      exact .emptied connection.identity.id unregisters.size_erase
    · rw [if_neg here, if_neg here, if_neg here]
      exact .away
  | @parted connection room registry found left unregisters present =>
    refine site_of_site_played (fun other => ?_) (fun _ armed => ?_)
    · exact site_of_same rfl ((unregisters.members id).trans (if_neg other)) rfl
    · dsimp only
      rw [unregisters.members, if_pos rfl]
      refine .parted connection.identity.id found ⟨server.turns + 1, fragment⟩ armed present ?_
      change 0 < ((server.registry.members room).erase connection.identity.id).size
      rw [unregisters.size_erase]
      exact Nat.succ_pos left
  | @strayed connection room registry left unregisters absent =>
    unfold Server.site
    dsimp only
    rw [unregisters.members]
    by_cases here : id = room
    · subst here
      rw [if_pos rfl]
      refine .strayed connection.identity.id absent ?_
      rw [unregisters.size_erase]
      exact Nat.succ_pos left
    · rw [if_neg here]
      exact .away
  | @answered room player text found present =>
    refine site_of_site_played (fun _ => rfl) (fun _ armed => ?_)
    exact .answered player text found ⟨server.turns + 1, fragment⟩ armed present
  | @started index room found _ present =>
    refine site_of_site_played (fun other => ?_) (fun _ armed => ?_)
    · refine site_of_same rfl rfl ?_
      dsimp only
      rw [Timers.entry_clearCountdown, if_neg other]
    · dsimp only
      rw [Timers.entry_clearCountdown, if_pos rfl]
      exact .started found ⟨server.turns + 1, fragment⟩ armed present
  | @expired index room ticket found _ present =>
    refine site_of_site_played (fun other => ?_) (fun _ armed => ?_)
    · refine site_of_same rfl rfl ?_
      dsimp only
      rw [Timers.entry_clearTurn, if_neg other]
    · dsimp only
      rw [Timers.entry_clearTurn, if_pos rfl]
      exact .expired ticket found ⟨server.turns + 1, fragment⟩ armed present
  | @outlived index room ticket _ absent =>
    unfold Server.site
    dsimp only
    rw [Timers.entry_clearTurn]
    by_cases here : id = room
    · subst here
      rw [if_pos rfl]
      exact .outlived ticket.number absent
    · rw [if_neg here]
      exact .away

theorem Step.capacity {occurrence : Occurrence}
    (step : server.Step rules fragment occurrence later) :
    later.registry.capacity = server.registry.capacity := by
  cases step with
  | idle _ registry => rw [registry]
  | founded registers | entered registers => exact registers.capacity
  | emptied unregisters | parted unregisters | strayed unregisters => exact unregisters.capacity
  | answered | started | expired | outlived => rfl

end Server

end WordGame

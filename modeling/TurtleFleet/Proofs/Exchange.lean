import TurtleFleet.Proofs.Chronicle
import TurtleFleet.Proofs.Clients
import TurtleFleet.Proofs.Receipts

/-! The exchange between workers and a fleet. What is seen of the fleet reaches the streams signal by
signal, while clients connect, look for responses and take events, all in any order. A worker that
looks for the number of its submission finds the response to just that command as soon as it went out,
unless it took that response out before, and never finds another one. -/

namespace TurtleFleet

variable {C M W : Type}

/-- A fleet and the clients that listen to it. -/
structure Exchange (C M W : Type) where
  stage : Stage C M W
  /-- The signals that were seen and did not reach the streams yet. -/
  underway : List Signal := []
  /-- The signals that reached the streams. -/
  aired : List Signal := []
  bus : Bus
  clients : List Client := []

inductive Move (C W : Type) where
  /-- Something is done with the fleet, once all that was seen before has reached the streams. -/
  | deed (deed : Deed C W)
  /-- The next few signals reach the streams. -/
  | air (count : Nat)
  /-- One more client connects. -/
  | connect (handle : Submitter)
  /-- A client looks for the response to a submission. Whoever waits longer looks again. -/
  | wait (worker id : Nat)
  /-- A client takes the oldest event that it did not use. -/
  | next (worker : Nat)

def Move.deed? : Move C W → Option (Deed C W)
  | .deed done => some done
  | _ => none

def Move.deeds (moves : List (Move C W)) : List (Deed C W) := moves.filterMap deed?

theorem Move.deeds_append (first second : List (Move C W)) :
    deeds (first ++ second) = deeds first ++ deeds second := List.filterMap_append

namespace Exchange

/-- A stage on which no one listens yet. -/
def opened (stage : Stage C M W) (capacity : Nat) : Exchange C M W :=
  { stage, bus := .ofCapacity capacity }

/-- The next few signals reach the streams. -/
def arrive (exchange : Exchange C M W) (count : Nat) : Exchange C M W :=
  { exchange with
    underway := exchange.underway.drop count
    aired := exchange.aired ++ exchange.underway.take count
    bus := exchange.bus.absorbAll (exchange.underway.take count) }

def connect (exchange : Exchange C M W) (handle : Submitter) : Exchange C M W :=
  match Client.connect handle exchange.bus with
  | .error _ => exchange
  | .ok (client, bus) => { exchange with bus, clients := exchange.clients ++ [client] }

/-- A client looks at its stream. Answers what it came back with. -/
def look {α : Type} (exchange : Exchange C M W) (worker : Nat)
    (f : Client → Receiver → Poll α × Client × Receiver) : Option α × Exchange C M W :=
  match exchange.clients[worker]? with
  | none => (none, exchange)
  | some client =>
    let (poll, client, bus) := client.look exchange.bus f
    (poll.value?, { exchange with bus, clients := exchange.clients.set worker client })

/-- The response that a client finds if it looks for the response to a submission. -/
def answer (exchange : Exchange C M W) (worker id : Nat) : Option Response :=
  (exchange.look worker (·.waitFor id)).1

/-- The responses that went out on the stream of a turtle since so many signals were aired, until the
stream ended. -/
def reached (exchange : Exchange C M W) (turtle : TurtleId) (since : Nat) : List Response :=
  streamed turtle (exchange.aired.drop since)

/-- The responses that a client takes out in a move. -/
def takenIn (worker : Nat) (exchange : Exchange C M W) : Move C W → List Response
  | .wait other id => if other = worker then (exchange.answer other id).toList else []
  | .next other =>
    if other = worker then carried (exchange.look other Client.next).1.toList else []
  | _ => []

variable [Command C] [World W] [WorkMonitor M]

def happen (exchange : Exchange C M W) (deed : Deed C W) : Exchange C M W :=
  let stage := exchange.stage.next deed
  { exchange.arrive exchange.underway.length with
    stage, underway := stage.signals.drop exchange.stage.signals.length }

def next (exchange : Exchange C M W) : Move C W → Exchange C M W
  | .deed deed => exchange.happen deed
  | .air count => exchange.arrive count
  | .connect handle => exchange.connect handle
  | .wait worker id => (exchange.look worker (·.waitFor id)).2
  | .next worker => (exchange.look worker Client.next).2

/-- The responses that a client takes out in some moves. -/
def taken (worker : Nat) : Exchange C M W → List (Move C W) → List Response
  | _, [] => []
  | exchange, move :: moves =>
    takenIn worker exchange move ++ taken worker (exchange.next move) moves

/-- The moves lead from one exchange to another, and no deed among them breaks off. -/
inductive Leads : Exchange C M W → List (Move C W) → Exchange C M W → Prop where
  | rest (exchange : Exchange C M W) : Leads exchange [] exchange
  | step {exchange last : Exchange C M W} {move : Move C W} {moves : List (Move C W)}
      (whole : ∀ deed ∈ move.deed?, ¬ exchange.stage.Breaks deed.perform)
      (later : Leads (exchange.next move) moves last) : Leads exchange (move :: moves) last

omit [Command C] [World W] [WorkMonitor M] in
/-- The receiver of a client does not lag, and its backlog has room. -/
def Calm (exchange : Exchange C M W) (worker : Nat) : Prop :=
  ∀ client ∈ exchange.clients[worker]?, client.backlog.length < backlogLimit ∧
    ∀ receiver ∈ exchange.bus.receiver? client.receiver, receiver.missed = 0

/-- All stays calm for a client during some moves. -/
def StaysCalm (worker : Nat) : Exchange C M W → List (Move C W) → Prop
  | exchange, [] => exchange.Calm worker
  | exchange, move :: moves => exchange.Calm worker ∧ StaysCalm worker (exchange.next move) moves

omit [Command C] [World W] [WorkMonitor M] in
instance (exchange : Exchange C M W) (worker : Nat) : Decidable (exchange.Calm worker) :=
  inferInstanceAs (Decidable (∀ client ∈ exchange.clients[worker]?,
    client.backlog.length < backlogLimit ∧
      ∀ receiver ∈ exchange.bus.receiver? client.receiver, receiver.missed = 0))

instance decidableStaysCalm (worker : Nat) : (exchange : Exchange C M W) →
    (moves : List (Move C W)) → Decidable (exchange.StaysCalm worker moves)
  | exchange, [] => inferInstanceAs (Decidable (exchange.Calm worker))
  | exchange, move :: moves =>
    have := decidableStaysCalm worker (exchange.next move) moves
    inferInstanceAs (Decidable (exchange.Calm worker ∧ (exchange.next move).StaysCalm worker moves))

/-! ### What a move leaves as it is -/

section

omit [Command C] [World W] [WorkMonitor M]

variable {exchange : Exchange C M W} {α : Type}
  {f : Client → Receiver → Poll α × Client × Receiver}

/-- A connection adds a client, or nothing if the stream cannot be opened. -/
theorem connect_cases (exchange : Exchange C M W) (handle : Submitter) :
    exchange.connect handle = exchange ∨ ∃ client bus,
      Client.connect handle exchange.bus = .ok (client, bus) ∧
        exchange.connect handle =
          { exchange with bus, clients := exchange.clients ++ [client] } := by
  rw [connect]
  cases connected : Client.connect handle exchange.bus with
  | error fault => exact .inl rfl
  | ok made => exact .inr ⟨made.1, made.2, rfl, rfl⟩

theorem subscribe_of_connect {handle : Submitter} {before after : Bus} {client : Client}
    (connected : Client.connect handle before = .ok (client, after)) :
    client = { submitter := handle, receiver := client.receiver } ∧
      before.subscribe handle.turtleId = .ok (client.receiver, after) := by
  rw [Client.connect] at connected
  cases subscribed : before.subscribe handle.turtleId with
  | error fault =>
    rw [subscribed] at connected
    cases connected
  | ok made =>
    rw [subscribed] at connected
    cases connected
    exact ⟨rfl, rfl⟩

theorem look_of_listens {worker : Nat} {client after : Client} {receiver left : Receiver}
    {poll : Poll α} (connected : exchange.clients[worker]? = some client)
    (listens : exchange.bus.receiver? client.receiver = some receiver)
    (looked : f client receiver = (poll, after, left)) :
    exchange.look worker f = (poll.value?, { exchange with
      bus := exchange.bus.setReceiver after.receiver left
      clients := exchange.clients.set worker after }) := by
  rw [look, connected]
  show (Poll.value? (client.look exchange.bus f).1, _) = _
  rw [Client.look, listens]
  simp only [looked]

/-- A look changes its client and the receiver of that client, if anything. -/
theorem look_cases (exchange : Exchange C M W) (worker : Nat) (stays : Client.Stays f) :
    (exchange.look worker f).2 = exchange ∨ ∃ client after left,
      exchange.clients[worker]? = some client ∧ after.receiver = client.receiver ∧
        (exchange.look worker f).2 = { exchange with
          bus := exchange.bus.setReceiver client.receiver left
          clients := exchange.clients.set worker after } := by
  cases connected : exchange.clients[worker]? with
  | none =>
    rw [look, connected]
    exact .inl rfl
  | some client =>
    cases listens : exchange.bus.receiver? client.receiver with
    | none =>
      have unchanged : exchange.clients.set worker client = exchange.clients := by
        obtain ⟨inside, same⟩ := List.getElem?_eq_some_iff.mp connected
        rw [← same, List.set_getElem_self]
      rw [look, connected]
      show Exchange.mk _ _ _ (client.look exchange.bus f).2.2
        (exchange.clients.set worker (client.look exchange.bus f).2.1) = exchange ∨ _
      rw [Client.look, listens, unchanged]
      exact .inl rfl
    | some receiver =>
      rcases looked : f client receiver with ⟨poll, after, left⟩
      have same : after.receiver = client.receiver := by
        have kept := stays client receiver
        rwa [looked] at kept
      refine .inr ⟨client, after, left, rfl, same, ?_⟩
      rw [look_of_listens connected listens looked, same]

/-- Clients leave the stage and what is under way as they are. -/
theorem connect_idle (exchange : Exchange C M W) (handle : Submitter) :
    (exchange.connect handle).stage = exchange.stage ∧
      (exchange.connect handle).underway = exchange.underway := by
  rw [connect]
  cases Client.connect handle exchange.bus <;> exact ⟨rfl, rfl⟩

theorem look_idle (exchange : Exchange C M W) (worker : Nat) :
    (exchange.look worker f).2.stage = exchange.stage ∧
      (exchange.look worker f).2.underway = exchange.underway := by
  rw [look]
  cases exchange.clients[worker]? <;> exact ⟨rfl, rfl⟩

end

theorem Leads.stage {first last : Exchange C M W} {moves : List (Move C W)}
    (led : first.Leads moves last) : first.stage.Leads (Move.deeds moves) last.stage := by
  induction led with
  | rest exchange => exact .rest exchange.stage
  | @step exchange last move moves whole later ih =>
    have still (same : (exchange.next move).stage = exchange.stage) :
        exchange.stage.Leads (Move.deeds moves) last.stage := by
      rw [← same]
      exact ih
    cases move with
    | deed deed => exact .step (whole deed rfl) ih
    | air count => exact still rfl
    | connect handle => exact still (exchange.connect_idle handle).1
    | wait worker id => exact still (exchange.look_idle worker).1
    | next worker => exact still (exchange.look_idle worker).1

/-! ### What holds of every exchange -/

omit [Command C] [World W] [WorkMonitor M] in
/-- All that was seen reached the streams or is under way, and every client has a receiver of its
own. -/
structure Sound (exchange : Exchange C M W) : Prop where
  seen : exchange.stage.signals = exchange.aired ++ exchange.underway
  numbered : exchange.bus.Numbered
  known : ∀ client ∈ exchange.clients, client.receiver < exchange.bus.nextReceiver
  apart : (exchange.clients.map (·.receiver)).Nodup

namespace Sound

variable {exchange : Exchange C M W}

section

omit [Command C] [World W] [WorkMonitor M]

theorem opened {stage : Stage C M W} (silent : stage.signals = []) (capacity : Nat) :
    (opened stage capacity).Sound :=
  ⟨silent, fun _ => nofun, fun _ => nofun, List.nodup_nil⟩

theorem arrive (sound : exchange.Sound) (count : Nat) : (exchange.arrive count).Sound where
  seen := by
    show exchange.stage.signals =
      (exchange.aired ++ exchange.underway.take count) ++ exchange.underway.drop count
    rw [List.append_assoc, List.take_append_drop]
    exact sound.seen
  numbered := sound.numbered.absorbAll _
  known client listed := by
    show client.receiver < (exchange.bus.absorbAll _).nextReceiver
    rw [Bus.nextReceiver_absorbAll]
    exact sound.known client listed
  apart := sound.apart

theorem connect (sound : exchange.Sound) (handle : Submitter) :
    (exchange.connect handle).Sound := by
  rcases exchange.connect_cases handle with same | ⟨client, bus, connected, same⟩
  · rw [same]
    exact sound
  · obtain ⟨_, subscribed⟩ := subscribe_of_connect connected
    obtain ⟨number, counted, numbered, _, _⟩ := sound.numbered.subscribe subscribed
    rw [same]
    refine ⟨sound.seen, numbered, fun other listed => ?_, ?_⟩
    · rw [counted]
      rcases List.mem_append.mp listed with known | new
      · exact Nat.lt_succ_of_lt (sound.known other known)
      · rw [List.mem_singleton.mp new, number]
        exact Nat.lt_succ_self _
    · rw [List.map_append]
      refine List.nodup_append.mpr ⟨sound.apart, List.nodup_singleton _, ?_⟩
      intro taken old fresh new
      obtain ⟨other, known, own⟩ := List.mem_map.mp old
      have older := sound.known other known
      have latest : fresh = exchange.bus.nextReceiver := (List.mem_singleton.mp new).trans number
      omega

theorem look {α : Type} {f : Client → Receiver → Poll α × Client × Receiver}
    (sound : exchange.Sound) (worker : Nat) (stays : Client.Stays f) :
    (exchange.look worker f).2.Sound := by
  rcases exchange.look_cases worker stays with same | ⟨client, after, left, connected, own, same⟩
  · rw [same]
    exact sound
  · have receivers : (exchange.clients.set worker after).map (·.receiver) =
        exchange.clients.map (·.receiver) := by
      have there : (exchange.clients.map (·.receiver))[worker]? = some client.receiver := by
        rw [List.getElem?_map, connected]
        rfl
      obtain ⟨inside, value⟩ := List.getElem?_eq_some_iff.mp there
      rw [List.map_set, own, ← value, List.set_getElem_self]
    rw [same]
    refine ⟨sound.seen, sound.numbered.changeWhere _ _, fun other listed => ?_, ?_⟩
    · have numbers : other.receiver ∈ (exchange.clients.set worker after).map (·.receiver) :=
        List.mem_map_of_mem listed
      rw [receivers] at numbers
      obtain ⟨known, before, number⟩ := List.mem_map.mp numbers
      rw [← number]
      exact sound.known known before
    · rw [receivers]
      exact sound.apart

end

theorem happen (sound : exchange.Sound) {deed : Deed C W}
    (whole : ¬ exchange.stage.Breaks deed.perform) : (exchange.happen deed).Sound := by
  have arrived := sound.arrive exchange.underway.length
  refine ⟨?_, arrived.numbered, arrived.known, arrived.apart⟩
  obtain ⟨news, seen, _⟩ := exchange.stage.signals_next whole
  show (exchange.stage.next deed).signals =
    (exchange.aired ++ exchange.underway.take exchange.underway.length) ++
      (exchange.stage.next deed).signals.drop exchange.stage.signals.length
  rw [List.take_length, ← sound.seen, seen, List.drop_left]

theorem next (sound : exchange.Sound) {move : Move C W}
    (whole : ∀ deed ∈ move.deed?, ¬ exchange.stage.Breaks deed.perform) :
    (exchange.next move).Sound := by
  cases move with
  | deed deed => exact sound.happen (whole deed rfl)
  | air count => exact sound.arrive count
  | connect handle => exact sound.connect handle
  | wait worker id => exact sound.look worker (Client.stays_waitFor id)
  | next worker => exact sound.look worker Client.stays_next

theorem of_leads {last : Exchange C M W} {moves : List (Move C W)} (sound : exchange.Sound)
    (led : exchange.Leads moves last) : last.Sound := by
  induction led with
  | rest exchange => exact sound
  | step whole later ih => exact ih (sound.next whole)

end Sound

/-! ### What a worker has -/

section

omit [Command C] [World W] [WorkMonitor M]

/-- A worker that listens to the stream of a turtle since so many signals were aired. What it took out
and what it can still find is what went out since. -/
structure Attends (exchange : Exchange C M W) (worker : Nat) (turtle : TurtleId) (since : Nat)
    (taken : List Response) (client : Client) (receiver : Receiver) : Prop where
  connected : exchange.clients[worker]? = some client
  listens : exchange.bus.receiver? client.receiver = some receiver
  turtleId : receiver.turtleId = turtle
  smooth : receiver.missed = 0
  begun : since ≤ exchange.aired.length
  isOpen : receiver.isOpen = true ↔ .closed turtle ∉ exchange.aired.drop since
  balance : (taken ++ client.offers receiver).Perm (exchange.reached turtle since)

namespace Attends

variable {exchange : Exchange C M W} {worker since : Nat} {turtle : TurtleId}
  {taken : List Response} {client : Client} {receiver : Receiver} {α : Type}
  {f : Client → Receiver → Poll α × Client × Receiver}

/-- Whoever just connected has nothing yet. -/
theorem opened (sound : exchange.Sound) {handle : Submitter} {client : Client} {bus : Bus}
    (connected : Client.connect handle exchange.bus = .ok (client, bus)) :
    (exchange.connect handle).Attends exchange.clients.length handle.turtleId
      exchange.aired.length [] client { turtleId := handle.turtleId } := by
  obtain ⟨fresh, subscribed⟩ := subscribe_of_connect connected
  obtain ⟨_, _, _, listens, _⟩ := sound.numbered.subscribe subscribed
  have made : exchange.connect handle =
      { exchange with bus, clients := exchange.clients ++ [client] } := by
    rw [Exchange.connect, connected]
  rw [made]
  refine ⟨List.getElem?_concat_length, listens, rfl, rfl, Nat.le_refl _, ?_, ?_⟩
  · simp
  · rw [reached, List.drop_length, fresh]
    exact .refl _

theorem arrive (attends : exchange.Attends worker turtle since taken client receiver) {count : Nat}
    (calm : (exchange.arrive count).Calm worker) :
    ∃ left, (exchange.arrive count).Attends worker turtle since taken client left := by
  have listens : (exchange.arrive count).bus.receiver? client.receiver =
      some ((exchange.underway.take count).foldl (·.hear exchange.bus.capacity ·) receiver) := by
    rw [Exchange.arrive, Bus.receiver?_absorbAll, attends.listens, Option.map_some]
  have smooth := (calm client attends.connected).2 _ listens
  obtain ⟨_, gets⟩ := Receiver.gets_all smooth
  have later : (exchange.arrive count).aired.drop since =
      exchange.aired.drop since ++ exchange.underway.take count :=
    List.drop_append_of_le_length attends.begun
  refine ⟨_, attends.connected, listens, gets.turtleId.trans attends.turtleId, smooth, ?_, ?_, ?_⟩
  · show since ≤ (exchange.aired ++ exchange.underway.take count).length
    rw [List.length_append]
    exact Nat.le_add_right_of_le attends.begun
  · rw [gets.isOpen, attends.isOpen, attends.turtleId, later, List.mem_append, not_or]
  · have more := attends.balance.append_right
      (if receiver.isOpen then streamed turtle (exchange.underway.take count) else [])
    rw [reached, later, streamed_append_of attends.isOpen, Client.offers, gets.unread,
      attends.turtleId]
    rw [Client.offers, List.append_assoc, List.append_assoc] at more
    exact more

theorem connect (attends : exchange.Attends worker turtle since taken client receiver)
    (sound : exchange.Sound) (handle : Submitter) :
    (exchange.connect handle).Attends worker turtle since taken client receiver := by
  rcases exchange.connect_cases handle with same | ⟨other, bus, connected, same⟩
  · rw [same]
    exact attends
  · obtain ⟨_, subscribed⟩ := subscribe_of_connect connected
    obtain ⟨number, _, _, _, others⟩ := sound.numbered.subscribe subscribed
    have older := sound.known client (List.mem_of_getElem? attends.connected)
    rw [same]
    refine { attends with connected := ?_, listens := ?_ }
    · obtain ⟨inside, _⟩ := List.getElem?_eq_some_iff.mp attends.connected
      rw [List.getElem?_append_left inside]
      exact attends.connected
    · rw [others _ (by omega)]
      exact attends.listens

theorem look_of_ne (attends : exchange.Attends worker turtle since taken client receiver)
    (sound : exchange.Sound) {other : Nat} (apart : other ≠ worker) (stays : Client.Stays f) :
    (exchange.look other f).2.Attends worker turtle since taken client receiver := by
  rcases exchange.look_cases other stays with same | ⟨known, after, left, connected, own, same⟩
  · rw [same]
    exact attends
  · have numbers : client.receiver ≠ known.receiver := by
      intro equal
      have first : (exchange.clients.map (·.receiver))[other]? = some known.receiver := by
        rw [List.getElem?_map, connected]
        rfl
      have second : (exchange.clients.map (·.receiver))[worker]? = some known.receiver := by
        rw [List.getElem?_map, attends.connected, ← equal]
        rfl
      obtain ⟨inside, _⟩ := List.getElem?_eq_some_iff.mp first
      exact apart ((List.getElem?_inj inside sound.apart).mp (first.trans second.symm))
    rw [same]
    refine { attends with connected := ?_, listens := ?_ }
    · rw [List.getElem?_set_ne apart]
      exact attends.connected
    · rw [Bus.receiver?_setReceiver, if_neg numbers]
      exact attends.listens

/-- What a worker takes out it can find no longer. -/
theorem look (attends : exchange.Attends worker turtle since taken client receiver)
    (stays : Client.Stays f) (calm : (exchange.look worker f).2.Calm worker)
    (news : Option α → List Response)
    (takes : ∀ {poll : Poll α} {after : Client} {left : Receiver},
      f client receiver = (poll, after, left) → after.backlog.length < backlogLimit →
        client.Takes receiver (news poll.value?) after left) :
    ∃ after left, (exchange.look worker f).2.Attends worker turtle since
      (taken ++ news (exchange.look worker f).1) after left := by
  rcases looked : f client receiver with ⟨poll, after, left⟩
  have own : after.receiver = client.receiver := by
    have kept := stays client receiver
    rwa [looked] at kept
  have made := look_of_listens attends.connected attends.listens looked
  rw [made] at calm ⊢
  have connected : (exchange.clients.set worker after)[worker]? = some after := by
    obtain ⟨inside, _⟩ := List.getElem?_eq_some_iff.mp attends.connected
    exact List.getElem?_set_self inside
  have listens : (exchange.bus.setReceiver after.receiver left).receiver? after.receiver =
      some left := by
    rw [Bus.receiver?_setReceiver, if_pos rfl, own, attends.listens, Option.map_some]
  obtain ⟨room, smooth⟩ := calm after connected
  have taking := takes looked room
  refine ⟨after, left, connected, listens, taking.turtleId.trans attends.turtleId,
    smooth left listens, attends.begun, ?_, ?_⟩
  · rw [taking.isOpen]
    exact attends.isOpen
  · rw [List.append_assoc]
    exact (taking.balance.symm.append_left taken).trans attends.balance

/-- A worker finds a response of the number that it looks for, if there is one. -/
theorem answer (attends : exchange.Attends worker turtle since taken client receiver) (id : Nat) :
    (∀ response ∈ exchange.answer worker id,
      response.id = id ∧ response ∈ client.offers receiver) ∧
    (exchange.answer worker id = none → ∀ response ∈ client.offers receiver, response.id ≠ id) := by
  rcases looked : client.waitFor id receiver with ⟨poll, after, left⟩
  have found := client.value?_waitFor attends.smooth id
  rw [looked] at found
  rw [Exchange.answer, look_of_listens attends.connected attends.listens looked]
  exact found

end Attends

end

/-- Whatever happens, what a worker took out and what it can still find is what went out. -/
theorem Attends.next {exchange : Exchange C M W} {worker since : Nat} {turtle : TurtleId}
    {taken : List Response} {client : Client} {receiver : Receiver}
    (attends : exchange.Attends worker turtle since taken client receiver) (sound : exchange.Sound)
    {move : Move C W} (calm : (exchange.next move).Calm worker) :
    ∃ after left, (exchange.next move).Attends worker turtle since
      (taken ++ takenIn worker exchange move) after left := by
  have still (after : Exchange C M W) {kept : Client} {left : Receiver}
      (same : after.Attends worker turtle since taken kept left) :
      ∃ kept left, after.Attends worker turtle since (taken ++ []) kept left := by
    rw [List.append_nil]
    exact ⟨kept, left, same⟩
  cases move with
  | deed deed =>
    have arrived : (exchange.arrive exchange.underway.length).Calm worker := calm
    obtain ⟨left, after⟩ := attends.arrive arrived
    exact still (exchange.happen deed) { after with }
  | air count =>
    obtain ⟨left, after⟩ := attends.arrive calm
    exact still _ after
  | connect handle => exact still _ (attends.connect sound handle)
  | wait other id =>
    by_cases own : other = worker
    · subst own
      rw [takenIn, if_pos rfl]
      exact attends.look (Client.stays_waitFor id) calm (·.toList) fun looked room =>
        Client.takes_waitFor attends.smooth looked room
    · rw [takenIn, if_neg own]
      exact still _ (attends.look_of_ne sound own (Client.stays_waitFor id))
  | next other =>
    by_cases own : other = worker
    · subst own
      rw [takenIn, if_pos rfl]
      exact attends.look Client.stays_next calm (fun event => carried event.toList)
        fun looked _ => Client.takes_next attends.smooth looked
    · rw [takenIn, if_neg own]
      exact still _ (attends.look_of_ne sound own Client.stays_next)

theorem Attends.of_leads {exchange last : Exchange C M W} {worker since : Nat} {turtle : TurtleId}
    {taken : List Response} {client : Client} {receiver : Receiver} {moves : List (Move C W)}
    (attends : exchange.Attends worker turtle since taken client receiver) (sound : exchange.Sound)
    (led : exchange.Leads moves last) (calm : exchange.StaysCalm worker moves) :
    ∃ after left, last.Attends worker turtle since (taken ++ exchange.taken worker moves) after left := by
  induction led generalizing taken client receiver with
  | rest exchange =>
    rw [Exchange.taken, List.append_nil]
    exact ⟨client, receiver, attends⟩
  | @step exchange last move moves whole later ih =>
    have calmNext : (exchange.next move).Calm worker := by
      cases moves with
      | nil => exact calm.2
      | cons => exact calm.2.1
    obtain ⟨kept, left, attendsNext⟩ := attends.next sound calmNext
    rw [Exchange.taken, ← List.append_assoc]
    exact ih attendsNext (sound.next whole) calm.2

end Exchange

end TurtleFleet

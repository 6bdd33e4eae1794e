import TurtleFleet.Proofs.Exchange
import TurtleFleet.Proofs.Memory

/-! Workers: every worker gets its own answer. Whatever goes out on the stream of a registration in
force is published for it, and all that is published for it goes out. The number of a submission tells
the response to it from all others that go out, so that a worker which looks for that number finds the
response to just its command, as soon as it went out, also behind the end of the stream. -/

namespace TurtleFleet

variable {C M W : Type}

variable [Command C] [World W] [WorkMonitor M]

/-! ### What answers a submission -/

/-- What is published under the number of a submission settles its command. -/
theorem Stage.settles_of_receipt {start last : Stage C M W} {course : List (Deed C W)}
    {handle : Submitter} (opening : start.Opening) (led : start.Leads course last)
    (honest : Honest [] start course)
    (few : (Receipt.through handle (start.receipts course)).length < word64)
    {receipt : Receipt C} (given : receipt ∈ Receipt.through handle (start.receipts course))
    {response : Response} (published : response ∈ start.published handle course)
    (same : response.id = receipt.entry.id) :
    receipt.accepted = true ∧
      last.Settles handle (start.work handle course) receipt.entry response := by
  have unmistakable := receipts_unmistakable opening led honest few
  obtain ⟨dropped, all⟩ := (Roll.of_opening opening).receipts_of_unlisted led honest
    (List.not_mem_nil : handle ∉ ([] : List Submitter))
  have chronicle : Chronicle last handle (start.accepted handle course)
      (start.work handle course) (start.published handle course) :=
    .of_leads (.of_leads opening (.rest start)) led (.of_opening opening handle)
      (.of_opening opening handle)
  have fewAccepted : (start.accepted handle course).length < word64 := by
    refine Nat.lt_of_le_of_lt ?_ few
    rw [all, List.length_append, Receipt.series, List.length_map, length_numbered]
    exact Nat.le_add_right _ _
  obtain ⟨entry, listed, number, settles⟩ := chronicle.settles fewAccepted published
  have accepted : receipt.accepted = true := by
    cases value : receipt.accepted with
    | true => rfl
    | false => exact (unmistakable.unseen receipt given value response published same).elim
  rw [← Receipt.map_entry_series handle true] at listed
  obtain ⟨other, accepting, equal⟩ := List.mem_map.mp listed
  have otherGiven : other ∈ Receipt.through handle (start.receipts course) := by
    rw [all]
    exact List.mem_append_left _ accepting
  have one : other = receipt := by
    apply List.inj_on_of_nodup_map unmistakable.unique otherGiven given
    rw [equal, number, same]
  rw [one] at equal
  rw [equal]
  exact ⟨accepted, settles⟩

namespace Exchange

/-! ### What is under way -/

/-- An exchange after some deeds. What is under way for a registration in force is published for it. -/
structure Follows (start : Stage C M W) (course : List (Deed C W)) (exchange : Exchange C M W) :
    Prop where
  led : start.Leads course exchange.stage
  sound : exchange.Sound
  goesOn : ∀ handle member, exchange.stage.fleet.holder? handle = some member →
    .closed handle.turtleId ∉ exchange.underway
  own : ∀ handle member, exchange.stage.fleet.holder? handle = some member →
    heard handle.turtleId exchange.underway ⊆ start.published handle course

namespace Follows

variable {start : Stage C M W} {course : List (Deed C W)} {exchange last : Exchange C M W}

theorem opened (opening : start.Opening) (capacity : Nat) :
    Follows start [] (opened start capacity) :=
  ⟨.rest start, .opened opening.signals capacity, fun _ _ _ => List.not_mem_nil,
    fun _ _ _ => List.nil_subset _⟩

/-- No deed was done, and nothing more is under way. -/
theorem idle (follows : Follows start course exchange) {after : Exchange C M W}
    (sound : after.Sound) (same : after.stage = exchange.stage)
    (less : after.underway.Sublist exchange.underway) : Follows start course after := by
  refine ⟨?_, sound, ?_, ?_⟩
  · rw [same]
    exact follows.led
  · rw [same]
    intro handle member held ended
    exact follows.goesOn handle member held (less.subset ended)
  · rw [same]
    intro handle member held
    exact List.Subset.trans (less.filterMap _).subset (follows.own handle member held)

theorem happen (follows : Follows start course exchange) (opening : start.Opening)
    {deed : Deed C W} (whole : ¬ exchange.stage.Breaks deed.perform) :
    Follows start (course ++ [deed]) (exchange.happen deed) := by
  have booked := Stage.Booked.of_leads opening follows.led
  obtain ⟨news, seen, _⟩ := exchange.stage.signals_next whole
  have underway : (exchange.happen deed).underway = news := by
    show (exchange.stage.next deed).signals.drop exchange.stage.signals.length = news
    rw [seen, List.drop_left]
  refine ⟨follows.led.append (.step whole (.rest _)), follows.sound.happen whole, ?_, ?_⟩
  · intro handle member held
    rw [underway]
    exact (Stage.heard_next_of_held booked whole held seen).1
  · intro handle member held
    have all : start.published handle (course ++ [deed]) =
        start.published handle course ++ (Stage.publishedIn handle exchange.stage deed ++ []) :=
      Stage.collect_append _ follows.led [deed]
    rw [underway, (Stage.heard_next_of_held booked whole held seen).2, all, List.append_nil]
    exact List.subset_append_right _ _

theorem next (follows : Follows start course exchange) (opening : start.Opening)
    {move : Move C W} (whole : ∀ deed ∈ move.deed?, ¬ exchange.stage.Breaks deed.perform) :
    Follows start (course ++ Move.deeds [move]) (exchange.next move) := by
  have sound := follows.sound.next whole
  have still (less : (exchange.next move).underway.Sublist exchange.underway)
      (same : (exchange.next move).stage = exchange.stage) :
      Follows start (course ++ []) (exchange.next move) := by
    rw [List.append_nil]
    exact follows.idle sound same less
  cases move with
  | deed deed => exact follows.happen opening (whole deed rfl)
  | air count => exact still (List.drop_sublist ..) rfl
  | connect handle =>
    obtain ⟨same, kept⟩ := exchange.connect_idle handle
    exact still (kept ▸ List.Sublist.refl _) same
  | wait worker id =>
    obtain ⟨same, kept⟩ := exchange.look_idle worker
    exact still (kept ▸ List.Sublist.refl _) same
  | next worker =>
    obtain ⟨same, kept⟩ := exchange.look_idle worker
    exact still (kept ▸ List.Sublist.refl _) same

theorem of_leads (follows : Follows start course exchange) (opening : start.Opening)
    {moves : List (Move C W)} (led : exchange.Leads moves last) :
    Follows start (course ++ Move.deeds moves) last := by
  induction led generalizing course with
  | rest exchange =>
    rw [Move.deeds, List.filterMap_nil, List.append_nil]
    exact follows
  | @step exchange last move moves whole later ih =>
    have split : Move.deeds (move :: moves) = Move.deeds [move] ++ Move.deeds moves :=
      Move.deeds_append [move] moves
    rw [split, ← List.append_assoc]
    exact ih (follows.next opening whole)

end Follows

/-! ### What goes out to a worker -/

/-- A worker connected when its registration was in force. Since then all was calm for it. -/
structure Session (start : Stage C M W) (earlier later : List (Deed C W))
    (before last : Exchange C M W) (handle : Submitter) (worker : Nat) (taken : List Response) :
    Prop where
  opening : start.Opening
  follows : Follows start earlier before
  held : ∃ member, before.stage.fleet.holder? handle = some member
  led : before.stage.Leads later last.stage
  sound : last.Sound
  attends : ∃ client receiver,
    last.Attends worker handle.turtleId before.aired.length taken client receiver

namespace Session

variable {start : Stage C M W} {earlier later : List (Deed C W)} {before last : Exchange C M W}
  {handle : Submitter} {worker : Nat} {taken : List Response}
  (session : Session start earlier later before last handle worker taken)

include session

theorem published_append :
    start.published handle (earlier ++ later) =
      start.published handle earlier ++ before.stage.published handle later :=
  Stage.collect_append _ session.follows.led later

theorem streamed :
    streamed handle.turtleId (last.aired.drop before.aired.length ++ last.underway) =
      heard handle.turtleId before.underway ++ before.stage.published handle later := by
  obtain ⟨member, held⟩ := session.held
  obtain ⟨_, _, attends⟩ := session.attends
  obtain ⟨news, seen⟩ := Stage.signals_of_leads session.led
  have since : last.aired.drop before.aired.length ++ last.underway = before.underway ++ news := by
    rw [← List.drop_append_of_le_length attends.begun, ← session.sound.seen, seen,
      session.follows.sound.seen, List.append_assoc, List.drop_left]
  rw [since, streamed_append (session.follows.goesOn handle member held),
    Stage.streamed_of_leads (.of_leads session.opening session.follows.led) session.led held seen]

theorem reached_subset :
    last.reached handle.turtleId before.aired.length ⊆ start.published handle (earlier ++ later) := by
  obtain ⟨member, held⟩ := session.held
  intro response listed
  have inAll := (streamed_prefix_append _ _ last.underway).subset listed
  rw [session.streamed] at inAll
  rw [session.published_append]
  rcases List.mem_append.mp inAll with early | late
  · exact List.mem_append_left _ (session.follows.own handle member held early)
  · exact List.mem_append_right _ late

/-- What was published since reaches the worker, as far as it is not under way. -/
theorem mem_reached {response : Response}
    (published : response ∈ before.stage.published handle later)
    (arrived : response ∉ heard handle.turtleId last.underway) :
    response ∈ last.reached handle.turtleId before.aired.length := by
  have inAll : response ∈ TurtleFleet.streamed handle.turtleId
      (last.aired.drop before.aired.length ++ last.underway) := by
    rw [session.streamed]
    exact List.mem_append_right _ published
  exact (mem_streamed_append inAll).resolve_right arrived

/-- What a worker finds was published for its registration, under the number that it looked for. -/
theorem published_of_answer {id : Nat} {response : Response}
    (answered : last.answer worker id = some response) :
    response.id = id ∧ response ∈ start.published handle (earlier ++ later) := by
  obtain ⟨client, receiver, attends⟩ := session.attends
  obtain ⟨same, offered⟩ := (attends.answer id).1 response answered
  exact ⟨same, session.reached_subset
    (attends.balance.subset (List.mem_append_right taken offered))⟩

/-- A worker finds what reached it, if no two responses share a number. -/
theorem answer_of_reached (once : ((start.published handle (earlier ++ later)).map (·.id)).Nodup)
    {response : Response} (reached : response ∈ last.reached handle.turtleId before.aired.length)
    (kept : response ∉ taken) : last.answer worker response.id = some response := by
  obtain ⟨client, receiver, attends⟩ := session.attends
  have offered : response ∈ client.offers receiver :=
    (List.mem_append.mp (attends.balance.mem_iff.mpr reached)).resolve_left kept
  cases found : last.answer worker response.id with
  | none => exact ((attends.answer response.id).2 found response offered rfl).elim
  | some other =>
    obtain ⟨number, published⟩ := session.published_of_answer found
    rw [List.inj_on_of_nodup_map once published (session.reached_subset reached) number]

theorem reached_of_published (honest : start.Honest [] (earlier ++ later))
    (few : (Receipt.through handle (start.receipts (earlier ++ later))).length < word64)
    {receipt : Receipt C} (given : receipt ∈ Receipt.through handle (before.stage.receipts later))
    {response : Response} (published : response ∈ start.published handle (earlier ++ later))
    (same : response.id = receipt.entry.id)
    (arrived : response ∉ heard handle.turtleId last.underway) :
    response ∈ last.reached handle.turtleId before.aired.length := by
  have receipts : Receipt.through handle (start.receipts (earlier ++ later)) =
      Receipt.through handle (start.receipts earlier) ++
        Receipt.through handle (before.stage.receipts later) := by
    rw [← Receipt.through_append]
    exact congrArg _ (Stage.collect_append _ session.follows.led later)
  have unique := (Stage.receipts_unmistakable session.opening
    (session.follows.led.append session.led) honest few).unique
  rw [receipts, List.length_append] at few
  rw [receipts, List.map_append] at unique
  -- The number was handed out after the worker connected, so no response went out under it before.
  refine session.mem_reached ?_ arrived
  rw [session.published_append] at published
  refine (List.mem_append.mp published).resolve_left fun early => ?_
  have answered := (Stage.receipts_unmistakable session.opening session.follows.led honest.left
    (Nat.lt_of_le_of_lt (Nat.le_add_right _ _) few)).answered.subset (List.mem_map_of_mem early)
  obtain ⟨other, accepted, number⟩ := List.mem_map.mp answered
  exact (List.nodup_append.mp unique).2.2 other.entry.id
    (List.mem_map_of_mem (List.mem_filter.mp accepted).1) receipt.entry.id
    (List.mem_map_of_mem given) (number.trans same)

end Session

/-- Every worker gets its own answer. Whatever it finds when it looks for the number of its submission
is the response to just that command. Once that response reached its stream the worker finds it, also
if the stream ended since, unless it took the response out before. The response to what was submitted
after the worker connected does reach its stream, once it was published. -/
theorem every_worker_gets_its_own_answer {start : Stage C M W} {capacity : Nat}
    {earlier later : List (Move C W)} {before last : Exchange C M W} {handle : Submitter}
    (opening : start.Opening) (led : (Exchange.opened start capacity).Leads earlier before)
    (held : (before.stage.fleet.holder? handle).isSome)
    (connected : (Client.connect handle before.bus).isOk)
    (ledOn : (before.connect handle).Leads later last)
    (calm : (before.connect handle).StaysCalm before.clients.length later)
    (honest : start.Honest [] (Move.deeds (earlier ++ later)))
    (few : (Receipt.through handle (start.receipts (Move.deeds (earlier ++ later)))).length < word64)
    {receipt : Receipt C} (given : receipt ∈ start.receipts (Move.deeds (earlier ++ later)))
    (own : receipt.handle = handle) (response : Response) :
    (last.answer before.clients.length receipt.entry.id = some response →
      response.id = receipt.entry.id ∧ receipt.accepted = true ∧
        last.stage.Settles handle (start.work handle (Move.deeds (earlier ++ later)))
          receipt.entry response) ∧
    (response.id = receipt.entry.id →
      response ∈ last.reached handle.turtleId before.aired.length →
        response ∉ (before.connect handle).taken before.clients.length later →
          last.answer before.clients.length receipt.entry.id = some response) ∧
    (response.id = receipt.entry.id → receipt ∈ before.stage.receipts (Move.deeds later) →
      response ∈ start.published handle (Move.deeds (earlier ++ later)) →
        response ∉ heard handle.turtleId last.underway →
          response ∈ last.reached handle.turtleId before.aired.length) := by
  have follows : Follows start (Move.deeds earlier) before :=
    (Follows.opened opening capacity).of_leads opening led
  have sound := follows.sound.connect handle
  obtain ⟨idle, _⟩ := before.connect_idle handle
  have ledStage : before.stage.Leads (Move.deeds later) last.stage := by
    rw [← idle]
    exact ledOn.stage
  obtain ⟨connection, made⟩ : ∃ connection, Client.connect handle before.bus = .ok connection := by
    cases made : Client.connect handle before.bus with
    | error fault =>
      rw [made] at connected
      cases connected
    | ok connection => exact ⟨connection, rfl⟩
  have session : Session start (Move.deeds earlier) (Move.deeds later) before last handle
      before.clients.length ((before.connect handle).taken before.clients.length later) :=
    { opening, follows, held := Option.isSome_iff_exists.mp held, led := ledStage
      sound := sound.of_leads ledOn
      attends := (Attends.opened follows.sound made).of_leads sound ledOn calm }
  have mine : receipt ∈ Receipt.through handle (start.receipts (Move.deeds (earlier ++ later))) :=
    List.mem_filter.mpr ⟨given, decide_eq_true own⟩
  rw [Move.deeds_append] at honest few mine ⊢
  have course := follows.led.append ledStage
  refine ⟨fun answered => ?_, fun same reached kept => ?_, fun same late published arrived => ?_⟩
  · obtain ⟨same, published⟩ := session.published_of_answer answered
    exact ⟨same, Stage.settles_of_receipt opening course honest few mine published same⟩
  · rw [← same]
    exact session.answer_of_reached
      (Stage.receipts_unmistakable opening course honest few).once reached kept
  · exact session.reached_of_published honest few
      (List.mem_filter.mpr ⟨late, decide_eq_true own⟩) published same arrived

section

variable {C M : Type} [Command C] [WorkMonitor M]

def run (exchange : Exchange C M MemoryWorld) (moves : List (Move C MemoryWorld)) :
    Exchange C M MemoryWorld := moves.foldl next exchange

theorem leads_run (exchange : Exchange C M MemoryWorld) (moves : List (Move C MemoryWorld)) :
    exchange.Leads moves (exchange.run moves) := by
  induction moves generalizing exchange with
  | nil => exact .rest exchange
  | cons move rest ih =>
    exact .step (fun deed _ => exchange.stage.whole_of_memory deed) (ih (exchange.next move))

end

/-- A turtle was registered, and no one listens yet. -/
def registered : Exchange TurtleCommand WorkBudget MemoryWorld :=
  (opened Sample.stage 16).run [.deed (.register Sample.scout)]

def joined : Exchange TurtleCommand WorkBudget MemoryWorld := registered.connect ⟨"scout", 0⟩

/-- A worker that submits two commands and looks for the second response first. The turtle is removed
before it comes to the second command. -/
def removalMoves : List (Move TurtleCommand MemoryWorld) :=
  [.deed (.submitVia ⟨"scout", 0⟩ .getFuelLevel), .deed (.submitVia ⟨"scout", 0⟩ (.select 3)),
    .deed Sample.tick, .air 9, .wait 0 2, .deed (.remove "scout"), .air 9]

theorem every_worker_gets_its_own_answer_removalMoves :
    Sample.stage.Opening ∧
      (opened Sample.stage 16).Leads [.deed (.register Sample.scout)] registered ∧
      (registered.stage.fleet.holder? ⟨"scout", 0⟩).isSome ∧
      (Client.connect ⟨"scout", 0⟩ registered.bus).isOk ∧
      joined.Leads removalMoves (joined.run removalMoves) ∧
      joined.StaysCalm 0 removalMoves ∧
      Sample.stage.Honest [] (Move.deeds (.deed (.register Sample.scout) :: removalMoves)) ∧
      (Receipt.through ⟨"scout", 0⟩ (Sample.stage.receipts
        (Move.deeds (.deed (.register Sample.scout) :: removalMoves)))).length < word64 ∧
      ⟨⟨"scout", 0⟩, ⟨2, .select 3⟩, true⟩ ∈ Sample.stage.receipts
        (Move.deeds (.deed (.register Sample.scout) :: removalMoves)) ∧
      ∃ response, response.id = 2 ∧
        (joined.run removalMoves).answer 0 2 = some response ∧
        (joined.run removalMoves).stage.Settles ⟨"scout", 0⟩
          (Sample.stage.work ⟨"scout", 0⟩
            (Move.deeds (.deed (.register Sample.scout) :: removalMoves)))
          ⟨2, .select 3⟩ response := by
  have led := leads_run (opened Sample.stage 16) [.deed (.register Sample.scout)]
  have held : (registered.stage.fleet.holder? ⟨"scout", 0⟩).isSome := by decide +kernel
  have connected : (Client.connect ⟨"scout", 0⟩ registered.bus).isOk := by decide +kernel
  have ledOn := leads_run joined removalMoves
  have calm : joined.StaysCalm 0 removalMoves := by decide +kernel
  have honest : Sample.stage.Honest []
      (Move.deeds (.deed (.register Sample.scout) :: removalMoves)) := by
    refine .step nofun (.step ?_ (.step ?_ (.step nofun (.step nofun .rest))))
    all_goals
      intro arrival submitted
      rw [List.mem_singleton.mp submitted]
      decide +kernel
  have few : (Receipt.through ⟨"scout", 0⟩ (Sample.stage.receipts
      (Move.deeds (.deed (.register Sample.scout) :: removalMoves)))).length < word64 := by
    decide +kernel
  have late : ⟨⟨"scout", 0⟩, ⟨2, .select 3⟩, true⟩ ∈
      registered.stage.receipts (Move.deeds removalMoves) := by
    have receipts : registered.stage.receipts (Move.deeds removalMoves) =
        [⟨⟨"scout", 0⟩, ⟨1, .getFuelLevel⟩, true⟩, ⟨⟨"scout", 0⟩, ⟨2, .select 3⟩, true⟩] := by rfl
    rw [receipts]
    exact List.mem_cons_of_mem _ (List.mem_singleton_self _)
  have given : ⟨⟨"scout", 0⟩, ⟨2, .select 3⟩, true⟩ ∈ Sample.stage.receipts
      (Move.deeds (.deed (.register Sample.scout) :: removalMoves)) := late
  have gets (response : Response) := every_worker_gets_its_own_answer Sample.opening led held
    connected ledOn calm honest few given rfl response
  have ids : (Sample.stage.published ⟨"scout", 0⟩
      (Move.deeds (.deed (.register Sample.scout) :: removalMoves))).map (·.id) = [1, 2] := by rfl
  obtain ⟨response, published, second⟩ : ∃ response ∈ Sample.stage.published ⟨"scout", 0⟩
      (Move.deeds (.deed (.register Sample.scout) :: removalMoves)), response.id = 2 := by
    apply List.mem_map.mp
    rw [ids]
    decide
  have arrived : response ∉ heard "scout" (joined.run removalMoves).underway := by
    have nothing : (joined.run removalMoves).underway = [] :=
      List.length_eq_zero_iff.mp (by decide +kernel)
    rw [nothing]
    exact List.not_mem_nil
  have kept : response ∉ joined.taken 0 removalMoves := by
    have nothing : joined.taken 0 removalMoves = [] :=
      List.length_eq_zero_iff.mp (by decide +kernel)
    rw [nothing]
    exact List.not_mem_nil
  have reached := (gets response).2.2 second late published arrived
  have answered := (gets response).2.1 second reached kept
  exact ⟨Sample.opening, led, held, connected, ledOn, calm, honest, few, given, response, second,
    answered, ((gets response).1 answered).2.2⟩

/-- A worker that takes its own response as the next event. -/
def nextMoves : List (Move TurtleCommand MemoryWorld) :=
  [.deed (.submitVia ⟨"scout", 0⟩ (.select 3)), .deed Sample.tick, .air 9, .next 0]

/-- A worker that took its own response as an event does not find it any more. -/
theorem taken_answers_are_gone_nextMoves :
    Sample.stage.Opening ∧
      (opened Sample.stage 16).Leads [.deed (.register Sample.scout)] registered ∧
      (registered.stage.fleet.holder? ⟨"scout", 0⟩).isSome ∧
      (Client.connect ⟨"scout", 0⟩ registered.bus).isOk ∧
      joined.Leads nextMoves (joined.run nextMoves) ∧
      joined.StaysCalm 0 nextMoves ∧
      registered.stage.receipts (Move.deeds nextMoves) =
        [⟨⟨"scout", 0⟩, ⟨1, .select 3⟩, true⟩] ∧
      ∃ response ∈ Sample.stage.published ⟨"scout", 0⟩
          (Move.deeds (.deed (.register Sample.scout) :: nextMoves)),
        response.id = 1 ∧
          response ∉ heard "scout" (joined.run nextMoves).underway ∧
          (joined.run nextMoves).answer 0 1 = none := by
  have ids : (Sample.stage.published ⟨"scout", 0⟩
      (Move.deeds (.deed (.register Sample.scout) :: nextMoves))).map (·.id) = [1] := by rfl
  obtain ⟨response, published, first⟩ : ∃ response ∈ Sample.stage.published ⟨"scout", 0⟩
      (Move.deeds (.deed (.register Sample.scout) :: nextMoves)), response.id = 1 := by
    apply List.mem_map.mp
    rw [ids]
    decide
  have nothing : (joined.run nextMoves).underway = [] :=
    List.length_eq_zero_iff.mp (by decide +kernel)
  refine ⟨Sample.opening, leads_run _ _, by decide +kernel, by decide +kernel, leads_run _ _,
    by decide +kernel, by rfl, response, published, first, ?_, ?_⟩
  · rw [nothing]
    exact List.not_mem_nil
  · exact Option.not_isSome_iff_eq_none.mp (by decide +kernel)

end Exchange

end TurtleFleet

import Landscape.Proofs.Delivery.Pass

/-!
Delivery over whole runs. Passes of a dispatcher alternate with whatever others do to its post, and every
attempt of every pass is on the first event that was not delivered yet. A subscriber that stays listed
therefore takes each event that left the queue, in order, once and once more for each attempt that failed
behind it; of the event in front it may have taken some already, and of later ones nothing.
-/

namespace Landscape.Delivery

namespace Attempt

def accepts (subscriber : String) (attempt : Attempt) : List ForwardedEvent :=
  List.replicate (attempt.took.count subscriber) attempt.event

def isLate (subscriber : String) (attempt : Attempt) : Bool :=
  match attempt.refused with
  | none => false
  | some (url, _) => attempt.listed.idxOf subscriber < attempt.listed.idxOf url

def Lists (subscriber : String) (attempt : Attempt) : Prop :=
  subscriber ∈ attempt.listed ∧ attempt.listed.Nodup

variable {subscriber : String} {attempt : Attempt}

theorem late_failed (delivered : attempt.isDelivered = true) :
    attempt.isLate subscriber = false := by
  rw [isDelivered, Option.isNone_iff_eq_none] at delivered
  rw [isLate, delivered]

theorem count_delivered (exact : attempt.Exact) (lists : attempt.Lists subscriber)
    (delivered : attempt.isDelivered = true) : attempt.took.count subscriber = 1 := by
  rw [isDelivered, Option.isNone_iff_eq_none] at delivered
  rw [Exact, delivered] at exact
  rw [exact]
  exact List.count_eq_one_of_mem lists.2 lists.1

theorem count_failed (exact : attempt.Exact) (lists : attempt.Lists subscriber)
    (failed : attempt.isDelivered = false) :
    attempt.took.count subscriber = (attempt.isLate subscriber).toNat := by
  cases refused : attempt.refused with
  | none => simp [isDelivered, refused] at failed
  | some refusal =>
      obtain ⟨url, reason⟩ := refusal
      rw [Exact, refused] at exact
      obtain ⟨unreached, split⟩ := exact
      obtain ⟨here, once⟩ := lists
      rw [split] at here once
      have fresh : url ∉ attempt.took := by
        intro member
        exact (List.nodup_append.mp once).2.2 url member url List.mem_cons_self rfl
      have place : attempt.listed.idxOf url = attempt.took.length := by
        rw [split, List.idxOf_append_of_notMem fresh, List.idxOf_cons_self, Nat.add_zero]
      rw [isLate, refused]
      simp only [place]
      by_cases took : subscriber ∈ attempt.took
      · have before : attempt.listed.idxOf subscriber < attempt.took.length := by
          rw [split, List.idxOf_append_of_mem took]
          exact List.idxOf_lt_length_of_mem took
        rw [List.count_eq_one_of_mem (List.nodup_append.mp once).1 took]
        simp [before]
      · have behind : ¬attempt.listed.idxOf subscriber < attempt.took.length := by
          rw [split, List.idxOf_append_of_notMem took]
          omega
        rw [List.count_eq_zero_of_not_mem took]
        simp [behind]

end Attempt

def accepted (subscriber : String) (attempts : List Attempt) : List ForwardedEvent :=
  attempts.flatMap (Attempt.accepts subscriber)

def during : Nat → List Attempt → List Attempt
  | _, [] => []
  | 0, attempt :: rest => if attempt.isDelivered then [attempt] else attempt :: during 0 rest
  | turn + 1, attempt :: rest =>
      if attempt.isDelivered then during turn rest else during (turn + 1) rest

/-- How many attempts on the event of that turn failed at someone listed after the subscriber. -/
def late (subscriber : String) (attempts : List Attempt) (turn : Nat) : Nat :=
  (during turn attempts).countP (Attempt.isLate subscriber)

def blocks (counts : Nat → Nat) : List ForwardedEvent → List ForwardedEvent
  | [] => []
  | event :: rest => List.replicate (counts 0) event ++ blocks (fun turn => counts (turn + 1)) rest

section Turns
variable {subscriber : String} {attempt : Attempt} (rest : List Attempt)

theorem late_delivered_first (delivered : attempt.isDelivered = true) :
    late subscriber (attempt :: rest) 0 = 0 := by
  simp [late, during, delivered, Attempt.late_failed delivered]

theorem late_delivered_next (delivered : attempt.isDelivered = true) (turn : Nat) :
    late subscriber (attempt :: rest) (turn + 1) = late subscriber rest turn := by
  simp [late, during, delivered]

theorem late_failed_first (failed : attempt.isDelivered = false) :
    late subscriber (attempt :: rest) 0 =
      (attempt.isLate subscriber).toNat + late subscriber rest 0 := by
  cases behind : attempt.isLate subscriber <;>
    simp [late, during, failed, behind, Nat.add_comm]

theorem late_failed_next (failed : attempt.isDelivered = false) (turn : Nat) :
    late subscriber (attempt :: rest) (turn + 1) = late subscriber rest (turn + 1) := by
  simp [late, during, failed]

end Turns

/-- In an orderly run a subscriber that is always listed takes every delivered event in its turn, and of
the rest at most the first. -/
theorem accepted_blocks {subscriber : String} {events left : List ForwardedEvent}
    {attempts : List Attempt} (orderly : Orderly events attempts left)
    (exact : ∀ attempt ∈ attempts, attempt.Exact)
    (lists : ∀ attempt ∈ attempts, attempt.Lists subscriber) :
    accepted subscriber attempts =
      blocks (fun turn => 1 + late subscriber attempts turn)
          (events.take (deliveries attempts).length) ++
        ((events.drop (deliveries attempts).length).take 1).flatMap
          (List.replicate (late subscriber attempts (deliveries attempts).length)) := by
  induction orderly with
  | @rest events =>
      cases events with
      | nil => rfl
      | cons event rest => rfl
  | @failed event events attempt attempts left on failed _ ih =>
      have same : deliveries (attempt :: attempts) = deliveries attempts :=
        List.filter_cons_of_neg (by simp [failed])
      have taken := Attempt.count_failed (exact attempt List.mem_cons_self)
        (lists attempt List.mem_cons_self) failed
      have later := ih (fun other member => exact other (List.mem_cons_of_mem attempt member))
        fun other member => lists other (List.mem_cons_of_mem attempt member)
      rw [accepted, List.flatMap_cons, Attempt.accepts, on, taken, same]
      rw [accepted] at later
      rw [later]
      -- the attempt adds to the block that the later ones begin with, whether it is delivered or not
      cases (deliveries attempts).length with
      | zero =>
          rw [late_failed_first attempts failed]
          simp [blocks, List.replicate_append_replicate]
      | succ turn =>
          simp only [List.take_succ_cons, List.drop_succ_cons, blocks,
            late_failed_first attempts failed, late_failed_next attempts failed]
          rw [← List.append_assoc, ← List.append_assoc, List.replicate_append_replicate,
            Nat.add_left_comm]
  | @delivered event events attempt attempts left on delivered _ ih =>
      have same : deliveries (attempt :: attempts) = attempt :: deliveries attempts :=
        List.filter_cons_of_pos delivered
      have taken := Attempt.count_delivered (exact attempt List.mem_cons_self)
        (lists attempt List.mem_cons_self) delivered
      have later := ih (fun other member => exact other (List.mem_cons_of_mem attempt member))
        fun other member => lists other (List.mem_cons_of_mem attempt member)
      rw [accepted, List.flatMap_cons, Attempt.accepts, on, taken, same]
      rw [accepted] at later
      -- the event takes its own block along, and the later ones move up by one turn
      rw [later, List.length_cons]
      simp only [List.take_succ_cons, List.drop_succ_cons, blocks,
        late_delivered_first attempts delivered, late_delivered_next attempts delivered,
        Nat.add_zero, List.append_assoc]

inductive Move (Outside : Type) where
  | pass (carry : Carry Outside) (settings : DispatcherSettings)
  | others (act : Estate Outside → Estate Outside)

section Running
variable {Outside : Type}

def Move.perform (dispatcher : Dispatcher) (estate : Estate Outside) : Move Outside → Estate Outside
  | pass carry settings => (estate.dispatchPending carry (dispatcher.withSettings settings)).2
  | others act => act estate

def performMoves (dispatcher : Dispatcher) (moves : List (Move Outside)) (estate : Estate Outside) :
    Estate Outside :=
  moves.foldl (Move.perform dispatcher) estate

/-- Others, and the carrier during a pass, only append events and change who subscribes. -/
def Move.Courteous (dispatcher : Dispatcher) (kept : String → Prop) : Move Outside → Prop
  | pass carry settings => Delivery.Courteous carry (dispatcher.withSettings settings) kept
  | others act => ∀ estate, dispatcher.Ready estate → ∃ more, dispatcher.Goes kept estate more (act estate)

/-- A run of moves: the attempts of its passes in order, and what was appended in order. -/
inductive Ran (dispatcher : Dispatcher) (kept : String → Prop) :
    List (Move Outside) → Estate Outside → List Attempt → List ForwardedEvent → Estate Outside →
      Prop where
  | nothing {estate} : Ran dispatcher kept [] estate [] [] estate
  | pass {carry settings moves estate middle after first attempts more others answer}
      (passed : Passed carry (dispatcher.withSettings settings) kept (max settings.maxBatch 1) estate first
        more answer middle)
      (later : Ran dispatcher kept moves middle attempts others after) :
      Ran dispatcher kept (.pass carry settings :: moves) estate (first ++ attempts) (more ++ others)
        after
  | others {act moves estate after attempts more others}
      (goes : dispatcher.Goes kept estate more (act estate))
      (later : Ran dispatcher kept moves (act estate) attempts others after) :
      Ran dispatcher kept (.others act :: moves) estate attempts (more ++ others) after

variable {dispatcher : Dispatcher} {kept : String → Prop} {estate after : Estate Outside}
  {attempts : List Attempt} {more : List ForwardedEvent} {moves : List (Move Outside)}

theorem moves_run (ready : dispatcher.Ready estate)
    (courteous : ∀ move ∈ moves, move.Courteous dispatcher kept) :
    ∃ attempts more, Ran dispatcher kept moves estate attempts more
      (performMoves dispatcher moves estate) := by
  induction moves generalizing estate with
  | nil => exact ⟨[], [], .nothing⟩
  | cons move rest ih =>
      have polite := courteous move List.mem_cons_self
      have others : ∀ other ∈ rest, other.Courteous dispatcher kept := by
        intro other member
        exact courteous other (List.mem_cons_of_mem move member)
      cases move with
      | pass carry settings =>
          have readySet := (Dispatcher.ready_withSettings settings).mpr ready
          obtain ⟨first, more, passed⟩ := pass_runs polite (max settings.maxBatch 1) readySet
          obtain ⟨readyNext, _⟩ := passed_orderly passed readySet
          obtain ⟨attempts, later, ran⟩ := ih ((Dispatcher.ready_withSettings settings).mp readyNext) others
          exact ⟨first ++ attempts, more ++ later, .pass passed ran⟩
      | others act =>
          obtain ⟨more, goes⟩ := polite estate ready
          obtain ⟨attempts, later, ran⟩ := ih goes.1 others
          exact ⟨attempts, more ++ later, .others goes ran⟩

theorem ran_orderly (ran : Ran dispatcher kept moves estate attempts more after)
    (ready : dispatcher.Ready estate) :
    Orderly ((dispatcher.post estate).pending ++ more) attempts (dispatcher.post after).pending := by
  induction ran with
  | nothing =>
      rw [List.append_nil]
      exact .rest
  | @pass _ settings _ _ _ _ _ _ _ others _ passed _ ih =>
      obtain ⟨readyNext, orderly⟩ := passed_orderly passed ((Dispatcher.ready_withSettings settings).mpr ready)
      -- the pass did not see what is appended later, but that waits behind all it did see
      rw [← List.append_assoc]
      exact (orderly.extend others).trans (ih ((Dispatcher.ready_withSettings settings).mp readyNext))
  | others goes _ ih =>
      rw [← List.append_assoc, ← goes.2.pending]
      exact ih goes.1

theorem ran_exact (ran : Ran dispatcher kept moves estate attempts more after) :
    ∀ attempt ∈ attempts, attempt.Exact := by
  induction ran with
  | nothing => simp
  | pass passed _ ih => exact List.forall_mem_append.mpr ⟨passed_exact passed, ih⟩
  | others _ _ ih => exact ih

variable {subscriber : String}

theorem passed_lists {carry : Carry Outside} {most : Nat} {answer : Except EventError Nat}
    (passed : Passed carry dispatcher (fun url => url = subscriber) most estate attempts more answer
      after)
    (ready : dispatcher.Ready estate) (listed : subscriber ∈ (dispatcher.post estate).subscribers)
    (once : (dispatcher.post estate).subscribers.Nodup) :
    (∀ attempt ∈ attempts, attempt.Lists subscriber) ∧
      subscriber ∈ (dispatcher.post after).subscribers ∧
      (dispatcher.post after).subscribers.Nodup := by
  induction passed with
  | bound | drained => exact ⟨by simp, listed, once⟩
  | stopped _ offered =>
      have goes := (offered_goes ready offered).2
      exact ⟨by simpa using ⟨listed, once⟩, goes.listed listed once⟩
  | @delivered _ _ middle next _ _ _ _ _ _ _ _ front offered retired _ ih =>
      obtain ⟨readyNext, moved⟩ := delivered_next ready front offered retired
      have goes := (offered_goes ready offered).2.listed listed once
      have same : (dispatcher.post next).subscribers = (dispatcher.post middle).subscribers := by
        rw [moved]
      rw [← same] at goes
      obtain ⟨lists, last⟩ := ih readyNext goes.1 goes.2
      exact ⟨List.forall_mem_cons.mpr ⟨⟨listed, once⟩, lists⟩, last⟩

theorem ran_lists
    (ran : Ran dispatcher (fun url => url = subscriber) moves estate attempts more after)
    (ready : dispatcher.Ready estate) (listed : subscriber ∈ (dispatcher.post estate).subscribers)
    (once : (dispatcher.post estate).subscribers.Nodup) :
    ∀ attempt ∈ attempts, attempt.Lists subscriber := by
  induction ran with
  | nothing => simp
  | @pass _ settings _ _ _ _ _ _ _ _ _ passed _ ih =>
      have readySet := (Dispatcher.ready_withSettings settings).mpr ready
      obtain ⟨readyNext, _⟩ := passed_orderly passed readySet
      obtain ⟨lists, listedNext, onceNext⟩ := passed_lists passed readySet listed once
      exact List.forall_mem_append.mpr
        ⟨lists, ih ((Dispatcher.ready_withSettings settings).mp readyNext) listedNext onceNext⟩
  | others goes _ ih =>
      obtain ⟨listedNext, onceNext⟩ := goes.2.listed listed once
      exact ih goes.1 listedNext onceNext

/-- Over any run a subscriber that stays listed takes the events that left the queue in order and without
gaps, each once and once more for every attempt that failed behind it, and then perhaps the event that is
in front now, as often as an attempt on that failed behind it. -/
theorem delivery_in_order (ready : dispatcher.Ready estate)
    (listed : subscriber ∈ (dispatcher.post estate).subscribers)
    (once : (dispatcher.post estate).subscribers.Nodup)
    (courteous : ∀ move ∈ moves, move.Courteous dispatcher fun url => url = subscriber) :
    ∃ attempts more,
      Ran dispatcher (fun url => url = subscriber) moves estate attempts more
          (performMoves dispatcher moves estate) ∧
        let events := (dispatcher.post estate).pending ++ more
        let gone := (deliveries attempts).length
        events = (deliveries attempts).map Attempt.event ++
            (dispatcher.post (performMoves dispatcher moves estate)).pending ∧
          accepted subscriber attempts =
            blocks (fun turn => 1 + late subscriber attempts turn) (events.take gone) ++
              ((events.drop gone).take 1).flatMap
                (List.replicate (late subscriber attempts gone)) := by
  obtain ⟨attempts, more, ran⟩ := moves_run ready courteous
  have orderly := ran_orderly ran ready
  exact ⟨attempts, more, ran, orderly.parts,
    accepted_blocks orderly (ran_exact ran) (ran_lists ran ready listed once)⟩

end Running

def dismiss (url : String) (estate : Estate Nat) : Estate Nat :=
  match (estate.manager? ⟨0⟩).map (Manager.unsubscribe url) with
  | some (.ok manager) => estate.modifyManager ⟨0⟩ fun _ => manager
  | _ => estate

/-- An emission, a pass that fails at the second subscriber, changes of who subscribes and of the sinks that
are made, another pass. -/
def shift : List (Move Nat) :=
  [.others fun estate => (estate.sinkReceives 0 ⟨.entity .node, .update, .nil, []⟩).2,
    .pass refilling ⟨100, 3⟩, .others (Estate.modifyManager ⟨0⟩ (Manager.subscribe "c")),
    .others (dismiss "b"),
    .others (Estate.modifyManager ⟨0⟩ fun found => { found with factory := .recording }),
    .pass refilling ⟨100, 1⟩]

theorem dismiss_goes {kept : String → Prop} {url : String} (free : ¬kept url) {estate : Estate Nat}
    (ready : watch.Ready estate) : watch.Goes kept estate [] (dismiss url estate) := by
  obtain ⟨manager, known⟩ := ready.manager
  have here : estate.manager? ⟨0⟩ = some manager := known
  rw [dismiss, here, Option.map_some]
  cases removed : manager.unsubscribe url with
  | error cause => exact Dispatcher.goes_refl ready
  | ok next => exact Dispatcher.unsubscribe_goes ready known free removed

theorem shift_courteous :
    ∀ move ∈ shift, move.Courteous watch fun url => url = "a" := by
  simp only [shift, List.forall_mem_cons]
  refine ⟨?_, refilling_courteous _ _, ?_, ?_, ?_, refilling_courteous _ _, List.forall_mem_nil _⟩
  · intro estate ready
    exact Dispatcher.receive_goes ready _
  · intro estate ready
    exact ⟨[], Dispatcher.subscribe_goes ready "c"⟩
  · intro estate ready
    exact ⟨[], dismiss_goes (by decide) ready⟩
  · intro estate ready
    exact ⟨[], Dispatcher.refit_goes ready .recording⟩

theorem shift_in_order :
    watch.Ready manned ∧ "a" ∈ (watch.post manned).subscribers ∧
      (watch.post manned).subscribers.Nodup ∧
      (∀ move ∈ shift, move.Courteous watch fun url => url = "a") ∧
      ∃ attempts more,
        Ran watch (fun url => url = "a") shift manned attempts more
            (performMoves watch shift manned) ∧
          let events := (watch.post manned).pending ++ more
          let gone := (deliveries attempts).length
          events = (deliveries attempts).map Attempt.event ++
              (watch.post (performMoves watch shift manned)).pending ∧
            accepted "a" attempts =
              blocks (fun turn => 1 + late "a" attempts turn) (events.take gone) ++
                ((events.drop gone).take 1).flatMap (List.replicate (late "a" attempts gone)) := by
  have listed : "a" ∈ (watch.post manned).subscribers := by decide
  have once : (watch.post manned).subscribers.Nodup := by decide
  exact ⟨manned_ready, listed, once, shift_courteous,
    delivery_in_order manned_ready listed once shift_courteous⟩

end Landscape.Delivery

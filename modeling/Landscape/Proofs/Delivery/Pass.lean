import Landscape.Proofs.Delivery.Post

/-!
One pass of a dispatcher, told as the attempts that it makes. An attempt offers the event at the front to
the subscribers as they are listed when it begins, in their order, until one refuses it; an event that all
of them took leaves the queue. Whatever a carrier does meanwhile, events are only appended behind, so the
event that leaves is the one that was offered.
-/

namespace Landscape.Delivery

structure Attempt where
  event : ForwardedEvent
  listed : List String
  took : List String
  refused : Option (String × String)

namespace Attempt

def isDelivered (attempt : Attempt) : Bool := attempt.refused.isNone

def Exact (attempt : Attempt) : Prop :=
  match attempt.refused with
  | none => attempt.took = attempt.listed
  | some (url, _) => ∃ unreached, attempt.listed = attempt.took ++ url :: unreached

end Attempt

section Passing
variable {Outside : Type} (carry : Carry Outside) (dispatcher : Dispatcher) (kept : String → Prop)

/-- While it carries, the carrier does to the dispatcher's post only what others may do. -/
def Courteous : Prop :=
  ∀ url event (estate : Estate Outside), dispatcher.Ready estate →
    ∃ more, dispatcher.Goes kept estate more (carry url event estate).2

/-- The event is carried to these subscribers in turn: who took it, who refused it, and what was appended
meanwhile. -/
inductive Offered (event : ForwardedEvent) :
    List String → Estate Outside → List String → Option (String × String) →
      List ForwardedEvent → Estate Outside → Prop where
  | all {estate} : Offered event [] estate [] none [] estate
  | took {url rest estate middle after took refused first more}
      (carried : carry url event estate = (.ok (), middle))
      (goes : dispatcher.Goes kept estate first middle)
      (later : Offered event rest middle took refused more after) :
      Offered event (url :: rest) estate (url :: took) refused (first ++ more) after
  | refused {url rest estate after reason more}
      (carried : carry url event estate = (.error reason, after))
      (goes : dispatcher.Goes kept estate more after) :
      Offered event (url :: rest) estate [] (some (url, reason)) more after

/-- A pass of at most so many events: its attempts, what was appended meanwhile, and its answer. -/
inductive Passed :
    Nat → Estate Outside → List Attempt → List ForwardedEvent → Except EventError Nat →
      Estate Outside → Prop where
  | bound {estate} : Passed 0 estate [] [] (.ok 0) estate
  | drained {most estate} (empty : (dispatcher.post estate).pending = []) :
      Passed (most + 1) estate [] [] (.ok 0) estate
  | stopped {most estate after event rest took url reason more}
      (front : (dispatcher.post estate).pending = event :: rest)
      (offered : Offered carry dispatcher kept event (dispatcher.post estate).subscribers estate
        took (some (url, reason)) more after) :
      Passed (most + 1) estate
        [⟨event, (dispatcher.post estate).subscribers, took, some (url, reason)⟩] more
        (.error (.delivery url reason)) after
  | delivered {most estate middle next after event rest took more attempts others answer}
      (front : (dispatcher.post estate).pending = event :: rest)
      (offered : Offered carry dispatcher kept event (dispatcher.post estate).subscribers estate
        took none more middle)
      (retired : middle.retire dispatcher = (.ok (), next))
      (later : Passed most next attempts others answer after) :
      Passed (most + 1) estate
        (⟨event, (dispatcher.post estate).subscribers, took, none⟩ :: attempts) (more ++ others)
        (answer.map (· + 1)) after

end Passing

variable {Outside : Type} {carry : Carry Outside} {dispatcher : Dispatcher} {kept : String → Prop}

theorem offered_goes {event : ForwardedEvent} {urls took : List String}
    {estate after : Estate Outside} {refused : Option (String × String)}
    {more : List ForwardedEvent} (ready : dispatcher.Ready estate)
    (offered : Offered carry dispatcher kept event urls estate took refused more after) :
    dispatcher.Goes kept estate more after := by
  induction offered with
  | all => exact Dispatcher.goes_refl ready
  | took _ goes _ ih => exact goes.trans (ih goes.1)
  | refused _ goes => exact goes

theorem offered_exact {event : ForwardedEvent} {urls took : List String}
    {estate after : Estate Outside} {refused : Option (String × String)}
    {more : List ForwardedEvent}
    (offered : Offered carry dispatcher kept event urls estate took refused more after) :
    (Attempt.mk event urls took refused).Exact := by
  induction offered with
  | all => rfl
  | @took url rest _ _ _ took refused _ _ _ _ _ ih =>
      unfold Attempt.Exact at ih ⊢
      cases refused with
      | none => exact congrArg (url :: ·) ih
      | some refusal =>
          obtain ⟨unreached, split⟩ := ih
          exact ⟨unreached, congrArg (url :: ·) split⟩
  | @refused url rest _ _ _ _ _ _ => exact ⟨rest, rfl⟩

theorem carryToAll_offers (courteous : Courteous carry dispatcher kept) (event : ForwardedEvent)
    (urls : List String) {estate : Estate Outside} (ready : dispatcher.Ready estate) :
    ∃ took refused more after,
      Offered carry dispatcher kept event urls estate took refused more after ∧
        estate.carryToAll carry event urls =
          (match refused with | none => .ok () | some refusal => .error refusal, after) := by
  induction urls generalizing estate with
  | nil => exact ⟨[], none, [], estate, .all, rfl⟩
  | cons url rest ih =>
      obtain ⟨first, goes⟩ := courteous url event estate ready
      cases carried : carry url event estate with
      | mk answer middle =>
          rw [carried] at goes
          cases answer with
          | ok _ =>
              obtain ⟨took, refused, more, after, offered, same⟩ := ih goes.1
              refine ⟨url :: took, refused, first ++ more, after, .took carried goes offered, ?_⟩
              rw [Estate.carryToAll, carried]
              exact same
          | error reason =>
              refine ⟨[], some (url, reason), first, middle, .refused carried goes, ?_⟩
              rw [Estate.carryToAll, carried]

theorem delivered_next {event : ForwardedEvent} {rest more : List ForwardedEvent}
    {took : List String} {estate middle next : Estate Outside} (ready : dispatcher.Ready estate)
    (front : (dispatcher.post estate).pending = event :: rest)
    (offered : Offered carry dispatcher kept event (dispatcher.post estate).subscribers estate
      took none more middle)
    (retired : middle.retire dispatcher = (.ok (), next)) :
    dispatcher.Ready next ∧
      dispatcher.post next =
        ⟨rest ++ more, (dispatcher.post middle).sequence + 1, (dispatcher.post middle).subscribers⟩ := by
  obtain ⟨readyMiddle, goes⟩ := offered_goes ready offered
  have frontMiddle : (dispatcher.post middle).pending = event :: (rest ++ more) := by
    rw [goes.pending, front, List.cons_append]
  obtain ⟨other, same, readyNext, moved⟩ := Dispatcher.retire_eq readyMiddle frontMiddle
  rw [retired] at same
  cases same
  exact ⟨readyNext, moved⟩

theorem pass_runs (courteous : Courteous carry dispatcher kept) (most : Nat)
    {estate : Estate Outside} (ready : dispatcher.Ready estate) :
    ∃ attempts more, Passed carry dispatcher kept most estate attempts more
      (estate.dispatchUpTo carry dispatcher most).1
      (estate.dispatchUpTo carry dispatcher most).2 := by
  -- on the bound, which every delivered event lowers by one
  induction most generalizing estate with
  | zero => exact ⟨[], [], .bound⟩
  | succ most ih =>
      cases front : (dispatcher.post estate).pending with
      | nil =>
          rw [Estate.dispatchUpTo, Dispatcher.peek_nil ready front]
          exact ⟨[], [], .drained front⟩
      | cons event rest =>
          obtain ⟨took, refused, more, middle, offered, same⟩ := carryToAll_offers courteous event
            (estate.subscribers dispatcher.manager) ready
          rw [Estate.dispatchUpTo, Dispatcher.peek_cons ready front]
          simp only [same]
          cases refused with
          | some refusal => exact ⟨_, more, .stopped front offered⟩
          | none =>
              obtain ⟨readyMiddle, goes⟩ := offered_goes ready offered
              have frontMiddle : (dispatcher.post middle).pending = event :: (rest ++ more) := by
                rw [goes.pending, front, List.cons_append]
              obtain ⟨next, retired, readyNext, _⟩ := Dispatcher.retire_eq readyMiddle frontMiddle
              obtain ⟨attempts, others, passed⟩ := ih readyNext
              simp only [retired]
              exact ⟨_, more ++ others, .delivered front offered retired passed⟩

def deliveries (attempts : List Attempt) : List Attempt :=
  attempts.filter Attempt.isDelivered

/-- Every attempt is on the first event that was not delivered yet; the rest is left over. -/
inductive Orderly : List ForwardedEvent → List Attempt → List ForwardedEvent → Prop where
  | rest {events} : Orderly events [] events
  | failed {event events attempt attempts left} (on : attempt.event = event)
      (failed : attempt.isDelivered = false) (later : Orderly (event :: events) attempts left) :
      Orderly (event :: events) (attempt :: attempts) left
  | delivered {event events attempt attempts left} (on : attempt.event = event)
      (delivered : attempt.isDelivered = true) (later : Orderly events attempts left) :
      Orderly (event :: events) (attempt :: attempts) left

namespace Orderly

variable {events left : List ForwardedEvent} {attempts : List Attempt}

theorem trans {last : List ForwardedEvent} {others : List Attempt}
    (former : Orderly events attempts left) (latter : Orderly left others last) :
    Orderly events (attempts ++ others) last := by
  induction former with
  | rest => exact latter
  | failed on failed _ ih => exact .failed on failed (ih latter)
  | delivered on delivered _ ih => exact .delivered on delivered (ih latter)

theorem extend (orderly : Orderly events attempts left) (more : List ForwardedEvent) :
    Orderly (events ++ more) attempts (left ++ more) := by
  induction orderly with
  | rest => exact .rest
  | failed on failed _ ih => exact .failed on failed ih
  | delivered on delivered _ ih => exact .delivered on delivered ih

theorem parts (orderly : Orderly events attempts left) :
    events = (deliveries attempts).map Attempt.event ++ left := by
  induction orderly with
  | rest => rfl
  | failed _ failed _ ih =>
      rw [deliveries, List.filter_cons_of_neg (by simp [failed])]
      exact ih
  | @delivered event _ attempt _ _ on delivered _ ih =>
      rw [deliveries, List.filter_cons_of_pos delivered, List.map_cons, on]
      exact congrArg (event :: ·) ih

theorem delivered_eq (orderly : Orderly events attempts left) :
    (deliveries attempts).map Attempt.event = events.take (deliveries attempts).length := by
  have parts := orderly.parts
  rw [parts, List.take_left' (List.length_map _)]

theorem left_eq (orderly : Orderly events attempts left) :
    left = events.drop (deliveries attempts).length := by
  have parts := orderly.parts
  rw [parts, List.drop_left' (List.length_map _)]

end Orderly

theorem passed_orderly {most : Nat} {estate after : Estate Outside} {attempts : List Attempt}
    {more : List ForwardedEvent} {answer : Except EventError Nat}
    (passed : Passed carry dispatcher kept most estate attempts more answer after)
    (ready : dispatcher.Ready estate) :
    dispatcher.Ready after ∧ Orderly ((dispatcher.post estate).pending ++ more) attempts
      (dispatcher.post after).pending := by
  induction passed with
  | bound | drained =>
      rw [List.append_nil]
      exact ⟨ready, .rest⟩
  | stopped front offered =>
      obtain ⟨readyAfter, goes⟩ := offered_goes ready offered
      rw [← goes.pending]
      refine ⟨readyAfter, ?_⟩
      rw [goes.pending, front]
      exact .failed rfl rfl .rest
  | delivered front offered retired _ ih =>
      obtain ⟨readyNext, moved⟩ := delivered_next ready front offered retired
      obtain ⟨readyAfter, orderly⟩ := ih readyNext
      -- what was appended while the first event was offered waits behind the rest
      rw [moved, List.append_assoc] at orderly
      rw [front]
      exact ⟨readyAfter, .delivered rfl rfl orderly⟩

/-- A pass of at most so many events, counted by the deliveries among its attempts. -/
structure Accounts (dispatcher : Dispatcher) (most : Nat) (before : Estate Outside)
    (attempts : List Attempt) (more : List ForwardedEvent) (answer : Except EventError Nat)
    (after : Estate Outside) : Prop where
  bounded : (deliveries attempts).length ≤ most
  left : (deliveries attempts).map Attempt.event =
    ((dispatcher.post before).pending ++ more).take (deliveries attempts).length
  remains : (dispatcher.post after).pending =
    ((dispatcher.post before).pending ++ more).drop (deliveries attempts).length
  sequence : (dispatcher.post after).sequence =
    (dispatcher.post before).sequence + UInt64.ofNat (deliveries attempts).length
  exact : ∀ attempt ∈ attempts, attempt.Exact
  finished : ∀ count, answer = .ok count →
    deliveries attempts = attempts ∧ count = (deliveries attempts).length ∧
      (count = most ∨ (dispatcher.post after).pending = [])
  stopped : ∀ failure, answer = .error failure →
    ∃ last url reason, attempts = deliveries attempts ++ [last] ∧
      last.refused = some (url, reason) ∧ failure = .delivery url reason ∧
      (deliveries attempts).length < most ∧
      (dispatcher.post after).pending.head? = some last.event

section Accounting
variable {most : Nat} {estate after : Estate Outside} {attempts : List Attempt}
  {more : List ForwardedEvent} {answer : Except EventError Nat}

theorem passed_bounded
    (passed : Passed carry dispatcher kept most estate attempts more answer after) :
    (deliveries attempts).length ≤ most := by
  induction passed with
  | bound => exact Nat.le_refl 0
  | drained | stopped => exact Nat.zero_le _
  | delivered _ _ _ _ ih => exact Nat.succ_le_succ ih

theorem passed_exact
    (passed : Passed carry dispatcher kept most estate attempts more answer after) :
    ∀ attempt ∈ attempts, attempt.Exact := by
  induction passed with
  | bound | drained => simp
  | stopped _ offered => simpa using offered_exact offered
  | delivered _ offered _ _ ih => exact List.forall_mem_cons.mpr ⟨offered_exact offered, ih⟩

theorem passed_sequence
    (passed : Passed carry dispatcher kept most estate attempts more answer after)
    (ready : dispatcher.Ready estate) :
    (dispatcher.post after).sequence =
      (dispatcher.post estate).sequence + UInt64.ofNat (deliveries attempts).length := by
  induction passed with
  | bound | drained => exact (UInt64.add_zero _).symm
  | stopped _ offered =>
      rw [(offered_goes ready offered).2.sequence]
      exact (UInt64.add_zero _).symm
  | @delivered _ _ middle _ _ _ _ _ _ attempts _ _ front offered retired _ ih =>
      obtain ⟨readyNext, moved⟩ := delivered_next ready front offered retired
      rw [ih readyNext, moved]
      have kept := (offered_goes ready offered).2.sequence
      show (dispatcher.post middle).sequence + 1 +
        UInt64.ofNat (deliveries attempts).length = _ + UInt64.ofNat ((deliveries attempts).length + 1)
      rw [kept, UInt64.ofNat_add, UInt64.add_assoc, UInt64.add_comm 1]
      rfl

theorem passed_finished
    (passed : Passed carry dispatcher kept most estate attempts more answer after) (count : Nat)
    (finished : answer = .ok count) :
    deliveries attempts = attempts ∧ count = (deliveries attempts).length ∧
      (count = most ∨ (dispatcher.post after).pending = []) := by
  induction passed generalizing count with
  | bound =>
      cases finished
      exact ⟨rfl, rfl, .inl rfl⟩
  | drained empty =>
      cases finished
      exact ⟨rfl, rfl, .inr empty⟩
  | stopped => cases finished
  | @delivered _ _ _ _ _ event _ took _ _ _ answer _ _ _ _ ih =>
      cases answer with
      | error => cases finished
      | ok former =>
          cases finished
          obtain ⟨all, same, ends⟩ := ih former rfl
          refine ⟨congrArg (_ :: ·) all, congrArg (· + 1) same, ?_⟩
          rcases ends with most | empty
          · exact .inl (congrArg (· + 1) most)
          · exact .inr empty

theorem passed_stopped
    (passed : Passed carry dispatcher kept most estate attempts more answer after)
    (ready : dispatcher.Ready estate) (failure : EventError) (stopped : answer = .error failure) :
    ∃ last url reason, attempts = deliveries attempts ++ [last] ∧
      last.refused = some (url, reason) ∧ failure = .delivery url reason ∧
      (deliveries attempts).length < most ∧
      (dispatcher.post after).pending.head? = some last.event := by
  induction passed with
  | bound | drained => cases stopped
  | stopped front offered =>
      cases stopped
      refine ⟨_, _, _, rfl, rfl, rfl, Nat.succ_pos _, ?_⟩
      rw [(offered_goes ready offered).2.pending, front]
      rfl
  | @delivered _ _ _ _ _ _ _ _ _ _ _ answer front offered retired _ ih =>
      cases answer with
      | ok => cases stopped
      | error former =>
          cases stopped
          obtain ⟨readyNext, _⟩ := delivered_next ready front offered retired
          obtain ⟨last, url, reason, all, refused, told, bounded, remains⟩ := ih readyNext rfl
          exact ⟨last, url, reason, congrArg (_ :: ·) all, refused, told,
            Nat.succ_lt_succ bounded, remains⟩

/-- Whatever the carrier does that others may do, a pass is a sequence of attempts, each on the event at
the front with the subscribers of that moment, and its account is exact. -/
theorem dispatch_pending_exact (courteous : Courteous carry dispatcher kept)
    (ready : dispatcher.Ready estate) :
    ∃ attempts more,
      Passed carry dispatcher kept (max dispatcher.settings.maxBatch 1) estate attempts more
          (estate.dispatchPending carry dispatcher).1
          (estate.dispatchPending carry dispatcher).2 ∧
        Accounts dispatcher (max dispatcher.settings.maxBatch 1) estate attempts more
          (estate.dispatchPending carry dispatcher).1
          (estate.dispatchPending carry dispatcher).2 := by
  obtain ⟨attempts, more, passed⟩ :=
    pass_runs courteous (max dispatcher.settings.maxBatch 1) ready
  obtain ⟨_, orderly⟩ := passed_orderly passed ready
  exact ⟨attempts, more, passed, {
    bounded := passed_bounded passed
    left := orderly.delivered_eq
    remains := orderly.left_eq
    sequence := passed_sequence passed ready
    exact := passed_exact passed
    finished := passed_finished passed
    stopped := passed_stopped passed ready }⟩

end Accounting

/-- While it carries, the forwarder hears of another event; from the fourth time on, the second subscriber
cannot be reached. -/
def refilling : Carry Nat := fun url _ estate =>
  let after := (estate.sinkReceives 0 ⟨.entity .node, .update, .nil, []⟩).2.onOutside (· + 1)
  if url = "b" ∧ 4 ≤ after.outside then (.error "unreachable", after) else (.ok (), after)

def manned : Estate Nat :=
  { Estate.empty 0 with
    sinks := [.forwarder ((Ring.new 2).extended ⟨.entity .node, .create, .nil, []⟩)]
    managers := [⟨0, ["a", "b"], .discarding⟩] }

def watch : Dispatcher := ⟨⟨100, 3⟩, 0, ⟨0⟩⟩

theorem refilling_courteous (settings : DispatcherSettings) (kept : String → Prop) :
    Courteous refilling ⟨settings, 0, ⟨0⟩⟩ kept := by
  intro url event estate ready
  obtain ⟨more, goes⟩ : ∃ more, (Dispatcher.mk settings 0 ⟨0⟩).Goes kept estate more
      (estate.sinkReceives 0 ⟨.entity .node, .update, .nil, []⟩).2 :=
    Dispatcher.receive_goes ready _
  refine ⟨more, ?_⟩
  simp only [refilling]
  split <;> exact Dispatcher.goes_onOutside goes _

theorem manned_ready : watch.Ready manned := by
  have roomy : ([] : List ForwardedEvent).length < (Ring.new 2 : Ring ForwardedEvent).capacity := by
    decide
  exact Dispatcher.ready_of rfl (Ring.extended_holds (Ring.new_holds 2) roomy _) rfl

theorem manned_pass_exact :
    Courteous refilling watch (fun _ => False) ∧ watch.Ready manned ∧
      ∃ attempts more,
        Passed refilling watch (fun _ => False) 3 manned attempts more
            (manned.dispatchPending refilling watch).1 (manned.dispatchPending refilling watch).2 ∧
          Accounts watch 3 manned attempts more
            (manned.dispatchPending refilling watch).1 (manned.dispatchPending refilling watch).2 :=
  ⟨refilling_courteous _ _, manned_ready,
    dispatch_pending_exact (refilling_courteous _ _) manned_ready⟩

example : (manned.dispatchPending refilling watch).1 = .error (.delivery "b" "unreachable") := by
  rfl

end Landscape.Delivery

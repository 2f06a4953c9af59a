import Landscape.Proofs.Sound
import Landscape.Proofs.Surroundings
import Mathlib.Data.List.Chain

/-!
Runs seen from within. The chronicle of a script has a juncture for each call when it begins, when a sink
begins to hear of it, and when it is answered, each with the estate at that time; whatever calls the sinks
make in between have junctures of their own. Each juncture is founded on the opening of its call, and each
leads to the next in one of three ways. What one call opens and closes is known, so what holds all along a
chronicle is shown from one juncture to the next.
-/

namespace Landscape

inductive Stage where
  | begins
  | hears (sink : SinkRef) (event : Event)
  | answers (answer : Call.Answer)

structure Juncture where
  call : Call
  before : Estate Unit
  stage : Stage
  now : Estate Unit

def Estate.jot (estate : Estate (List Juncture)) (call : Call) (before : Estate Unit)
    (stage : Stage) : Estate (List Juncture) :=
  estate.onOutside (· ++ [⟨call, before, stage, estate.amid ()⟩])

def jotting (call : Call) (before : Estate Unit) (verdict : Except EventError Unit)
    (inner : Estate (List Juncture) → Estate (List Juncture)) : Deliver (List Juncture) :=
  fun sink event found => (verdict, inner (found.jot call before (.hears sink event)))

theorem appended_cases {log : List Juncture} {new juncture : Juncture} {index : Nat}
    (here : (log ++ [new])[index]? = some juncture) :
    (index < log.length ∧ log[index]? = some juncture) ∨ (index = log.length ∧ juncture = new) := by
  rcases Nat.lt_trichotomy index log.length with former | rfl | beyond
  · rw [List.getElem?_append_left former] at here
    exact .inl ⟨former, here⟩
  · rw [List.getElem?_concat_length] at here
    exact .inr ⟨rfl, (Option.some.inj here).symm⟩
  · have outside : (log ++ [new]).length ≤ index := by
      rw [List.length_append, List.length_singleton]
      exact beyond
    rw [List.getElem?_eq_none outside] at here
    cases here

namespace Script

/-- Runs the script and jots down every juncture. -/
def chronicle : Script → Estate (List Juncture) → Estate (List Juncture)
  | done, estate => estate
  | call wanted inner verdict rest, estate =>
      let outcome := wanted.perform (jotting wanted (estate.amid ()) verdict inner.chronicle)
        (estate.jot wanted (estate.amid ()) .begins)
      rest.chronicle (outcome.2.jot wanted (estate.amid ()) (.answers outcome.1))

theorem chronicle_erased (script : Script) (estate : Estate (List Juncture)) :
    (script.chronicle estate).amid () = script.enact (estate.amid ()) := by
  induction script generalizing estate with
  | done => rfl
  | call wanted inner verdict rest hears goes =>
      have erases : (jotting wanted (estate.amid ()) verdict inner.chronicle).Erases
          fun _ _ found => (verdict, inner.enact found) := by
        intro sink event found
        exact congrArg (Prod.mk verdict) (hears _)
      have performed := Call.perform_erased erases wanted (estate.jot wanted (estate.amid ()) .begins)
      rw [chronicle, enact, goes]
      exact congrArg (fun outcome => rest.enact outcome.2) performed

def log (script : Script) : List Juncture :=
  (script.chronicle (.empty [])).outside

end Script

def Opening.reached {Outside Value : Type} : Opening Outside Value → Estate Outside
  | ended _ after => after
  | handing _ _ found _ => found

theorem Opening.Satisfies.reached {Outside Value : Type} {opening : Opening Outside Value}
    {opens : Estate Outside → Prop} {closes : Estate Outside → Estate Outside → Prop}
    (satisfies : opening.Satisfies opens closes) : opens opening.reached := by
  cases opening with
  | ended value after => exact satisfies
  | handing sink event found close => exact satisfies.1

/-- How a call that began in one estate can have come to a stage in another. -/
inductive Call.Reaches (call : Call) : Estate Unit → Stage → Estate Unit → Prop where
  | begins (before : Estate Unit) : Reaches call before .begins before
  | hears {start found : Estate (List Juncture)} {sink : SinkRef} {event : Event}
      {close : Except EventError Unit → Estate (List Juncture) →
        Call.Answer × Estate (List Juncture)}
      (opened : call.opening start = .handing sink event found close) :
      Reaches call (start.amid ()) (.hears sink event) (found.amid ())
  | ended {start after : Estate (List Juncture)} {answer : Call.Answer}
      (opened : call.opening start = .ended answer after) :
      Reaches call (start.amid ()) (.answers answer) (after.amid ())
  | closes {start found : Estate (List Juncture)} {sink : SinkRef} {event : Event}
      {close : Except EventError Unit → Estate (List Juncture) →
        Call.Answer × Estate (List Juncture)}
      (opened : call.opening start = .handing sink event found close)
      (verdict : Except EventError Unit) (after : Estate (List Juncture)) :
      Reaches call (start.amid ()) (.answers (close verdict after).1) ((close verdict after).2.amid ())

namespace Juncture

structure Founded (juncture : Juncture) : Prop where
  sound : juncture.before.Sound
  grows : juncture.before.Grows juncture.now
  reaches : juncture.call.Reaches juncture.before juncture.stage juncture.now

/-- What lies between one juncture and the next: a call that began is opened, or another call begins
where nothing has happened since, or a call that was heard of is closed. -/
inductive Leads (former latter : Juncture) : Prop where
  | opens (start : Estate (List Juncture)) (begun : former.stage = .begins)
      (same : latter.call = former.call) (now : former.now = start.amid ())
      (opened : latter.now = (former.call.opening start).reached.amid ())
  | goesOn (settled : former.stage ≠ .begins) (begins : latter.stage = .begins)
      (same : latter.now = former.now)
  | closes (call : Call) (start after final : Estate (List Juncture))
      (settled : former.stage ≠ .begins) (answered : latter.stage ≠ .begins)
      (closed : call.Closes start after final) (now : former.now = after.amid ())
      (later : latter.now = final.amid ())

end Juncture

namespace Estate

variable {estate started found after : Estate (List Juncture)} {call : Call} {before : Estate Unit}
  {stage : Stage}

/-- Each juncture so far is founded, and each leads to the next. -/
structure Told (estate : Estate (List Juncture)) : Prop where
  founded : ∀ juncture ∈ estate.outside, juncture.Founded
  chain : estate.outside.IsChain Juncture.Leads

structure Settled (estate : Estate (List Juncture)) : Prop extends estate.Told where
  latest : ∀ last ∈ estate.outside.getLast?, last.stage ≠ .begins ∧ last.now = estate.amid ()

structure Begun (call : Call) (estate : Estate (List Juncture)) : Prop extends estate.Told where
  latest : ∀ last ∈ estate.outside.getLast?,
    last.stage = .begins ∧ last.call = call ∧ last.now = estate.amid ()

theorem grows_jot (estate : Estate (List Juncture)) (call : Call) (before : Estate Unit)
    (stage : Stage) : estate.Grows (estate.jot call before stage) :=
  grows_of_same rfl rfl

theorem last_jot {last : Juncture}
    (isLast : last ∈ (estate.jot call before stage).outside.getLast?) :
    last = ⟨call, before, stage, estate.amid ()⟩ := by
  simpa [jot, onOutside, eq_comm] using isLast

theorem told_jot (told : estate.Told)
    (founded : Juncture.Founded ⟨call, before, stage, estate.amid ()⟩)
    (leads : ∀ last ∈ estate.outside.getLast?, last.Leads ⟨call, before, stage, estate.amid ()⟩) :
    (estate.jot call before stage).Told := by
  constructor
  · intro juncture member
    rcases List.mem_append.mp member with former | last
    · exact told.founded juncture former
    · obtain rfl := List.mem_singleton.mp last
      exact founded
  · apply List.isChain_append.mpr
    refine ⟨told.chain, List.isChain_singleton _, ?_⟩
    rintro last isLast new ⟨⟩
    exact leads last isLast

theorem told_of_same (told : started.Told) (outside : found.outside = started.outside) : found.Told :=
  ⟨outside ▸ told.founded, outside ▸ told.chain⟩

theorem grows_seen (estate : Estate (List Juncture)) : estate.Grows (estate.amid ()) :=
  grows_of_same rfl rfl

theorem grows_unseen (estate : Estate (List Juncture)) : (estate.amid ()).Grows estate :=
  grows_of_same rfl rfl

theorem grows_amid (grows : started.Grows found) : (started.amid ()).Grows (found.amid ()) :=
  ((grows_unseen started).trans grows).trans (grows_seen found)

theorem Settled.begins (settled : estate.Settled) (sound : estate.Sound) (call : Call) :
    (estate.jot call (estate.amid ()) .begins).Begun call where
  toTold := by
    apply told_jot settled.toTold
    · exact ⟨(grows_seen _).sound sound, grows_of_same rfl rfl, .begins _⟩
    · intro last isLast
      obtain ⟨idle, now⟩ := settled.latest last isLast
      exact .goesOn idle rfl now.symm
  latest last isLast := by
    obtain rfl := last_jot isLast
    exact ⟨rfl, rfl, rfl⟩

theorem Begun.opens (begun : started.Begun call) (sound : started.Sound) (stage : Stage)
    (new : stage ≠ .begins) (opened : (call.opening started).reached = found)
    (reaches : call.Reaches (started.amid ()) stage (found.amid ())) :
    let told := found.jot call (started.amid ()) stage
    started.Grows told ∧ told.Settled := by
  have opens : call.Opens started found := opened ▸ (call.opening_effect started).reached
  refine ⟨opens.grows.trans (grows_jot found call _ stage), ?_, ?_⟩
  · apply told_jot (told_of_same begun.toTold opens.outside)
    · exact ⟨(grows_seen _).sound sound, grows_amid opens.grows, reaches⟩
    · intro last isLast
      rw [opens.outside] at isLast
      obtain ⟨begins, same, now⟩ := begun.latest last isLast
      exact .opens started begins same.symm now (by rw [same, opened])
  · intro last isLast
    obtain rfl := last_jot isLast
    exact ⟨new, rfl⟩

theorem Settled.closes (settled : after.Settled) (sound : started.Sound)
    (between : started.Grows after) {final : Estate (List Juncture)} {answer : Call.Answer}
    (closes : call.Closes started after final)
    (reaches : call.Reaches (started.amid ()) (.answers answer) (final.amid ())) :
    let told := final.jot call (started.amid ()) (.answers answer)
    after.Grows told ∧ told.Settled := by
  have grows := closes.grows sound between
  refine ⟨grows.trans (grows_jot final call _ _), ?_, ?_⟩
  · apply told_jot (told_of_same settled.toTold closes.outside)
    · exact ⟨(grows_seen _).sound sound, grows_amid (between.trans grows), reaches⟩
    · intro last isLast
      rw [closes.outside] at isLast
      obtain ⟨idle, now⟩ := settled.latest last isLast
      exact .closes call started after final idle nofun closes now rfl
  · intro last isLast
    obtain rfl := last_jot isLast
    exact ⟨nofun, rfl⟩

end Estate

namespace Script

open Estate

/-- A chronicle is told on and on, and what is sound stays sound. -/
theorem chronicle_settled (script : Script) (estate : Estate (List Juncture)) (sound : estate.Sound)
    (settled : estate.Settled) :
    estate.Grows (script.chronicle estate) ∧ (script.chronicle estate).Settled := by
  induction script generalizing estate with
  | done => exact ⟨grows_of_same rfl rfl, settled⟩
  | call wanted inner verdict rest hears goes =>
      have began := grows_jot estate wanted (estate.amid ()) .begins
      have begun := settled.begins sound wanted
      have started : (estate.jot wanted (estate.amid ()) .begins).Sound := began.sound sound
      have performed := wanted.perform_opening
        (jotting wanted (estate.amid ()) verdict inner.chronicle)
        (estate.jot wanted (estate.amid ()) .begins)
      have effect := wanted.opening_effect (estate.jot wanted (estate.amid ()) .begins)
      simp only [chronicle, performed]
      cases opened : wanted.opening (estate.jot wanted (estate.amid ()) .begins) with
      | ended answer after =>
          obtain ⟨grows, told⟩ := begun.opens started (.answers answer) nofun
            (by rw [opened]; rfl) (.ended opened)
          have later := began.trans grows
          obtain ⟨more, last⟩ := goes _ (later.sound sound) told
          exact ⟨later.trans more, last⟩
      | handing sink event found close =>
          rw [opened] at effect
          obtain ⟨heard, told⟩ := begun.opens started (.hears sink event) nofun
            (by rw [opened]; rfl) (.hears opened)
          -- what the sink calls in between is told in its turn
          obtain ⟨within, inside⟩ := hears _ (heard.sound started) told
          obtain ⟨ends, closed⟩ := inside.closes started (heard.trans within) (effect.2 verdict _)
            (.closes opened verdict _)
          have later := began.trans ((heard.trans within).trans ends)
          obtain ⟨more, last⟩ := goes _ (later.sound sound) closed
          exact ⟨later.trans more, last⟩

theorem log_settled (script : Script) : (script.chronicle (.empty [])).Settled := by
  have nothing : (Estate.empty ([] : List Juncture)).Settled := by
    refine ⟨⟨?_, List.isChain_nil⟩, ?_⟩
    · intro juncture member
      cases member
    · intro last isLast
      cases isLast
  exact (script.chronicle_settled (.empty []) (sound_empty []) nothing).2

theorem log_founded (script : Script) {juncture : Juncture} (member : juncture ∈ script.log) :
    juncture.Founded :=
  script.log_settled.founded juncture member

theorem log_leads (script : Script) {index : Nat} {former latter : Juncture}
    (first : script.log[index]? = some former) (next : script.log[index + 1]? = some latter) :
    former.Leads latter := by
  obtain ⟨inside, rfl⟩ := List.getElem?_eq_some_iff.mp next
  obtain ⟨_, rfl⟩ := List.getElem?_eq_some_iff.mp first
  exact script.log_settled.chain.getElem index inside

theorem log_passes (script : Script) (Holds : Juncture → Prop) {start : Nat} {first : Juncture}
    (here : script.log[start]? = some first) (holds : Holds first) {last : Nat}
    (passes : ∀ index former latter, start ≤ index → index < last →
      script.log[index]? = some former → script.log[index + 1]? = some latter →
      former.Leads latter → Holds former → Holds latter) :
    ∀ index, start ≤ index → index ≤ last → ∀ juncture, script.log[index]? = some juncture →
      Holds juncture := by
  intro index beyond
  induction index, beyond using Nat.le_induction with
  | base =>
      intro _ juncture there
      obtain rfl := Option.some.inj (here.symm.trans there)
      exact holds
  | succ index le ih =>
      intro bounded latter there
      obtain ⟨inside, _⟩ := List.getElem?_eq_some_iff.mp there
      have present : script.log[index]? = some script.log[index] :=
        List.getElem?_eq_getElem (Nat.lt_of_succ_lt inside)
      apply passes index _ latter le bounded present there (script.log_leads present there)
      exact ih (Nat.le_of_succ_le bounded) _ present

end Script

end Landscape
